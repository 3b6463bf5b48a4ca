import AnswerQuery.Host.Tool.Path
import AnswerQuery.Host.Tool.Source
import AnswerQuery.Host.Tool.Time

/-! Telling the time, or a time that is described. -/

namespace AnswerQuery.Host.Tool

namespace Clock

/-- The options that are known. -/
def known : List Known :=
  [⟨"d", "date", .always⟩, ⟨"debug", "debug", .nothing⟩, ⟨"f", "file", .always⟩, ⟨"I", "iso-8601", .maybe⟩,
    ⟨"r", "reference", .always⟩, ⟨"resolution", "resolution", .nothing⟩, ⟨"R", "rfc-822", .nothing⟩,
    ⟨"R", "rfc-2822", .nothing⟩, ⟨"rfc-3339", "rfc-3339", .always⟩, ⟨"R", "rfc-email", .nothing⟩, ⟨"s", "set", .always⟩,
    ⟨"u", "uct", .nothing⟩, ⟨"u", "utc", .nothing⟩, ⟨"u", "universal", .nothing⟩]

/-- The form of a time if nothing is said about it. -/
def usualForm : String := "%a %b %e %H:%M:%S %Z %Y"

/-- The forms with a letter between day and time, by how precise they are. -/
def joinedForms : List (List String × String) :=
  [(["hours"], "%Y-%m-%dT%H%:z"), (["minutes"], "%Y-%m-%dT%H:%M%:z"), (["date"], "%Y-%m-%d"),
    (["seconds"], "%Y-%m-%dT%H:%M:%S%:z"), (["ns"], "%Y-%m-%dT%H:%M:%S,%N%:z")]

/-- The forms with a blank between day and time, by how precise they are. -/
def spacedForms : List (List String × String) :=
  [(["date"], "%Y-%m-%d"), (["seconds"], "%Y-%m-%d %H:%M:%S%:z"), (["ns"], "%Y-%m-%d %H:%M:%S.%N%:z")]

/-- The form that options ask for. -/
def formOf (given : List Given) : Act (Option Raw) := do
  let mut form : Option Raw := none
  for option in given do
    let asked ← match option.key, option.argument with
      | "R", _ => pure (some "%a, %d %b %Y %H:%M:%S %z")
      | "I", none => pure (some "%Y-%m-%d")
      | "I", some text => some <$> Act.choose "--iso-8601" joinedForms text
      | "rfc-3339", some text => some <$> Act.choose "--rfc-3339" spacedForms text
      | _, _ => pure none
    if asked.isSome && form.isSome then Act.die 1 "multiple output formats specified".toList
    form := (asked.map String.toList).orElse fun _ => form
  pure form

/-- The first second of the first year that can be told. -/
def firstSecond : Int := -67768040609740800

/-- The last second of the last year that can be told. -/
def lastSecond : Int := 67768036191676799

/-- A form in which fractions of seconds that are to be short have as many digits as the clock can tell. -/
def withFineness : Raw → Raw
  | '%' :: '-' :: 'N' :: rest => '%' :: '9' :: 'N' :: withFineness rest
  | '%' :: '%' :: rest => '%' :: '%' :: withFineness rest
  | c :: rest => c :: withFineness rest
  | [] => []

/-- Write a time in a form. -/
def say (zone : Calendar.Zone) (form : Raw) (moment : Calendar.Moment) : Act Unit := do
  let seconds := Calendar.Moment.seconds moment
  if seconds < firstSecond || lastSecond < seconds then
    let digits := (if seconds < 0 then ['-'] else []) ++ decimal seconds.natAbs
    Act.complain ("time ".toList ++ quoted digits ++ " is out of range".toList)
    Act.fail 1
  else Act.sayLine ((zone.shown moment).inForm (withFineness form))

/-- Write the times that the lines of a file describe. -/
def sayAll (zone : Calendar.Zone) (form path : Raw) : Act Unit := do
  let now ← Act.now
  match ← Act.readFile path with
  | .error reason => Act.die 1 (nameFor path ++ ": ".toList ++ reason.description)
  | .ok octets =>
    for line in linesOf '\n' (Raw.ofOctets octets) do
      match Calendar.Moment.ofDescription? zone now line.text with
      | some moment => say zone form moment
      | none => do
        Act.complain ("invalid date ".toList ++ quoted line.text)
        Act.fail 1

/-- Set the clock, which is not allowed, and write the time it should have been set to. -/
def set (zone : Calendar.Zone) (form text : Raw) (moment : Option Calendar.Moment) : Act Unit := do
  match moment with
  | none => Act.die 1 ("invalid date ".toList ++ quoted text)
  | some moment => do
    Act.complain ("cannot set date: ".toList ++ OsError.notPermitted.description)
    Act.fail 1
    say zone form moment

/-- The time that a month, a day, an hour and a minute mean, with a year behind them, and seconds behind a dot. -/
def ofDigits? (zone : Calendar.Zone) (now : Calendar.Moment) (text : Raw) : Option Calendar.Moment :=
  let digits := text.takeWhile (· != '.')
  let rest := text.drop digits.length
  stampMoment? zone now ((digits.drop 8) ++ digits.take 8 ++ rest)

end Clock

/-- Tell the time. -/
def date : Utility := ofAct fun arguments => do
  let invocation ← Act.readOptions 1 Clock.known false arguments
  let asked ← Clock.formOf invocation.given
  let described := invocation.argument? "d"
  let batch := invocation.argument? "f"
  let reference := invocation.argument? "r"
  let fineness := invocation.has "resolution"
  let setting := invocation.argument? "s"
  let sources := [described.isSome, batch.isSome, reference.isSome, fineness].countP id
  if 1 < sources then Act.refuse 1 "the options to specify dates for printing are mutually exclusive".toList
  if setting.isSome && sources != 0 then
    Act.refuse 1 "the options to print and set the time may not be used together".toList
  let (written, digits) ← match invocation.operands with
    | _ :: extra :: _ => Act.refuseExtra 1 extra
    | [] => pure (none, none)
    | ['+' :: form] => pure (some form, none)
    | [other] => do
      if setting.isSome || sources != 0 then
        Act.refuse 1 ("the argument ".toList ++ quoted other ++
          " lacks a leading '+';\nwhen using an option to specify date(s), any non-option\n".toList ++
          "argument must be a format string beginning with '+'".toList)
      pure (none, some other)
  if asked.isSome && written.isSome then Act.die 1 "multiple output formats specified".toList
  let usual := if fineness then "%s.%N" else Clock.usualForm
  let form := (asked.orElse fun _ => written).getD usual.toList
  let zone ← if invocation.has "u" then pure Calendar.Zone.universal else Act.zone
  let now ← Act.now
  match batch, reference, described with
  | some path, _, _ => Clock.sayAll zone form path
  | none, some path, _ =>
    match ← Act.inspect path true with
    | .error reason => Act.die 1 (nameFor path ++ ": ".toList ++ reason.description)
    | .ok status => Clock.say zone form status.changed
  | none, none, some text =>
    match Calendar.Moment.ofDescription? zone now text with
    | none => Act.die 1 ("invalid date ".toList ++ quoted text)
    | some moment => Clock.say zone form moment
  | none, none, none =>
    match setting, digits with
    | some text, _ => Clock.set zone form text (Calendar.Moment.ofDescription? zone now text)
    | none, some text => Clock.set zone form text (Clock.ofDigits? zone now text)
    | none, none => Clock.say zone form (if fineness then 1 else now)

/-- The programs that are here. -/
def clockTools : List (String × Utility) :=
  [("date", date)]

end AnswerQuery.Host.Tool
