import AnswerQuery.Host.Calendar.Form
import AnswerQuery.Host.Calendar.Reading
import AnswerQuery.Host.Machine
import AnswerQuery.Host.Script.Builtin.Output
import AnswerQuery.Host.Script.Reference

/-! Commands of the rich dialect that write texts. -/

namespace AnswerQuery.Host.Script

/-- How texts are written. -/
structure Echoing where
  /-- Whether the line is ended. -/
  newline : Bool := true
  /-- Whether backslashes are special. -/
  escapes : Bool := false

/-- A text with backslashes in front of what would be special, or as it is written if it has characters of control. -/
def guardedText (text : Raw) : Raw :=
  if text.isEmpty then "''".toList
  else if text.any fun c => c.toNat < 32 || 126 < c.toNat then quotedText text
  else text.zipIdx.flatMap fun (c, place) =>
    if " '\"\\|&;()<>!\x7b\x7d*[]?^$\x60,".toList.contains c || (place = 0 && (c == '#' || c == '~')) then ['\\', c] else [c]

namespace Sh

/-- Read the options in front of texts that are written. -/
def readEchoing : Echoing → List Raw → Echoing × List Raw
  | echoing, argument :: others =>
    match argument with
    | '-' :: letter :: letters =>
      if (letter :: letters).all fun c => c == 'n' || c == 'e' || c == 'E' then
        let next := (letter :: letters).foldl (fun (echoing : Echoing) c => match c with
          | 'n' => { echoing with newline := false }
          | 'e' => { echoing with escapes := true }
          | _ => { echoing with escapes := false }) echoing
        readEchoing next others
      else (echoing, argument :: others)
    | _ => (echoing, argument :: others)
  | echoing, [] => (echoing, [])

/-- Write texts with blanks between them. -/
def writeTexts (arguments : List Raw) : Sh Nat := do
  let (echoing, texts) := readEchoing {} arguments
  if echoing.escapes then
    let (text, ends, _) := Escaping.inText .echoed ([' '].intercalate texts)
    say (if ends || !echoing.newline then text else text ++ ['\n'])
  else
    let text := [' '].intercalate texts
    say (if echoing.newline then text ++ ['\n'] else text)
  pure 0

/-- Write a time as a format tells; the argument tells the time. -/
def writeTime (conversion : Conversion) (format : Raw) (formatting : Formatting) : Sh Formatting := do
  let (argument, formatting) := takeArgument formatting
  let milliseconds : Nat ← ask .clock
  let now := Int.ofNat milliseconds * Machine.nanosecondsPerMillisecond
  let moment := match argument.bind Numeral.integer? with
    | some seconds => if seconds < 0 then now else Calendar.Moment.ofSeconds seconds
    | none => now
  let zone := match (← get).value? "TZ".toList with
    | some description => Calendar.Zone.ofDescription description
    | none => Calendar.Zone.universal
  let text := (zone.shown moment).inForm (if format.isEmpty then "%X".toList else format)
  say (conversion.text text)
  pure formatting

/-- Write an argument as the letter of a conversion tells: what has been used, or nothing if there is no such letter. -/
def convertRichly (conversion : Conversion) (formatting : Formatting) : Sh (Option Formatting) := do
  match conversion.letter with
  | 'b' =>
    let (argument, formatting) := takeArgument formatting
    let (text, ends, complaints) := Escaping.inText .argument (argument.getD [])
    for complaint in complaints do
      protest complaint.toList
    say (conversion.text text)
    pure (some { formatting with ends })
  | 'q' =>
    let (argument, formatting) := takeArgument formatting
    say (conversion.text (guardedText (argument.getD [])))
    pure (some formatting)
  | 'Q' =>
    let (argument, formatting) := takeArgument formatting
    say (conversion.text (guardedText (argument.getD [])))
    pure (some formatting)
  | 'n' =>
    let (_, formatting) := takeArgument formatting
    pure (some formatting)
  | letter =>
    if "csdiouxXaAeEfFgG".toList.contains letter then
      if "aAeEfFgG".toList.contains letter then
        let (value, formatting) ← takeLong formatting
        say (conversion.floating .extended value)
        pure (some formatting)
      else some <$> convert conversion [] formatting
    else pure none
where
  /-- Take an argument that stands for a floating number. -/
  takeLong (formatting : Formatting) : Sh (Floating × Formatting) := do
    match takeArgument formatting with
    | (none, formatting) => pure (.finite false 0 0, formatting)
    | (some text, formatting) =>
      match quotedCode? text with
      | some code => pure (Floating.ofInt (Int.ofNat code), formatting)
      | none =>
        let front := Floating.readFront .extended text
        let formatting ← checkNumeral text front.rest front.outOfRange formatting
        pure (front.value, formatting)

/-- Read a conversion behind its sign and carry it out: what follows it, or nothing if the format cannot be used. -/
def convertNext (format : Raw) (formatting : Formatting) : Sh (Option Raw × Formatting) := do
  let flags := format.takeWhile conversionFlags.contains
  let (width, rest, formatting) ← readWidth (format.drop flags.length) formatting
  let (precision, rest, formatting) ← match rest with
    | '.' :: after => do
      let (precision, rest, formatting) ← readWidth after formatting
      pure (some (precision.getD 0), rest, formatting)
    | _ => pure (none, rest, formatting)
  let conversionOf := fun (letter : Char) =>
    let conversion := ({ flags, letter } : Conversion).withWidth (width.getD 0)
    match precision with
    | some digits => conversion.withPrecision digits
    | none => conversion
  let refuse := fun (message : Raw) => do
    protest message
    pure (none, { formatting with status := 1, ends := true })
  match rest.dropWhile "hjlLtz".toList.contains with
  | [] => refuse ("\x60%".toList ++ format ++ "': missing format character".toList)
  | '(' :: after =>
    let inside := after.takeWhile (· != ')')
    match after.drop inside.length with
    | ')' :: 'T' :: behind => do
      let formatting ← writeTime (conversionOf 's') inside formatting
      pure (some behind, formatting)
    | _ => refuse ("\x60(': invalid format character".toList)
  | letter :: after => do
    match ← convertRichly (conversionOf letter) formatting with
    | some formatting => pure (some after, formatting)
    | none => refuse (['\x60', letter] ++ "': invalid format character".toList)

/-- Write a format once. -/
def writeFormatOnce : Nat → Raw → Formatting → Sh Formatting
  | 0, _, formatting => pure formatting
  | _ + 1, [], formatting => pure formatting
  | steps + 1, '\\' :: rest, formatting => do
    let found := Escaping.read .format rest
    if let some complaint := found.complaint then protest complaint.toList
    say found.characters
    writeFormatOnce steps found.rest formatting
  | steps + 1, '%' :: '%' :: rest, formatting => do
    say ['%']
    writeFormatOnce steps rest formatting
  | steps + 1, '%' :: rest, formatting => do
    let (after, formatting) ← convertNext rest formatting
    match after with
    | some after => if formatting.ends then pure formatting else writeFormatOnce steps after formatting
    | none => pure formatting
  | steps + 1, c :: rest, formatting => do
    let plain := (c :: rest).takeWhile fun d => d != '\\' && d != '%'
    say plain
    writeFormatOnce steps ((c :: rest).drop plain.length) formatting

/-- What something writes to the standard output, which does not get there. -/
def gather (body : Sh Nat) : Sh (Raw × Nat) := do
  let before := (← get).output
  modify fun shell => { shell with output := [] }
  let result ← attempt body
  let shell ← get
  set { shell with output := before }
  let status ← resume result
  pure (Raw.ofOctets shell.output.reverse.flatten, status)

/-- Write arguments as a format tells, as often as there are arguments for it. -/
def writeAll (format : Raw) (arguments : List Raw) : Sh Nat := do
  let formatting ← loop ({ arguments } : Formatting) fun formatting => do
    let after ← writeFormatOnce (2 * format.length + 1) format formatting
    let goesOn := !after.ends && !after.arguments.isEmpty && after.arguments.length < arguments.length
    pure (if goesOn then .inl after else .inr after)
  pure formatting.status

/-- Write arguments as a format tells; a variable may be set to what would be written. -/
def writeFormat (arguments : List Raw) : Sh Nat := do
  let (chosen, operands) ← readOptions "v:" arguments
  match operands with
  | [] => showUsage
  | format :: arguments =>
    match chosen.getLast? with
    | none => writeAll format arguments
    | some option => do
      let (text, status) ← gather (writeAll format arguments)
      let textOf := fun (word : Word) => pure (Word.unquoted word)
      match splitName? option.argument with
      | some (name, part) => do
        assignPart textOf name part text
        pure status
      | none => giveUp ('\x60' :: option.argument ++ "': not a valid identifier".toList)

end Sh

end AnswerQuery.Host.Script
