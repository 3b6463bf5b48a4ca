import AnswerQuery.Host.Conversion
import AnswerQuery.Host.Tool.Amount
import AnswerQuery.Host.Tool.Matching
import AnswerQuery.Host.Tool.Source

/-! Splitting a file into sections that begin at some lines: lines of given numbers, or lines in which something stands. -/

namespace AnswerQuery.Host.Tool

namespace Sections

/-- How often a section is cut off. -/
inductive Times where
  | more (count : Nat)
  | always

/-- Where the next section begins. -/
inductive Place where
  /-- At the line of a number, or of a multiple of it. -/
  | line (number : Nat)
  /-- At a line in which something stands, or so many lines behind it; what is before it may be left out. -/
  | text (matcher : Matcher) (skips : Bool) (offset : Int)

/-- A cut. -/
structure Cut where
  /-- Where it is. -/
  place : Place
  /-- How often it is made. -/
  times : Times := .more 0
  /-- How it was written. -/
  written : Raw

/-- How sections are called. -/
structure Naming where
  /-- What names begin with. -/
  front : Raw := ['x', 'x']
  /-- How the number is written. -/
  number : Nat → Raw

/-- What is to be done. -/
structure Plan where
  /-- How sections are called. -/
  naming : Naming
  /-- Whether sections stay when something goes wrong. -/
  keeps : Bool
  /-- Whether sizes are not told. -/
  silent : Bool
  /-- Whether empty sections are left out. -/
  elides : Bool
  /-- Whether the lines where sections begin are left out. -/
  drops : Bool

/-- The section that is being written. -/
structure Section where
  /-- Its descriptor. -/
  descriptor : Nat
  /-- Its name. -/
  name : Raw
  /-- What goes there, the last line first. -/
  lines : List Raw := []

/-- How far the work has come. -/
structure Progress where
  /-- The lines of the file. -/
  lines : Array Raw
  /-- How many have been taken. -/
  taken : Nat := 0
  /-- The number of the line that is looked at. -/
  current : Nat := 0
  /-- How many sections have been made. -/
  made : Nat := 0
  /-- The section that is being written. -/
  output : Option Section := none

namespace Progress

/-- The line of a number, unless all have been taken. -/
def line? (progress : Progress) (number : Nat) : Option Raw :=
  if progress.lines.size ≤ progress.taken then none else progress.lines[number - 1]?

/-- Take the next line. -/
def take (progress : Progress) : Option Raw × Progress :=
  match progress.lines[progress.taken]? with
  | none => (none, progress)
  | some line =>
    (some line, { progress with taken := progress.taken + 1, current := max progress.current (progress.taken + 1) })

/-- Put a line into the section. -/
def save (progress : Progress) (line : Raw) : Progress :=
  { progress with output := progress.output.map fun output => { output with lines := line :: output.lines } }

/-- Put all other lines into the section. -/
def saveRest (progress : Progress) : Progress :=
  let rest := (progress.lines.extract progress.taken progress.lines.size).toList
  rest.foldl (fun progress line => progress.save line)
    { progress with taken := progress.lines.size, current := max progress.current progress.lines.size }

end Progress

/-- End the section, and tell its size. -/
def Plan.close (plan : Plan) (progress : Progress) : Act Progress := do
  match progress.output with
  | none => pure progress
  | some output => do
    let text := output.lines.reverse.flatten
    if !text.isEmpty then
      let _ ← Act.ask (.write output.descriptor (Raw.octets text))
    Act.ask (.close output.descriptor)
    let progress := { progress with output := none }
    if text.isEmpty && plan.elides then
      let removed : Except OsError Unit ← Act.ask (.remove output.name)
      match removed with
      | .ok _ => pure { progress with made := progress.made - 1 }
      | .error reason => do
        if reason != OsError.noEntry then Act.complainFile output.name reason
        pure progress
    else do
      if !plan.silent then Act.sayLine (decimal text.length)
      pure progress

/-- End everything because something went wrong. -/
def Plan.giveUp {α : Type} (plan : Plan) (progress : Progress) : Act α := do
  let progress ← plan.close progress
  if !plan.keeps then
    for number in List.range progress.made do
      let name := plan.naming.front ++ plan.naming.number number
      let removed : Except OsError Unit ← Act.ask (.remove name)
      if let .error reason := removed then
        if reason != OsError.noEntry then Act.complainFile name reason
  Act.finish 1

/-- Begin a section. -/
def Plan.begin_ (plan : Plan) (progress : Progress) : Act Progress := do
  let name := plan.naming.front ++ plan.naming.number progress.made
  let opened : Except OsError Nat ← Act.ask (.openFile name .writing)
  match opened with
  | .error reason => do
    Act.complainFile name reason
    plan.giveUp progress
  | .ok descriptor => pure { progress with made := progress.made + 1, output := some { descriptor, name } }

/-- A complaint that comes before what has been written otherwise. -/
def report (message : Raw) (repetition : Nat) : Act Unit := do
  Act.report ((← get).name ++ ": ".toList ++ message ++
    (if repetition = 0 then [] else " on repetition ".toList ++ decimal repetition) ++ ['\n'])

/-- End everything because a line is not there. -/
def Plan.refuseLine {α : Type} (plan : Plan) (progress : Progress) (number repetition : Nat) : Act α := do
  report (quoted (decimal number) ++ ": line number out of range".toList) repetition
  plan.giveUp progress

/-- Cut at the line of a number. -/
def Plan.cutLine (plan : Plan) (number repetition : Nat) (progress : Progress) : Act Progress := do
  let progress ← plan.begin_ progress
  if (progress.line? (progress.current + 1)).isNone && plan.drops then plan.refuseLine progress number repetition
  if progress.lines.size ≤ progress.taken then Act.die 1 "input disappeared".toList
  let goal := number * (repetition + 1)
  let progress ← Act.loop progress fun progress => do
    if goal ≤ progress.taken + 1 then pure (.inr progress)
    else match progress.take with
      | (none, progress) => plan.refuseLine progress number repetition
      | (some line, progress) => pure (.inl (progress.save line))
  let progress ← plan.close progress
  let progress := if plan.drops then progress.take.2 else progress
  if (progress.line? (progress.current + 1)).isNone && !plan.drops then plan.refuseLine progress number repetition
  pure progress

/-- Cut at a line in which something stands; the result tells whether there was one or nothing is left to do. -/
def Plan.cutText (plan : Plan) (matcher : Matcher) (skips : Bool) (offset : Int) (written : Raw) (always : Bool)
    (repetition : Nat) (progress : Progress) : Act (Option Progress) := do
  let progress ← if skips then pure progress else plan.begin_ progress
  let stop := fun (progress : Progress) => (do
    let close := fun (progress : Progress) => if skips then pure progress else plan.close progress.saveRest
    if always then
      let _ ← close progress
      pure none
    else do
      report (quoted written ++ ": match not found".toList) repetition
      plan.giveUp (← close progress) : Act (Option Progress))
  let found ← Act.loop progress fun progress => do
    let progress := { progress with current := progress.current + 1 }
    match progress.line? progress.current with
    | none => pure (.inr (progress, false))
    | some line =>
      let text := if line.getLast? == some '\n' then line.dropLast else line
      if (matcher.find? text.toArray 0).isSome then pure (.inr (progress, true))
      else if offset < 0 then pure (.inl progress)
      else
        let (line, progress) := progress.take
        pure (.inl (if skips then progress else progress.save (line.getD [])))
  match found with
  | (progress, false) => stop progress
  | (progress, true) => do
    let goal := Int.ofNat progress.current + offset
    let outside := fun (progress : Progress) => (do
      Act.complain (quoted written ++ ": line number out of range".toList)
      plan.giveUp progress : Act Progress)
    let progress ← if goal < Int.ofNat progress.taken + 1 then outside progress else
      Act.loop progress fun progress => do
        if goal ≤ Int.ofNat progress.taken + 1 then pure (.inr progress)
        else match progress.take with
          | (none, progress) => do
            let _ ← outside progress
            pure (.inr progress)
          | (some line, progress) => pure (.inl (if skips then progress else progress.save line))
    let progress ← if skips then pure progress else plan.close progress
    let progress := if 0 < offset then { progress with current := goal.toNat } else progress
    pure (some (if plan.drops then progress.take.2 else progress))

/-- Make a cut as often as is wished; the result tells whether something is left to do. -/
def Plan.cut (plan : Plan) (cut : Cut) (progress : Progress) : Act (Option Progress) :=
  Act.loop (progress, 0) fun (progress, repetition) => do
    let isDone : Bool := match cut.times with
      | .more count => count < repetition
      | .always => false
    let always : Bool := match cut.times with
      | .more _ => false
      | .always => true
    if isDone then pure (.inr (some progress))
    else match cut.place with
      | .line number => do
        let progress ← plan.cutLine number repetition progress
        pure (.inl (progress, repetition + 1))
      | .text matcher skips offset => do
        match ← plan.cutText matcher skips offset cut.written always repetition progress with
        | none => pure (.inr none)
        | some progress => pure (.inl (progress, repetition + 1))

/-- Make all cuts. -/
def Plan.run (plan : Plan) (cuts : List Cut) (progress : Progress) : Act Unit := do
  let step := fun (progress : Option Progress) (cut : Cut) => (do
    match progress with
    | none => pure none
    | some progress => plan.cut cut progress : Act (Option Progress))
  match ← cuts.foldlM step (some progress) with
  | none => pure ()
  | some progress => do
    let progress ← plan.begin_ progress
    let _ ← plan.close progress.saveRest

/-- A text with its last element cut off at a mark. -/
def cutAtLast (mark : Char) (text : Raw) : Option (Raw × Raw) :=
  let behind := (text.reverse.takeWhile (· != mark)).reverse
  if behind.length == text.length then none else some (text.take (text.length - behind.length - 1), behind)

/-- Read where a section begins. -/
def placeOf (last : Nat) (text : Raw) : Act (Place × Nat) := do
  match text with
  | mark :: rest =>
    if mark == '/' || mark == '%' then
      match cutAtLast mark rest with
      | none => Act.die 1 (text ++ ": closing delimiter '".toList ++ [mark] ++ "' missing".toList)
      | some (expression, offset) =>
        let matcher ← match Matcher.read { extended := false } expression with
          | .ok matcher => pure matcher
          | .error message => Act.die 1 (quoted text ++ ": invalid regular expression: ".toList ++ message.toList)
        let offset ← if offset.isEmpty then pure 0 else
          match Amount.read { signed := true } offset with
          | .ok offset => pure offset
          | .error _ => Act.die 1 (quoted text ++ ": integer expected after delimiter".toList)
        pure (.text matcher (mark == '%') offset, last)
    else
      match Amount.read {} text with
      | .ok number => do
        let number := number.toNat
        if number = 0 then Act.die 1 (text ++ ": line number must be greater than zero".toList)
        if number < last then
          Act.die 1 ("line number ".toList ++ quoted text ++ " is smaller than preceding line number, ".toList ++ decimal last)
        if number = last then
          Act.complain ("warning: line number ".toList ++ quoted text ++ " is the same as preceding line number".toList)
        pure (.line number, number)
      | .error _ => Act.die 1 (quoted text ++ ": invalid pattern".toList)
  | [] => Act.die 1 (quoted text ++ ": invalid pattern".toList)

/-- Read how often a cut is made. -/
def timesOf (text : Raw) : Act Times := do
  if text.getLast? != some '\x7d' || text.length < 2 then
    Act.die 1 (quoted text ++ ": '\x7d' is required in repeat count".toList)
  let inside := (text.drop 1).dropLast
  if inside == ['*'] then pure .always
  else match Amount.read {} inside with
    | .ok count => pure (.more count.toNat)
    | .error _ =>
      Act.die 1 (quoted text.dropLast ++ "\x7d: integer required between '\x7b' and '\x7d'".toList)

/-- Read cuts; the last line number is known. -/
def cutsOf : Nat → List Raw → Act (List Cut)
  | _, [] => pure []
  | last, text :: rest => do
    let (place, last) ← placeOf last text
    match rest with
    | ('\x7b' :: repeat_) :: others => do
      let times ← timesOf ('\x7b' :: repeat_)
      pure ({ place, times, written := text } :: (← cutsOf last others))
    | others => pure ({ place, written := text } :: (← cutsOf last others))

/-- A part of a format for numbers. -/
inductive Piece where
  | text (text : Raw)
  | number (conversion : Conversion)

/-- Refuse a format because of the letter of a conversion. -/
def refuseLetter {α : Type} (letter : Char) : Act α :=
  if Quote.isPrinted letter then Act.die 1 ("invalid conversion specifier in suffix: ".toList ++ [letter])
  else Act.die 1 ("invalid conversion specifier in suffix: \\".toList ++ Quote.octal letter)

/-- Read a format for numbers. -/
def piecesOf : Nat → Raw → Act (List Piece)
  | 0, _ => pure []
  | steps + 1, text => do
    match text with
    | [] => pure []
    | '%' :: '%' :: rest => do pure (.text ['%'] :: (← piecesOf steps rest))
    | '%' :: rest => do
      let flags := rest.takeWhile "-0'#".toList.contains
      let rest := rest.drop flags.length
      let width := rest.takeWhile Char.isDigit
      let rest := rest.drop width.length
      let (precision, rest) := match rest with
        | '.' :: rest => (some (Numeral.valueOf 10 (rest.takeWhile Char.isDigit)), rest.dropWhile Char.isDigit)
        | rest => (none, rest)
      match rest with
      | [] => Act.die 1 "missing conversion specifier in suffix".toList
      | letter :: rest => do
        let allowed ←
          if "diu".toList.contains letter then pure '\''
          else if "oxX".toList.contains letter then pure '#'
          else refuseLetter letter
        if let some wrong := ['#', '\''].find? fun flag => flags.contains flag && flag != allowed then
          Act.die 1 ("invalid flags in conversion specification: %".toList ++ [wrong, letter])
        let conversion : Conversion := {
          flags, width := Numeral.valueOf 10 width, precision, letter := if allowed == '\'' then 'u' else letter }
        pure (.number conversion :: (← piecesOf steps rest))
    | c :: rest => do pure (.text [c] :: (← piecesOf steps rest))

/-- Read how numbers are written in names. -/
def numberOf (format : Raw) : Act (Nat → Raw) := do
  let pieces ← piecesOf (format.length + 1) format
  let count := (pieces.filter fun piece => match piece with
    | .number _ => true
    | .text _ => false).length
  if 1 < count then Act.die 1 "too many % conversion specifications in suffix".toList
  if count = 0 then Act.die 1 "missing % conversion specification in suffix".toList
  pure fun number => pieces.flatMap fun piece => match piece with
    | .text text => text
    | .number conversion => conversion.unsigned number

end Sections

open Sections in
/-- Split a file into sections. -/
def csplit : Utility := ofAct fun arguments => do
  let known : List Known := [⟨"b", "suffix-format", .always⟩, ⟨"f", "prefix", .always⟩, ⟨"k", "keep-files", .nothing⟩,
    ⟨"suppress-matched", "suppress-matched", .nothing⟩, ⟨"n", "digits", .always⟩, ⟨"q", "quiet", .nothing⟩, ⟨"q", "silent", .nothing⟩,
    ⟨"s", "", .nothing⟩, ⟨"z", "elide-empty-files", .nothing⟩]
  let (digits, invocation) ← Act.foldOptions 1 known false (fun (digits : Nat) given => do
    if given.key == "n" then
      let text := given.argument.getD []
      pure (← Act.amount 1 "invalid number" { signed := true } 0 2147483647 text).toNat
    else pure digits) 2 arguments
  match invocation.operands with
  | [] => Act.refuse 1 "missing operand".toList
  | [only] => Act.refuse 1 ("missing operand after ".toList ++ quoted only)
  | path :: places => do
    let number ← match invocation.argument? "b" with
      | some format => numberOf format
      | none => pure (Numeral.filled digits)
    let refuseFile := fun (reason : OsError) =>
      (Act.die 1 ("cannot open ".toList ++ quotedWord path ++ " for reading: ".toList ++ reason.description) : Act Unit)
    let descriptor ← if path == ['-'] then pure 0 else do
      let opened : Except OsError Nat ← Act.ask (.openFile path .reading)
      match opened with
      | .ok descriptor => pure descriptor
      | .error reason => do
        refuseFile reason
        pure 0
    let cuts ← cutsOf 0 places
    let read : Except OsError Bytes ← StateT.lift (Job.readAll descriptor)
    let plan : Plan := {
      naming := { front := (invocation.argument? "f").getD ['x', 'x'], number }, keeps := invocation.has "k"
      silent := invocation.has "q" || invocation.has "s", elides := invocation.has "z", drops := invocation.has "suppress-matched" }
    match read with
    | .error reason => do
      let skips : Bool := match cuts.head?.map Cut.place with
        | some (.text _ skips _) => skips
        | _ => false
      let start : Progress := { lines := #[] }
      let progress ← if skips then pure start else plan.begin_ start
      Act.complain ("read error: ".toList ++ reason.description)
      plan.giveUp progress
    | .ok octets =>
      let lines := (linesOf '\n' (Raw.ofOctets octets)).map fun line => if line.ended then line.text ++ ['\n'] else line.text
      plan.run cuts { lines := lines.toArray }

/-- The programs of this kind. -/
def sectionTools : List (String × Utility) :=
  [("csplit", csplit)]

end AnswerQuery.Host.Tool
