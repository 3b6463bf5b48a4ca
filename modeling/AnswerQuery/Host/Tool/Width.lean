import AnswerQuery.Host.Tool.Amount
import AnswerQuery.Host.Tool.Slice

/-! Fitting lines into a width, and turning tabs into blanks and back. -/

namespace AnswerQuery.Host.Tool

namespace Width

/-- The column behind a character. -/
def behind (octets : Bool) (column : Nat) (c : Char) : Nat :=
  if octets then column + 1
  else match c with
    | '\x08' => column - 1
    | '\r' => 0
    | '\t' => column + (8 - column % 8)
    | _ => column + 1

/-- How lines are folded. -/
structure Folding where
  /-- How wide they are at most. -/
  width : Nat
  /-- Whether they are only broken behind blanks, as long as there are any. -/
  atBlanks : Bool
  /-- Whether each character has the same width. -/
  octets : Bool

/-- A part of a line: its characters, the last one first, and the column behind them. -/
structure Started where
  /-- The characters. -/
  text : Raw := []
  /-- The column. -/
  column : Nat := 0

/-- Whether a character is a blank on a line. -/
def isBlank (c : Char) : Bool :=
  c == ' ' || c == '\t'

/-- Add a character to a line that has begun: what is done, and what has begun then. -/
def place (folding : Folding) (c : Char) : Nat → Started → Raw × Started
  | 0, started => ([], started)
  | steps + 1, started =>
    let column := behind folding.octets started.column c
    if column ≤ folding.width then ([], ⟨c :: started.text, column⟩)
    else
      let rest := started.text.takeWhile fun c => !isBlank c
      if folding.atBlanks && rest.length < started.text.length then
        let front := started.text.drop rest.length
        let again := rest.reverse.foldl (behind folding.octets) 0
        let (done, started) := place folding c steps ⟨rest, again⟩
        (front.reverse ++ '\n' :: done, started)
      else if started.text.isEmpty then ([], ⟨[c], column⟩)
      else
        let (done, next) := place folding c steps {}
        (started.text.reverse ++ '\n' :: done, next)

/-- Fold a line. -/
def foldLine (folding : Folding) (line : Raw) : Raw :=
  let (done, started) := line.foldl (fun (done, started) c =>
    let (more, started) := place folding c (started.text.length + 3) started
    (more :: done, started)) (([] : List Raw), ({} : Started))
  done.reverse.flatten ++ started.text.reverse

/-- The places of tabs. -/
structure Stops where
  /-- The places that are told. -/
  told : List Nat
  /-- How far tabs are apart behind those, if there are any. -/
  apart : Option Nat
  /-- The place that those are counted from. -/
  origin : Nat := 0

namespace Stops

/-- The next place behind a column. -/
def next (stops : Stops) (column : Nat) : Option Nat :=
  match stops.told.find? (column < ·) with
  | some stop => some stop
  | none => stops.apart.map fun size => column + (size - (column - stops.origin) % size)

/-- How far apart the places are that follow those that are told. -/
inductive Onward where
  /-- At multiples of a number. -/
  | multiples
  /-- Counted from the last place that is told. -/
  | counted
  deriving DecidableEq, Repr

/-- The places of tabs as far as they have been read. -/
structure Draft where
  /-- Those that are told, the last one first. -/
  told : List Nat := []
  /-- The number behind a slash. -/
  multiple : Option Nat := none
  /-- The number behind a plus. -/
  increment : Option Nat := none

/-- Note a number. -/
def Draft.note (draft : Draft) (onward : Option Onward) (number : Nat) : Except Raw Draft :=
  match onward with
  | none => pure { draft with told := number :: draft.told }
  | some .multiples =>
    if (draft.multiple.getD 0) != 0 then throw "'/' specifier only allowed with the last value".toList
    else pure { draft with multiple := some number }
  | some .counted =>
    if (draft.increment.getD 0) != 0 then throw "'+' specifier only allowed with the last value".toList
    else pure { draft with increment := some number }

/-- Read the places of tabs, given what the numbers stand for that follow. -/
def readDraft : Nat → Option Onward → Draft → Raw → Except Raw Draft
  | 0, _, draft, _ => pure draft
  | _ + 1, _, draft, [] => pure draft
  | steps + 1, onward, draft, c :: rest => do
    if c == ',' || isBlank c then readDraft steps onward draft rest
    else if c == '/' then readDraft steps (some .multiples) draft rest
    else if c == '+' then readDraft steps (some .counted) draft rest
    else if !c.isDigit then throw ("tab size contains invalid character(s): ".toList ++ quoted (c :: rest))
    else
      let digits := (c :: rest).takeWhile Char.isDigit
      let rest := (c :: rest).drop digits.length
      let number := Numeral.valueOf 10 digits
      if Numeral.wordCount ≤ number then throw ("tab stop is too large ".toList ++ quoted digits)
      match rest with
      | '/' :: _ => throw ("'/' specifier not at start of number: ".toList ++ quoted rest)
      | '+' :: _ => throw ("'+' specifier not at start of number: ".toList ++ quoted rest)
      | _ => readDraft steps onward (← draft.note onward number) rest

/-- The places of tabs that have been read, if they make sense. -/
def Draft.finish (draft : Draft) : Except Raw Stops := do
  let told := draft.told.reverse
  for (before, number) in (0 :: told).zip told do
    if number = 0 then throw "tab size cannot be 0".toList
    if number ≤ before then throw "tab sizes must be ascending".toList
  let given := fun (number : Option Nat) => number.filter (· != 0)
  match given draft.multiple, given draft.increment, told with
  | some _, some _, _ => throw "'/' specifier is mutually exclusive with '+'".toList
  | some size, none, _ => pure { told, apart := some size }
  | none, some size, _ => pure { told, apart := some size, origin := told.getLast?.getD 0 }
  | none, none, [] => pure { told, apart := some 8 }
  | none, none, [size] => pure { told := [], apart := some size }
  | none, none, _ => pure { told, apart := none }

end Stops

/-- A line with blanks in place of tabs; only those at its front are replaced if that is wanted. -/
def expandLine (stops : Stops) (onlyFront : Bool) : Bool → Nat → Raw → Raw
  | _, _, [] => []
  | inFront, column, c :: rest =>
    if onlyFront && !inFront then c :: rest
    else match c with
      | '\t' =>
        let stop := (stops.next column).getD (column + 1)
        List.replicate (stop - column) ' ' ++ expandLine stops onlyFront inFront stop rest
      | '\x08' => c :: expandLine stops onlyFront false (column - 1) rest
      | _ => c :: expandLine stops onlyFront (inFront && c == ' ') (column + 1) rest

/-- How far blanks have been looked at. -/
structure Blanks where
  /-- Whether blanks are still replaced. -/
  active : Bool := true
  /-- The column. -/
  column : Nat := 0
  /-- The blanks that have not been written, the last one first. -/
  waiting : Raw := []
  /-- Whether the first of them stands alone in front of the place of a tab. -/
  single : Bool := false
  /-- Whether a blank, or the start of the line, stands in front. -/
  behindBlank : Bool := true

namespace Blanks

/-- What the blanks that wait are written as. -/
def flushed (blanks : Blanks) : Raw :=
  let text := blanks.waiting.reverse
  if blanks.single && 1 < text.length then '\t' :: text.drop 1 else text

/-- The state behind the blanks that have been written. -/
def after (blanks : Blanks) (active behindBlank : Bool) (column : Nat) : Blanks :=
  { blanks with active, column, waiting := [], single := false, behindBlank }

/-- A line with tabs in place of blanks that reach up to where tabs lead. -/
def replace (stops : Stops) (all : Bool) : Blanks → Raw → Raw
  | blanks, [] => blanks.flushed
  | blanks, c :: rest =>
    if !blanks.active then c :: rest
    else if isBlank c then
      match stops.next blanks.column with
      | none => blanks.flushed ++ c :: rest
      | some stop =>
        let column := blanks.column + 1
        if c == '\t' || (blanks.behindBlank && column = stop) then
          (if blanks.single then ['\t', '\t'] else ['\t']) ++ replace stops all (blanks.after true true stop) rest
        else
          replace stops all { blanks with
            column, waiting := c :: blanks.waiting, single := blanks.single || column = stop, behindBlank := true } rest
    else
      let column := if c == '\x08' then blanks.column - 1 else blanks.column + 1
      blanks.flushed ++ c :: replace stops all (blanks.after all false column) rest

end Blanks

/-- Change every line of files that follow one another; a line may begin in one file and end in the next one. -/
def eachLine (paths : List Raw) (change : Raw → Raw) : Act Unit := do
  let left ← Act.loop (paths, ([] : Raw)) fun (paths, begun) => do
    match paths with
    | [] => pure (.inr begun)
    | path :: paths => do
      match ← Source.openAt path 4096 with
      | .error reason => do
        Act.complainFile path reason
        Act.fail 1
        pure (.inl (paths, begun))
      | .ok source => do
        let (source, begun) ← Act.loop (source, begun) fun (source, begun) => do
          match ← source.nextLine '\n' with
          | (none, source) => pure (.inr (source, begun))
          | (some line, source) =>
            if line.ended then
              Act.say (change (begun ++ line.text) ++ ['\n'])
              pure (.inl (source, []))
            else pure (.inl (source, begun ++ line.text))
        if let some reason := source.failure then
          Act.complainFile path reason
          Act.fail 1
          if source.descriptor = 0 && reason == .badDescriptor then
            Act.complain ("-: ".toList ++ reason.description)
        source.close
        pure (.inl (paths, begun))
  Act.say (change left)

/-- Options that are numbers. -/
def numberOptions : List Known :=
  "0123456789".toList.map fun c => ⟨String.ofList [c], "", .maybe⟩

/-- The number that an option is, if it is one. -/
def numberOf? (given : Given) : Option Raw :=
  match given.key.toList with
  | [c] => if c.isDigit then some (c :: given.argument.getD []) else none
  | _ => none

/-- The operands, or the standard input. -/
def pathsOf (invocation : Invocation) : List Raw :=
  if invocation.operands.isEmpty then [['-']] else invocation.operands

/-- Take what has been read, or end the program. -/
def taken {α : Type} (result : Except Raw α) : Act α := do
  match result with
  | .ok value => pure value
  | .error message => Act.die 1 message

end Width

/-- Fold lines into a width. -/
def fold : Utility := ofAct fun arguments => do
  let known : List Known := [⟨"b", "bytes", .nothing⟩, ⟨"s", "spaces", .nothing⟩, ⟨"w", "width", .always⟩]
  let (width, invocation) ← Act.foldOptions 1 (known ++ Width.numberOptions) false (fun (width : Int) given =>
    match if given.key == "w" then given.argument else Width.numberOf? given with
    | some text => Act.amount 1 "invalid number of columns" {} 1 18446744073709551606 text
    | none => pure width) 80 arguments
  let folding : Width.Folding := { width := width.toNat, atBlanks := invocation.has "s", octets := invocation.has "b" }
  Slice.eachFile (Width.pathsOf invocation) fun source =>
    Act.loop source fun source => do
      match ← source.nextLine '\n' with
      | (none, source) => pure (.inr source)
      | (some line, source) => do
        Act.say (Width.foldLine folding line.text ++ if line.ended then ['\n'] else [])
        pure (.inl source)

/-- Turn tabs into blanks. -/
def expand : Utility := ofAct fun arguments => do
  let known : List Known := [⟨"i", "initial", .nothing⟩, ⟨"t", "tabs", .always⟩]
  let (draft, invocation) ← Act.foldOptions 1 (known ++ Width.numberOptions) false (fun (draft : Width.Stops.Draft) given =>
    match if given.key == "t" then given.argument else Width.numberOf? given with
    | some text => Width.taken (Width.Stops.readDraft (text.length + 1) none draft text)
    | none => pure draft) {} arguments
  let stops ← Width.taken draft.finish
  Width.eachLine (Width.pathsOf invocation) (Width.expandLine stops (invocation.has "i") true 0)

/-- Turn blanks into tabs. -/
def unexpand : Utility := ofAct fun arguments => do
  let known : List Known := [⟨"a", "all", .nothing⟩, ⟨"first-only", "first-only", .nothing⟩, ⟨"t", "tabs", .always⟩,
    ⟨",", "", .nothing⟩] ++ "0123456789".toList.map fun c => ⟨String.ofList [c], "", .nothing⟩
  -- A number of which digits are options may go on until a comma.
  let ((draft, begun), invocation) ← Act.foldOptions 1 known false
    (fun ((draft, begun) : Width.Stops.Draft × Option Nat) given => do
      match given.key with
      | "t" =>
        let text := given.argument.getD []
        pure (← Width.taken (Width.Stops.readDraft (text.length + 1) none draft text), begun)
      | "," => pure (begun.elim draft fun number => { draft with told := number :: draft.told }, none)
      | key =>
        match Numeral.natural? key.toList with
        | none => pure (draft, begun)
        | some digit =>
          let number := begun.getD 0 * 10 + digit
          if Numeral.wordCount ≤ number then Act.die 1 "tab stop value is too large".toList
          pure (draft, some number)) ({}, none) arguments
  let draft := begun.elim draft fun number => { draft with told := number :: draft.told }
  let stops ← Width.taken draft.finish
  let all := (invocation.has "a" || invocation.has "t") && !invocation.has "first-only"
  Width.eachLine (Width.pathsOf invocation) (Width.Blanks.replace stops all {})

/-- The programs of this kind. -/
def widthTools : List (String × Utility) :=
  [("expand", expand), ("fold", fold), ("unexpand", unexpand)]

end AnswerQuery.Host.Tool
