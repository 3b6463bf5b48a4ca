import AnswerQuery.Host.Tool.Source

/-! Counting lines, words and octets. -/

namespace AnswerQuery.Host.Tool

/-- What has been counted. -/
structure Tally where
  /-- The ends of lines. -/
  lines : Nat := 0
  /-- The words. -/
  words : Nat := 0
  /-- The octets. -/
  octets : Nat := 0
  /-- How long the longest line is where it is shown. -/
  longest : Nat := 0
  /-- How long the line is that has begun. -/
  column : Nat := 0
  /-- Whether a word has begun. -/
  inWord : Bool := false

namespace Tally

/-- Count a character: only one that can be seen begins a word. -/
def count (tally : Tally) (c : Char) : Tally :=
  let tally := { tally with octets := tally.octets + 1 }
  let newLine := fun (tally : Tally) => { tally with column := 0, longest := max tally.longest tally.column, inWord := false }
  match c with
  | '\n' => newLine { tally with lines := tally.lines + 1 }
  | '\r' => newLine tally
  | '\x0c' => newLine tally
  | '\t' => { tally with column := tally.column + (8 - tally.column % 8), inWord := false }
  | ' ' => { tally with column := tally.column + 1, inWord := false }
  | '\x0b' => { tally with inWord := false }
  | _ =>
    if Quote.isPrinted c then
      { tally with column := tally.column + 1, words := if tally.inWord then tally.words else tally.words + 1, inWord := true }
    else tally

/-- What a text holds. -/
def of (text : Raw) : Tally :=
  let tally := text.foldl count {}
  { tally with longest := max tally.longest tally.column }

/-- What two texts hold together. -/
def add (first second : Tally) : Tally where
  lines := first.lines + second.lines
  words := first.words + second.words
  octets := first.octets + second.octets
  longest := max first.longest second.longest

/-- The numbers that are wanted. -/
def wanted (keys : List String) (tally : Tally) : List Nat :=
  [("l", tally.lines), ("w", tally.words), ("m", tally.octets), ("c", tally.octets), ("L", tally.longest)].filterMap
    fun (key, number) => if keys.contains key then some number else none

end Tally

/-- Write numbers side by side, and the name they are about. -/
def sayNumbers (width : Nat) (numbers : List Nat) (name : Option Raw) : Act Unit := do
  let columns := numbers.map fun number =>
    let digits := decimal number
    List.replicate (width - digits.length) ' ' ++ digits
  Act.sayLine ([' '].intercalate columns ++ match name with
    | some name => ' ' :: (if name.contains '\n' then nameFor name else name)
    | none => [])

/-- How wide numbers are: as wide as the number of all octets as far as it can be told beforehand. -/
def numberWidth (kinds : Nat) (paths : List Raw) : Act Nat := do
  let mut total := 0
  let mut least := 1
  for path in paths do
    let result : Except OsError Status ←
      if path == ['-'] then do
        let described : Except OsError Described ← Act.ask (.describe 0)
        pure (described.map Described.status)
      else Act.ask (.inspect path true)
    if let .ok status := result then
      if status.kind == .file then total := total + status.size else least := 7
  pure (if paths.length = 1 && kinds = 1 then 1 else max least (decimal total).length)

/-- The options of the program that counts. -/
def countOptions : List Known :=
  [⟨"c", "bytes", .nothing⟩, ⟨"m", "chars", .nothing⟩, ⟨"l", "lines", .nothing⟩, ⟨"w", "words", .nothing⟩,
    ⟨"files0-from", "files0-from", .always⟩, ⟨"L", "max-line-length", .nothing⟩]

/-- Read a file that may be a directory, of which nothing can be read. -/
def readCounted (path : Raw) : Act (Option Raw × Option OsError) := do
  if path == ['-'] then
    let octets : Except OsError Bytes ← StateT.lift (Job.readAll 0)
    match octets with
    | .ok octets => pure (some (Raw.ofOctets octets), none)
    | .error reason => pure (some [], some reason)
  else
    let result : Except OsError Nat ← Act.ask (.openFile path .reading)
    match result with
    | .error reason => pure (none, some reason)
    | .ok descriptor => do
      let octets : Except OsError Bytes ← StateT.lift (Job.readAll descriptor)
      Act.ask (.close descriptor)
      match octets with
      | .ok octets => pure (some (Raw.ofOctets octets), none)
      | .error reason => pure (some [], some reason)

/-- How it is told that the counts cannot be written: the reason is known only where nothing can be written at all. -/
def countComplaint (reason : OsError) : Raw :=
  "write error".toList ++ if reason == .badDescriptor then ": ".toList ++ reason.description else []

/-- Count what files hold. -/
def wc : Utility := ofAct fun arguments => do
  modify fun output => { output with complaint := countComplaint }
  let invocation ← Act.readOptions 1 countOptions false arguments
  let keys := ["l", "w", "m", "c", "L"].filter invocation.has
  let keys := if keys.isEmpty then ["l", "w", "c"] else keys
  let listed := invocation.argument? "files0-from"
  let operands ← match listed with
    | none => pure invocation.operands
    | some path =>
      if let some extra := invocation.operands.head? then Act.refuseBeside 1 extra
      match ← Act.readFile path with
      | .ok octets => pure ((linesOf '\x00' (Raw.ofOctets octets)).map Source.Line.text)
      | .error reason =>
        Act.die 1 ("cannot open ".toList ++ quotedWord path ++ " for reading: ".toList ++ reason.description)
  let paths := if operands.isEmpty && !invocation.has "files0-from" then [['-']] else operands
  let width ← numberWidth keys.length paths
  let mut sum : Tally := {}
  for (path, place) in paths.zipIdx do
    if path.isEmpty then
      let place := (listed.map fun listed => nameFor listed ++ ':' :: decimal (place + 1) ++ ": ".toList).getD []
      Act.complain (place ++ "invalid zero-length file name".toList)
      Act.fail 1
    else if listed == some ['-'] && path == ['-'] then
      Act.complain "when reading file names from stdin, no file name of '-' allowed".toList
      Act.fail 1
    else
      let (text, reason) ← readCounted path
      if let some reason := reason then
        Act.complain ((if path == ['-'] then quotedWord "standard input".toList else nameFor path) ++ ": ".toList ++
          reason.description)
        Act.fail 1
      if let some text := text then
        let tally := Tally.of text
        sum := sum.add tally
        sayNumbers width (tally.wanted keys) (if operands.isEmpty then none else some path)
      if path == ['-'] && reason == some .badDescriptor then
        Act.flush
        Act.complain ("-: ".toList ++ OsError.badDescriptor.description)
  if 1 < paths.length then sayNumbers width (sum.wanted keys) (some "total".toList)

/-- The programs of this kind. -/
def countTools : List (String × Utility) :=
  [("wc", wc)]

end AnswerQuery.Host.Tool
