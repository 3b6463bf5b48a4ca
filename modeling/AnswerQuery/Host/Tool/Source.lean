import AnswerQuery.Host.Tool.Options

/-! What programs read: files that are read block by block, and cut into lines. -/

namespace AnswerQuery.Host.Tool

/-- A file that is being read. -/
structure Source where
  /-- Its descriptor. -/
  descriptor : Nat
  /-- What it is called. -/
  path : Raw
  /-- How many octets are read at once. -/
  block : Nat := 4096
  /-- What has been read and not been used. -/
  rest : Raw := []
  /-- Whether there is nothing more to read. -/
  isOver : Bool := false
  /-- Why reading went wrong, if it did. -/
  failure : Option OsError := none

namespace Source

/-- Open a file; a minus stands for the standard input. -/
def openAt (path : Raw) (block : Nat) : Act (Except OsError Source) := do
  if path == ['-'] then pure (.ok { descriptor := 0, path, block })
  else
    let result : Except OsError Nat ← Act.ask (.openFile path .reading)
    pure (result.map fun descriptor => { descriptor, path, block })

/-- Close a file, unless it is the standard input. -/
def close (source : Source) : Act Unit := do
  if source.descriptor != 0 then Act.ask (.close source.descriptor)

/-- Read one more block. -/
def feed (source : Source) : Act Source := do
  let result : Except OsError Bytes ← Act.ask (.read source.descriptor source.block)
  match result with
  | .ok [] => pure { source with isOver := true }
  | .ok octets => pure { source with rest := source.rest ++ Raw.ofOctets octets }
  | .error reason => pure { source with isOver := true, failure := some reason }

/-- What stands before a character and what follows it, if it is there. -/
def cutAt (mark : Char) : Raw → Raw → Option (Raw × Raw)
  | _, [] => none
  | front, c :: rest => if c == mark then some (front.reverse, rest) else cutAt mark (c :: front) rest

/-- A line, and whether the character that ends lines follows it. -/
structure Line where
  /-- The characters. -/
  text : Raw
  /-- Whether it is ended. -/
  ended : Bool

/-- The next line; none at the end. -/
def nextLine (mark : Char) (source : Source) : Act (Option Line × Source) :=
  Act.loop (source, ([] : List Raw)) fun (source, before) => do
    match cutAt mark [] source.rest with
    | some (front, rest) =>
      pure (.inr (some ⟨(front :: before).reverse.flatten, true⟩, { source with rest }))
    | none =>
      let before := if source.rest.isEmpty then before else source.rest :: before
      let source := { source with rest := [] }
      if source.isOver then
        pure (.inr (if before.isEmpty then none else some ⟨before.reverse.flatten, false⟩, source))
      else do
        let source ← source.feed
        pure (.inl (source, before))

/-- Give back what has been read and not been used, where that is possible. -/
def giveBack (source : Source) : Act Unit := do
  if !source.rest.isEmpty then
    let _ ← Act.ask (.move source.descriptor (-Int.ofNat source.rest.length))

end Source

/-- Complain about an operand where the files are named elsewhere. -/
def Act.refuseBeside {α : Type} (status : Nat) (operand : Raw) : Act α := do
  complain ("extra operand ".toList ++ quoted operand)
  report "file operands cannot be combined with --files0-from\n".toList
  report ("Try '".toList ++ (← get).name ++ " --help' for more information.\n".toList)
  finish status

/-- The lines of a text, each with whether it is ended. -/
def linesOf (mark : Char) (text : Raw) : List Source.Line :=
  let parts := Raw.split mark text
  let whole := parts.dropLast.map fun part => ⟨part, true⟩
  match parts.getLast? with
  | none => whole
  | some [] => whole
  | some last => whole ++ [⟨last, false⟩]

/-- The letters of sizes and the numbers they stand for, as powers of two. -/
def sizeLetters : List (Char × Nat) :=
  [('K', 1), ('k', 1), ('M', 2), ('m', 2), ('G', 3), ('T', 4), ('P', 5), ('E', 6), ('Z', 7), ('Y', 8)]

/-- The number that a text tells, with a letter for a size behind it. -/
def sizeOf? (text : Raw) : Option Nat :=
  let digits := text.takeWhile Char.isDigit
  let rest := text.drop digits.length
  let count := if digits.isEmpty && !rest.isEmpty then 1 else Numeral.valueOf 10 digits
  if text.isEmpty then none
  else match rest with
    | [] => some count
    | ['b'] => some (count * 512)
    | [c] => (sizeLetters.lookup c).map fun power => count * Nat.pow 1024 power
    | [c, 'i', 'B'] => (sizeLetters.lookup c).map fun power => count * Nat.pow 1024 power
    | [c, 'B'] => (sizeLetters.lookup c).map fun power => count * Nat.pow 1000 power
    | _ => none

end AnswerQuery.Host.Tool
