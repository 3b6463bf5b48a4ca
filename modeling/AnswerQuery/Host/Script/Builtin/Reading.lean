import AnswerQuery.Host.Script.Builtin.Declaring
import AnswerQuery.Host.Script.Builtin.Variables

/-! Commands of the rich dialect that read lines into variables. -/

namespace AnswerQuery.Host.Script

/-- How something is read. -/
structure ReadingManner where
  /-- Whether backslashes are nothing special. -/
  plain : Bool := false
  /-- The descriptor. -/
  descriptor : Nat := 0
  /-- The character that ends what is read, unless it is of a certain length. -/
  ending : Option Char := some '\n'
  /-- How many characters are read at most. -/
  most : Option Nat := none

namespace Sh

/-- Read up to the end of a line or what stands for one: the status, and the characters. -/
def readUntil (manner : ReadingManner) : Sh (Nat × List Glyph) := do
  let finish := fun (status : Nat) (line : LineRead) => (status, line.glyphs.reverse)
  loop ({} : LineRead) fun line => do
    if manner.most.any fun most => most ≤ line.glyphs.length then return .inr (finish 0 line)
    let result : Except OsError Bytes ← ask (.read manner.descriptor 1)
    match result with
    | .ok [octet] =>
      let c := Char.ofNat octet.toNat
      if line.escaped then
        let glyphs := if c == '\n' then line.glyphs else ⟨c, .escaped, 0, false⟩ :: line.glyphs
        pure (.inl { glyphs, region := line.region + 1, escaped := false })
      else if c == '\\' && !manner.plain then pure (.inl { line with escaped := true })
      else if manner.ending == some c then pure (.inr (finish 0 line))
      else if c == '\x00' then pure (.inl line)
      else pure (.inl { line with glyphs := ⟨c, .character, line.region, false⟩ :: line.glyphs })
    | .ok _ => pure (.inr (finish 1 line))
    | .error reason => do
      protest ("read error: ".toList ++ decimal manner.descriptor ++ ": ".toList ++ reason.description)
      pure (.inr (finish 1 line))

/-- The number that the argument of an option tells. -/
def optionNumber (message : String) (text : Raw) : Sh Nat := do
  match Numeral.natural? text with
  | some number => pure number
  | none => giveUp (text ++ ": ".toList ++ message.toList)

/-- How an option changes the way something is read. -/
def readingWith (manner : ReadingManner) (option : Chosen) : Sh ReadingManner := do
  match option.letter with
  | 'r' => pure { manner with plain := true }
  | 'd' => pure { manner with ending := some (option.argument.head?.getD '\x00') }
  | 'n' => do
    let most ← optionNumber "invalid number" option.argument
    pure { manner with most := some most }
  | 'N' => do
    let most ← optionNumber "invalid number" option.argument
    pure { manner with most := some most, ending := none }
  | 'u' => do
    let descriptor ← optionNumber "invalid file descriptor specification" option.argument
    pure { manner with descriptor }
  | _ => pure manner

/-- Set the elements of a variable to values. -/
def assignValues (name : Raw) (values : List Raw) : Sh Unit := do
  carryAssigned { name, given := .list (values.map fun value => { value }) } false

/-- Set variables to the fields of what was read, as far as there are any. -/
def assignEach : List Raw → List Raw → Sh Unit
  | [], _ => pure ()
  | name :: names, fields => do
    carryAssigned { name, given := .text (fields.head?.getD []) } false
    assignEach names (fields.drop 1)

/-- Read a line into variables. -/
def readFields (arguments : List Raw) : Sh Nat := do
  let (chosen, names) ← readOptions "ersa:d:i:n:N:p:t:u:" arguments
  if let some wrong := names.find? fun name => !Raw.isName (name.takeWhile (· != '[')) then refuseName wrong
  let manner ← chosen.foldlM readingWith ({} : ReadingManner)
  let (status, glyphs) ← readUntil manner
  let shell ← get
  match chosen.reverse.find? fun option => option.letter == 'a' with
  | some option => do
    let fields := fieldsOf shell.separators none glyphs
    assignValues option.argument (fields.map Glyph.text)
  | none =>
    if names.isEmpty then assign "REPLY".toList (Glyph.text glyphs)
    else if manner.ending.isNone then assignEach names [Glyph.text glyphs]
    else
      let fields := fieldsOf shell.separators (some names.length) glyphs
      let textsOf := fields.map Glyph.text
      for (name, place) in names.zipIdx do
        let value := (textsOf[place]?).getD []
        match splitName? name with
        | some (real, part) =>
          carryAssigned { name := real, part := part.map Word.unquoted, given := .text value } false
        | none => refuseName name
  pure status

/-- Lines with their ends. -/
def linesOf (ending : Char) : Nat → Raw → List Raw
  | 0, _ => []
  | _ + 1, [] => []
  | steps + 1, text =>
    let line := text.takeWhile (· != ending)
    let rest := text.drop line.length
    (line ++ rest.take 1) :: linesOf ending steps (rest.drop 1)

/-- Read all lines into the elements of a variable. -/
def readLines (arguments : List Raw) : Sh Nat := do
  let (chosen, names) ← readOptions "d:n:O:s:tu:C:c:" arguments
  let argument := fun (letter : Char) => (chosen.reverse.find? fun option => option.letter == letter).map Chosen.argument
  let number := fun (letter : Char) => do
    match argument letter with
    | some text => optionNumber "invalid line count" text
    | none => pure 0
  let name := names.head?.getD "MAPFILE".toList
  if !Raw.isName name then refuseName name
  let descriptor ← number 'u'
  let most ← number 'n'
  let passed ← number 's'
  let origin ← number 'O'
  let ending := match argument 'd' with
    | some text => text.head?.getD '\x00'
    | none => '\n'
  let result ← lift (Job.readAll descriptor)
  let text := (Raw.ofOctets (result.toOption.getD [])).filter fun c => c != '\x00' || ending == '\x00'
  let lines := (linesOf ending (text.length + 1) text).drop passed
  let lines := if most = 0 then lines else lines.take most
  let values := if (argument 't').isSome then lines.map fun line =>
      if line.getLast? == some ending then line.dropLast else line
    else lines
  let elements : List Element := values.zipIdx.map fun ((value, place) : Raw × Nat) =>
    { place := some (decimal (origin + place)), value }
  carryAssigned { name, appends := (argument 'O').isSome, given := .list elements } false
  pure 0

end Sh

end AnswerQuery.Host.Script
