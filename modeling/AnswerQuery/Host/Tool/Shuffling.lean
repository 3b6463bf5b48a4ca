import AnswerQuery.Host.Tool.Amount
import AnswerQuery.Host.Tool.Path
import AnswerQuery.Host.Tool.Source

/-! Shuffling: lines, arguments or numbers in an order that is drawn by lot. -/

namespace AnswerQuery.Host.Tool

namespace Shuffling

/-- Where numbers are drawn from: octets, and what is left of those that were used. -/
structure Urn where
  /-- The octets that have not been used, if they come from a file. -/
  octets : Option Bytes
  /-- The state of what makes octets if there is no file. -/
  state : Nat := 1
  /-- What is left of octets that were used. -/
  number : Nat := 0
  /-- The greatest value that this may have. -/
  most : Nat := 0

namespace Urn

/-- The next octet. -/
def octet? (urn : Urn) : Option (Nat × Urn) :=
  match urn.octets with
  | some [] => none
  | some (octet :: octets) => some (octet.toNat, { urn with octets := some octets })
  | none =>
    let state := (urn.state * 6364136223846793005 + 1442695040888963407) % 18446744073709551616
    some (state / 72057594037927936, { urn with state })

/-- Take octets until a greatest number can be drawn. -/
def widen? (greatest : Nat) : Nat → Urn → Option Urn
  | 0, urn => some urn
  | steps + 1, urn =>
    if greatest ≤ urn.most then some urn
    else
      match urn.octet? with
      | none => none
      | some (octet, urn) =>
        widen? greatest steps { urn with number := urn.number * 256 + octet, most := urn.most * 256 + 255 }

/-- How many octets make a number at most. -/
def widest : Nat := 8

/-- Draw a number up to a greatest one; none if the octets are used up. -/
def draw? (greatest : Nat) : Nat → Urn → Option (Nat × Urn)
  | 0, urn => some (0, urn)
  | steps + 1, urn =>
    match urn.widen? greatest widest with
    | none => none
    | some urn =>
      if urn.most = greatest then some (urn.number, { urn with number := 0, most := 0 })
      else
        let choices := greatest + 1
        let excess := urn.most - greatest
        let unusable := excess % choices
        let last := urn.most - unusable
        if urn.number ≤ last then
          some (urn.number % choices, { urn with number := urn.number / choices, most := excess / choices })
        else draw? greatest steps { urn with number := urn.number - last - 1, most := unusable - 1 }

end Urn

/-- How often a number is drawn again that cannot be used. -/
def patience : Nat := 1000

/-- Draw one of so many numbers. -/
def choose (source : Raw) (urn : Urn) (count : Nat) : Act (Nat × Urn) := do
  match urn.draw? (count - 1) patience with
  | some result => pure result
  | none => Act.die 1 (quoted source ++ ": end of file".toList)

/-- The first ones of so many numbers in an order that is drawn by lot. -/
def permuted (source : Raw) (urn : Urn) (most count : Nat) : Act (List Nat) := do
  let mut numbers := Array.range count
  let mut urn := urn
  for place in List.range most do
    let (offset, rest) ← choose source urn (count - place)
    urn := rest
    numbers := numbers.swapIfInBounds place (place + offset)
  pure (numbers.toList.take most)

/-- Lines of which each has the same chance to be kept, if there may be very many of them. -/
def sampled (source : Raw) (urn : Urn) (most : Nat) (lines : List Raw) : Act (List Raw × Urn) := do
  let mut kept := (lines.take most).toArray
  let mut urn := urn
  let mut count := kept.size
  if kept.size = most then
    for line in lines.drop most do
      let (place, rest) ← choose source urn (count + 1)
      urn := rest
      kept := kept.setIfInBounds place line
      count := count + 1
    let (_, rest) ← choose source urn (count + 1)
    urn := rest
  pure (kept.toList, urn)

/-- What is shuffled. -/
inductive Lot where
  | lines (lines : List Raw)
  /-- Numbers from one on. -/
  | numbers (from_ count : Nat)

namespace Lot

/-- How many there are. -/
def count : Lot → Nat
  | .lines texts => texts.length
  | .numbers _ count => count

/-- One of them. -/
def at_ (lot : Lot) (table : Array Raw) (place : Nat) : Raw :=
  match lot with
  | .lines _ => (table[place]?).getD []
  | .numbers from_ _ => decimal (from_ + place)

/-- The lines, if there are any. -/
def table : Lot → Array Raw
  | .lines texts => texts.toArray
  | .numbers _ _ => #[]

end Lot

/-- The options that are known. -/
def known : List Known :=
  [⟨"e", "echo", .nothing⟩, ⟨"i", "input-range", .always⟩, ⟨"n", "head-count", .always⟩, ⟨"o", "output", .always⟩,
    ⟨"random-source", "random-source", .always⟩, ⟨"r", "repeat", .nothing⟩, ⟨"z", "zero-terminated", .nothing⟩]

/-- The range that a text tells. -/
def rangeOf (text : Raw) : Act (Nat × Nat) := do
  let bad := fun (why : String) =>
    (Act.die 1 ("invalid input range: ".toList ++ quoted text ++ why.toList) : Act (Nat × Nat))
  let front := Numeral.readFront 10 text
  let beyond := ": Value too large for defined data type"
  if !front.found || front.value < 0 || (text.dropWhile Raw.isSpace).head? == some '-' then bad ""
  else if !Amount.isTold {} front.value then bad beyond
  else
    match front.rest with
    | '-' :: rest =>
      match Amount.read {} rest with
      | .error .beyond => bad beyond
      | .error _ => bad ""
      | .ok last =>
        if last + 1 < front.value then bad ""
        else pure (front.value.toNat, (last - front.value + 1).toNat)
    | _ => bad ""

/-- What options tell. -/
structure Plan where
  /-- The range of numbers, if numbers are shuffled. -/
  range : Option (Nat × Nat) := none
  /-- How many are written at most. -/
  most : Option Nat := none
  /-- Where they are written, if not to the standard output. -/
  output : Option Raw := none
  /-- Where octets come from. -/
  source : Option Raw := none

/-- What an option changes. -/
def apply (plan : Plan) (given : Given) : Act Plan := do
  let text := given.argument.getD []
  match given.key with
  | "i" => do
    if plan.range.isSome then Act.die 1 "multiple -i options specified".toList
    let range ← rangeOf text
    pure { plan with range := some range }
  | "n" =>
    match Amount.read {} text with
    | .ok count => pure { plan with most := some (min (plan.most.getD count.toNat) count.toNat) }
    | .error .beyond => pure plan
    | .error _ => Act.die 1 ("invalid line count: ".toList ++ quoted text)
  | "o" => do
    if plan.output.any (· != text) then Act.die 1 "multiple output files specified".toList
    pure { plan with output := some text }
  | "random-source" => do
    if plan.source.any (· != text) then Act.die 1 "multiple random sources specified".toList
    pure { plan with source := some text }
  | _ => pure plan

/-- How large files are that are read as a whole. -/
def wholeSize : Nat := 8388608

/-- The lines of a file, and whether it may have very many. -/
def linesIn (mark : Char) (path : Option Raw) : Act (List Raw × Bool) := do
  let path := (path.filter (· != ['-']))
  let target := path.getD ['-']
  let known : Except OsError Status ← match path with
    | some path => Act.inspect path true
    | none => do
      let described : Except OsError Described ← Act.ask (.describe 0)
      pure (described.map Described.status)
  match ← Act.readFile target with
  | .error .isDirectory => Act.die 1 "read error: Is a directory".toList
  | .error reason =>
    Act.die 1 (if path.isNone then "read error: ".toList ++ reason.description
      else nameFor target ++ ": ".toList ++ reason.description)
  | .ok octets =>
    let isSmall := match known with
      | .ok status => status.kind == .file && status.size ≤ wholeSize
      | .error _ => false
    pure ((linesOf mark (Raw.ofOctets octets)).map Source.Line.text, !isSmall)

/-- Write what has been drawn. -/
def write (mark : Char) (output : Option Raw) (drawn : List Raw) : Act Unit := do
  let text := drawn.flatMap fun line => line ++ [mark]
  match output with
  | none => Act.say text
  | some path =>
    let opened : Except OsError Nat ← Act.ask (.openFile path .writing)
    match opened with
    | .error reason => Act.die 1 (nameFor path ++ ": ".toList ++ reason.description)
    | .ok descriptor => do
      let written : Except OsError Unit ← Act.ask (.write descriptor (Raw.octets text))
      if let .error reason := written then Act.die 1 ("write error: ".toList ++ reason.description)

end Shuffling

/-- Write lines, arguments or numbers in an order that is drawn by lot. -/
def shuf : Utility := ofAct fun arguments => do
  let invocation ← Act.readOptions 1 Shuffling.known false arguments
  let mut plan : Shuffling.Plan := {}
  for given in invocation.given do
    plan ← Shuffling.apply plan given
  let mark := if invocation.has "z" then '\x00' else '\n'
  let (echoes, repeats) := (invocation.has "e", invocation.has "r")
  if echoes && plan.range.isSome then Act.refuse 1 "cannot combine -e and -i options".toList
  match plan.range.isSome, echoes, invocation.operands with
  | true, _, extra :: _ => Act.refuseExtra 1 extra
  | false, false, _ :: extra :: _ => Act.refuseExtra 1 extra
  | _, _, _ => pure ()
  let (lot, isVast) ← if plan.most == some 0 then pure (Shuffling.Lot.lines [], false)
    else if echoes then pure (.lines invocation.operands, false)
    else match plan.range with
      | some (from_, count) => pure (.numbers from_ count, false)
      | none => do
        let (lines, isVast) ← Shuffling.linesIn mark invocation.operands.head?
        pure (.lines lines, isVast && !repeats && plan.most.isSome)
  let source := plan.source.getD []
  let urn : Shuffling.Urn ← match plan.source with
    | none => pure { octets := none }
    | some path =>
      match ← Act.readFile path with
      | .ok octets => pure { octets := some octets }
      | .error reason => Act.die 1 (nameFor path ++ ": ".toList ++ reason.description)
  let most := plan.most.getD lot.count
  if repeats then
    if plan.most == some 0 then Shuffling.write mark plan.output []
    else
      if lot.count = 0 then Act.die 1 "no lines to repeat".toList
      let table := lot.table
      let mut urn := urn
      let mut drawn : Array Raw := #[]
      if plan.most.isNone then
        Act.loop urn fun urn => do
          let (place, rest) ← Shuffling.choose source urn lot.count
          Act.say (lot.at_ table place ++ [mark])
          pure (.inl rest)
      else
        for _ in List.range most do
          let (place, rest) ← Shuffling.choose source urn lot.count
          urn := rest
          drawn := drawn.push (lot.at_ table place)
        Shuffling.write mark plan.output drawn.toList
  else
    let (lot, urn) ← match isVast, lot with
      | true, .lines lines => do
        let (kept, urn) ← Shuffling.sampled source urn most lines
        pure (Shuffling.Lot.lines kept, urn)
      | _, lot => pure (lot, urn)
    let numbers ← Shuffling.permuted source urn (min most lot.count) lot.count
    let table := lot.table
    Shuffling.write mark plan.output (numbers.map fun place => lot.at_ table place)

/-- The programs that are here. -/
def shufflingTools : List (String × Utility) :=
  [("shuf", shuf)]

end AnswerQuery.Host.Tool
