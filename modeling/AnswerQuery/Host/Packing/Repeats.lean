import AnswerQuery.Host.Packing.Piece

/-! Finding repeats: at every place the nearest earlier places are tried at which the same three octets stand. -/

namespace AnswerQuery.Host.Packing.Repeats

/-- How much is done to find good repeats. -/
structure Effort where
  /-- From this length on of the repeat before, fewer places are tried. -/
  good : Nat
  /-- From this length on, a repeat is taken without trying the next place; or the places in it are passed over if every
  repeat is taken at once. -/
  lazy : Nat
  /-- From this length on, no more places are tried. -/
  nice : Nat
  /-- How many places are tried. -/
  tries : Nat
  /-- Whether a repeat is only taken if there is no longer one at the next place. -/
  waits : Bool
  /-- Whether a block ends early that turns out well. -/
  looks : Bool

/-- The effort of a level from one to nine. -/
def Effort.ofLevel : Nat → Effort
  | 0 | 1 => ⟨4, 4, 8, 4, false, false⟩
  | 2 => ⟨4, 5, 16, 8, false, false⟩
  | 3 => ⟨4, 6, 32, 32, false, true⟩
  | 4 => ⟨4, 4, 16, 16, true, true⟩
  | 5 => ⟨8, 16, 32, 32, true, true⟩
  | 6 => ⟨8, 16, 128, 128, true, true⟩
  | 7 => ⟨8, 32, 128, 256, true, true⟩
  | 8 => ⟨32, 128, 258, 1024, true, true⟩
  | _ => ⟨32, 258, 258, 4096, true, true⟩

/-- How many octets can be looked back at, and how many marks there are. -/
def reach : Nat := 32768

/-- How many octets are known ahead as long as there are more. -/
def ahead : Nat := Piece.greatestLength + Piece.leastLength + 1

/-- How far back a repeat can be. -/
def farthest : Nat := reach - ahead

/-- The shortest repeats are not worth it that are farther back than this. -/
def tooFar : Nat := 4096

/-- How many pieces a block has at most. -/
def greatestBlock : Nat := 32767

/-- The places that have been seen. -/
structure Index where
  /-- The last place with each mark. -/
  latest : Array Nat
  /-- The place with the same mark before each place. -/
  earlier : Array Nat

/-- Nothing has been seen. -/
def Index.empty : Index := ⟨Array.replicate reach 0, Array.replicate reach 0⟩

/-- The mark of the three octets at a place. -/
def mark (octets : Array UInt8) (place : Nat) : Nat :=
  let first := (octets.getD place 0).toNat
  let second := (octets.getD (place + 1) 0).toNat
  let third := (octets.getD (place + 2) 0).toNat
  ((first <<< 10) ^^^ (second <<< 5) ^^^ third) % reach

/-- Remember a place; the last one before it with the same mark. -/
def Index.insert (octets : Array UInt8) (place : Nat) : Index → Nat × Index
  | ⟨latest, earlier⟩ =>
    let mark := mark octets place
    let before := latest.getD mark 0
    (before, ⟨latest.setIfInBounds mark place, earlier.setIfInBounds (place % reach) before⟩)

/-- Remember so many places. -/
def Index.insertAll (octets : Array UInt8) : Nat → Nat → Index → Index
  | 0, _, index => index
  | count + 1, place, index => insertAll octets count (place + 1) (index.insert octets place).2

/-- How many octets are the same at two places, at most so many more than are known. -/
def extent (octets : Array UInt8) (first second : Nat) : Nat → Nat → Nat
  | 0, known => known
  | steps + 1, known =>
    if octets.getD (first + known) 0 == octets.getD (second + known) 0 then extent octets first second steps (known + 1)
    else known

/-- The best repeat: its length and where it stood before. -/
structure Found where
  /-- How many octets there are. -/
  length : Nat
  /-- Where they stood before. -/
  place : Nat

/-- The longest of a repeat and those at the places that are tried, the nearest one first. -/
def longest (octets : Array UInt8) (earlier : Array Nat) (nice start limit : Nat) : Nat → Nat → Found → Found
  | 0, _, best => best
  | tries + 1, candidate, best =>
    let length :=
      if octets.getD (candidate + best.length) 0 == octets.getD (start + best.length) 0 then
        extent octets candidate start Piece.greatestLength 0
      else 0
    if best.length < length && nice ≤ length then ⟨length, candidate⟩
    else
      let best := if best.length < length then ⟨length, candidate⟩ else best
      let next := earlier.getD (candidate % reach) 0
      if limit < next then longest octets earlier nice start limit tries next best else best

/-- A block of pieces. -/
structure Block where
  /-- The pieces. -/
  pieces : Array Piece
  /-- Where the octets begin that they stand for. -/
  first : Nat
  /-- Where they end. -/
  next : Nat
  /-- Whether the octets are still at hand. -/
  atHand : Bool

/-- The part of the octets that is at hand. -/
structure Sheet where
  /-- Where it begins. -/
  base : Nat := 0
  /-- Where it ends. -/
  limit : Nat := 0
  /-- Whether there is nothing behind it. -/
  isLast : Bool := false

/-- Have enough octets ahead of a place as long as there are more. -/
def Sheet.refill (size start : Nat) : Nat → Sheet → Sheet
  | 0, sheet => sheet
  | steps + 1, sheet =>
    if sheet.isLast || start + ahead ≤ sheet.limit then sheet
    else
      let base := if reach + farthest ≤ start - sheet.base then sheet.base + reach else sheet.base
      let limit := min size (base + 2 * reach)
      refill size start steps { base, limit, isLast := limit ≤ sheet.limit }

/-- The part that is at hand at the beginning. -/
def Sheet.ofSize (size : Nat) : Sheet :=
  refill size 0 3 { limit := min size (2 * reach), isLast := size == 0 }

/-- What has become of the octets so far. -/
structure Progress where
  /-- The pieces of the block that has been begun. -/
  pieces : Array Piece := #[]
  /-- How many of them are repeats. -/
  repeats : Nat := 0
  /-- Where the block begins. -/
  first : Nat := 0
  /-- The blocks before it. -/
  blocks : Array Block := #[]
  /-- The part of the octets that is at hand. -/
  sheet : Sheet

namespace Progress

/-- Add a piece. -/
def add (piece : Piece) : Progress → Progress
  | ⟨pieces, repeats, first, blocks, sheet⟩ =>
    let repeats := match piece with
      | .plain _ => repeats
      | .again .. => repeats + 1
    ⟨pieces.push piece, repeats, first, blocks, sheet⟩

/-- About how many octets the pieces take. -/
def estimate (progress : Progress) : Nat :=
  let more := progress.pieces.foldl (fun sum piece => match piece with
    | .plain _ => sum
    | .again _ distance => sum + 5 + (Piece.gradedDistance distance).width) 0
  (progress.pieces.size * 8 + more) / 8

/-- Whether the block is to end at a place. -/
def isFull (effort : Effort) (place : Nat) (progress : Progress) : Bool :=
  let count := progress.pieces.size
  if effort.looks && count % 4096 == 0 && progress.repeats < count / 2 &&
      progress.estimate < (place - progress.first) / 2 then true
  else count == greatestBlock

/-- End the block at a place. -/
def cut (place : Nat) : Progress → Progress
  | ⟨pieces, _, first, blocks, sheet⟩ => ⟨#[], 0, place, blocks.push ⟨pieces, first, place, sheet.base ≤ first⟩, sheet⟩

/-- Have enough octets ahead of a place. -/
def refill (size place : Nat) (progress : Progress) : Progress :=
  { progress with sheet := progress.sheet.refill size place 3 }

end Progress

/-- Look for a repeat at a place, longer than a given one, from the last place with the same mark on. -/
def look (octets : Array UInt8) (effort : Effort) (earlier : Array Nat) (sheet : Sheet) (start before : Nat)
    (known : Found) : Option Found :=
  if before = 0 || start - before > farthest || start - sheet.base > 2 * reach - ahead then none
  else
    let tries := if effort.good ≤ known.length then effort.tries / 4 else effort.tries
    let found := longest octets earlier effort.nice start (start - farthest) tries before known
    some { found with length := min found.length (octets.size - start) }

/-- Take every repeat at once. -/
def eager (octets : Array UInt8) (effort : Effort) : Nat → Nat → Index → Progress → Progress
  | 0, _, _, progress => progress
  | steps + 1, start, index, progress =>
    if octets.size ≤ start then progress.cut start
    else
      let (before, index) := index.insert octets start
      let found := (look octets effort index.earlier progress.sheet start before ⟨2, 0⟩).getD ⟨0, 0⟩
      let isRepeat := Piece.leastLength ≤ found.length
      let piece := if isRepeat then Piece.again found.length (start - found.place) else .plain (octets.getD start 0)
      let progress := progress.add piece
      let isFull := progress.isFull effort start
      let index := if isRepeat && found.length ≤ effort.lazy then index.insertAll octets (found.length - 1) (start + 1)
        else index
      let start := start + piece.size
      let progress := if isFull then progress.cut start else progress
      eager octets effort steps start index (progress.refill octets.size start)

/-- Take a repeat only if there is no longer one at the next place; the repeat at the place before, and whether the octet
there still waits. -/
def patient (octets : Array UInt8) (effort : Effort) : Nat → Nat → Found → Bool → Index → Progress → Progress
  | 0, _, _, _, _, progress => progress
  | steps + 1, start, known, waiting, index, progress =>
    if octets.size ≤ start then
      let progress := if waiting then progress.add (.plain (octets.getD (start - 1) 0)) else progress
      progress.cut start
    else
      let (before, index) := index.insert octets start
      let found := if known.length < effort.lazy then look octets effort index.earlier progress.sheet start before known
        else none
      let found := found.getD ⟨2, known.place⟩
      let found := if found.length = Piece.leastLength && tooFar < start - found.place then { found with length := 2 }
        else found
      if Piece.leastLength ≤ known.length && found.length ≤ known.length then
        let progress := progress.add (.again known.length (start - 1 - known.place))
        let isFull := progress.isFull effort start
        let index := index.insertAll octets (known.length - 2) (start + 1)
        let start := start - 1 + known.length
        let progress := if isFull then progress.cut start else progress
        patient octets effort steps start ⟨2, found.place⟩ false index (progress.refill octets.size start)
      else if waiting then
        let progress := progress.add (.plain (octets.getD (start - 1) 0))
        let progress := if progress.isFull effort start then progress.cut start else progress
        patient octets effort steps (start + 1) found true index (progress.refill octets.size (start + 1))
      else patient octets effort steps (start + 1) found true index (progress.refill octets.size (start + 1))

/-- Octets as blocks of pieces, one of which ends them. -/
def blocks (effort : Effort) (octets : Array UInt8) : Array Block :=
  let progress : Progress := { sheet := Sheet.ofSize octets.size }
  (if effort.waits then patient octets effort (octets.size + 1) 0 ⟨2, 0⟩ false Index.empty progress
    else eager octets effort (octets.size + 1) 0 Index.empty progress).blocks

end AnswerQuery.Host.Packing.Repeats
