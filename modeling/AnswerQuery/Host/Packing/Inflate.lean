import AnswerQuery.Host.Packing.Codes

/-! Unpacking octets. -/

namespace AnswerQuery.Host.Packing.Inflate

/-- Why octets cannot be unpacked. -/
inductive Fault where
  /-- They end too early. -/
  | short
  /-- They make no sense. -/
  | broken
  deriving DecidableEq, Repr

/-- Codes as they are read: bit by bit. -/
structure Decoder where
  /-- How many codes there are of each length. -/
  counts : Array Nat
  /-- The signs in the order of their codes. -/
  signs : Array Nat
  /-- How many bits have to be there for any code. -/
  least : Nat

/-- How much room codes of given lengths leave, if they do not take more than there is. -/
def room? (counts : Array Nat) : Option Nat :=
  (List.range Codes.greatestLength).foldl (fun room length => do
    let room ← room
    if room * 2 < counts.getD (length + 1) 0 then none else some (room * 2 - counts.getD (length + 1) 0)) (some 1)

/-- Codes of given lengths, if they leave no room, or if there is only one of one bit, or none; so many bits are looked at
together. -/
def Decoder.ofLengths? (together : Nat) (lengths : Array Nat) : Option Decoder :=
  let counts := Codes.counts lengths
  let used := (List.range (Codes.greatestLength + 1)).filter fun length => counts.getD length 0 != 0
  let longest := used.getLast?.getD 1
  let least := min longest (max together (used.head?.getD 1))
  let signs := used.flatMap fun length => (List.range lengths.size).filter fun sign => lengths.getD sign 0 == length
  match room? counts with
  | none => none
  | some room => if used.isEmpty || room = 0 || longest = 1 then some ⟨counts, signs.toArray, least⟩ else none

/-- Codes of given lengths that may leave room. -/
def Decoder.ofSome (together : Nat) (lengths : Array Nat) : Decoder :=
  let counts := Codes.counts lengths
  let signs := (List.range (Codes.greatestLength + 1)).flatMap fun length =>
    if length = 0 then [] else (List.range lengths.size).filter fun sign => lengths.getD sign 0 == length
  ⟨counts, signs.toArray, together⟩

/-- Read the sign whose code comes next: so many bits have been read and stand for a number; the first code of this
length, and how many signs have shorter codes. -/
def Decoder.walk (decoder : Decoder) (octets : Array UInt8) : Nat → Nat → Nat → Nat → Nat → Nat → Except Fault (Nat × Nat)
  | 0, _, _, _, _, _ => .error .broken
  | steps + 1, length, place, code, first, before =>
    if octets.size * 8 ≤ place then .error .short
    else
      let code := code * 2 + BitSource.bitAt octets place
      let first := first * 2
      let count := decoder.counts.getD (length + 1) 0
      if code < first + count then .ok (decoder.signs.getD (before + (code - first)) 0, place + 1)
      else decoder.walk octets steps (length + 1) (place + 1) code (first + count) (before + count)

/-- Read the sign whose code comes next. -/
def Decoder.read (decoder : Decoder) (source : BitSource) : Except Fault (Nat × BitSource) :=
  if source.left < decoder.least then .error .short
  else match decoder.walk source.octets Codes.greatestLength 0 source.place 0 0 0 with
    | .ok (sign, place) => .ok (sign, { source with place })
    | .error fault => .error fault

/-- Take so many bits. -/
def take (width : Nat) (source : BitSource) : Except Fault (Nat × BitSource) :=
  match source.take? width with
  | some result => .ok result
  | none => .error .short

/-- Octets with so many more as they came so far before; where there were none, they are zero. -/
def repeated (distance : Nat) : Nat → Array UInt8 → Array UInt8
  | 0, octets => octets
  | count + 1, octets =>
    let octet := if octets.size < distance then 0 else octets.getD (octets.size - distance) 0
    repeated distance count (octets.push octet)

/-- What has been unpacked, and why it goes no farther or where it does. -/
structure Outcome where
  /-- What has been unpacked. -/
  octets : Array UInt8
  /-- Where it goes on. -/
  result : Except Fault BitSource

/-- The piece that comes next, or none at the end of a block. -/
def nextPiece (signs distances : Decoder) (source : BitSource) : Except Fault (Option Piece × BitSource) := do
  let (sign, source) ← signs.read source
  if sign < Piece.finalSign then pure (some (.plain (UInt8.ofNat sign)), source)
  else if sign = Piece.finalSign then pure (none, source)
  else if Piece.signs ≤ sign then throw .broken
  else
    let rank := sign - Piece.finalSign - 1
    let (rest, source) ← take (Piece.lengthWidth rank) source
    let length := Piece.firstLength rank + rest
    let (rank, source) ← distances.read source
    if Piece.distanceSigns ≤ rank then throw .broken
    let (rest, source) ← take (Piece.distanceWidth rank) source
    pure (some (.again length (Piece.firstDistance rank + rest)), source)

/-- Read the pieces of a block. -/
def readPieces (signs distances : Decoder) : Nat → BitSource → Array UInt8 → Outcome
  | 0, _, octets => ⟨octets, .error .broken⟩
  | steps + 1, source, octets =>
    match nextPiece signs distances source with
    | .error fault => ⟨octets, .error fault⟩
    | .ok (none, source) => ⟨octets, .ok source⟩
    | .ok (some (.plain octet), source) => readPieces signs distances steps source (octets.push octet)
    | .ok (some (.again length distance), source) =>
      readPieces signs distances steps source (repeated distance length octets)

/-- Read octets that are as they are. -/
def readOctets : Nat → BitSource → Array UInt8 → Outcome
  | 0, source, octets => ⟨octets, .ok source⟩
  | count + 1, source, octets =>
    match source.take? 8 with
    | none => ⟨octets, .error .short⟩
    | some (octet, source) => readOctets count source (octets.push (UInt8.ofNat octet))

/-- Read a number of lengths. -/
def readLengths (decoder : Decoder) (count : Nat) : Nat → BitSource → Array Nat → Except Fault (Array Nat × BitSource)
  | 0, _, _ => .error .broken
  | steps + 1, source, lengths => do
    if count ≤ lengths.size then pure (lengths, source)
    else
      let (sign, source) ← decoder.read source
      if sign < 16 then readLengths decoder count steps source (lengths.push sign)
      else
        let (rest, source) ← take (Codes.Run.width sign) source
        let times := Codes.Run.least sign + rest
        if count < lengths.size + times then throw .broken
        let length := if sign = 16 then lengths.getD (lengths.size - 1) 0 else 0
        readLengths decoder count steps source (lengths ++ Array.replicate times length)

/-- How many bits are looked at together for octets, the end and lengths. -/
def signsTogether : Nat := 9

/-- How many bits are looked at together for distances. -/
def distancesTogether : Nat := 6

/-- The codes that it is told how to read. -/
def readCodes (source : BitSource) : Except Fault ((Decoder × Decoder) × BitSource) := do
  let (signs, source) ← take 5 source
  let (distances, source) ← take 5 source
  let (told, source) ← take 4 source
  let signs := signs + 257
  let distances := distances + 1
  if Piece.signs < signs || Piece.distanceSigns < distances then throw .broken
  let (lengths, source) ← (Codes.Run.order.take (told + 4)).foldlM (fun (lengths, source) sign => do
    let (length, source) ← take 3 source
    pure (lengths.setIfInBounds sign length, source)) (Array.replicate Codes.Run.signs 0, source)
  let some decoder := Decoder.ofLengths? 7 lengths | throw .broken
  if decoder.signs.isEmpty then throw .broken
  let (lengths, source) ← readLengths decoder (signs + distances) (signs + distances + 1) source #[]
  let some first := Decoder.ofLengths? signsTogether (lengths.extract 0 signs) | throw .broken
  let some second := Decoder.ofLengths? distancesTogether (lengths.extract signs lengths.size) | throw .broken
  pure ((first, second), source)

/-- Read a block, of which kind is known. -/
def readBlock (kind : Nat) (source : BitSource) (octets : Array UInt8) : Outcome :=
  let pieces := fun (codes : Except Fault ((Decoder × Decoder) × BitSource)) => match codes with
    | .error fault => ⟨octets, .error fault⟩
    | .ok ((signs, distances), source) => readPieces signs distances (source.left + 1) source octets
  match kind with
  | 0 =>
    let sizes : Except Fault (Nat × BitSource) := do
      let (size, source) ← take 16 source.align
      let (opposite, source) ← take 16 source
      if size + opposite = 65535 then pure (size, source) else throw .broken
    match sizes with
    | .error fault => ⟨octets, .error fault⟩
    | .ok (size, source) => readOctets size source octets
  | 1 => pieces (.ok ((Decoder.ofSome 7 Codes.usualLengths, Decoder.ofSome 5 Codes.usualDistances), source))
  | 2 => pieces (readCodes source)
  | _ => ⟨octets, .error .broken⟩

/-- Read blocks until one says that it is the last. -/
def readBlocks : Nat → BitSource → Array UInt8 → Outcome
  | 0, _, octets => ⟨octets, .error .broken⟩
  | steps + 1, source, octets =>
    let front : Except Fault (Nat × Nat × BitSource) := do
      let (isLast, source) ← take 1 source
      let (kind, source) ← take 2 source
      pure (isLast, kind, source)
    match front with
    | .error fault => ⟨octets, .error fault⟩
    | .ok (isLast, kind, source) =>
      match readBlock kind source octets with
      | ⟨octets, .error fault⟩ => ⟨octets, .error fault⟩
      | ⟨octets, .ok source⟩ => if isLast = 1 then ⟨octets, .ok source⟩ else readBlocks steps source octets

/-- Unpack octets from a place on; where they end. -/
def unpack (octets : Array UInt8) (place : Nat) : Array UInt8 × Except Fault Nat :=
  match readBlocks (octets.size * 8 + 1) { octets, place := place * 8 } #[] with
  | ⟨unpacked, .error fault⟩ => (unpacked, .error fault)
  | ⟨unpacked, .ok source⟩ => (unpacked, .ok ((source.place + 7) / 8))

end AnswerQuery.Host.Packing.Inflate
