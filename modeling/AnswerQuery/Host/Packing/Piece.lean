import AnswerQuery.Text.Utf8

/-! What packed octets consist of: octets that stand for themselves, and repeats of octets that came before. Lengths and
distances are told by a class, the finer the smaller they are, and by their place in it. All of it is written in bits,
the lowest bit of each octet first. -/

namespace AnswerQuery.Host.Packing

/-- Octets to which bits are added. -/
structure Bits where
  /-- The octets that are full. -/
  octets : Array UInt8 := #[]
  /-- The bits that do not fill an octet. -/
  held : Nat := 0
  /-- How many they are. -/
  count : Nat := 0

namespace Bits

/-- Move the bits that fill octets there, at most so many octets. -/
def settle : Nat → Array UInt8 → Nat → Nat → Bits
  | 0, octets, held, count => ⟨octets, held, count⟩
  | steps + 1, octets, held, count =>
    if count < 8 then ⟨octets, held, count⟩
    else settle steps (octets.push (UInt8.ofNat held)) (held / 256) (count - 8)

/-- Add the lowest bits of a number. -/
def put (value width : Nat) : Bits → Bits
  | ⟨octets, held, count⟩ =>
    settle ((count + width) / 8) octets (held + value * Nat.pow 2 count) (count + width)

/-- Fill up the last octet with zeros. -/
def align (bits : Bits) : Bits :=
  if bits.count = 0 then bits else bits.put 0 (8 - bits.count)

/-- Add whole octets. -/
def putOctets (bits : Bits) (octets : Array UInt8) : Bits :=
  octets.foldl (fun bits octet => bits.put octet.toNat 8) bits

end Bits

/-- Octets from which bits are taken. -/
structure BitSource where
  /-- The octets. -/
  octets : Array UInt8
  /-- How many bits have been taken. -/
  place : Nat := 0

namespace BitSource

/-- How many bits are left. -/
def left (source : BitSource) : Nat :=
  source.octets.size * 8 - source.place

/-- The bit at a place. -/
def bitAt (octets : Array UInt8) (place : Nat) : Nat :=
  (octets.getD (place / 8) 0).toNat / Nat.pow 2 (place % 8) % 2

/-- The number that so many bits stand for from a place on, the lowest one first. -/
def valueAt (octets : Array UInt8) (place : Nat) : Nat → Nat
  | 0 => 0
  | width + 1 => bitAt octets place + 2 * valueAt octets (place + 1) width

/-- Take so many bits. -/
def take? (width : Nat) (source : BitSource) : Option (Nat × BitSource) :=
  if source.left < width then none
  else some (valueAt source.octets source.place width, { source with place := source.place + width })

/-- Pass over what is left of an octet that has been begun. -/
def align (source : BitSource) : BitSource :=
  { source with place := (source.place + 7) / 8 * 8 }

end BitSource

/-- A piece of octets. -/
inductive Piece where
  /-- An octet that stands for itself. -/
  | plain (octet : UInt8)
  /-- So many octets as they came so far before. -/
  | again (length distance : Nat)
  deriving DecidableEq, Repr

/-- A number told by its class and its place in the class. -/
structure Graded where
  /-- The class. -/
  rank : Nat
  /-- How many bits tell the place in the class. -/
  width : Nat
  /-- The place in the class. -/
  rest : Nat
  deriving DecidableEq, Repr

namespace Graded

/-- The class of a number, which tells its highest bit and so many bits below that. -/
def ofNat (fraction number : Nat) : Graded :=
  let width := Nat.log2 number - fraction
  { rank := width * Nat.pow 2 fraction + number / Nat.pow 2 width, width, rest := number % Nat.pow 2 width }

/-- How many bits tell the place in a class. -/
def widthOf (fraction rank : Nat) : Nat :=
  rank / Nat.pow 2 fraction - 1

/-- The first number of a class. -/
def first (fraction rank : Nat) : Nat :=
  (rank - widthOf fraction rank * Nat.pow 2 fraction) * Nat.pow 2 (widthOf fraction rank)

end Graded

namespace Piece

/-- The shortest repeat. -/
def leastLength : Nat := 3

/-- The longest repeat, which has a class of its own. -/
def greatestLength : Nat := 258

/-- The class of the longest repeats. -/
def greatestRank : Nat := 28

/-- The class of a length. -/
def gradedLength (length : Nat) : Graded :=
  if length = greatestLength then ⟨greatestRank, 0, 0⟩ else Graded.ofNat 2 (length - leastLength)

/-- How many bits tell a length of a class. -/
def lengthWidth (rank : Nat) : Nat :=
  if rank = greatestRank then 0 else Graded.widthOf 2 rank

/-- The first length of a class. -/
def firstLength (rank : Nat) : Nat :=
  if rank = greatestRank then greatestLength else leastLength + Graded.first 2 rank

/-- The class of a distance. -/
def gradedDistance (distance : Nat) : Graded :=
  Graded.ofNat 1 (distance - 1)

/-- How many bits tell a distance of a class. -/
def distanceWidth (rank : Nat) : Nat :=
  Graded.widthOf 1 rank

/-- The first distance of a class. -/
def firstDistance (rank : Nat) : Nat :=
  1 + Graded.first 1 rank

/-- The number of the sign that ends a block. -/
def finalSign : Nat := 256

/-- How many signs there are for octets, the end and lengths. -/
def signs : Nat := 286

/-- How many signs there are for distances. -/
def distanceSigns : Nat := 30

/-- How many octets a piece stands for. -/
def size : Piece → Nat
  | plain _ => 1
  | again length _ => length

end Piece

end AnswerQuery.Host.Packing
