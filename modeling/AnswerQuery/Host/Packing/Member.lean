import AnswerQuery.Host.Digest.Sum
import AnswerQuery.Host.Octets
import AnswerQuery.Host.Packing.Deflate
import AnswerQuery.Host.Packing.Inflate

/-! Members of packed files: packed octets between a front, which may tell the name and the time of a file, and their sum
and their number. -/

namespace AnswerQuery.Host.Packing

/-- What stands in front of packed octets. -/
structure Front where
  /-- What the file was called. -/
  name : Option Raw := none
  /-- When it was changed, in seconds, or zero. -/
  changed : Nat := 0
  deriving Repr

/-- What is wrong with the front of a member. -/
inductive FrontFault where
  /-- It ends too early. -/
  | short
  /-- There is none. -/
  | missing
  /-- The octets are packed in a way that is not known. -/
  | method (number : Nat)
  /-- They are in cipher. -/
  | ciphered
  /-- Something is said about them that is not known. -/
  | flags (number : Nat)
  deriving DecidableEq, Repr

namespace Member

/-- A number as octets, the lowest first. -/
def numberOctets : Nat → Nat → List UInt8
  | 0, _ => []
  | width + 1, number => UInt8.ofNat number :: numberOctets width (number / 256)

/-- The number that octets stand for from a place on, the lowest first. -/
def numberAt (octets : Array UInt8) (place : Nat) : Nat → Nat
  | 0 => 0
  | width + 1 => (octets.getD place 0).toNat + 256 * numberAt octets (place + 1) width

/-- The octets that all members begin with. -/
def marks : List UInt8 := [0x1f, 0x8b]

/-- The other octets that members began with. -/
def oldMarks : List UInt8 := [0x1f, 0x9e]

/-- The number of the way in which octets are packed. -/
def usualMethod : UInt8 := 8

/-- The front of a member that is packed at a level. -/
def frontOctets (level : Nat) (front : Front) : List UInt8 :=
  let flags : UInt8 := if front.name.isSome then 8 else 0
  let strength : UInt8 := if level = 1 then 4 else if level = 9 then 2 else 0
  let name := match front.name with
    | some name => Raw.octets name ++ [0]
    | none => []
  marks ++ [usualMethod, flags] ++ numberOctets 4 front.changed ++ [strength, 3] ++ name

/-- A member of octets that are packed at a level. -/
def pack (level : Nat) (front : Front) (octets : Bytes) : Bytes :=
  let body := Deflate.pack (Repeats.Effort.ofLevel level) octets.toArray
  frontOctets level front ++ body.toList ++ numberOctets 4 (Digest.Crc.reflectedSum octets) ++ numberOctets 4 octets.length

/-- The place behind the zero that comes next. -/
def afterZero? (octets : Array UInt8) : Nat → Nat → Option Nat
  | 0, _ => none
  | steps + 1, place =>
    if octets.size ≤ place then none
    else if octets.getD place 0 == 0 then some (place + 1)
    else afterZero? octets steps (place + 1)

/-- Read the front of a member at a place, and where it ends. -/
def readFront (octets : Array UInt8) (place : Nat) : Except FrontFault (Front × Nat) := do
  let first := octets[place]?
  let second := octets[place + 1]?
  let two := first.toList ++ second.toList
  if two != marks && two != oldMarks then
    if first.isNone || (second.isNone && first != some 0) then throw .short else throw .missing
  let some method := octets[place + 2]? | throw .short
  if method != usualMethod then throw (.method method.toNat)
  let some flags := octets[place + 3]? | throw .short
  let flags := flags.toNat
  let has := fun (bit : Nat) => flags / bit % 2 == 1
  if has 32 then throw .ciphered
  if 64 ≤ flags then throw (.flags flags)
  if octets.size < place + 10 then throw .short
  let changed := numberAt octets (place + 4) 4
  let next := place + 10
  let next := if has 4 then next + 2 + numberAt octets next 2 else next
  let (name, next) ← if has 8 then
      match afterZero? octets (octets.size + 1) next with
      | some after => pure (some (Raw.ofOctets (octets.extract next (after - 1)).toList), after)
      | none => throw .short
    else pure (none, next)
  let next ← if has 16 then
      match afterZero? octets (octets.size + 1) next with
      | some after => pure after
      | none => throw .short
    else pure next
  let next := if has 2 then next + 2 else next
  if octets.size < next then throw .short
  pure ({ name, changed }, next)

/-- What is wrong with a member. -/
inductive Fault where
  /-- Its octets cannot be unpacked. -/
  | packed (fault : Inflate.Fault)
  /-- Its sum or its number of octets is not right. -/
  | checked (sum length : Bool)
  deriving DecidableEq, Repr

/-- What came out of a member. -/
structure Outcome where
  /-- The octets. -/
  octets : Bytes
  /-- Their sum, as the member tells it. -/
  sum : Nat := 0
  /-- The place behind the member, or what is wrong. -/
  result : Except Fault Nat

/-- How many octets are kept before they are passed on. -/
def pageSize : Nat := 32768

/-- Unpack the member whose front ends at a place. -/
def unpack (octets : Array UInt8) (place : Nat) : Outcome :=
  match Inflate.unpack octets place with
  | (unpacked, .error .broken) =>
    ⟨(unpacked.extract 0 (unpacked.size / pageSize * pageSize)).toList, 0, .error (.packed .broken)⟩
  | (unpacked, .error .short) => ⟨unpacked.toList, 0, .error (.packed .short)⟩
  | (unpacked, .ok next) =>
    let unpacked := unpacked.toList
    if octets.size < next + 8 then ⟨unpacked, 0, .error (.packed .short)⟩
    else
      let sum := numberAt octets next 4
      let isSum := sum == Digest.Crc.reflectedSum unpacked
      let isLength := numberAt octets (next + 4) 4 == unpacked.length % Nat.pow 2 32
      ⟨unpacked, sum, if isSum && isLength then .ok (next + 8) else .error (.checked isSum isLength)⟩

end Member

end AnswerQuery.Host.Packing
