import AnswerQuery.Text.Utf8

/-! Sums of octets, which tell by a number whether something has changed. -/

namespace AnswerQuery.Host.Digest

namespace Crc

/-- Divide so many times by the polynomial whose highest bit comes first. -/
def divide : Nat → UInt32 → UInt32
  | 0, rest => rest
  | steps + 1, rest => divide steps (if rest &&& 0x80000000 != 0 then (rest <<< 1) ^^^ 0x04c11db7 else rest <<< 1)

/-- Divide so many times by the polynomial whose lowest bit comes first. -/
def divideReflected : Nat → UInt32 → UInt32
  | 0, rest => rest
  | steps + 1, rest => divideReflected steps (if rest &&& 1 != 0 then (rest >>> 1) ^^^ 0xedb88320 else rest >>> 1)

/-- What the highest octet leaves. -/
def table : Array UInt32 := (Array.range 256).map fun octet => divide 8 (UInt32.ofNat octet <<< 24)

/-- What the lowest octet leaves. -/
def reflectedTable : Array UInt32 := (Array.range 256).map fun octet => divideReflected 8 (UInt32.ofNat octet)

/-- The rest that one more octet leaves, from the highest bit on. -/
def step (rest : UInt32) (octet : UInt8) : UInt32 :=
  (rest <<< 8) ^^^ table.getD ((rest >>> 24).toUInt8 ^^^ octet).toNat 0

/-- The rest that one more octet leaves, from the lowest bit on. -/
def reflectedStep (rest : UInt32) (octet : UInt8) : UInt32 :=
  (rest >>> 8) ^^^ reflectedTable.getD (rest.toUInt8 ^^^ octet).toNat 0

/-- The octets of a length, the lowest first, without zeros behind. -/
def lengthOctets (length : Nat) : Bytes :=
  if h : length = 0 then []
  else UInt8.ofNat length :: lengthOctets (length / 256)
termination_by length
decreasing_by omega

/-- The sum of octets and their length, from the highest bit on. -/
def sum (octets : Bytes) : Nat :=
  (~~~((octets ++ lengthOctets octets.length).foldl step 0)).toNat

/-- The sum of octets, from the lowest bit on. -/
def reflectedSum (octets : Bytes) : Nat :=
  (~~~(octets.foldl reflectedStep 0xffffffff)).toNat

end Crc

/-- The sum in sixteen bits that is turned by one place before each octet. -/
def turnedSum (octets : Bytes) : Nat :=
  octets.foldl (fun sum octet => (sum / 2 + sum % 2 * 32768 + octet.toNat) % 65536) 0

/-- The sum in sixteen bits that takes in what is beyond them. -/
def foldedSum (octets : Bytes) : Nat :=
  let sum := octets.foldl (fun sum octet => sum + octet.toNat) 0 % Nat.pow 2 32
  let folded := sum % 65536 + sum / 65536
  folded % 65536 + folded / 65536

end AnswerQuery.Host.Digest
