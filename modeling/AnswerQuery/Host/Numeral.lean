import AnswerQuery.Host.Octets

/-! Numerals: integers as they are written, in several bases and in so many bits. -/

namespace AnswerQuery.Host.Numeral

/-- The value of a digit, which may be a letter. -/
def digitValue (c : Char) : Nat :=
  if c.isDigit then c.toNat - '0'.toNat
  else if c.isLower then c.toNat - 'a'.toNat + 10
  else if c.isUpper then c.toNat - 'A'.toNat + 10
  else 99

/-- Whether a character is a digit in a base. -/
def isDigitIn (base : Nat) (c : Char) : Bool :=
  digitValue c < base

/-- The value of digits in a base. -/
def valueOf (base : Nat) (digits : Raw) : Nat :=
  digits.foldl (fun n d => n * base + digitValue d) 0

/-- A numeral as a number. -/
def natural? (text : Raw) : Option Nat :=
  if text.isEmpty || !text.all Char.isDigit then none else some (valueOf 10 text)

/-- A numeral with or without a sign as a number. -/
def integer? : Raw → Option Int
  | '-' :: digits => (natural? digits).map (fun n => -(n : Int))
  | '+' :: digits => (natural? digits).map Int.ofNat
  | digits => (natural? digits).map Int.ofNat

/-- A number as a numeral. -/
def ofInt (n : Int) : Raw :=
  if n < 0 then '-' :: decimal n.natAbs else decimal n.natAbs

/-- The digits of a number in a base. -/
def inBase (base n : Nat) : Raw :=
  Nat.toDigits base n

/-- A number with zeros in front, so that it has at least so many digits. -/
def filled (width n : Nat) : Raw :=
  let digits := decimal n
  List.replicate (width - digits.length) '0' ++ digits

/-- How many numbers sixty-four bits can stand for. -/
def wordCount : Nat := 18446744073709551616

/-- The greatest number of sixty-four bits with a sign. -/
def greatest : Int := 9223372036854775807

/-- The least number of sixty-four bits with a sign. -/
def least : Int := -9223372036854775808

/-- What was read at the front of a text. -/
structure Front where
  /-- The number. -/
  value : Int
  /-- Whether there were digits. -/
  found : Bool
  /-- What follows. -/
  rest : Raw

/-- The base of a numeral that may tell it by how it begins, and what follows that. -/
def baseOf (base : Nat) (text : Raw) : Nat × Raw :=
  let hexadecimal := match text with
    | '0' :: x :: d :: _ => (x == 'x' || x == 'X') && isDigitIn 16 d
    | _ => false
  if hexadecimal && (base = 0 || base = 16) then (16, text.drop 2)
  else if base = 0 then (if text.head? == some '0' then 8 else 10, text)
  else (base, text)

/-- The number at the front of a text, after blanks and a sign; the base zero stands for one that the numeral tells. -/
def readFront (base : Nat) (text : Raw) : Front :=
  let text' := text.dropWhile Raw.isSpace
  let (negative, unsigned) := match text' with
    | '-' :: rest => (true, rest)
    | '+' :: rest => (false, rest)
    | rest => (false, rest)
  let (base, digits) := baseOf base unsigned
  let taken := digits.takeWhile (isDigitIn base)
  if taken.isEmpty then ⟨0, false, text⟩
  else
    let value : Int := valueOf base taken
    ⟨if negative then -value else value, true, digits.drop taken.length⟩

/-- The nearest number of sixty-four bits with a sign. -/
def clamp (n : Int) : Int :=
  max least (min greatest n)

/-- Whether a number has sixty-four bits with a sign. -/
def fits (n : Int) : Bool :=
  least ≤ n && n ≤ greatest

/-- A number of sixty-four bits with a sign. -/
def wrap (n : Int) : Int :=
  Int.bmod n wordCount

/-- The bits of a number as a number without a sign. -/
def bits (n : Int) : Nat :=
  (Int.emod n (Int.ofNat wordCount)).toNat

end AnswerQuery.Host.Numeral
