import AnswerQuery.Host.Numeral

/-! Floating numbers: how they are read from numerals, rounded, and written as numerals. -/

namespace AnswerQuery.Host

/-- A floating number. -/
inductive Floating where
  /-- A whole number times a power of two. -/
  | finite (negative : Bool) (whole : Nat) (power : Int)
  | infinite (negative : Bool)
  /-- It is no number. -/
  | undefined (negative : Bool)
  deriving DecidableEq, Repr

/-- How precise floating numbers are. -/
structure Precision where
  /-- How many bits the whole number has at most. -/
  bits : Nat
  /-- The least power of two. -/
  least : Int
  /-- The greatest power of two. -/
  greatest : Int

namespace Precision

/-- Of numbers in four octets. -/
def single : Precision := ⟨24, -149, 104⟩

/-- Of numbers in eight octets. -/
def double : Precision := ⟨53, -1074, 971⟩

/-- Of numbers in ten octets. -/
def extended : Precision := ⟨64, -16445, 16320⟩

end Precision

namespace Floating

/-- A power of a base. -/
def powerOf (base exponent : Nat) : Nat :=
  Nat.pow base exponent

/-- A quotient that is rounded to the nearest whole number, and to an even one halfway between two. -/
def divideEven (numerator denominator : Nat) : Nat :=
  let quotient := numerator / denominator
  let twice := 2 * (numerator % denominator)
  if denominator < twice || (twice == denominator && quotient % 2 == 1) then quotient + 1 else quotient

/-- The nearest floating number to a quotient, and whether it is out of range. -/
def nearest (precision : Precision) (negative : Bool) (numerator denominator : Nat) : Floating × Bool :=
  if numerator = 0 then (finite negative 0 0, false)
  else
    -- The quotient has as many bits as this, or one less.
    let size : Int := Int.ofNat (Nat.log2 numerator) - Int.ofNat (Nat.log2 denominator) + 1
    let scaled := fun (power : Int) =>
      if 0 ≤ power then divideEven numerator (denominator * powerOf 2 power.toNat)
      else divideEven (numerator * powerOf 2 (-power).toNat) denominator
    let exact := fun (power : Int) => if 0 ≤ power then (numerator, denominator * powerOf 2 power.toNat)
      else (numerator * powerOf 2 (-power).toNat, denominator)
    let first := size - Int.ofNat precision.bits
    -- A power too great by one would lose a bit.
    let (top, bottom) := exact (first - 1)
    let power := if top / bottom < powerOf 2 precision.bits then first - 1 else first
    let tiny := power < precision.least
    let power := max power precision.least
    let whole := scaled power
    let (whole, power) := if whole == powerOf 2 precision.bits then (whole / 2, power + 1) else (whole, power)
    if precision.greatest < power then (infinite negative, true)
    else
      let (top, bottom) := exact power
      (finite negative whole power, tiny && (top % bottom != 0 || whole == 0))

/-- Whether a number is below zero, or a zero with a sign. -/
def isNegative : Floating → Bool
  | finite negative .. => negative
  | infinite negative => negative
  | undefined negative => negative

/-- A whole number. -/
def ofInt (n : Int) : Floating :=
  finite (n < 0) n.natAbs 0

/-- What was read at the front of a text. -/
structure Front where
  /-- The number. -/
  value : Floating
  /-- Whether there was one. -/
  found : Bool
  /-- Whether it is out of range. -/
  outOfRange : Bool
  /-- What follows. -/
  rest : Raw

/-- The power that a letter and digits at the front of a text tell, and what follows. -/
def readPower (letter : Char) (text : Raw) : Int × Raw :=
  match text with
  | c :: rest =>
    if c.toLower != letter then (0, text)
    else
      let (negative, digits) := match rest with
        | '-' :: digits => (true, digits)
        | '+' :: digits => (false, digits)
        | digits => (false, digits)
      let taken := digits.takeWhile Char.isDigit
      if taken.isEmpty then (0, text)
      else
        -- Beyond so many digits every power is out of range.
        let size := Int.ofNat (Numeral.valueOf 10 ((taken.dropWhile (· == '0')).take 7))
        (if negative then -size else size, digits.drop taken.length)
  | [] => (0, text)

/-- The digits in a base at the front of a text, those behind a point being counted, and what follows. -/
def readDigits (base : Nat) (text : Raw) : Raw × Nat × Raw :=
  let whole := text.takeWhile (Numeral.isDigitIn base)
  match text.drop whole.length with
  | '.' :: rest =>
    let part := rest.takeWhile (Numeral.isDigitIn base)
    if whole.isEmpty && part.isEmpty then ([], 0, text)
    else (whole ++ part, part.length, rest.drop part.length)
  | rest => (whole, 0, rest)

/-- The word at the front of a text, without regard to capitals, and what follows. -/
def readWord? (word : String) (text : Raw) : Option Raw :=
  let front := (text.take word.length).map Char.toLower
  if front == word.toList then some (text.drop word.length) else none

/-- The number at the front of a text without a sign. -/
def readUnsigned (precision : Precision) (negative : Bool) (text : Raw) : Front :=
  let hexadecimal := match text with
    | '0' :: x :: rest => if x == 'x' || x == 'X' then some (readDigits 16 rest) else none
    | _ => none
  match hexadecimal with
  | some (digit :: digits, behind, rest) =>
    let (power, rest) := readPower 'p' rest
    let value := Numeral.valueOf 16 (digit :: digits)
    let power := power - 4 * Int.ofNat behind
    let power := max (-100000) (min 100000 power)
    let (value, outOfRange) := if 0 ≤ power then nearest precision negative (value * powerOf 2 power.toNat) 1
      else nearest precision negative value (powerOf 2 (-power).toNat)
    ⟨value, true, outOfRange, rest⟩
  | _ =>
    match readDigits 10 text with
    | ([], _, _) =>
      match (readWord? "infinity" text).orElse fun _ => readWord? "inf" text with
      | some rest => ⟨infinite negative, true, false, rest⟩
      | none =>
        match readWord? "nan" text with
        | some rest =>
          let marked := match rest with
            | '(' :: inside =>
              match inside.dropWhile Raw.inName with
              | ')' :: after => after
              | _ => rest
            | _ => rest
          ⟨undefined negative, true, false, marked⟩
        | none => ⟨finite false 0 0, false, false, text⟩
    | (digits, behind, rest) =>
      let (power, rest) := readPower 'e' rest
      let value := Numeral.valueOf 10 digits
      let power := max (-20000) (min 20000 (power - Int.ofNat behind))
      let (value, outOfRange) := if 0 ≤ power then nearest precision negative (value * powerOf 10 power.toNat) 1
        else nearest precision negative value (powerOf 10 (-power).toNat)
      ⟨value, true, outOfRange, rest⟩

/-- The number at the front of a text, after blanks and a sign. -/
def readFront (precision : Precision) (text : Raw) : Front :=
  let signed := text.dropWhile Raw.isSpace
  let front := match signed with
    | '-' :: rest => readUnsigned precision true rest
    | '+' :: rest => readUnsigned precision false rest
    | rest => readUnsigned precision false rest
  if front.found then front else { front with rest := text }

/-- A number times a power of ten, rounded to a whole number. -/
def roundScaled (whole : Nat) (power : Int) (tens : Int) : Nat :=
  let top := (if 0 ≤ power then whole * powerOf 2 power.toNat else whole) *
    (if 0 ≤ tens then powerOf 10 tens.toNat else 1)
  let bottom := (if 0 ≤ power then 1 else powerOf 2 (-power).toNat) *
    (if 0 ≤ tens then 1 else powerOf 10 (-tens).toNat)
  divideEven top bottom

/-- Put zeros in front of digits up to a length. -/
def padZeros (length : Nat) (digits : Raw) : Raw :=
  List.replicate (length - digits.length) '0' ++ digits

/-- A number as a numeral with so many digits behind the point, which may be wanted in any case. -/
def fixed (whole : Nat) (power : Int) (behind : Nat) (point : Bool) : Raw :=
  let digits := padZeros (behind + 1) (decimal (roundScaled whole power (Int.ofNat behind)))
  let front := digits.take (digits.length - behind)
  let back := digits.drop (digits.length - behind)
  if behind = 0 then (if point then front ++ ['.'] else front) else front ++ '.' :: back

/-- So many digits of a number, and the power of ten of the first one. -/
def leadingDigits (whole : Nat) (power : Int) (count : Nat) : Raw × Int :=
  if whole = 0 then (List.replicate count '0', 0)
  else
    -- A first guess at the power of ten is made from the number of bits, and put right by looking at the digits.
    let bits : Int := Int.ofNat (Nat.log2 whole) + power
    let guess : Int := Int.fdiv (bits * 30103) 100000 - 1
    let atLeast := fun (ten : Int) =>
      (if 0 ≤ power then whole * powerOf 2 power.toNat else whole) * (if 0 ≤ ten then 1 else powerOf 10 (-ten).toNat) ≥
        (if 0 ≤ power then 1 else powerOf 2 (-power).toNat) * (if 0 ≤ ten then powerOf 10 ten.toNat else 1)
    let first := (List.range 4).foldl (fun (best : Int) (step : Nat) =>
      if atLeast (guess + Int.ofNat step) then guess + Int.ofNat step else best) guess
    let digits := decimal (roundScaled whole power (Int.ofNat count - 1 - first))
    if digits.length > count then (digits.take count, first + 1) else (digits, first)

/-- The power of ten of a numeral in words. -/
def exponentText (letter : Char) (exponent : Int) : Raw :=
  [letter, if exponent < 0 then '-' else '+'] ++ padZeros 2 (decimal exponent.natAbs)

/-- A number as a numeral with a power of ten, with so many digits behind the point. -/
def scientific (whole : Nat) (power : Int) (behind : Nat) (point : Bool) : Raw :=
  let (digits, exponent) := leadingDigits whole power (behind + 1)
  let front := digits.take 1
  let back := digits.drop 1
  (if back.isEmpty then (if point then front ++ ['.'] else front) else front ++ '.' :: back) ++
    exponentText 'e' exponent

/-- Drop zeros at the end of a numeral with a point, and the point too. -/
def withoutZeros (numeral : Raw) : Raw :=
  if numeral.contains '.' then
    let kept := dropTrailing (· == '0') numeral
    dropTrailing (· == '.') kept
  else numeral

/-- A number as a numeral with so many digits in all, in whichever way is shorter. -/
def general (whole : Nat) (power : Int) (digits : Nat) (point : Bool) : Raw :=
  let count := max digits 1
  let (leading, exponent) := leadingDigits whole power count
  if exponent < -4 || Int.ofNat count ≤ exponent then
    let back := leading.drop 1
    let mantissa := if back.isEmpty then (if point then leading ++ ['.'] else leading) else leading.take 1 ++ '.' :: back
    (if point then mantissa else withoutZeros mantissa) ++ exponentText 'e' exponent
  else
    let numeral := fixed whole power (Int.ofNat count - 1 - exponent).toNat point
    if point then numeral else withoutZeros numeral

/-- A number as a hexadecimal numeral with a power of two; its first digit has so many bits. -/
def hexadecimal (firstBits : Nat) (bits : Nat) (least : Int) (whole : Nat) (power : Int) (behind : Option Nat) (point : Bool) : Raw :=
  if whole = 0 then
    let zeros := List.replicate (behind.getD 0) '0'
    "0x0".toList ++ (if zeros.isEmpty && !point then [] else '.' :: zeros) ++ "p+0".toList
  else
    let size := Nat.log2 whole + 1
    -- Numbers as small as can be keep a shorter front.
    let room := bits - size
    let shift := if Int.ofNat room ≤ power - least then room else (power - least).toNat
    let value := whole * powerOf 2 shift
    let fraction := bits - firstBits
    let exponent := power - Int.ofNat shift + Int.ofNat fraction
    let digitCount := (fraction + 3) / 4
    let aligned := value * powerOf 2 (4 * digitCount - fraction)
    let (aligned, digitCount) := match behind with
      | some wanted =>
        if wanted < digitCount then (divideEven aligned (powerOf 16 (digitCount - wanted)), wanted)
        else (aligned * powerOf 16 (wanted - digitCount), wanted)
      | none => (aligned, digitCount)
    let front := aligned / powerOf 16 digitCount
    let back := padZeros digitCount (Numeral.inBase 16 (aligned % powerOf 16 digitCount))
    let back := if digitCount = 0 then [] else if behind.isNone then dropTrailing (· == '0') back else back
    "0x".toList ++ Numeral.inBase 16 front ++ (if back.isEmpty && !point then [] else '.' :: back) ++ ['p'] ++
      (if exponent < 0 then '-' :: decimal exponent.natAbs else '+' :: decimal exponent.natAbs)

/-- A whole number times a power of two, as the nearest floating number. -/
def ofScaled (precision : Precision) (negative : Bool) (whole : Nat) (power : Int) : Floating :=
  (if 0 ≤ power then nearest precision negative (whole * powerOf 2 power.toNat) 1
    else nearest precision negative whole (powerOf 2 (-power).toNat)).1

/-- A whole number with its sign. -/
def withSign (negative : Bool) (whole : Nat) : Int :=
  if negative then -(Int.ofNat whole) else Int.ofNat whole

/-- A sum, rounded. -/
def add (precision : Precision) : Floating → Floating → Floating
  | undefined negative, _ => undefined negative
  | _, undefined negative => undefined negative
  | infinite first, infinite second => if first == second then infinite first else undefined true
  | infinite negative, _ => infinite negative
  | _, infinite negative => infinite negative
  | finite first whole power, finite second whole' power' =>
    let least := min power power'
    let scaled := fun (negative : Bool) (whole : Nat) (power : Int) =>
      withSign negative (whole * powerOf 2 (power - least).toNat)
    let sum := scaled first whole power + scaled second whole' power'
    if sum = 0 then finite (first && second) 0 0
    else ofScaled precision (sum < 0) sum.natAbs least

/-- A product, rounded. -/
def multiply (precision : Precision) (first second : Floating) : Floating :=
  let negative := first.isNegative != second.isNegative
  match first, second with
  | undefined negative, _ => undefined negative
  | _, undefined negative => undefined negative
  | finite _ whole power, finite _ whole' power' => ofScaled precision negative (whole * whole') (power + power')
  | finite _ 0 _, _ => undefined true
  | _, finite _ 0 _ => undefined true
  | _, _ => infinite negative

/-- A quotient, rounded. -/
def divide (precision : Precision) (first second : Floating) : Floating :=
  let negative := first.isNegative != second.isNegative
  match first, second with
  | undefined negative, _ => undefined negative
  | _, undefined negative => undefined negative
  | infinite _, infinite _ => undefined true
  | infinite _, _ => infinite negative
  | _, infinite _ => finite negative 0 0
  | finite _ 0 _, finite _ 0 _ => undefined true
  | _, finite _ 0 _ => infinite negative
  | finite _ whole power, finite _ whole' power' =>
    let shift := power - power'
    (if 0 ≤ shift then nearest precision negative (whole * powerOf 2 shift.toNat) whole'
      else nearest precision negative whole (whole' * powerOf 2 (-shift).toNat)).1

/-- How one number compares with another, unless one of them is no number. -/
def compare? : Floating → Floating → Option Ordering
  | undefined _, _ => none
  | _, undefined _ => none
  | infinite first, infinite second => some (compare second first)
  | infinite negative, _ => some (if negative then .lt else .gt)
  | _, infinite negative => some (if negative then .gt else .lt)
  | finite first whole power, finite second whole' power' =>
    let least := min power power'
    some (compare (withSign first (whole * powerOf 2 (power - least).toNat))
      (withSign second (whole' * powerOf 2 (power' - least).toNat)))

/-- Whether a number is finite. -/
def isFinite : Floating → Bool
  | finite .. => true
  | _ => false

end Floating

end AnswerQuery.Host

/-! Floating numbers as they are laid out in octets, and numerals that tell them with few digits. -/

namespace AnswerQuery.Host.Floating

/-- How floating numbers are laid out in bits: a sign, an exponent and a fraction. -/
structure Layout where
  /-- How many bits the exponent has. -/
  exponent : Nat
  /-- How many bits the fraction has. -/
  fraction : Nat
  /-- Whether the bit in front of the fraction is laid out too. -/
  explicit : Bool
  /-- How many decimal digits every such number can keep. -/
  least : Nat
  /-- How many decimal digits tell any two such numbers apart. -/
  most : Nat

namespace Layout

/-- In four octets. -/
def single : Layout := ⟨8, 23, false, 6, 9⟩

/-- In eight octets. -/
def double : Layout := ⟨11, 52, false, 15, 17⟩

/-- In ten octets. -/
def extended : Layout := ⟨15, 63, true, 18, 21⟩

/-- The greatest exponent, which stands for what is not finite. -/
def top (layout : Layout) : Nat :=
  powerOf 2 layout.exponent - 1

/-- What is added to the power of two of the lowest bit. -/
def bias (layout : Layout) : Nat :=
  layout.top / 2 + layout.fraction

/-- How precise numbers in a layout are. -/
def precision (layout : Layout) : Precision :=
  ⟨layout.fraction + 1, 1 - Int.ofNat layout.bias, Int.ofNat layout.top - 1 - Int.ofNat layout.bias⟩

/-- The number that bits stand for. -/
def read (layout : Layout) (bits : Nat) : Floating :=
  let front := powerOf 2 layout.fraction
  let width := if layout.explicit then 2 * front else front
  let mantissa := bits % width
  let exponent := bits / width % (layout.top + 1)
  let negative := bits / width / (layout.top + 1) % 2 = 1
  if layout.explicit && exponent != 0 && mantissa < front then undefined negative
  else if exponent = layout.top then (if mantissa % front = 0 then infinite negative else undefined negative)
  else
    let whole := if exponent = 0 || layout.explicit then mantissa else mantissa + front
    finite negative whole (Int.ofNat (max exponent 1) - Int.ofNat layout.bias)

/-- A number with as few digits as tell it, but as many as every number in the layout can keep, unless it is smaller
than numbers in the layout usually are. -/
def show_ (layout : Layout) (value : Floating) : Raw :=
  let sign := if value.isNegative then ['-'] else []
  match value with
  | infinite _ => sign ++ "inf".toList
  | undefined _ => sign ++ "nan".toList
  | finite _ whole power =>
    let isSmall := whole = 0 || Int.ofNat (Nat.log2 whole) + power < 1 - Int.ofNat layout.bias + Int.ofNat layout.fraction
    let start := if isSmall then 1 else layout.least
    let numeral := fun (digits : Nat) => general whole power digits false
    let tells := fun (digits : Nat) =>
      compare? (readFront layout.precision (numeral digits)).value (finite false whole power) == some .eq
    let counts := (List.range (layout.most - start)).map (start + ·)
    sign ++ numeral ((counts.find? tells).getD layout.most)

end Layout

end AnswerQuery.Host.Floating
