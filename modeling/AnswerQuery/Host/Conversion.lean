import AnswerQuery.Host.Floating

/-! Conversions: how values are written as a format asks for. -/

namespace AnswerQuery.Host

/-- How a value is to be written. -/
structure Conversion where
  /-- The signs that change how it is written. -/
  flags : Raw := []
  /-- How wide it is at least. -/
  width : Nat := 0
  /-- How precise it is, if that is told. -/
  precision : Option Nat := none
  /-- The letter of the kind of value. -/
  letter : Char := 's'
  deriving Repr

namespace Conversion

/-- Whether a sign is there. -/
def has (conversion : Conversion) (flag : Char) : Bool :=
  conversion.flags.contains flag

/-- A width that may be below zero, which asks for the left side. -/
def withWidth (conversion : Conversion) (width : Int) : Conversion :=
  if width < 0 then { conversion with flags := '-' :: conversion.flags, width := width.natAbs }
  else { conversion with width := width.natAbs }

/-- A precision that may be below zero, which is as good as none. -/
def withPrecision (conversion : Conversion) (precision : Int) : Conversion :=
  { conversion with precision := if precision < 0 then none else some precision.natAbs }

/-- Fill a text up with blanks. -/
def padded (conversion : Conversion) (text : Raw) : Raw :=
  let blanks := List.replicate (conversion.width - text.length) ' '
  if conversion.has '-' then text ++ blanks else blanks ++ text

/-- Fill a number up, with zeros between its front and its digits if they are wanted. -/
def paddedNumber (conversion : Conversion) (zeros : Bool) (front digits : Raw) : Raw :=
  if zeros && conversion.has '0' && !conversion.has '-' then
    front ++ List.replicate (conversion.width - front.length - digits.length) '0' ++ digits
  else conversion.padded (front ++ digits)

/-- The sign in front of a number. -/
def signOf (conversion : Conversion) (negative : Bool) : Raw :=
  if negative then ['-'] else if conversion.has '+' then ['+'] else if conversion.has ' ' then [' '] else []

/-- A text. -/
def text (conversion : Conversion) (value : Raw) : Raw :=
  conversion.padded (match conversion.precision with
    | some most => value.take most
    | none => value)

/-- The digits of a number with at least as many as are asked for. -/
def digitsOf (conversion : Conversion) (base n : Nat) : Raw :=
  let digits := if n = 0 && conversion.precision == some 0 then [] else Numeral.inBase base n
  Floating.padZeros (conversion.precision.getD 0) digits

/-- A whole number with a sign. -/
def signed (conversion : Conversion) (value : Int) : Raw :=
  conversion.paddedNumber conversion.precision.isNone (conversion.signOf (value < 0))
    (conversion.digitsOf 10 value.natAbs)

/-- A whole number without a sign, in the base of the letter. -/
def unsigned (conversion : Conversion) (value : Nat) : Raw :=
  let zeros := conversion.precision.isNone
  match conversion.letter with
  | 'o' =>
    let digits := conversion.digitsOf 8 value
    let digits := if conversion.has '#' && digits.head? != some '0' then '0' :: digits else digits
    conversion.paddedNumber zeros [] digits
  | 'x' =>
    let front := if conversion.has '#' && value != 0 then "0x".toList else []
    conversion.paddedNumber zeros front (conversion.digitsOf 16 value)
  | 'X' =>
    let front := if conversion.has '#' && value != 0 then "0X".toList else []
    conversion.paddedNumber zeros front ((conversion.digitsOf 16 value).map Char.toUpper)
  | _ => conversion.paddedNumber zeros [] (conversion.digitsOf 10 value)

/-- A floating number in the way of the letter, given how precise such numbers are. -/
def floating (conversion : Conversion) (kind : Precision) (value : Floating) : Raw :=
  let front := conversion.signOf value.isNegative
  let letter := conversion.letter.toLower
  let point := conversion.has '#'
  let capital := fun (text : Raw) => if conversion.letter.isUpper then text.map Char.toUpper else text
  match value with
  | .infinite _ => conversion.padded (front ++ capital "inf".toList)
  | .undefined _ => conversion.padded (front ++ capital "nan".toList)
  | .finite _ whole power =>
    let precision := conversion.precision.getD 6
    let digits := match letter with
      | 'f' => Floating.fixed whole power precision point
      | 'e' => Floating.scientific whole power precision point
      | 'g' => Floating.general whole power precision point
      | _ => Floating.hexadecimal (if kind.bits = 64 then 4 else 1) kind.bits kind.least whole power conversion.precision point
    if letter == 'a' then conversion.paddedNumber true (front ++ capital (digits.take 2)) (capital (digits.drop 2))
    else conversion.paddedNumber true front (capital digits)

end Conversion

end AnswerQuery.Host
