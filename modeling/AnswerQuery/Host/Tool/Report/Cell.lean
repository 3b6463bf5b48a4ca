import AnswerQuery.Host.Conversion

/-! Cells: what the variables of reports hold, numbers and texts at once. -/

namespace AnswerQuery.Host

namespace Floating

/-- A floating number of the machine, told exactly. -/
def ofMachine (x : Float) : Floating :=
  let bits := x.toBits.toNat
  let negative := bits / 9223372036854775808 == 1
  let exponent := bits / 4503599627370496 % 2048
  let fraction := bits % 4503599627370496
  if exponent == 2047 then if fraction = 0 then infinite negative else undefined true
  else if exponent = 0 then finite negative fraction (-1074)
  else finite negative (fraction + 4503599627370496) (Int.ofNat exponent - 1075)

/-- A floating number as one of the machine. -/
def toMachine : Floating → Float
  | finite negative whole power =>
    let size := Float.scaleB (Float.ofNat whole) power
    if negative then -size else size
  | infinite negative => if negative then -1.0 / 0.0 else 1.0 / 0.0
  | undefined _ => 0.0 / 0.0

/-- The whole number that a floating number is, if it is one. -/
def whole? : Floating → Option Int
  | finite negative whole power =>
    let size? : Option Nat :=
      if whole = 0 then some 0
      else if 0 ≤ power then if power ≤ 100 then some (whole * powerOf 2 power.toNat) else none
      else if power < -60 then none
      else
        let unit := powerOf 2 (-power).toNat
        if whole % unit = 0 then some (whole / unit) else none
    size?.map fun size => withSign negative size
  | _ => none

end Floating

namespace Tool.Report

/-- What a variable holds. -/
inductive Cell where
  /-- Nothing has been put there. -/
  | blank
  | number (x : Float)
  | text (text : Raw)
  /-- A text that came from outside, which counts as a number if it looks like one. -/
  | told (text : Raw)

namespace Number

/-- The number that stands at the front of a text. -/
def front (text : Raw) : Float :=
  (Floating.readFront .double text).value.toMachine

/-- The number that a text looks like, if it looks like one. -/
def told? (text : Raw) : Option Float :=
  let trimmed := (text.dropWhile Raw.isSpace).reverse.dropWhile Raw.isSpace
  let fits := match trimmed.head?, trimmed.getLast? with
    | some last, some first => (last.isDigit || last == '.') && (first.isDigit || "+-.".toList.contains first)
    | _, _ => false
  if fits then
    let read := Floating.readFront .double trimmed.reverse
    if read.found && read.rest.isEmpty then some read.value.toMachine else none
  else none

/-- A number without what stands behind its point; zero for one that has no end. -/
def truncation (x : Float) : Int :=
  match Floating.ofMachine x with
  | .finite negative whole power =>
    let size := if 0 ≤ power then whole * Floating.powerOf 2 power.toNat else whole / Floating.powerOf 2 (-power).toNat
    Floating.withSign negative size
  | _ => 0

/-- The greatest whole number that is written as such; the least one has the same size. -/
def greatestWhole : Int := 2147483647

/-- How many whole numbers there are without a sign. -/
def wholeCount : Nat := 4294967296

/-- A number as a whole one with a sign: what stands behind the point is left out. -/
def signed (x : Float) : Int :=
  if x ≥ Float.ofInt greatestWhole then greatestWhole
  else if x > Float.ofInt (-greatestWhole) then truncation x
  else -greatestWhole

/-- The whole number that a number is, if it is written as such. -/
def whole? (x : Float) : Option Int :=
  let n := signed x
  if Float.ofInt n == x then some n else none

/-- A number as a whole one without a sign. -/
def unsigned (x : Float) : Nat :=
  if x ≥ Float.ofNat (wholeCount - 1) then wholeCount - 1
  else if x > -Float.ofNat (wholeCount - 1) then (Int.emod (truncation x) (Int.ofNat wholeCount)).toNat
  else 1

/-- A format that asks for one number. -/
structure Format where
  /-- What stands before. -/
  before : Raw
  /-- How the number is written. -/
  conversion : Conversion
  /-- What stands behind. -/
  behind : Raw

/-- Read a format that asks for one number. -/
def readFormat (text : Raw) : Format :=
  let before := text.takeWhile (· != '%')
  let rest := text.drop (before.length + 1)
  let flags := rest.takeWhile "-+ #0".toList.contains
  let rest := rest.drop flags.length
  let width := rest.takeWhile Char.isDigit
  let rest := rest.drop width.length
  let (precision, rest) := match rest with
    | '.' :: rest =>
      let digits := rest.takeWhile Char.isDigit
      (some (Numeral.valueOf 10 digits), rest.drop digits.length)
    | rest => (none, rest)
  ⟨before, { flags, width := Numeral.valueOf 10 width, precision, letter := rest.head?.getD 'g' }, rest.drop 1⟩

/-- A number as a text; one that is not whole is written in a format. -/
def written (format : Raw) (x : Float) : Raw :=
  match whole? x with
  | some n => Numeral.ofInt n
  | none =>
    let format := readFormat format
    let letter := format.conversion.letter
    let digits :=
      if letter == 'd' || letter == 'i' then format.conversion.signed (signed x)
      else format.conversion.floating .double (Floating.ofMachine x)
    format.before ++ digits ++ format.behind

end Number

namespace Cell

/-- A cell as a number. -/
def toNumber : Cell → Float
  | blank => 0.0
  | number x => x
  | text content => Number.front content
  | told content => Number.front content

/-- A cell as a text, numbers that are not whole being written in a format. -/
def toText (format : Raw) : Cell → Raw
  | blank => []
  | number x => Number.written format x
  | text content => content
  | told content => content

/-- A cell of which it is known whether it is a number. -/
def settled : Cell → Cell
  | told content =>
    match Number.told? content with
    | some x => number x
    | none => text content
  | cell => cell

/-- Whether a cell counts as true. -/
def isTrue (cell : Cell) : Bool :=
  match cell.settled with
  | number x => x != 0.0
  | text content => !content.isEmpty
  | _ => false

/-- The cell that tells whether something is true. -/
def ofBool (holds : Bool) : Cell :=
  number (if holds then 1.0 else 0.0)

/-- The cell of a natural number. -/
def ofNat (n : Nat) : Cell :=
  number (Float.ofNat n)

/-- The cell of a whole number. -/
def ofInt (n : Int) : Cell :=
  number (Float.ofInt n)

/-- Compare numbers; those that cannot be compared count as the same. -/
def compareNumbers (x y : Float) : Ordering :=
  if x > y then .gt else if x < y then .lt else .eq

/-- Compare texts octet by octet. -/
def compareTexts (first second : Raw) : Ordering :=
  if first == second then .eq else if Raw.inOrder first second then .lt else .gt

/-- Compare cells: as numbers if neither is a text. -/
def compare (format : Raw) (first second : Cell) : Ordering :=
  match first.settled, second.settled with
  | text content, _ => compareTexts content (second.toText format)
  | _, text content => compareTexts (first.toText format) content
  | first, second => compareNumbers first.toNumber second.toNumber

end Cell

end Tool.Report

end AnswerQuery.Host
