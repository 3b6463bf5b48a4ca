import AnswerQuery.Host.Tool.Options

/-! Amounts in arguments: whole numbers, which may be followed by a letter for what they are multiplied by. -/

namespace AnswerQuery.Host.Tool

namespace Amount

/-- What is wrong with an amount. -/
inductive Flaw where
  /-- It does not begin with a number. -/
  | missing
  /-- What follows the number means nothing. -/
  | trailing
  /-- It is too great. -/
  | beyond
  deriving DecidableEq, Repr

/-- How amounts are written. -/
structure Form where
  /-- The letters that may follow; a zero among them allows another one behind that tells what the powers are of. -/
  letters : String := ""
  /-- The base; zero stands for one that the numeral tells. -/
  base : Nat := 10
  /-- Whether amounts may be less than zero. -/
  signed : Bool := false

/-- The letters of powers. -/
def powers : List (Char × Nat) :=
  [('K', 1), ('k', 1), ('M', 2), ('m', 2), ('G', 3), ('g', 3), ('T', 4), ('t', 4), ('P', 5), ('E', 6), ('Z', 7), ('Y', 8)]

/-- What a number is multiplied by that is followed by a letter, and what follows then. -/
def factor? (form : Form) (letter : Char) (rest : Raw) : Option (Nat × Raw) :=
  match letter with
  | 'b' => some (512, rest)
  | 'B' => some (1024, rest)
  | 'c' => some (1, rest)
  | 'w' => some (2, rest)
  | _ => (powers.lookup letter).map fun power =>
    let (base, rest) := match form.letters.toList.contains '0', rest with
      | true, 'i' :: 'B' :: rest => (1024, rest)
      | true, 'B' :: rest => (1000, rest)
      | true, 'D' :: rest => (1000, rest)
      | _, _ => (1024, rest)
    (Nat.pow base power, rest)

/-- Whether a number can be told in sixty-four bits. -/
def isTold (form : Form) (value : Int) : Bool :=
  if form.signed then Numeral.fits value else value < Int.ofNat Numeral.wordCount

/-- Read an amount. A letter alone stands for one of what it tells. -/
def read (form : Form) (text : Raw) : Except Flaw Int := do
  if !form.signed && (text.dropWhile Raw.isSpace).head? == some '-' then throw .missing
  let front := Numeral.readFront form.base text
  let isLetter := fun (c : Char) => form.letters.toList.contains c
  let (value, rest) ←
    if front.found then pure (front.value, front.rest)
    else if (text.head?.map isLetter).getD false then pure ((1 : Int), text)
    else throw .missing
  let value ← match rest with
    | [] => pure value
    | letter :: rest =>
      match if isLetter letter then factor? form letter rest else none with
      | some (factor, []) => pure (value * Int.ofNat factor)
      | _ => throw .trailing
  if isTold form value then pure value else throw .beyond

end Amount

namespace Act

/-- An amount within bounds; a complaint tells what it is for. -/
def amount (status : Nat) (what : String) (form : Amount.Form) (least greatest : Int) (text : Raw) : Act Int := do
  let refused := fun (why : String) =>
    (die status (what.toList ++ ": ".toList ++ quoted text ++ why.toList) : Act Int)
  let tooGreat := refused ": Value too large for defined data type"
  match Amount.read form text with
  | .error .beyond => tooGreat
  | .error _ => refused ""
  | .ok value =>
    if least ≤ value && value ≤ greatest then pure value
    else if value < -1073741824 || 1073741823 < value then tooGreat
    else refused ": Numerical result out of range"

/-- End the program because of an amount that an option was given. -/
def refuseAmount {α : Type} (status : Nat) (option text : Raw) : Amount.Flaw → Act α
  | .missing => die status ("invalid ".toList ++ option ++ " argument ".toList ++ quoted text)
  | .trailing => die status ("invalid suffix in ".toList ++ option ++ " argument ".toList ++ quoted text)
  | .beyond => die status (option ++ " argument ".toList ++ quoted text ++ " too large".toList)

end Act

end AnswerQuery.Host.Tool

/-! How sizes are written: counted in some unit, or in one that fits. What is left over always counts as one more. -/

namespace AnswerQuery.Host.Tool

/-- How sizes are written. -/
structure Scale where
  /-- How many octets a size is counted in, unless it is one that fits. -/
  unit : Nat := 1
  /-- What the powers are of that letters stand for. -/
  base : Nat := 1024
  /-- Whether sizes are counted in powers that fit. -/
  isFitting : Bool := false
  /-- Whether the letter of the power is written. -/
  isLettered : Bool := false
  /-- Whether a letter for octets is written behind that. -/
  isNamed : Bool := false
  deriving DecidableEq, Repr

namespace Scale

/-- The scale on which sizes are said to people, with powers of a base. -/
def fitting (base : Nat) : Scale :=
  { base, isFitting := true, isLettered := true }

/-- The letters of powers. -/
def letters : List Char :=
  "KMGTPEZY".toList

/-- What is written behind a size that is counted in a power. -/
def ending (scale : Scale) (exponent : Nat) : Raw :=
  let letter := if exponent = 0 then [] else if scale.base != 1024 && exponent = 1 then ['k']
    else (letters[exponent - 1]?).toList
  let name := if !scale.isNamed then [] else if scale.base = 1024 && 0 < exponent then ['i', 'B'] else ['B']
  if scale.isLettered then letter ++ name else []

/-- A quotient, where what is left over counts as one more. -/
def up (whole part : Nat) : Nat :=
  (whole + part - 1) / part

/-- The greatest power that fits into a size, among those that are left: its exponent and its value. -/
def fit (base size : Nat) : Nat → Nat → Nat → Nat × Nat
  | 0, exponent, power => (exponent, power)
  | steps + 1, exponent, power =>
    if size < power * base then (exponent, power) else fit base size steps (exponent + 1) (power * base)

/-- The least exponent of a power that is not less than a unit, among those that are left. -/
def exponentOf (base unit : Nat) : Nat → Nat → Nat → Nat
  | 0, exponent, _ => exponent
  | steps + 1, exponent, power => if power < unit then exponentOf base unit steps (exponent + 1) (power * base) else exponent

/-- A size as it is written. -/
def text (scale : Scale) (octets : Nat) : Raw :=
  if scale.isFitting then
    let (exponent, power) := fit scale.base octets letters.length 0 1
    let tenths := up (octets * 10) power
    let count := up octets power
    if exponent = 0 then decimal count ++ scale.ending 0
    else if tenths < 100 then decimal (tenths / 10) ++ '.' :: decimal (tenths % 10) ++ scale.ending exponent
    else if count = scale.base && exponent < letters.length then "1.0".toList ++ scale.ending (exponent + 1)
    else decimal count ++ scale.ending exponent
  else decimal (up octets scale.unit) ++ scale.ending (exponentOf scale.base scale.unit letters.length 0 1)

/-- The scales that have names. -/
def named : List (String × Scale) :=
  [("human-readable", fitting 1024), ("si", fitting 1000)]

/-- Read a scale: a name, which may be cut short, or an amount; a letter alone is written behind sizes too. -/
def read (text : Raw) : Except Amount.Flaw Scale := do
  let text := if text.head? == some '\'' then text.drop 1 else text
  match named.filter fun known => !text.isEmpty && text.isPrefixOf known.1.toList with
  | [known] => pure known.2
  | _ =>
    let unit ← Amount.read { base := 0, letters := "eEgGkKmMpPtTyYzZ0" } text
    if unit = 0 then throw .missing
    let back := text.reverse
    let isNamed := back.head? == some 'B'
    let base := if isNamed && back[1]? != some 'i' then 1000 else 1024
    pure (if text.any Char.isDigit then { unit := unit.toNat } else { unit := unit.toNat, base, isLettered := true, isNamed })

end Scale

end AnswerQuery.Host.Tool
