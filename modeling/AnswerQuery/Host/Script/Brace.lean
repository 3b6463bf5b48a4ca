import AnswerQuery.Host.Numeral
import AnswerQuery.Host.Script.Command

/-! Words with alternatives in braces, each of which stands for several words. -/

namespace AnswerQuery.Host.Script

/-- A piece of a word, and the character that it is if that is not in quotes and stands by itself. -/
structure Bit where
  /-- The character. -/
  sign : Option Char
  /-- The piece. -/
  piece : Piece

namespace Brace

/-- The bits of a word, given whether quotes have begun and how many parameters with words and formulas have. -/
def bitsFrom : Bool → Nat → Word → List Bit
  | _, _, [] => []
  | quoted, depth, piece :: rest =>
    let alone := !quoted && depth = 0
    match piece with
    | .plain c => ⟨if alone then some c else none, piece⟩ :: bitsFrom quoted depth rest
    | .mark => ⟨none, piece⟩ :: bitsFrom (!quoted) depth rest
    | .parameter _ treatment nullToo =>
      ⟨none, piece⟩ :: bitsFrom quoted (if treatment == .value && !nullToo then depth else depth + 1) rest
    | .formula => ⟨none, piece⟩ :: bitsFrom quoted (depth + 1) rest
    | .close => ⟨none, piece⟩ :: bitsFrom quoted (depth - 1) rest
    | .closeFormula => ⟨none, piece⟩ :: bitsFrom quoted (depth - 1) rest
    | _ => ⟨none, piece⟩ :: bitsFrom quoted depth rest

/-- The bits in braces and those behind them, given how many braces have begun inside, and whether there has been a comma
or something like a range; nothing if the braces do not close around such. -/
def closed? : Nat → Bool → List Bit → Option (List Bit × List Bit)
  | _, _, [] => none
  | depth, choice, bit :: rest =>
    let goesOn := fun (depth : Nat) (choice : Bool) =>
      (closed? depth choice rest).map fun (inside, after) => (bit :: inside, after)
    match bit.sign with
    | some '{' => goesOn (depth + 1) choice
    | some '}' => if depth = 0 && choice then some ([], rest) else goesOn (depth - 1) choice
    | some ',' => goesOn depth (choice || depth = 0)
    | some '.' =>
      let begins := match rest with
        | ⟨some '.', _⟩ :: next :: _ => next.sign != some '}'
        | _ => false
      goesOn depth (choice || (depth = 0 && begins))
    | _ => goesOn depth choice

/-- The bits in front of the first braces, in them, and behind them. -/
def first? : List Bit → Option (List Bit × List Bit × List Bit)
  | [] => none
  | bit :: rest =>
    let isEmpty := (rest.head?.bind Bit.sign) == some '}'
    match (if bit.sign == some '{' && !isEmpty then closed? 0 false rest else none) with
    | some (inside, after) => some ([], inside, after)
    | none => (first? rest).map fun (front, inside, after) => (bit :: front, inside, after)

/-- The alternatives in braces, given how many braces have begun inside. -/
def alternatives : Nat → List Bit → List (List Bit)
  | _, [] => [[]]
  | depth, bit :: rest =>
    if bit.sign == some ',' && depth = 0 then [] :: alternatives depth rest
    else
      let depth := if bit.sign == some '{' then depth + 1 else if bit.sign == some '}' then depth - 1 else depth
      match alternatives depth rest with
      | first :: others => (bit :: first) :: others
      | [] => [[bit]]

/-- Numbers from one to another in steps. -/
def numbers (start last step : Int) : List Int :=
  let size := if step = 0 then 1 else step.natAbs
  let count := (last - start).natAbs / size + 1
  (List.range (min count 100000)).map fun index =>
    if start ≤ last then start + Int.ofNat (index * size) else start - Int.ofNat (index * size)

/-- A number with zeros in front up to a width. -/
def padded (width : Nat) (n : Int) : Raw :=
  let digits := decimal n.natAbs
  let sign := if n < 0 then ['-'] else []
  sign ++ List.replicate (width - digits.length - sign.length) '0' ++ digits

/-- The width that a numeral asks for by zeros in front. -/
def widthOf (text : Raw) : Nat :=
  match text with
  | '0' :: _ :: _ => text.length
  | '-' :: '0' :: _ :: _ => text.length
  | _ => 0

/-- The parts of a range: where it begins, where it ends, and its step. -/
def parts? (text : Raw) : Option (Raw × Raw × Int) := do
  let (start, rest) ← Raw.cutAt? "..".toList text
  match Raw.cutAt? "..".toList rest with
  | none => pure (start, rest, 1)
  | some (last, step) => do
    let step ← Numeral.integer? step
    pure (start, last, step)

/-- The texts of a range. -/
def range? (text : Raw) : Option (List Raw) := do
  let (start, last, step) ← parts? text
  match start, last with
  | [first], [second] =>
    if first.isAlpha && second.isAlpha then
      return (numbers (Int.ofNat first.toNat) (Int.ofNat second.toNat) step).map fun n => [Char.ofNat n.toNat]
  | _, _ => pure ()
  let from_ ← Numeral.integer? start
  let to_ ← Numeral.integer? last
  let zeros := max (widthOf start) (widthOf last)
  let width := if zeros = 0 then 0 else max start.length last.length
  pure ((numbers from_ to_ step).map (padded width))

/-- The text of bits that all stand by themselves. -/
def plainText? (bits : List Bit) : Option Raw :=
  bits.mapM Bit.sign

/-- Each of some fronts with each of some ends. -/
def joined (fronts ends : List (List Bit)) : List (List Bit) :=
  fronts.flatMap fun front => ends.map fun last => front ++ last

/-- The words that bits with braces stand for. -/
def expandBits : Nat → List Bit → List (List Bit)
  | 0, bits => [bits]
  | steps + 1, bits =>
    match first? bits with
    | none => [bits]
    | some (front, inside, after) =>
      let choices := alternatives 0 inside
      let ranged := (plainText? inside).bind range?
      let middle : List (List Bit) := match choices, ranged with
        | [_], some texts => texts.map fun text => text.map fun c => ⟨none, .plain c⟩
        | [_], none => [⟨none, .plain '{'⟩ :: inside ++ [⟨none, .plain '\x7d'⟩]]
        | _, _ => choices.flatMap (expandBits steps)
      joined (joined [front] middle) (if after.isEmpty then [[]] else expandBits steps after)

/-- The words that a word with braces stands for. -/
def expand (word : Word) : List Word :=
  let hasBrace := word.any fun piece => match piece with
    | .plain '{' => true
    | _ => false
  if hasBrace then
    (expandBits (word.length + 1) (bitsFrom false 0 word)).map fun bits => bits.map Bit.piece
  else [word]

end Brace

end AnswerQuery.Host.Script
