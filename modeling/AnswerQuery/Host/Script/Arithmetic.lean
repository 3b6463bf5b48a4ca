import AnswerQuery.Host.Numeral
import AnswerQuery.Host.Script.Shell

/-! Arithmetic of shell scripts: formulas over integers of sixty-four bits, whose values are found while they are read. -/

namespace AnswerQuery.Host.Script

/-- A smallest part of a formula. -/
inductive Sign where
  | endOfText
  /-- What cannot stand in a formula. -/
  | nonsense
  | number (value : Int)
  | name (name : Raw)
  | operator (symbol : Raw)
  deriving DecidableEq, Repr

namespace Sign

/-- The operators, each before those it begins with. -/
def symbols : List Raw :=
  ["<<=", ">>=", "<<", ">>", "<=", ">=", "==", "!=", "&&", "||", "+=", "-=", "*=", "/=", "%=", "&=", "^=", "|=",
    "+", "-", "*", "/", "%", "<", ">", "&", "^", "|", "!", "~", "?", ":", "(", ")", "="].map String.toList

/-- The operators between two numbers, those that bind most first. -/
def levels : List (List String) :=
  [["*", "/", "%"], ["+", "-"], ["<<", ">>"], ["<", "<=", ">", ">="], ["==", "!="], ["&"], ["^"], ["|"]]

/-- How loosely an operator between two numbers binds. -/
def looseness? : Sign → Option Nat
  | operator symbol => levels.findIdx? fun level => level.contains (String.ofList symbol)
  | _ => none

/-- The operator that is applied to the value of a variable before it is set, if a sign sets one. -/
def setting? : Sign → Option (Option Raw)
  | operator ['='] => some none
  | operator symbol =>
    if symbol.getLast? == some '=' && !(["==", "!=", "<=", ">="].contains (String.ofList symbol)) then
      some (some symbol.dropLast)
    else none
  | _ => none

/-- Whether a sign is an operator. -/
def isOperator (sign : Sign) (symbol : String) : Bool :=
  sign == operator symbol.toList

end Sign

/-- A formula that is being read. -/
structure Calculation where
  /-- The formula as a whole. -/
  whole : Raw
  /-- What is left of it. -/
  rest : Raw
  /-- The sign behind what has been read. -/
  last : Sign := .endOfText

/-- A part of finding the value of a formula. -/
abbrev Calculate := StateT Calculation Sh

namespace Calculate

/-- Refuse the formula. -/
def refuse {α : Type} (message : String) : Calculate α := do
  let calculation ← get
  StateT.lift (Sh.giveUp ("arithmetic expression: ".toList ++ message.toList ++ ": \"".toList ++
    calculation.whole ++ ['"']))

/-- The next sign. -/
def next : Calculate Sign := do
  let calculation ← get
  let rest := calculation.rest.dropWhile fun c => c == ' ' || c == '\t' || c == '\n'
  let (sign, rest) : Sign × Raw := match rest with
    | [] => (.endOfText, [])
    | c :: _ =>
      if c.isDigit then
        let front := Numeral.readFront 0 rest
        (.number (Numeral.clamp front.value), front.rest)
      else if Raw.beginsName c then (.name (rest.takeWhile Raw.inName), rest.dropWhile Raw.inName)
      else match Sign.symbols.find? fun symbol => symbol.isPrefixOf rest with
        | some symbol => (.operator symbol, rest.drop symbol.length)
        | none => (.nonsense, rest)
  set { calculation with rest }
  pure sign

/-- Make a sign the one behind what has been read. -/
def leave (last : Sign) : Calculate Unit :=
  modify fun calculation => { calculation with last }

/-- The sign behind what has been read. -/
def last : Calculate Sign := do
  let calculation ← get
  pure calculation.last

/-- The value of a variable as a number. -/
def numberOf (name : Raw) : Calculate Int := do
  let shell : Shell ← StateT.lift get
  let value := (shell.value? name).getD []
  let front := Numeral.readFront 0 value
  if !front.found then
    if value.all Raw.isSpace then pure 0 else StateT.lift (Sh.giveUp ("Illegal number: ".toList ++ value))
  else if !Numeral.fits front.value || !front.rest.all Raw.isSpace then
    StateT.lift (Sh.giveUp ("Illegal number: ".toList ++ value))
  else pure front.value

/-- A truth value as a number. -/
def truth (holds : Bool) : Int :=
  if holds then 1 else 0

/-- Two to the power of a number, which is taken modulo the number of bits. -/
def shiftFactor (amount : Int) : Int :=
  Int.ofNat (Nat.shiftLeft 1 (Int.emod amount 64).toNat)

/-- Join the bits of two numbers. -/
def joinBits (join : Nat → Nat → Nat) (first second : Int) : Int :=
  Numeral.wrap (Int.ofNat (join (Numeral.bits first) (Numeral.bits second)))

/-- What an operator makes of two numbers. -/
def combine (symbol : Raw) (first second : Int) : Calculate Int :=
  match String.ofList symbol with
  | "+" => pure (Numeral.wrap (first + second))
  | "-" => pure (Numeral.wrap (first - second))
  | "*" => pure (Numeral.wrap (first * second))
  | "/" => if second = 0 then refuse "division by zero" else pure (Numeral.wrap (first.tdiv second))
  | "%" => if second = 0 then refuse "division by zero" else pure (Numeral.wrap (first.tmod second))
  | "<<" => pure (Numeral.wrap (first * shiftFactor second))
  | ">>" => pure (first.fdiv (shiftFactor second))
  | "==" => pure (truth (first = second))
  | "!=" => pure (truth (first ≠ second))
  | "<" => pure (truth (first < second))
  | "<=" => pure (truth (first ≤ second))
  | ">" => pure (truth (second < first))
  | ">=" => pure (truth (second ≤ first))
  | "&" => pure (joinBits Nat.land first second)
  | "|" => pure (joinBits Nat.lor first second)
  | _ => pure (joinBits Nat.xor first second)

mutual

/-- The value of an operand that begins with a sign, given the sign behind that. -/
def operand : Nat → Bool → Sign → Sign → Calculate Int
  | 0, _, _, _ => refuse "expecting primary"
  | steps + 1, skipped, first, second => do
    match first with
    | .number value =>
      leave second
      pure value
    | .name name =>
      leave second
      if skipped then pure 0 else numberOf name
    | .operator ['('] =>
      let value ← whole steps skipped second
      if !(← last).isOperator ")" then refuse "expecting ')'"
      let after ← next
      leave after
      pure value
    | .operator ['+'] =>
      let after ← next
      operand steps skipped second after
    | .operator ['-'] =>
      let after ← next
      let value ← operand steps skipped second after
      pure (Numeral.wrap (-value))
    | .operator ['!'] =>
      let after ← next
      let value ← operand steps skipped second after
      pure (truth (value = 0))
    | .operator ['~'] =>
      let after ← next
      let value ← operand steps skipped second after
      pure (-value - 1)
    | _ => refuse "expecting primary"

/-- The value of operands joined by operators, given the first value and the operator behind it. -/
def joined : Nat → Bool → Int → Raw → Nat → Calculate Int
  | 0, _, _, _, _ => refuse "expecting primary"
  | steps + 1, skipped, first, symbol, limit => do
    let own := ((Sign.operator symbol).looseness?).getD 0
    let start ← next
    let after ← next
    let second ← operand steps skipped start after
    let second ← match ← last with
      | .operator other =>
        match (Sign.operator other).looseness? with
        | some looseness => if looseness < own then joined steps skipped second other own else pure second
        | none => pure second
      | _ => pure second
    let value ← if skipped then pure second else combine symbol first second
    match ← last with
    | .operator other =>
      match (Sign.operator other).looseness? with
      | some looseness => if looseness < limit then joined steps skipped value other limit else pure value
      | none => pure value
    | _ => pure value

/-- The value of operands joined by operators between numbers. -/
def sum : Nat → Bool → Sign → Sign → Calculate Int
  | 0, _, _, _ => refuse "expecting primary"
  | steps + 1, skipped, first, second => do
    let value ← operand steps skipped first second
    match ← last with
    | .operator symbol =>
      if (Sign.operator symbol).looseness?.isSome then joined steps skipped value symbol Sign.levels.length
      else pure value
    | _ => pure value

/-- The value of operands of which all have to hold. -/
def conjunction : Nat → Bool → Sign → Sign → Calculate Int
  | 0, _, _, _ => refuse "expecting primary"
  | steps + 1, skipped, first, second => do
    let value ← sum steps skipped first second
    if !(← last).isOperator "&&" then return value
    let start ← next
    let after ← next
    let other ← conjunction steps (skipped || value = 0) start after
    pure (truth (value ≠ 0 && other ≠ 0))

/-- The value of operands of which one has to hold. -/
def disjunction : Nat → Bool → Sign → Sign → Calculate Int
  | 0, _, _, _ => refuse "expecting primary"
  | steps + 1, skipped, first, second => do
    let value ← conjunction steps skipped first second
    if !(← last).isOperator "||" then return value
    let start ← next
    let after ← next
    let other ← disjunction steps (skipped || value ≠ 0) start after
    pure (truth (value ≠ 0 || other ≠ 0))

/-- The value of a choice between two. -/
def choice : Nat → Bool → Sign → Sign → Calculate Int
  | 0, _, _, _ => refuse "expecting primary"
  | steps + 1, skipped, first, second => do
    let test ← disjunction steps skipped first second
    if !(← last).isOperator "?" then return test
    let start ← next
    let one ← whole steps (skipped || test = 0) start
    if !(← last).isOperator ":" then refuse "expecting ':'"
    let start ← next
    let after ← next
    let other ← choice steps (skipped || test ≠ 0) start after
    pure (if test ≠ 0 then one else other)

/-- The value of a formula that begins with a sign; it may set a variable. -/
def whole : Nat → Bool → Sign → Calculate Int
  | 0, _, _ => refuse "expecting primary"
  | steps + 1, skipped, first => do
    let second ← next
    match first, second.setting? with
    | .name name, some operator =>
      let start ← next
      let value ← whole steps skipped start
      if skipped then return value
      let value ← match operator with
        | none => pure value
        | some symbol => do
          let before ← numberOf name
          combine symbol before value
      StateT.lift (Sh.assign name (Numeral.ofInt value))
      pure value
    | _, _ => choice steps skipped first second

end

end Calculate

/-- The value of a formula. -/
def Sh.calculate (formula : Raw) : Sh Int := do
  let start : Calculation := { whole := formula, rest := formula }
  let work : Calculate Int := do
    let first ← Calculate.next
    -- Every sign is reached through each kind of formula once at most.
    let value ← Calculate.whole (8 * formula.length + 16) false first
    if (← Calculate.last) != .endOfText then Calculate.refuse "expecting EOF"
    pure value
  let (value, _) ← work start
  pure value

end AnswerQuery.Host.Script
