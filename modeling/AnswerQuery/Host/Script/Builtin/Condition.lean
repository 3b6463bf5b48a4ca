import AnswerQuery.Host.Script.Builtin.Basic

/-! Tests of texts, numbers and files. -/

namespace AnswerQuery.Host.Script

/-- What kind of operator an argument of a test is. -/
inductive Operator where
  /-- It tests what follows. -/
  | single
  /-- It tests what it stands between. -/
  | double
  | negation
  | conjunction
  | disjunction
  | opening
  | closing
  deriving DecidableEq, Repr

namespace Operator

/-- The operators that test what follows. -/
def singles : List Raw :=
  ["-r", "-w", "-x", "-e", "-f", "-d", "-c", "-b", "-p", "-u", "-g", "-k", "-s", "-t", "-z", "-n", "-h", "-O", "-G",
    "-L", "-S"].map String.toList

/-- The operators that test what they stand between. -/
def doubles : List Raw :=
  ["=", "!=", "<", ">", "-eq", "-ne", "-ge", "-gt", "-le", "-lt", "-nt", "-ot", "-ef"].map String.toList

/-- The operator that an argument is. -/
def ofText? (text : Raw) : Option Operator :=
  if singles.contains text then some single
  else if doubles.contains text then some double
  else match text with
    | ['!'] => some negation
    | ['-', 'a'] => some conjunction
    | ['-', 'o'] => some disjunction
    | ['('] => some opening
    | [')'] => some closing
    | _ => none

/-- What the argument at the front is: nothing at the end, an operator, or an operand where there could be none. -/
def atFront : List Raw → Option (Option Operator)
  | [] => none
  | text :: others =>
    match ofText? text with
    | some single =>
      let isOperand := match others with
        | [] => true
        | [_] => false
        | next :: _ => ofText? next == some double
      some (if isOperand then none else some single)
    | some opening => some (if others.isEmpty then none else some opening)
    | other => some other

end Operator

namespace Sh

/-- Complain about an argument of a test. -/
def refuseTest {α : Type} (operator : Raw) (message : String) : Sh α :=
  giveUp (if operator.isEmpty then message.toList else operator ++ ": ".toList ++ message.toList)

/-- What a path leads to. -/
def statusAt (path : Raw) (follow : Bool) : Sh (Option Status) := do
  let result : Except OsError Status ← ask (.inspect path follow)
  pure result.toOption

/-- A bit of the mode of what a path leads to. -/
def hasBit (path : Raw) (bit : Nat) : Sh Bool := do
  let status ← statusAt path true
  pure ((status.map fun status => status.mode / bit % 2 == 1).getD false)

/-- Test what follows an operator. -/
def testSingle (operator operand : Raw) : Sh Bool := do
  let holds := fun (follow : Bool) (condition : Status → Bool) => do
    let status ← statusAt operand follow
    pure ((status.map condition).getD false)
  match String.ofList operator with
  | "-z" => pure operand.isEmpty
  | "-n" => pure !operand.isEmpty
  | "-t" =>
    let _ ← integerOf operand
    pure false
  | "-r" => ask (.allows operand .read)
  | "-w" => ask (.allows operand .write)
  | "-x" => ask (.allows operand .execute)
  | "-e" => holds true fun _ => true
  | "-f" => holds true fun status => status.kind == .file
  | "-d" => holds true fun status => status.kind == .directory
  | "-c" => holds true fun status => status.kind == .device
  | "-p" => holds true fun status => status.kind == .channel
  | "-s" => holds true fun status => status.size != 0
  | "-h" => holds false fun status => status.kind == .link
  | "-L" => holds false fun status => status.kind == .link
  | "-u" => hasBit operand 2048
  | "-g" => hasBit operand 1024
  | "-k" => hasBit operand 512
  | "-O" => holds true fun status => !status.foreign
  | "-G" => holds true fun status => !status.foreign
  | _ => pure false

/-- Test what an operator stands between. -/
def testDouble (operator first second : Raw) : Sh Bool := do
  let numbers := fun (compare : Int → Int → Bool) => do
    let left ← integerOf first
    let right ← integerOf second
    pure (compare left right)
  let files := fun (compare : Status → Status → Bool) => do
    match ← statusAt first true, ← statusAt second true with
    | some left, some right => pure (compare left right)
    | _, _ => pure false
  match String.ofList operator with
  | "=" => pure (first == second)
  | "!=" => pure (first != second)
  | "<" => pure (!Raw.inOrder second first)
  | ">" => pure (!Raw.inOrder first second)
  | "-eq" => numbers fun left right => left == right
  | "-ne" => numbers fun left right => left != right
  | "-ge" => numbers fun left right => left ≥ right
  | "-gt" => numbers fun left right => left > right
  | "-le" => numbers fun left right => left ≤ right
  | "-lt" => numbers fun left right => left < right
  | "-nt" => files fun left right => left.changed > right.changed
  | "-ot" => files fun left right => left.changed < right.changed
  | _ => files fun left right => left.number == right.number && left.number.isSome

/-- What was found out by a test: whether it holds, and its last argument with those that follow. -/
abbrev Tested := Bool × List Raw

mutual

/-- Test alternatives, given what the first argument is. -/
def testEither : Nat → Option (Option Operator) → List Raw → Sh Tested
  | 0, _, arguments => pure (false, arguments)
  | steps + 1, front, arguments => do
    let (first, rest) ← testBoth steps front arguments
    if Operator.atFront (rest.drop 1) == some (some .disjunction) then
      let (second, rest) ← testEither steps (Operator.atFront (rest.drop 2)) (rest.drop 2)
      pure (first || second, rest)
    else pure (first, rest)

/-- Test what has to hold together. -/
def testBoth : Nat → Option (Option Operator) → List Raw → Sh Tested
  | 0, _, arguments => pure (false, arguments)
  | steps + 1, front, arguments => do
    let (first, rest) ← testNegated steps front arguments
    if Operator.atFront (rest.drop 1) == some (some .conjunction) then
      let (second, rest) ← testBoth steps (Operator.atFront (rest.drop 2)) (rest.drop 2)
      pure (first && second, rest)
    else pure (first, rest)

/-- Test what may be negated. -/
def testNegated : Nat → Option (Option Operator) → List Raw → Sh Tested
  | 0, _, arguments => pure (false, arguments)
  | steps + 1, front, arguments => do
    if front != some (some .negation) then testPrimary steps front arguments
    else
      let next := Operator.atFront (arguments.drop 1)
      let (holds, rest) ← testNegated steps next (if next.isNone then arguments else arguments.drop 1)
      pure (!holds, rest)

/-- Test one thing. -/
def testPrimary : Nat → Option (Option Operator) → List Raw → Sh Tested
  | 0, _, arguments => pure (false, arguments)
  | steps + 1, front, arguments => do
    match front, arguments with
    | none, _ => pure (false, arguments)
    | some (some .opening), _ =>
      let inside := arguments.drop 1
      match Operator.atFront inside with
      | some (some .closing) => pure (false, inside)
      | next =>
        let (holds, rest) ← testEither steps next inside
        if Operator.atFront (rest.drop 1) != some (some .closing) then refuseTest [] "closing paren expected"
        else pure (holds, rest.drop 1)
    | some (some .single), operator :: rest =>
      match rest with
      | [] => refuseTest operator "argument expected"
      | operand :: _ => do
        let holds ← testSingle operator operand
        pure (holds, rest)
    | _, first :: operator :: rest =>
      if Operator.atFront (operator :: rest) == some (some .double) then
        match rest with
        | [] => refuseTest operator "argument expected"
        | second :: _ => do
          let holds ← testDouble operator first second
          pure (holds, rest)
      else pure (!first.isEmpty, arguments)
    | _, first :: _ => pure (!first.isEmpty, arguments)
    | _, [] => pure (false, [])

end

/-- Test arguments: the status. -/
def testArguments : Nat → Bool → List Raw → Sh Nat
  | 0, _, _ => pure 1
  | steps + 1, turned, arguments => do
    let status := fun (holds : Bool) => if holds != turned then 0 else 1
    let finish := fun (front : Option (Option Operator)) (arguments : List Raw) => do
      let (holds, rest) ← testEither (8 * arguments.length + 8) front arguments
      match rest with
      | operator :: _ :: _ => refuseTest operator "unexpected operator"
      | _ => pure (status holds)
    let usual := fun (arguments : List Raw) => finish (Operator.atFront arguments) arguments
    match arguments with
    | [] => pure (status false)
    | [_, operator, _] =>
      if Operator.ofText? operator == some .double then finish (some none) arguments
      else inBrackets steps arguments usual
    | [_, _, _, _] => inBrackets steps arguments usual
    | _ => usual arguments
where
  /-- Test arguments that may be in parentheses or begin with a negation. -/
  inBrackets (steps : Nat) (arguments : List Raw) (usual : List Raw → Sh Nat) : Sh Nat :=
    if arguments.head? == some ['('] && arguments.getLast? == some [')'] then
      usual (arguments.drop 1).dropLast
    else if arguments.head? == some ['!'] then testArguments steps true (arguments.drop 1)
    else usual arguments

/-- Test arguments; those of a test in brackets have to end with one. -/
def test (inBrackets : Bool) (arguments : List Raw) : Sh Nat := do
  if !inBrackets then testArguments 8 false arguments
  else if arguments.getLast? == some [']'] then testArguments 8 false arguments.dropLast
  else giveUp "missing ]".toList

end Sh

end AnswerQuery.Host.Script
