import AnswerQuery.Host.Tool.Matching
import AnswerQuery.Host.Tool.Path

/-! Working out expressions and conditions that are given as arguments. -/

namespace AnswerQuery.Host.Tool

namespace Reckoning

/-- What is worked out. -/
inductive Value where
  | number (number : Int)
  | text (text : Raw)
  deriving Repr

namespace Value

/-- A value as it is written. -/
def shown : Value → Raw
  | number n => (if n < 0 then ['-'] else []) ++ decimal n.natAbs
  | text written => written

/-- The number that a value is, if it is one. -/
def number? : Value → Option Int
  | number n => some n
  | text written =>
    let digits := if written.head? == some '-' then written.drop 1 else written
    if digits.isEmpty || !digits.all Char.isDigit then none
    else
      let size := Int.ofNat (Numeral.valueOf 10 digits)
      some (if written.head? == some '-' then -size else size)

/-- Whether a value counts as nothing. -/
def isNull : Value → Bool
  | number n => n == 0
  | text written =>
    let digits := if written.head? == some '-' then written.drop 1 else written
    written.isEmpty || (!digits.isEmpty && digits.all (· == '0'))

/-- A condition as a value. -/
def ofBool (holds : Bool) : Value := number (if holds then 1 else 0)

end Value

/-- What is still to be read, and what was read last. -/
structure Rest where
  /-- What was read last. -/
  last : Raw
  /-- What is still to be read. -/
  arguments : List Raw

/-- Working out, which can fail with a complaint. -/
abbrev Work := StateT Rest (Except Raw)

/-- Take the next argument. -/
def take : Work Raw := do
  let rest ← get
  match rest.arguments with
  | [] => throw ("syntax error: missing argument after ".toList ++ quoted rest.last)
  | argument :: arguments => do
    set (Rest.mk argument arguments)
    pure argument

/-- Take the next argument if it is one of some words. -/
def takeOne (words : List String) : Work (Option String) := do
  match (← get).arguments with
  | [] => pure none
  | argument :: _ =>
    match words.find? fun word => word.toList == argument with
    | none => pure none
    | some word => do
      let _ ← take
      pure (some word)

/-- Match the front of a text with an expression. -/
def matchFront (text expression : Value) : Work Value := do
  match Matcher.read { extended := false } expression.shown with
  | .error message => throw message.toList
  | .ok matcher =>
    let characters := text.shown.toArray
    let part := fun (from_ to_ : Nat) => Value.text ((text.shown.drop from_).take (to_ - from_))
    match matcher.matchAt? characters 0 with
    | none => pure (if matcher.groupCount = 0 then .number 0 else .text [])
    | some found =>
      if matcher.groupCount = 0 then pure (.number found.stop)
      else match found.groups.lookup 1 with
        | some (from_, to_) => pure (part from_ to_)
        | none => pure (.text [])

/-- The place of the first character of a text that is one of some others, counted from one. -/
def indexOf (text characters : Raw) : Nat :=
  match text.findIdx? characters.contains with
  | some place => place + 1
  | none => 0

/-- A part of a text. -/
def part (text first count : Value) : Value :=
  match first.number?, count.number? with
  | some first, some count =>
    if first ≤ 0 || count ≤ 0 then .text [] else .text ((text.shown.drop (first.toNat - 1)).take count.toNat)
  | _, _ => .text []

/-- The operators by how closely they bind, the loosest ones first. -/
def operators : List (List String) :=
  [["|"], ["&"], ["<", "<=", "=", "==", "!=", ">=", ">"], ["+", "-"], ["*", "/", "%"], [":"]]

/-- Compare two values as numbers if they are, and else as texts. -/
def compare (operator : String) (first second : Value) : Value :=
  let ordering := match first.number?, second.number? with
    | some left, some right => Ord.compare left right
    | _, _ =>
      if first.shown == second.shown then Ordering.eq
      else if Raw.inOrder first.shown second.shown then .lt else .gt
  .ofBool (match operator with
    | "<" => ordering == .lt
    | "<=" => ordering != .gt
    | "!=" => ordering != .eq
    | ">=" => ordering != .lt
    | ">" => ordering == .gt
    | _ => ordering == .eq)

/-- Calculate with two numbers. -/
def calculate (operator : String) (first second : Value) : Except Raw Value := do
  match first.number?, second.number? with
  | some left, some right =>
    match operator with
    | "+" => pure (.number (left + right))
    | "-" => pure (.number (left - right))
    | "*" => pure (.number (left * right))
    | _ =>
      if right == 0 then throw "division by zero".toList
      else pure (.number (if operator == "/" then left.tdiv right else left.tmod right))
  | _, _ => throw "non-integer argument".toList

/-- What an operator leads to; operands that do not matter may be wrong. -/
def combine (evaluates : Bool) (operator : String) (first second : Value) : Work Value := do
  match operator with
  | "|" => pure (if !first.isNull then first else if second.isNull then .number 0 else second)
  | "&" => pure (if first.isNull || second.isNull then .number 0 else first)
  | ":" => if evaluates then matchFront first second else pure first
  | _ =>
    if ["+", "-", "*", "/", "%"].contains operator then
      if evaluates then calculate operator first second else pure first
    else pure (compare operator first second)

mutual

/-- Work out operands that are joined by operators of a level or by closer ones. -/
def level : Nat → List (List String) → Bool → Work Value
  | 0, _, _ => take.map fun argument => .text argument
  | steps + 1, [], evaluates => single steps evaluates
  | steps + 1, words :: closer, evaluates => do
    let first ← level steps closer evaluates
    onward steps words closer evaluates first

/-- Go on behind the first operand of a level. -/
def onward : Nat → List String → List (List String) → Bool → Value → Work Value
  | 0, _, _, _, first => pure first
  | steps + 1, words, closer, evaluates, first => do
    match ← takeOne words with
    | none => pure first
    | some operator => do
      let matters := match operator with
        | "|" => evaluates && first.isNull
        | "&" => evaluates && !first.isNull
        | _ => evaluates
      let second ← level steps closer matters
      let value ← combine evaluates operator first second
      onward steps words closer evaluates value

/-- Work out something that is not joined. -/
def single : Nat → Bool → Work Value
  | 0, _ => take.map fun argument => .text argument
  | steps + 1, evaluates => do
    match ← takeOne ["+", "length", "match", "index", "substr", "(", ")"] with
    | none => take.map fun argument => .text argument
    | some "+" => take.map fun argument => .text argument
    | some "length" => do
      let text ← single steps evaluates
      pure (.number text.shown.length)
    | some "match" => do
      let text ← single steps evaluates
      let expression ← single steps evaluates
      if evaluates then matchFront text expression else pure text
    | some "index" => do
      let text ← single steps evaluates
      let characters ← single steps evaluates
      pure (.number (indexOf text.shown characters.shown))
    | some "substr" => do
      let text ← single steps evaluates
      let first ← single steps evaluates
      let count ← single steps evaluates
      pure (part text first count)
    | some "(" => do
      let value ← level steps operators evaluates
      let rest ← get
      match rest.arguments with
      | [] => throw ("syntax error: expecting ')' after ".toList ++ quoted rest.last)
      | [')'] :: _ => do
        let _ ← take
        pure value
      | other :: _ => throw ("syntax error: expecting ')' instead of ".toList ++ quoted other)
    | some _ => throw "syntax error: unexpected ')'".toList

end

/-- Work out an expression. -/
def all (arguments : List Raw) : Except Raw Value := do
  let (value, rest) ← (level (16 * arguments.length + 32) operators true).run ⟨[], arguments⟩
  match rest.arguments with
  | [] => pure value
  | extra :: _ => throw ("syntax error: unexpected argument ".toList ++ quoted extra)

end Reckoning

/-- Work out an expression and write what it comes to. -/
def expr : Utility := ofAct fun arguments => do
  modify fun output => { output with outputStatus := 3 }
  let arguments := if arguments.head? == some ['-', '-'] then arguments.drop 1 else arguments
  if arguments.isEmpty then Act.refuse 2 "missing operand".toList
  match Reckoning.all arguments with
  | .error message => Act.die 2 message
  | .ok value => do
    Act.sayLine value.shown
    if value.isNull then Act.fail 1

namespace Judging

/-- Judging arguments, those that are still to be read being known. -/
abbrev Work := StateT (List Raw) Act

/-- End with a complaint. -/
def refuse {α : Type} (message : Raw) : Work α :=
  StateT.lift (Act.die 2 message)

/-- Complain that something is missing behind the last argument. -/
def missing {α : Type} (last : Raw) : Work α :=
  refuse ("missing argument after ".toList ++ quoted last)

/-- Pass over an argument; the flag tells whether another one has to follow. -/
def advance (last : Raw) (needsMore : Bool) : Work Unit := do
  modify (List.drop 1)
  if needsMore && (← get).isEmpty then missing last

/-- The operators between two arguments. -/
def doubles : List String :=
  ["=", "!=", "==", "-nt", "-ot", "-ef", "-eq", "-ne", "-lt", "-le", "-gt", "-ge"]

/-- Whether an argument is an operator between two arguments. -/
def isDouble (argument : Raw) : Bool :=
  doubles.any fun word => word.toList == argument

/-- Whether an argument looks like an operator in front of another one. -/
def isSingle (argument : Raw) : Bool :=
  argument.length == 2 && argument.head? == some '-'

/-- The number that an argument is. -/
def numberOf (argument : Raw) : Work Int := do
  let text := dropTrailing Raw.isSpace (argument.dropWhile Raw.isSpace)
  let digits := match text with
    | '+' :: digits => digits
    | '-' :: digits => digits
    | digits => digits
  if digits.isEmpty || !digits.all Char.isDigit then refuse ("invalid integer ".toList ++ quoted argument)
  else
    let size := Int.ofNat (Numeral.valueOf 10 digits)
    pure (if text.head? == some '-' then -size else size)

/-- What a path leads to. -/
def statusAt (path : Raw) (follow : Bool) : Work (Option Status) := do
  let result ← Act.inspect path follow
  pure result.toOption

/-- Judge by an operator in front of an argument. -/
def single (last : Raw) : Work Bool := do
  let arguments ← get
  let operator := arguments.head?.getD []
  let operand := (arguments[1]?).getD []
  let holds := fun (follow : Bool) (condition : Status → Bool) => do
    advance last true
    advance last false
    let status ← statusAt operand follow
    pure ((status.map condition).getD false)
  let allows := fun (use : Use) => do
    advance last true
    advance last false
    let allowed : Bool ← Act.ask (.allows operand use)
    pure allowed
  match (operator[1]?).getD ' ' with
  | 'e' => holds true fun _ => true
  | 'r' => allows .read
  | 'w' => allows .write
  | 'x' => allows .execute
  | 'N' => holds true fun status => status.kind == .file
  | 'O' => holds true fun status => !status.foreign
  | 'G' => holds true fun status => !status.foreign
  | 'f' => holds true fun status => status.kind == .file
  | 'd' => holds true fun status => status.kind == .directory
  | 's' => holds true fun status => status.size != 0
  | 'c' => holds true fun status => status.kind == .device
  | 'S' => holds true fun _ => false
  | 'b' => holds true fun _ => false
  | 'p' => holds true fun status => status.kind == .channel
  | 'L' => holds false fun status => status.kind == .link
  | 'h' => holds false fun status => status.kind == .link
  | 'u' => holds true fun status => Nat.land status.mode 0o4000 != 0
  | 'g' => holds true fun status => Nat.land status.mode 0o2000 != 0
  | 'k' => holds true fun status => Nat.land status.mode 0o1000 != 0
  | 't' => do
    advance last true
    let _ ← numberOf operand
    advance last false
    pure false
  | 'n' => do
    advance last true
    advance last false
    pure !operand.isEmpty
  | 'z' => do
    advance last true
    advance last false
    pure operand.isEmpty
  | _ => refuse (quoted operator ++ ": unary operator expected".toList)

/-- Judge by an operator between two arguments; the flag tells whether the length of the first one is meant. -/
def double (last : Raw) (lengthFirst : Bool) : Work Bool := do
  if lengthFirst then advance last false
  let arguments ← get
  let first := arguments.head?.getD []
  let operator := String.ofList ((arguments[1]?).getD [])
  let lengthSecond := arguments[2]? == some ['-', 'l'] && 3 < arguments.length
  if lengthSecond then advance last false
  let second := ((if lengthSecond then arguments[3]? else arguments[2]?)).getD []
  let numbers := fun (condition : Int → Int → Bool) => do
    let left ← if lengthFirst then pure (Int.ofNat first.length) else numberOf first
    let right ← if lengthSecond then pure (Int.ofNat second.length) else numberOf second
    pure (condition left right)
  let changed := fun (path : Raw) => do
    let status ← statusAt path true
    pure (status.map Status.changed)
  let isLater := fun (first second : Option Calendar.Moment) => match first, second with
    | some one, some other => decide (other < one)
    | some _, none => true
    | none, _ => false
  if (lengthFirst || lengthSecond) && ["-nt", "-ot", "-ef"].contains operator then
    refuse (operator.toList ++ " does not accept -l".toList)
  let holds ← match operator with
    | "=" => pure (first == second)
    | "==" => pure (first == second)
    | "!=" => pure (first != second)
    | "-nt" => do pure (isLater (← changed first) (← changed second))
    | "-ot" => do pure (isLater (← changed second) (← changed first))
    | "-ef" => do
      match ← statusAt first true, ← statusAt second true with
      | some one, some other => pure (one.number.isSome && one.number == other.number)
      | _, _ => pure false
    | "-eq" => numbers fun left right => left == right
    | "-ne" => numbers fun left right => left != right
    | "-lt" => numbers fun left right => left < right
    | "-le" => numbers fun left right => left ≤ right
    | "-gt" => numbers fun left right => left > right
    | _ => numbers fun left right => left ≥ right
  modify (List.drop 3)
  pure holds

/-- Judge one argument. -/
def one : Work Bool := do
  let argument := (← get).head?.getD []
  modify (List.drop 1)
  pure !argument.isEmpty

/-- Judge two arguments. -/
def two (last : Raw) : Work Bool := do
  let first := (← get).head?.getD []
  if first == ['!'] then do
    modify (List.drop 1)
    let holds ← one
    pure !holds
  else if isSingle first then single last
  else missing last

mutual

/-- Judge three arguments. -/
def three (last : Raw) : Nat → Work Bool
  | 0 => pure false
  | steps + 1 => do
    let arguments ← get
    let middle := (arguments[1]?).getD []
    if isDouble middle then double last false
    else if arguments.head? == some ['!'] then do
      advance last true
      let holds ← two last
      pure !holds
    else if arguments.head? == some ['('] && arguments[2]? == some [')'] then do
      advance last false
      let holds ← one
      advance last false
      pure holds
    else if middle == ['-', 'a'] || middle == ['-', 'o'] then either last steps
    else refuse (quoted middle ++ ": binary operator expected".toList)

/-- Judge so many arguments. -/
def some_ (last : Raw) : Nat → Nat → Work Bool
  | 0, _ => pure false
  | steps + 1, count => do
    let arguments ← get
    match count with
    | 1 => one
    | 2 => two last
    | 3 => three last steps
    | _ =>
      if count = 4 && arguments.head? == some ['!'] then do
        advance last true
        let holds ← three last steps
        pure !holds
      else if count = 4 && arguments.head? == some ['('] && arguments[3]? == some [')'] then do
        advance last false
        let holds ← two last
        advance last false
        pure holds
      else do
        if arguments.isEmpty then missing last
        either last steps

/-- Judge alternatives. -/
def either (last : Raw) : Nat → Work Bool
  | 0 => pure false
  | steps + 1 => do
    let holds ← both last steps
    if (← get).head? == some ['-', 'o'] then do
      advance last false
      let others ← either last steps
      pure (holds || others)
    else pure holds

/-- Judge what has to hold together. -/
def both (last : Raw) : Nat → Work Bool
  | 0 => pure false
  | steps + 1 => do
    let holds ← term last steps
    if (← get).head? == some ['-', 'a'] then do
      advance last false
      let others ← both last steps
      pure (holds && others)
    else pure holds

/-- Judge what is not joined. -/
def term (last : Raw) : Nat → Work Bool
  | 0 => pure false
  | steps + 1 => do
    let arguments ← get
    match arguments with
    | [] => missing last
    | ['!'] :: _ => do
      advance last true
      let holds ← term last steps
      pure !holds
    | ['('] :: _ => do
      advance last true
      let inside ← get
      let count := inside.findIdx fun argument => argument == [')']
      let count := max count 1
      let holds ← some_ last steps (if count ≤ 4 && count < inside.length then count else inside.length)
      match (← get).head? with
      | none => refuse "')' expected".toList
      | some [')'] => do
        advance last false
        pure holds
      | some other => refuse ("')' expected, found ".toList ++ quoted other)
    | first :: _ =>
      let operator := fun (place : Nat) => ((arguments[place]?).map isDouble).getD false
      if 4 ≤ arguments.length && first == ['-', 'l'] && operator 2 then double last true
      else if 3 ≤ arguments.length && operator 1 then double last false
      else if isSingle first then single last
      else one

end

/-- Judge arguments: the status. -/
def judge (arguments : List Raw) : Act Unit := do
  if arguments.isEmpty then Act.fail 1
  else
    let last := arguments.getLast?.getD []
    let (holds, rest) ← (some_ last (8 * arguments.length + 16) arguments.length).run arguments
    match rest with
    | extra :: _ => Act.die 2 ("extra argument ".toList ++ quoted extra)
    | [] => if !holds then Act.fail 1

end Judging

/-- Judge arguments. -/
def judge : Utility := ofAct Judging.judge

/-- Judge arguments that end with a bracket. -/
def judgeInBrackets : Utility := ofAct fun arguments => do
  if arguments.getLast? != some [']'] then Act.die 2 "missing ']'".toList
  Judging.judge arguments.dropLast

/-- The programs of this kind. -/
def judgingTools : List (String × Utility) :=
  [("expr", expr), ("test", judge), ("[", judgeInBrackets)]

end AnswerQuery.Host.Tool
