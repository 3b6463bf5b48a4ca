import AnswerQuery.Host.Script.Assigning
import AnswerQuery.Host.Script.Builtin.Condition
import AnswerQuery.Host.Tool.Matching

/-! Tests of the rich dialect. -/

namespace AnswerQuery.Host.Script

namespace Sh

/-- A number that an argument of a test stands for. -/
def testNumber (text : Raw) : Sh Int := do
  let front := Numeral.readFront 10 text
  if !front.found || !Numeral.fits front.value || !front.rest.all Raw.isSpace then
    failWith 2 (text ++ ": integer expression expected".toList)
  else pure front.value

/-- Whether a variable or an element of it has a value. -/
def isSet (written : Raw) : Sh Bool := do
  match splitName? written with
  | none => pure false
  | some (name, part) => do
    let textOf := fun (word : Word) => pure (Word.unquoted word)
    let meant ← meaningOf textOf name part
    pure meant.isSet

/-- Test what follows an operator. -/
def judgeSingle (operator operand : Raw) : Sh Bool := do
  match String.ofList operator with
  | "-a" => testSingle "-e".toList operand
  | "-t" => pure false
  | "-o" => do
    let shell ← get
    pure (match (Shell.optionNames .rich).find? fun option => option.1.toList == operand with
      | some (_, letter) => shell.has letter
      | none => false)
  | "-v" => isSet operand
  | "-R" => do
    let shell ← get
    pure (((shell.variables_.lookup operand).map fun variable_ => variable_.has 'n').getD false)
  | "-N" => do
    let status ← statusAt operand true
    pure ((status.map fun status => decide (status.accessed < status.changed)).getD false)
  | _ => testSingle operator operand

/-- Test which of two files is the newer one; one that is there is newer than one that is not. -/
def judgeAges (first second : Raw) : Sh Bool := do
  match ← statusAt first true, ← statusAt second true with
  | some left, some right => pure (right.changed < left.changed)
  | some _, none => pure true
  | none, _ => pure false

/-- Test what an operator stands between, given how numbers are read. -/
def judgeDouble (numberIn : Raw → Sh Int) (operator first second : Raw) : Sh Bool := do
  let numbers := fun (compare : Int → Int → Bool) => do
    let left ← numberIn first
    let right ← numberIn second
    pure (compare left right)
  match String.ofList operator with
  | "==" => pure (first == second)
  | "-eq" => numbers fun left right => left == right
  | "-ne" => numbers fun left right => left != right
  | "-ge" => numbers fun left right => left ≥ right
  | "-gt" => numbers fun left right => left > right
  | "-le" => numbers fun left right => left ≤ right
  | "-lt" => numbers fun left right => left < right
  | "-nt" => judgeAges first second
  | "-ot" => judgeAges second first
  | _ => testDouble operator first second

/-- Whether an argument is an operator that tests what follows. -/
def isSingle (text : Raw) : Bool :=
  Parse.singleOperators.contains text

/-- Whether an argument is an operator that tests what it stands between. -/
def isDouble (text : Raw) : Bool :=
  text == ['<'] || text == ['>'] || (Parse.doubleOperators.contains text && text != "=~".toList)

/-- What was found out by a test of arguments, and the arguments that follow. -/
abbrev Judged := Bool × List Raw

/-- Refuse the arguments of a test. -/
def refuseArguments {α : Type} (message : Raw) : Sh α :=
  failWith 2 message

/-- Arguments after the first one, of which there has to be one. -/
def advance (arguments : List Raw) : Sh (List Raw) := do
  let rest := arguments.drop 1
  if rest.isEmpty then refuseArguments "argument expected".toList
  pure rest

mutual

/-- Test alternatives. -/
def judgeEither : Nat → List Raw → Sh Judged
  | 0, arguments => pure (false, arguments)
  | steps + 1, arguments => do
    if arguments.isEmpty then refuseArguments "argument expected".toList
    let (first, rest) ← judgeBoth steps arguments
    if rest.head? == some "-o".toList then
      let (second, rest) ← judgeEither steps (rest.drop 1)
      pure (first || second, rest)
    else pure (first, rest)

/-- Test what has to hold together. -/
def judgeBoth : Nat → List Raw → Sh Judged
  | 0, arguments => pure (false, arguments)
  | steps + 1, arguments => do
    let (first, rest) ← judgeTerm steps arguments
    if rest.head? == some "-a".toList then
      let (second, rest) ← judgeBoth steps (rest.drop 1)
      pure (first && second, rest)
    else pure (first, rest)

/-- Test one thing. -/
def judgeTerm : Nat → List Raw → Sh Judged
  | 0, arguments => pure (false, arguments)
  | steps + 1, arguments => do
    match arguments with
    | [] => refuseArguments "argument expected".toList
    | ['!'] :: _ => do
      let rest ← advance arguments
      let (holds, rest) ← judgeTerm steps rest
      pure (!holds, rest)
    | ['('] :: _ => do
      let rest ← advance arguments
      let (holds, rest) ← judgeEither steps rest
      match rest with
      | [')'] :: rest => pure (holds, rest)
      | other :: _ => refuseArguments ("\x60)' expected, found ".toList ++ other)
      | [] => refuseArguments "\x60)' expected, found ]".toList
    | first :: operator :: second :: rest =>
      if isDouble operator then
        let holds ← judgeDouble testNumber operator first second
        pure (holds, rest)
      else if isSingle first then
        let holds ← judgeSingle first operator
        pure (holds, second :: rest)
      else pure (!first.isEmpty, operator :: second :: rest)
    | [first, operand] =>
      if isSingle first then
        let holds ← judgeSingle first operand
        pure (holds, [])
      else pure (!first.isEmpty, [operand])
    | [first] => pure (!first.isEmpty, [])

end

/-- Test two arguments. -/
def judgeTwo (first second : Raw) : Sh Bool := do
  if first == ['!'] then pure second.isEmpty
  else if isSingle first then judgeSingle first second
  else refuseArguments (first ++ ": unary operator expected".toList)

/-- Test three arguments. -/
def judgeThree (first second third : Raw) : Sh Bool := do
  if isDouble second then judgeDouble testNumber second first third
  else if second == "-a".toList then pure (!first.isEmpty && !third.isEmpty)
  else if second == "-o".toList then pure (!first.isEmpty || !third.isEmpty)
  else if first == ['!'] then
    let holds ← judgeTwo second third
    pure !holds
  else if first == ['('] && third == [')'] then pure !second.isEmpty
  else refuseArguments (second ++ ": binary operator expected".toList)

/-- Test as many arguments as there are. -/
def judgeArguments (arguments : List Raw) : Sh Bool := do
  let usual := do
    let (holds, rest) ← judgeEither (4 * arguments.length + 8) arguments
    match rest with
    | [] => pure holds
    | _ => refuseArguments "too many arguments".toList
  match arguments with
  | [] => pure false
  | [only] => pure !only.isEmpty
  | [first, second] => judgeTwo first second
  | [first, second, third] => judgeThree first second third
  | [first, second, third, fourth] =>
    if first == ['!'] then
      let holds ← judgeThree second third fourth
      pure !holds
    else if first == ['('] && fourth == [')'] then judgeTwo second third
    else usual
  | _ => usual

/-- Test arguments; those of a test in brackets have to end with one. -/
def judge (inBrackets : Bool) (arguments : List Raw) : Sh Nat := do
  if inBrackets && arguments.getLast? != some [']'] then failWith 2 "missing \x60]'".toList
  let holds ← judgeArguments (if inBrackets then arguments.dropLast else arguments)
  pure (if holds then 0 else 1)

end Sh

end AnswerQuery.Host.Script

/-! Conditions in double brackets: what they find out, as a status. -/

namespace AnswerQuery.Host.Script

namespace Sh

/-- The characters that mean something in an expression. -/
def expressionMarks : Raw :=
  ".[\\()*+?\x7b|^$".toList

/-- The characters that a word has become, those in quotes behind backslashes if they are some of a kind. -/
def guardedCharacters (isSpecial : Char → Bool) (glyphs : List Glyph) : Raw :=
  (Glyph.quotedFrom false glyphs).flatMap fun (c, quoted) => if quoted && isSpecial c then ['\\', c] else [c]

/-- How expressions are read in conditions. -/
def expressionDialect (ignoresCase : Bool) : Tool.Dialect where
  extended := true
  stray := .refused
  ignoresCase

/-- Compare a text with an expression, and keep what its groups match: the status. -/
def matchExpression (text expression : Raw) : Sh Nat := do
  let shell ← get
  let dialect := expressionDialect (shell.switches.contains "nocasematch".toList)
  match Tool.Matcher.read dialect expression with
  | .error _ => pure 2
  | .ok matcher => do
    let characters := text.toArray
    let found := matcher.find? characters 0
    let part := fun (start stop : Nat) => (text.take stop).drop start
    let values := match found with
      | none => []
      | some whole =>
        part whole.start whole.stop :: (List.range matcher.groupCount).map fun index =>
          match whole.groups.find? fun group => group.1 == index + 1 with
          | some (_, start, stop) => part start stop
          | none => []
    modify fun shell => shell.put "BASH_REMATCH".toList { value := none, items := some (.ofValues values) }
    pure (if found.isSome then 0 else 1)

/-- The number that a formula in a condition stands for. -/
def formulaNumber (text : Raw) : Sh Int :=
  withCommand (some "[[".toList) (reckon text)

/-- The status of a test, which does not hold if something is wrong about its numbers. -/
def statusOfTest (test : Sh Bool) : Sh Nat := do
  match ← attempt test with
  | .ok holds => pure (if holds then 0 else 1)
  | .error .error => pure 1
  | .error leaving => throw leaving

/-- A test as it is shown. -/
def shownTest (inverted : Bool) (operator : Raw) (operands : List Raw) : Raw :=
  let shown := operands.map fun operand => if operand.isEmpty then "''".toList else operand
  let words := match shown with
    | [first, second] => [first, operator, second]
    | _ => operator :: shown
  "[[ ".toList ++ (if inverted then "! ".toList else []) ++ [' '].intercalate words ++ " ]]".toList

/-- The status of a condition that holds if another one does not. -/
def turnedIf (inverted : Bool) (status : Nat) : Nat :=
  if inverted then (if status = 0 then 1 else 0) else status

/-- What a condition finds out, given what is done with each test before it is made. -/
def decide_ (capture : Capture) (show_ : Raw → Sh Unit) : Bool → Decision → Sh Nat
  | inverted, .single operator operand => do
    let text ← wordText capture operand
    show_ (shownTest inverted operator [text])
    let status ← statusOfTest (judgeSingle operator text)
    pure (turnedIf inverted status)
  | inverted, .double operator first second => do
    let text ← wordText capture first
    let glyphs ← expandAll capture { tilde := true } second
    let told := fun (shown : Raw) => show_ (shownTest inverted operator [text, shown])
    let status ← match String.ofList operator with
      | "=~" => do
        let expression := guardedCharacters expressionMarks.contains glyphs
        told expression
        matchExpression text expression
      | "==" => fits told text glyphs
      | "=" => fits told text glyphs
      | "!=" => turnedIf true <$> fits told text glyphs
      | _ => do
        told (Glyph.text glyphs)
        statusOfTest (judgeDouble formulaNumber operator text (Glyph.text glyphs))
    pure (turnedIf inverted status)
  | inverted, .negated body => decide_ capture show_ (!inverted) body
  | inverted, .both first second => do
    let status ← decide_ capture show_ false first
    let status ← if status = 0 then decide_ capture show_ false second else pure status
    pure (turnedIf inverted status)
  | inverted, .either first second => do
    let status ← decide_ capture show_ false first
    let status ← if status = 0 then pure status else decide_ capture show_ false second
    pure (turnedIf inverted status)
where
  /-- Compare a text with a pattern. -/
  fits (told : Raw → Sh Unit) (text : Raw) (glyphs : List Glyph) : Sh Nat := do
    told (guardedCharacters (fun _ => true) glyphs)
    let folds := (← get).switches.contains "nocasematch".toList
    let folded := fun (c : Char) => if folds then c.toLower else c
    let marked := (Marked.withCarets (Glyph.marked glyphs)).map fun (c, literal) => (folded c, literal)
    pure (if Wildcard.fits (Wildcard.ofMarked true marked) (text.map folded) then 0 else 1)

end Sh

end AnswerQuery.Host.Script
