import AnswerQuery.Host.Tool.Report.Token

/-! The grammar of the scripts of reports. -/

namespace AnswerQuery.Host.Tool.Report

/-- What has been read as part of a formula. -/
structure Operand where
  /-- The formula. -/
  formula : Formula
  /-- Where a value could be put, if it is that. -/
  place : Option Target := none
  /-- The name, if it is no more than that. -/
  bare : Option Raw := none
  /-- Several formulas in parentheses. -/
  list : Option (List Formula) := none

namespace Read

/-- What names that are used so are called, given whether they belong to a function. -/
def usageText (isOwn : Bool) (usage : Usage) : Raw :=
  let kind := match usage with
    | .unknown => "untyped variable"
    | .variable => "variable"
    | .table => "array"
    | .function => "function"
  (if isOwn then "local ".toList else []) ++ kind.toList

/-- What a name stands for that is used in some way. -/
def resolve (name : Raw) (usage : Usage) : Read Name := do
  let reading ← get
  let check := fun (isOwn : Bool) (known : Usage) => do
    if known != .unknown && usage != .unknown && known != usage then
      complain ("illegal reference to ".toList ++ usageText isOwn known ++ ' ' :: name)
  let settled := fun (known : Usage) => if known == .unknown then usage else known
  match reading.parameters.lookup name with
  | some known => do
    check true known
    modify fun reading => { reading with
      parameters := reading.parameters.map fun (other, known) => (other, if other == name then settled known else known) }
    pure (.own (reading.parameters.findIdx fun parameter => parameter.1 == name))
  | none =>
    match reading.names.lookup name with
    | some (index, known) => do
      check false known
      if known == .unknown && usage != .unknown then
        modify fun reading => { reading with
          names := reading.names.map fun (other, index, known) => (other, index, if other == name then usage else known) }
      pure (.shared index)
    | none => do
      let index := reading.names.length
      modify fun reading => { reading with names := reading.names ++ [(name, index, usage)] }
      pure (.shared index)

/-- The value of an operand. -/
def value (operand : Operand) : Read Formula := do
  if let some name := operand.bare then
    let _ ← resolve name .variable
  pure operand.formula

/-- The place of an operand. -/
def placeOf (operand : Operand) (target : Target) : Read Target := do
  let _ ← value operand
  pure target

/-- The number of a function. -/
def functionNumber (name : Raw) : Read Nat := do
  let reading ← get
  match reading.functions.findIdx? fun function => function.name == name with
  | some index => pure index
  | none => do
    modify fun reading => { reading with functions := reading.functions.push { name } }
    pure reading.functions.size

/-- Whether an operand can begin with a token where formulas follow each other. -/
def beginsOperand : Token → Bool
  | .number .. => true
  | .text _ => true
  | .pattern _ => true
  | .name _ => true
  | .function _ => true
  | .builtin _ => true
  | .word word => word == "getline" || word == "length"
  | .sign sign => ["(", "$", "!", "++", "--"].contains sign
  | _ => false

/-- The signs that put a value somewhere, and how they reckon. -/
def assignments : List (String × Option Arithmetic) :=
  [("=", none), ("+=", some .add), ("-=", some .subtract), ("*=", some .multiply), ("/=", some .divide),
    ("%=", some .remainder), ("^=", some .power)]

/-- The signs of comparisons. -/
def comparisons : List (String × Comparison) :=
  [("==", .equal), ("!=", .different), ("<", .less), ("<=", .lessEqual), (">", .greater), (">=", .greaterEqual)]

/-- The signs between terms. -/
def additions : List (String × Arithmetic) := [("+", .add), ("-", .subtract)]

/-- The signs between factors. -/
def multiplications : List (String × Arithmetic) := [("*", .multiply), ("/", .divide), ("%", .remainder)]

/-- The functions that are called with a fixed number of arguments: the least and the greatest one. -/
def plainBuiltins : List (String × Builtin × Nat × Nat) :=
  [("index", .index, 2, 2), ("substr", .substring, 2, 3), ("sprintf", .format, 1, 255), ("sin", .sine, 1, 1),
    ("cos", .cosine, 1, 1), ("atan2", .arcTangent, 2, 2), ("exp", .exponential, 1, 1), ("log", .logarithm, 1, 1),
    ("int", .integral, 1, 1), ("sqrt", .root, 1, 1), ("rand", .random, 0, 0), ("srand", .seed, 0, 1),
    ("close", .close, 1, 1), ("system", .system, 1, 1), ("toupper", .upper, 1, 1), ("tolower", .lower, 1, 1),
    ("fflush", .flush, 0, 1), ("systime", .now, 0, 0), ("strftime", .formatTime, 0, 3), ("mktime", .makeTime, 1, 1)]

/-- What a sign stands for among some signs. -/
def signAmong {α : Type} (signs : List (String × α)) (token : Token) : Option α :=
  match token with
  | .sign sign => signs.lookup sign
  | _ => none

/-- The name that has to come next. -/
def tableName : Read Name := do
  match ← peek with
  | .name name => do
    advance
    resolve name .table
  | _ => refuse

mutual

/-- Read a formula. -/
def formula : Nat → Read Operand
  | 0 => throw .final
  | steps + 1 => do
    let condition ← binary steps 0
    if ← accept "?" then
      let condition ← value condition
      let yes ← value (← formula steps)
      expect ":"
      let no ← value (← formula steps)
      pure { formula := .choose condition yes no }
    else pure condition

/-- Read a formula of which the value is wanted. -/
def valued : Nat → Read Formula
  | 0 => throw .final
  | steps + 1 => do value (← formula steps)

/-- Read formulas between commas. -/
def listed : Nat → Read (List Formula)
  | 0 => throw .final
  | steps + 1 => do
    let first ← valued steps
    if ← accept "," then
      let others ← listed steps
      pure (first :: others)
    else pure [first]

/-- Read what signs of a level join, or those of higher levels. -/
def binary : Nat → Nat → Read Operand
  | 0, _ => throw .final
  | steps + 1, level => do
    if 5 ≤ level then joined steps
    else
      let first ← binary steps (level + 1)
      binaryRest steps level first

/-- Read what signs of a level join to a first operand. -/
def binaryRest : Nat → Nat → Operand → Read Operand
  | 0, _, _ => throw .final
  | steps + 1, level, first => do
    let token ← peek
    let goOn := fun (join : Formula → Formula → Formula) => do
      advance
      let first ← value first
      let second ← value (← binary steps (level + 1))
      binaryRest steps level { formula := join first second }
    match level with
    | 0 => if token.isSign "||" then goOn .either else pure first
    | 1 => if token.isSign "&&" then goOn .both else pure first
    | 2 =>
      if token.isWord "in" then do
        advance
        let first ← value first
        let table ← tableName
        -- What follows the table may be a sign of any level.
        let whole ← binaryRest steps 4 { formula := .within [first] table }
        let whole ← binaryRest steps 3 whole
        binaryRest steps level whole
      else pure first
    | 3 =>
      if token.isSign "~" then goOn (.fits true)
      else if token.isSign "!~" then goOn (.fits false)
      else pure first
    | _ =>
      match signAmong comparisons token with
      | some comparison => goOn (.compare comparison)
      | none => pure first

/-- Read a place and what is put there, or operands that follow each other. -/
def joined : Nat → Read Operand
  | 0 => throw .final
  | steps + 1 => do
    let first ← sum steps
    match first.place, signAmong assignments (← peek) with
    | some target, some operation => do
      advance
      let target ← placeOf first target
      let second ← valued steps
      pure { formula := .put operation target second }
    | _, _ => joinedRest steps first

/-- Read operands that follow a first one. -/
def joinedRest : Nat → Operand → Read Operand
  | 0, _ => throw .final
  | steps + 1, first => do
    if first.list.isNone && beginsOperand (← peek) then
      let front ← value first
      let second ← value (← sum steps)
      joinedRest steps { formula := .joined front second }
    else pure first

/-- Read terms. -/
def sum : Nat → Read Operand
  | 0 => throw .final
  | steps + 1 => do
    let first ← product steps
    sumRest steps first

/-- Read the terms that follow a first one. -/
def sumRest : Nat → Operand → Read Operand
  | 0, _ => throw .final
  | steps + 1, first => do
    match signAmong additions (← peek) with
    | some operation => do
      advance
      let front ← value first
      let second ← value (← product steps)
      sumRest steps { formula := .reckon operation front second }
    | none => pure first

/-- Read factors. -/
def product : Nat → Read Operand
  | 0 => throw .final
  | steps + 1 => do
    let first ← signed steps
    productRest steps first

/-- Read the factors that follow a first one. -/
def productRest : Nat → Operand → Read Operand
  | 0, _ => throw .final
  | steps + 1, first => do
    match signAmong multiplications (← peek) with
    | some operation => do
      advance
      let front ← value first
      let second ← value (← signed steps)
      productRest steps { formula := .reckon operation front second }
    | none => pure first

/-- Read an operand with signs in front of it. -/
def signed : Nat → Read Operand
  | 0 => throw .final
  | steps + 1 => do
    if ← accept "!" then pure { formula := .opposite (← value (← signed steps)) }
    else if ← accept "-" then pure { formula := .negative (← value (← signed steps)) }
    else if ← accept "+" then pure { formula := .positive (← value (← signed steps)) }
    else
      let first ← power steps
      piped steps first

/-- Read the words that read from a command. -/
def piped : Nat → Operand → Read Operand
  | 0, _ => throw .final
  | steps + 1, first => do
    if first.list.isNone && (← peek).isSign "|" then
      advance
      if !(← peek).isWord "getline" then refuse
      advance
      let command ← value first
      let target ← place? steps
      piped steps { formula := .readCommand command target }
    else pure first

/-- Read a power. -/
def power : Nat → Read Operand
  | 0 => throw .final
  | steps + 1 => do
    let base ← counted steps
    if ← accept "^" then
      let token ← peek
      let base ← value base
      let hasSign := token.isSign "-" || token.isSign "+" || token.isSign "!"
      let exponent ← value (← if hasSign then signed steps else power steps)
      pure { formula := .reckon .power base exponent }
    else pure base

/-- Read an operand that may be counted up or down behind it. -/
def counted : Nat → Read Operand
  | 0 => throw .final
  | steps + 1 => do
    let first ← primary steps
    match first.place with
    | some target => do
      if ← accept "++" then pure { formula := .step .add true (← placeOf first target) }
      else if ← accept "--" then pure { formula := .step .subtract true (← placeOf first target) }
      else pure first
    | none => pure first

/-- Read a place if one comes next. -/
def place? : Nat → Read (Option Target)
  | 0 => throw .final
  | steps + 1 => do
    let token ← peek
    let begins := token.isSign "$" || match token with
      | .name _ => true
      | _ => false
    if begins then pure (some (← target steps)) else pure none

/-- Read a place. -/
def target : Nat → Read Target
  | 0 => throw .final
  | steps + 1 => do
    let token ← peek
    let begins := token.isSign "$" || token.isSign "(" || match token with
      | .name _ => true
      | _ => false
    if !begins then refuse
    let operand ← primary steps
    match operand.place with
    | some target => placeOf operand target
    | none => refuse

/-- Read the number of a field behind its sign. -/
def fieldNumber : Nat → Read Formula
  | 0 => throw .final
  | steps + 1 => do
    let token ← peek
    if token.isSign "-" || token.isSign "+" || token.isSign "!" then value (← signed steps)
    else
      let operand ← primary steps
      match operand.place with
      | some (.variable (.shared 0)) => do
        let place := Target.variable (.shared 0)
        if ← accept "++" then pure (.step .add true place)
        else if ← accept "--" then pure (.step .subtract true place)
        else pure operand.formula
      | _ => value operand

/-- Read what stands in parentheses. -/
def grouped : Nat → Bool → Read Operand
  | 0, _ => throw .final
  | steps + 1, listAllowed => do
    if listAllowed && (← peek).isSign ")" then
      advance
      pure { formula := .cell .blank, list := some [] }
    else
      let first ← formula steps
      if ← accept ")" then
        let inside ← value first
        match first.place with
        | some (.field number) => pure { formula := inside, place := some (.field number) }
        | _ => pure { formula := inside }
      else
        let first ← value first
        expect ","
        let others ← listed steps
        expect ")"
        let token ← peek
        if token.isWord "in" then
          advance
          let table ← tableName
          pure { formula := .within (first :: others) table }
        else
          let ends := match token with
            | .newline => true
            | .semicolon _ => true
            | .outlet _ => true
            | _ => false
          if listAllowed && ends then pure { formula := .cell .blank, list := some (first :: others) } else refuse

/-- Read the arguments of a function of the script, of which a name may stand for a table. -/
def arguments : Nat → Read (List Formula)
  | 0 => throw .final
  | steps + 1 => do
    let operand ← formula steps
    let first ← match operand.bare with
      | some name => do
        let name ← resolve name .unknown
        pure (Formula.get (.variable name))
      | none => pure operand.formula
    if ← accept "," then
      let others ← arguments steps
      pure (first :: others)
    else pure [first]

/-- Read a call of a function that all scripts have. -/
def builtinCall : Nat → Raw → Read Operand
  | 0, _ => throw .final
  | steps + 1, name => do
    expect "("
    match String.ofList name with
    | "length" =>
      if ← accept ")" then pure { formula := .builtin .length [] }
      else
        let operand ← formula steps
        expect ")"
        pure { formula := .builtin .length [operand.formula] }
    | "split" => do
      let text ← valued steps
      expect ","
      let table ← tableName
      let separator ← if ← accept "," then pure (some (← valued steps)) else pure none
      expect ")"
      pure { formula := .split text table separator }
    | "match" => do
      let text ← valued steps
      expect ","
      let pattern ← valued steps
      expect ")"
      pure { formula := .builtin .match_ [text, pattern] }
    | "sub" => substitution steps false
    | "gsub" => substitution steps true
    | text => do
      let arguments ← if (← peek).isSign ")" then pure [] else listed steps
      expect ")"
      match plainBuiltins.lookup text with
      | some (builtin, least, most) => do
        if arguments.length < least || most < arguments.length then
          complain ("wrong number of arguments in call to ".toList ++ name)
        pure { formula := .builtin builtin arguments }
      | none => refuse

/-- Read the arguments of a substitution. -/
def substitution : Nat → Bool → Read Operand
  | 0, _ => throw .final
  | steps + 1, all => do
    let pattern ← valued steps
    expect ","
    let replacement ← valued steps
    let place ← if ← accept "," then target steps else pure (.field (.cell (.number 0.0)))
    expect ")"
    pure { formula := .substitute all pattern replacement place }

/-- Read an operand without signs around it. -/
def primary : Nat → Read Operand
  | 0 => throw .final
  | steps + 1 => do
    let token ← peek
    let listAllowed := (← get).listAllowed
    modify fun reading => { reading with listAllowed := false }
    match token with
    | .number x _ => do
      advance
      pure { formula := .cell (.number x) }
    | .text text => do
      advance
      pure { formula := .cell (.text text) }
    | .pattern text =>
      match Pattern.read text with
      | .ok matcher => do
        advance
        pure { formula := .pattern matcher }
      | .error message =>
        giveUp ("regular expression compile failed (".toList ++ message.toList ++ ")\n".toList ++ text)
    | .name name => do
      advance
      if ← accept "[" then
        let table ← resolve name .table
        let keys ← listed steps
        expect "]"
        let place := Target.element table keys
        pure { formula := .get place, place := some place }
      else
        let known ← resolve name .unknown
        let place := Target.variable known
        pure { formula := .get place, place := some place, bare := some name }
    | .function name => do
      advance
      let line := (← get).tokenLine
      let number ← functionNumber name
      expect "("
      let given ← if (← peek).isSign ")" then pure [] else arguments steps
      expect ")"
      modify fun reading => { reading with calls := (number, given.length, line) :: reading.calls }
      pure { formula := .call number given }
    | .builtin name => do
      advance
      builtinCall steps name
    | .word "length" => do
      advance
      pure { formula := .builtin .length [] }
    | .word "getline" => do
      advance
      let target ← place? steps
      if ← accept "<" then
        let path ← value (← power steps)
        pure { formula := .readFile path target }
      else pure { formula := .nextRecord target }
    | .sign "(" => do
      advance
      grouped steps listAllowed
    | .sign "$" => do
      advance
      let place := Target.field (← fieldNumber steps)
      pure { formula := .get place, place := some place }
    | .sign "++" => do
      advance
      pure { formula := .step .add false (← target steps) }
    | .sign "--" => do
      advance
      pure { formula := .step .subtract false (← target steps) }
    | .sign "-" => signed steps
    | .sign "+" => signed steps
    | .sign "!" => signed steps
    | _ => refuse

end

/-- Pass over what follows an error, up to the end of a statement. -/
def recover : Nat → Read Unit
  | 0 => throw .final
  | steps + 1 => do
    let token ← peek
    advance
    match token with
    | .newline => modify fun reading => { reading with printing := false, parens := 0 }
    | .semicolon _ => modify fun reading => { reading with printing := false, parens := 0 }
    | .finished => throw .final
    | _ => recover steps

/-- How much is read at most. -/
def remaining : Read Nat := do
  let reading ← get
  pure (reading.rest.length + (reading.others.map fun other => other.2.length).foldl (· + ·) 0 + 2)

/-- Read something, or what follows an error. -/
def recovering {α : Type} (instead : Read α) (read : Read α) : Read α :=
  tryCatch read fun
    | .final => throw .final
    | .token => do
      recover (← remaining)
      instead

/-- Read within a loop. -/
def inLoop {α : Type} (read : Read α) : Read α := do
  modify fun reading => { reading with loops := reading.loops + 1 }
  let result ← read
  modify fun reading => { reading with loops := reading.loops - 1 }
  pure result

/-- Where a print statement writes. -/
def outlet? (steps : Nat) : Read (Option (Outlet × Formula)) := do
  match ← peek with
  | .outlet sign => do
    advance
    let path ← valued steps
    let outlet := match sign with
      | ">" => Outlet.file
      | ">>" => Outlet.longerFile
      | _ => Outlet.command
    pure (some (outlet, path))
  | _ => pure none

/-- Read a formula if a statement does not end here. -/
def optional (steps : Nat) : Read (Option Formula) := do
  match ← peek with
  | .newline => pure none
  | .semicolon _ => pure none
  | _ => pure (some (← valued steps))

/-- Read a print statement behind its word. -/
def printed (steps : Nat) (formatted : Bool) : Read Statement := do
  let ends := match ← peek with
    | .newline => true
    | .semicolon _ => true
    | .outlet _ => true
    | _ => false
  let arguments ← if ends then pure [] else do
    modify fun reading => { reading with listAllowed := true }
    let first ← formula steps
    match first.list with
    | some arguments => pure arguments
    | none => do
      let first ← value first
      if ← accept "," then
        let others ← listed steps
        pure (first :: others)
      else pure [first]
  let outlet ← outlet? steps
  expectEnd
  if formatted && arguments.isEmpty then complain "no arguments in call to printf".toList
  pure (.print formatted arguments outlet)

/-- The condition in parentheses of a statement. -/
def condition (steps : Nat) : Read Formula := do
  expect "("
  let condition ← valued steps
  expect ")"
  pure condition

mutual

/-- Read a statement, or what is left of it behind an error. -/
def statement : Nat → Read Statement
  | 0 => throw .final
  | steps + 1 => recovering (pure .nothing) (plainStatement steps)

/-- Read the statements of a block behind its brace. -/
def block : Nat → Read Statement
  | 0 => throw .final
  | steps + 1 => do
    if ← accept "\x7d" then pure .nothing
    else
      let first ← statement steps
      let others ← block steps
      pure (.both first others)

/-- Read the condition of a loop behind its body. -/
def loopTail : Nat → Statement → Read Statement
  | 0, _ => throw .final
  | steps + 1, body =>
    recovering (loopTail steps .nothing) do
      if !(← peek).isWord "while" then refuse
      advance
      let condition ← condition steps
      expectEnd
      pure (.doWhile body condition)

/-- Read the heads of a loop behind its word, and its body. -/
def forLoop : Nat → Read Statement
  | 0 => throw .final
  | steps + 1 => do
    expect "("
    let start ← if (← peek).isSign ")" then refuse else
      match ← peek with
      | .semicolon _ => pure none
      | _ => pure (some (← valued steps))
    match start, ← peek with
    | some (.within [.get (.variable name)] table), .sign ")" => do
      advance
      skipLines
      let body ← inLoop (statement steps)
      pure (.visit name table body)
    | some (.within [.get (.variable _)] _), _ => refuse
    | _, .semicolon _ => do
      advance
      let condition ← optional steps
      match ← peek with
      | .semicolon _ => advance
      | _ => refuse
      let step ← if (← peek).isSign ")" then pure none else pure (some (← valued steps))
      expect ")"
      skipLines
      let body ← inLoop (statement steps)
      pure (.for_ start condition step body)
    | _, _ => refuse

/-- Read a statement. -/
def plainStatement : Nat → Read Statement
  | 0 => throw .final
  | steps + 1 => do
    let token ← peek
    match token with
    | .newline => do
      advance
      pure .nothing
    | .semicolon _ => do
      advance
      pure .nothing
    | .sign "\x7b" => do
      advance
      block steps
    | .word "if" => do
      advance
      let condition ← condition steps
      skipLines
      let yes ← statement steps
      if (← peek).isWord "else" then
        advance
        let no ← statement steps
        pure (.when_ condition yes no)
      else pure (.when_ condition yes .nothing)
    | .word "while" => do
      advance
      let condition ← condition steps
      skipLines
      let body ← inLoop (statement steps)
      pure (.while_ condition body)
    | .word "do" => do
      advance
      let body ← inLoop (statement steps)
      loopTail steps body
    | .word "for" => do
      advance
      forLoop steps
    | .word "print" => do
      advance
      printed steps false
    | .word "printf" => do
      advance
      printed steps true
    | .word "break" => do
      advance
      if (← get).loops = 0 then complain "break statement outside of loop".toList
      expectEnd
      pure .break_
    | .word "continue" => do
      advance
      if (← get).loops = 0 then complain "continue statement outside of loop".toList
      expectEnd
      pure .continue_
    | .word "next" => do
      advance
      if !(← get).inRecord then complain "improper use of next".toList
      expectEnd
      pure .next
    | .word "nextfile" => do
      advance
      if !(← get).inRecord then complain "improper use of nextfile".toList
      expectEnd
      pure .nextFile
    | .word "exit" => do
      advance
      let status ← optional steps
      expectEnd
      pure (.exit status)
    | .word "return" => do
      advance
      if !(← get).inFunction then complain "return outside function body".toList
      let result ← optional steps
      expectEnd
      pure (.return_ result)
    | .word "delete" => do
      advance
      let table ← tableName
      if ← accept "[" then
        let keys ← listed steps
        expect "]"
        expectEnd
        pure (.erase table keys)
      else
        expectEnd
        pure (.clear table)
    | _ => do
      let formula ← valued steps
      expectEnd
      pure (.reckon formula)

end

/-- Read a block. -/
def wholeBlock (steps : Nat) : Read Statement := do
  expect "\x7b"
  block steps

/-- Read the parameters of a function. -/
def parameters (name : Raw) : Nat → Read Unit
  | 0 => throw .final
  | steps + 1 => do
    match ← peek with
    | .name parameter => do
      let reading ← get
      if (reading.parameters.lookup parameter).isSome then
        complain (parameter ++ " is duplicated in argument list".toList)
      modify fun reading => { reading with parameters := reading.parameters ++ [(parameter, .unknown)] }
      advance
    | .function parameter => do
      if parameter == name then complain "function parameter cannot be the function".toList
      refuse
    | _ => refuse
    if ← accept "," then parameters name steps

/-- Read a function behind its word. -/
def function (steps : Nat) : Read Unit := do
  let name ← match ← peek with
    | .function name => pure name
    | .name name => pure name
    | _ => refuse
  let number ← functionNumber name
  if ((← get).functions[number]?.bind Function.body).isSome then complain ("redefinition of ".toList ++ name)
  advance
  expect "("
  modify fun reading => { reading with parameters := [], inFunction := true, inRecord := false }
  if !(← peek).isSign ")" then parameters name steps
  expect ")"
  skipLines
  let arity := (← get).parameters.length
  modify fun reading => { reading with
    functions := reading.functions.modify number fun function => { function with arity } }
  let body ← wholeBlock steps
  modify fun reading => { reading with
    parameters := [], inFunction := false
    functions := reading.functions.modify number fun function => { function with body := some body } }

/-- What is done where nothing is told. -/
def usualBody : Statement := .print false [] none

/-- The body of a rule, which may be missing. -/
def body (steps : Nat) : Read Statement := do
  match ← peek with
  | .sign "\x7b" => do
    advance
    block steps
  | _ => do
    expectEnd
    pure usualBody

/-- Read a rule or a function. -/
def rule? (steps : Nat) : Read (Option Rule) := do
  let about := fun (inRecord : Bool) =>
    (modify fun reading => { reading with inRecord, inFunction := false, parameters := [], loops := 0 } : Read Unit)
  match ← peek with
  | .word "BEGIN" => do
    advance
    about false
    pure (some ⟨.first, ← wholeBlock steps⟩)
  | .word "END" => do
    advance
    about false
    pure (some ⟨.last, ← wholeBlock steps⟩)
  | .word "function" => do
    advance
    function steps
    pure none
  | .sign "\x7b" => do
    advance
    about true
    pure (some ⟨.always, ← block steps⟩)
  | _ => do
    about true
    let start ← valued steps
    if ← accept "," then
      let stop ← valued steps
      let body ← body steps
      let number := (← get).ranges
      modify fun reading => { reading with ranges := number + 1 }
      pure (some ⟨.between number start stop, body⟩)
    else
      let body ← body steps
      pure (some ⟨.when_ start, body⟩)

/-- Pass over what follows an error outside of blocks, and read the next block. -/
def recoverOutside (steps : Nat) : Nat → Read Unit
  | 0 => throw .final
  | times + 1 => do
    match ← peek with
    | .finished => throw .final
    | .sign "\x7b" => do
      advance
      modify fun reading => { reading with printing := false, parens := 0 }
      let _ ← block steps
    | _ => do
      advance
      recoverOutside steps times

/-- Read rules and functions up to the end. -/
def rules (steps : Nat) : Nat → Read (List Rule)
  | 0 => throw .final
  | times + 1 => do
    match ← peek with
    | .finished => pure []
    | _ => do
      let first ← tryCatch (rule? steps) fun
        | .final => throw .final
        | .token => do
          recoverOutside steps times
          pure none
      let others ← rules steps times
      pure (first.toList ++ others)

/-- Complain about the calls of functions that do not exist, or have too many arguments. -/
def checkCalls : Read Unit := do
  let reading ← get
  if !reading.complaints.isEmpty then throw .final
  for function in reading.functions do
    if function.body.isNone then complain ("function ".toList ++ function.name ++ " never defined".toList)
  for (number, count, line) in reading.calls.reverse do
    match reading.functions[number]? with
    | some function =>
      if function.body.isSome && function.arity < count then
        note ((← place line) ++ "too many arguments in call to ".toList ++ function.name)
    | none => pure ()

/-- Read a whole script. -/
def script : Read Script := do
  skipLines
  let size ← remaining
  let rules ← rules (60 * size + 200) (size + 1)
  checkCalls
  let reading ← get
  pure { rules, functions := reading.functions, names := reading.names.map fun (name, index, _) => (name, index) }

end Read

namespace Script

/-- The names that are known from the start. -/
def knownNames : List (Raw × Nat × Usage) :=
  let tables := [Shared.arguments, Shared.environment]
  Shared.known.zipIdx.map fun (name, index) =>
    (name.toList, index, if tables.contains index then Usage.table else Usage.variable)

/-- Read a script from a text, or from files with their names; other names may be known beforehand. -/
def read (names : List Raw) (text : Raw) (file : Option Raw) (others : List (Raw × Raw)) : Except (List Raw) Script :=
  let names := names.foldl (fun names name =>
    if (names.lookup name).isSome then names else names ++ [(name, names.length, Usage.variable)]) knownNames
  let reading : Reading := { rest := text, file, others, names }
  match Read.script.run.run reading with
  | (.ok script, reading) => if reading.complaints.isEmpty then .ok script else .error reading.complaints.reverse
  | (.error _, reading) => .error reading.complaints.reverse

end Script

end AnswerQuery.Host.Tool.Report
