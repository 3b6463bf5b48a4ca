import AnswerQuery.Host.Script.Arithmetic

/-! Formulas of the rich dialect, which know lists and tables, powers, and variables that are changed by one. -/

namespace AnswerQuery.Host.Script

/-- A smallest part of a formula of the rich dialect. -/
inductive Term where
  | over
  | number (value : Int)
  /-- A variable, of which a part may be meant. -/
  | variable_ (name : Raw) (part : Option Raw)
  | operator (symbol : Raw)
  deriving DecidableEq, Repr

/-- A formula that is being read. -/
structure Reckoning where
  /-- The formula as a whole. -/
  whole : Raw
  /-- What is left of it. -/
  rest : Raw
  /-- The formula from the last part on. -/
  place : Raw
  /-- The last part. -/
  now : Term := .over
  /-- The part before it. -/
  before : Term := .over

/-- A part of finding the value of a formula. -/
abbrev Reckon := StateT Reckoning Sh

namespace Reckon

/-- The operators, each before those it begins with. -/
def symbols : List Raw :=
  ["<<=", ">>=", "<<", ">>", "<=", ">=", "==", "!=", "&&", "||", "**", "++", "--", "+=", "-=", "*=", "/=", "%=", "&=",
    "^=", "|=", "+", "-", "*", "/", "%", "<", ">", "&", "^", "|", "!", "~", "?", ":", "(", ")", "=", ","].map String.toList

/-- The operators between two numbers, those that bind least first. -/
def levels : List (List Raw) :=
  [["|"], ["^"], ["&"], ["==", "!="], ["<=", ">=", "<", ">"], ["<<", ">>"], ["+", "-"], ["*", "/", "%"]].map fun level =>
    level.map String.toList

/-- Refuse the formula, given what is told of it. -/
def refuseAt {α : Type} (message : String) (place : Raw) : Reckon α := do
  let whole := (← get).whole.dropWhile fun c => c == ' ' || c == '\t'
  StateT.lift (Sh.giveUp (whole ++ ": ".toList ++ message.toList ++ " (error token is \"".toList ++ place ++ "\")".toList))

/-- Refuse the formula at its last part. -/
def refuse {α : Type} (message : String) : Reckon α := do
  refuseAt message (← get).place

/-- The value of a digit, whose letters may be told apart by their case. -/
def digitOf (base : Nat) (c : Char) : Nat :=
  if c == '@' then 62
  else if c == '_' then 63
  else if c.isUpper && 36 < base then c.toNat - 'A'.toNat + 36
  else Numeral.digitValue c

/-- The value of digits in a base. -/
def ofDigits (base : Nat) (digits : Raw) : Option Nat :=
  digits.foldl (fun value c => value.bind fun n =>
    let digit := digitOf base c
    if digit < base then some (n * base + digit) else none) (some 0)

/-- The value of a numeral, or why it has none. -/
def numeral (text : Raw) : Except String Int := do
  let (base, digits) ← match text with
    | '0' :: x :: digits =>
      if x == 'x' || x == 'X' then
        if digits.isEmpty then throw "invalid number" else pure (16, digits)
      else pure (8, x :: digits)
    | _ =>
      let front := text.takeWhile (· != '#')
      if front.length = text.length then pure (10, text)
      else
        let base := (Numeral.natural? front).getD 0
        if base < 2 || 64 < base then throw "invalid arithmetic base"
        if (text.drop (front.length + 1)).isEmpty then throw "invalid integer constant"
        pure (base, text.drop (front.length + 1))
  if digits.contains '#' then throw "invalid number"
  match ofDigits base digits with
  | some value => pure (Numeral.wrap (Int.ofNat value))
  | none => throw "value too great for base"

/-- The text up to a closing bracket, given how many have begun inside of it. -/
def bracketed : Nat → Raw → Option Raw
  | _, [] => none
  | 0, ']' :: _ => some []
  | depth, c :: rest =>
    (bracketed (if c == '[' then depth + 1 else if c == ']' then depth - 1 else depth) rest).map (c :: ·)

/-- Whether a part is an operator. -/
def isOperator (term : Term) (symbol : String) : Bool :=
  term == .operator symbol.toList

/-- Go on to the next part. -/
def next : Reckon Unit := do
  let reckoning ← get
  let rest := reckoning.rest.dropWhile Raw.isSpace
  let found := fun (now : Term) (place rest : Raw) => set { reckoning with
    rest, place, now, before := reckoning.now }
  match rest with
  | [] => found .over reckoning.place []
  | c :: _ =>
    if Raw.beginsName c then
      let name := rest.takeWhile Raw.inName
      let after := rest.drop name.length
      match after with
      | '[' :: inside =>
        match bracketed 0 inside with
        | some part => found (.variable_ name (some part)) rest (inside.drop (part.length + 1))
        | none => do
          set { reckoning with place := rest }
          refuse "bad array subscript"
      | _ => found (.variable_ name none) rest after
    else if c.isDigit then
      let text := rest.takeWhile fun d => d.isAlphanum || d == '#' || d == '@' || d == '_'
      match numeral text with
      | .ok value => found (.number value) rest (rest.drop text.length)
      | .error message => refuseAt message text
    else
      let isVariable := match reckoning.now with
        | .variable_ .. => true
        | _ => false
      match symbols.find? fun symbol => symbol.isPrefixOf rest with
      | some symbol =>
        let after := rest.drop symbol.length
        let meansVariable := isVariable || ((after.dropWhile Raw.isSpace).head?.map Raw.beginsName).getD false
        if (symbol == "++".toList || symbol == "--".toList) && !meansVariable then
          found (.operator (symbol.take 1)) rest (rest.drop 1)
        else found (.operator symbol) rest after
      | none => do
        set { reckoning with place := rest }
        match reckoning.now with
        | .operator _ => refuse "syntax error: operand expected"
        | .over => refuse "syntax error: operand expected"
        | _ => refuse "syntax error: invalid arithmetic operator"

/-- The last part. -/
def now : Reckon Term := do
  pure (← get).now

/-- Two to the power of a number. -/
def power (base : Int) : Nat → Int
  | 0 => 1
  | exponent + 1 => Numeral.wrap (base * power base exponent)

/-- What an operator makes of two numbers; a division by zero is told with the formula from its second number on. -/
def combine (place : Raw) (symbol : Raw) (first second : Int) : Reckon Int := do
  if second = 0 && (symbol == ['/'] || symbol == ['%']) then
    refuseAt "division by 0" (place.dropWhile fun c => c == ' ' || c == '\t')
  let plain : Calculate Int := Calculate.combine symbol first second
  let (value, _) ← StateT.lift (plain { whole := [], rest := [] })
  pure value

/-- The elements of a variable. -/
def itemsOf (shell : Shell) (name : Raw) : Option Items :=
  let name := shell.realName Shell.longestNaming name
  match shell.ownItems? name with
  | some items => some items
  | none => (shell.variables_.lookup name).bind Variable.items

/-- Without quotes. -/
def unquoted (text : Raw) : Raw :=
  text.filter fun c => c != '"' && c != '\''

mutual

/-- The value of a whole formula. -/
def valueOf : Nat → Raw → Sh Int
  | 0, formula => Sh.giveUp (formula ++ ": expression recursion level exceeded".toList)
  | depth + 1, formula => do
    if formula.all Raw.isSpace then pure 0
    else
      let work : Reckon Int := do
        next
        let value ← list depth (32 * formula.length + 64) false
        if (← now) != .over then refuse "syntax error in expression"
        pure value
      let (value, _) ← work { whole := formula, rest := formula, place := formula }
      pure value
termination_by depth => (depth, 0, 0, 0)

/-- The place in a list that a formula tells. -/
def placeOf : Nat → Raw → Option Items → Raw → Sh Nat
  | 0, _, _, _ => pure 0
  | depth + 1, name, items, part => do
    let index ← valueOf depth part
    let behind := (items.map Items.nextPlace).getD 0
    if 0 ≤ index then pure index.toNat
    else if 0 ≤ index + Int.ofNat behind then pure (index + Int.ofNat behind).toNat
    else Sh.giveUp (name ++ "[".toList ++ part ++ "]: bad array subscript".toList)
termination_by depth => (depth, 0, 0, 0)

/-- The value of a variable or of an element of it, as a number. -/
def numberIn : Nat → Raw → Option Raw → Sh Int
  | 0, _, _ => pure 0
  | depth + 1, name, part => do
    let shell ← get
    let items := itemsOf shell name
    let value ← match part, items with
      | none, _ => pure (shell.value? name)
      | some part, some (.table entries) => pure (entries.lookup (unquoted part))
      | some part, _ => do
        let place ← placeOf depth name items part
        pure (match items with
          | some (.list elements) => elements.lookup place
          | _ => if place = 0 then shell.value? name else none)
    if value.isNone && shell.has 'u' then Sh.giveUpShell (name ++ ": unbound variable".toList)
    valueOf depth (value.getD [])
termination_by depth => (depth, 0, 0, 0)

/-- Set a variable or an element of it to a number. -/
def put : Nat → Raw → Option Raw → Int → Sh Unit
  | 0, _, _, _ => pure ()
  | depth + 1, name, part, value => do
    let text := Numeral.ofInt value
    match part with
    | none => Sh.assign name text
    | some part => do
      let shell ← get
      let before := (shell.variables_.lookup name).getD ⟨none, false, false, none, []⟩
      if before.fixed then Sh.refuseChange name
      let items ← match before.items with
        | some (.table entries) => pure (Items.table (Items.putUnder (unquoted part) text entries))
        | some (.list elements) => do
          let place ← placeOf depth name before.items part
          pure (.list (Items.putAt place text elements))
        | none => do
          let place ← placeOf depth name none part
          let elements := match before.value with
            | some first => [(0, first)]
            | none => []
          pure (.list (Items.putAt place text elements))
      set (shell.put name { before with items := some items, value := none })
termination_by depth => (depth, 0, 0, 0)

/-- The value of formulas of which the last one counts. -/
def list : Nat → Nat → Bool → Reckon Int
  | _, 0, _ => refuse "syntax error in expression"
  | depth, steps + 1, skipped => do
    let value ← setting depth steps skipped
    if isOperator (← now) "," then
      next
      list depth steps skipped
    else pure value
termination_by depth steps => (depth, 1, steps, 9)

/-- The value of a formula that may set a variable. -/
def setting : Nat → Nat → Bool → Reckon Int
  | _, 0, _ => refuse "syntax error in expression"
  | depth, steps + 1, skipped => do
    let value ← choice depth steps skipped
    match ← now with
    | .operator symbol =>
      match (Sign.operator symbol).setting? with
      | none => pure value
      | some operation =>
        match (← get).before with
        | .variable_ name part => do
          next
          let given ← setting depth steps skipped
          if skipped then pure given
          else
            let result ← match operation with
              | none => pure given
              | some symbol => do combine (← get).place symbol value given
            StateT.lift (put depth name part result)
            pure result
        | _ => refuse "attempted assignment to non-variable"
    | _ => pure value
termination_by depth steps => (depth, 1, steps, 8)

/-- The value of a choice between two formulas. -/
def choice : Nat → Nat → Bool → Reckon Int
  | _, 0, _ => refuse "syntax error in expression"
  | depth, steps + 1, skipped => do
    let test ← either depth steps skipped
    if !isOperator (← now) "?" then return test
    next
    if (← now) == .over || isOperator (← now) ":" then refuse "expression expected"
    let one ← list depth steps (skipped || test = 0)
    if !isOperator (← now) ":" then refuse "\x60:' expected for conditional expression"
    next
    if (← now) == .over then refuse "expression expected"
    let other ← choice depth steps (skipped || test ≠ 0)
    modify fun reckoning => { reckoning with before := .over }
    pure (if test ≠ 0 then one else other)
termination_by depth steps => (depth, 1, steps, 7)

/-- The value of formulas of which one has to hold. -/
def either : Nat → Nat → Bool → Reckon Int
  | _, 0, _ => refuse "syntax error in expression"
  | depth, steps + 1, skipped => do
    let first ← both depth steps skipped
    if !isOperator (← now) "||" then return first
    next
    let second ← either depth steps (skipped || first ≠ 0)
    pure (Calculate.truth (first ≠ 0 || second ≠ 0))
termination_by depth steps => (depth, 1, steps, 6)

/-- The value of formulas of which all have to hold. -/
def both : Nat → Nat → Bool → Reckon Int
  | _, 0, _ => refuse "syntax error in expression"
  | depth, steps + 1, skipped => do
    let first ← joined depth steps skipped levels
    if !isOperator (← now) "&&" then return first
    next
    let second ← both depth steps (skipped || first = 0)
    pure (Calculate.truth (first ≠ 0 && second ≠ 0))
termination_by depth steps => (depth, 1, steps, 5)

/-- The value of numbers that are joined by the operators of levels. -/
def joined : Nat → Nat → Bool → List (List Raw) → Reckon Int
  | _, 0, _, _ => refuse "syntax error in expression"
  | depth, steps + 1, skipped, [] => raised depth steps skipped
  | depth, steps + 1, skipped, level :: tighter => do
    let first ← joined depth steps skipped tighter
    joinedMore depth steps skipped level tighter first
termination_by depth steps => (depth, 1, steps, 4)

/-- The value of a number and those that follow it behind the operators of a level. -/
def joinedMore : Nat → Nat → Bool → List Raw → List (List Raw) → Int → Reckon Int
  | _, 0, _, _, _, _ => refuse "syntax error in expression"
  | depth, steps + 1, skipped, level, tighter, first => do
    match ← now with
    | .operator symbol =>
      if !level.contains symbol then return first
      let place := (← get).rest
      next
      let second ← joined depth steps skipped tighter
      let value ← if skipped then pure second else combine place symbol first second
      joinedMore depth steps skipped level tighter value
    | _ => pure first
termination_by depth steps => (depth, 1, steps, 3)

/-- The value of a number that may be raised to a power. -/
def raised : Nat → Nat → Bool → Reckon Int
  | _, 0, _ => refuse "syntax error in expression"
  | depth, steps + 1, skipped => do
    let base ← signed depth steps skipped
    if !isOperator (← now) "**" then return base
    next
    let exponent ← raised depth steps skipped
    if exponent < 0 && !skipped then refuse "exponent less than 0"
    pure (power base exponent.toNat)
termination_by depth steps => (depth, 1, steps, 2)

/-- The value of a number behind a sign. -/
def signed : Nat → Nat → Bool → Reckon Int
  | _, 0, _ => refuse "syntax error in expression"
  | depth, steps + 1, skipped => do
    match ← now with
    | .operator ['!'] => do
      next
      let value ← signed depth steps skipped
      pure (Calculate.truth (value = 0))
    | .operator ['~'] => do
      next
      let value ← signed depth steps skipped
      pure (-value - 1)
    | .operator ['-'] => do
      next
      let value ← signed depth steps skipped
      pure (Numeral.wrap (-value))
    | .operator ['+'] => do
      next
      signed depth steps skipped
    | _ => operand depth steps skipped
termination_by depth steps => (depth, 1, steps, 1)

/-- The value of an operand. -/
def operand : Nat → Nat → Bool → Reckon Int
  | _, 0, _ => refuse "syntax error in expression"
  | depth, steps + 1, skipped => do
    let changed := fun (name : Raw) (part : Option Raw) (by_ : Int) => do
      let before ← if skipped then pure 0 else StateT.lift (numberIn depth name part)
      if !skipped then StateT.lift (put depth name part (Numeral.wrap (before + by_)))
      pure before
    let afterSign := fun (by_ : Int) => do
      next
      match ← now with
      | .variable_ name part => do
        let before ← changed name part by_
        modify fun reckoning => { reckoning with now := .number 0 }
        next
        pure (Numeral.wrap (before + by_))
      | _ => refuse "identifier expected after pre-increment or pre-decrement"
    match ← now with
    | .number value => do
      next
      pure value
    | .variable_ name part => do
      next
      if isOperator (← now) "=" then return 0
      let following ← now
      let step : Int := if isOperator following "++" then 1 else if isOperator following "--" then -1 else 0
      if step = 0 then if skipped then pure 0 else StateT.lift (numberIn depth name part)
      else
        let before ← changed name part step
        modify fun reckoning => { reckoning with now := .number 0 }
        next
        pure before
    | .operator ['+', '+'] => afterSign 1
    | .operator ['-', '-'] => afterSign (-1)
    | .operator ['('] => do
      next
      let value ← list depth steps skipped
      if !isOperator (← now) ")" then refuse "missing \x60)'"
      modify fun reckoning => { reckoning with now := .number 0 }
      next
      pure value
    | _ => refuse "syntax error: operand expected"
termination_by depth steps => (depth, 1, steps, 0)

end

/-- How often formulas can be in each other through variables. -/
def deepest : Nat := 4096

end Reckon

/-- The value of a formula of the rich dialect. -/
def Sh.reckon (formula : Raw) : Sh Int :=
  Reckon.valueOf Reckon.deepest (formula.filter (· != '"'))

end AnswerQuery.Host.Script
