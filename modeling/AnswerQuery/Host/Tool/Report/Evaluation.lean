import AnswerQuery.Host.Tool.Report.Reckoning

/-! Following the rules of reports. -/

namespace AnswerQuery.Host.Tool.Report

/-- How a script goes on behind a statement. -/
inductive Flow where
  | on
  | break_
  | continue_
  | next
  | nextFile
  | return_
  deriving DecidableEq, Repr

namespace Work

/-- How deep formulas and statements lie within each other at most. -/
def deepest : Nat := 1000000

/-- End the report. -/
def leave {α : Type} : Work α :=
  throw .over

/-- Put a list of cells where the parameters of a function are. -/
def withOwn {α : Type} (own : Array Slot) (work : Work α) : Work (α × Array Slot) := do
  let before := (← get).own
  modify fun state => { state with own }
  let result ← work
  let after := (← get).own
  modify fun state => { state with own := before }
  pure (result, after)

/-- The number of the table of a slot, if it has one. -/
def tableOf? : Slot → Option Nat
  | .table number => some number
  | .cell _ => none

/-- Give back the tables that a function had for itself. -/
def giveBack (given own : Array Slot) : Work Unit :=
  modify fun state =>
    let kept := given.toList.filterMap tableOf?
    let numbers := (own.toList.filterMap tableOf?).filter fun number => !kept.contains number
    { state with
      tables := numbers.foldl (fun tables number => tables.setIfInBounds number .nothing) state.tables
      free := numbers ++ state.free }

mutual

/-- The value of a formula. -/
def valueOf : Nat → Formula → Work Cell
  | 0, _ => leave
  | steps + 1, formula => do
    match formula with
    | .cell cell => pure cell
    | .pattern matcher => do
      let text ← record
      pure (.ofBool (matcher.find? text.toArray 0).isSome)
    | .get target => getAt steps target
    | .put operation target value => do
      let value ← valueOf steps value
      match operation with
      | none => do
        putAt steps target value
        pure value
      | some operation => do
        let before ← getAt steps target
        let after := Cell.number (Number.reckon operation before.toNumber value.toNumber)
        putAt steps target after
        pure after
    | .step operation isBefore target => do
      let before := (← getAt steps target).toNumber
      let after := Number.reckon operation before 1.0
      putAt steps target (.number after)
      pure (.number (if isBefore then before else after))
    | .reckon operation first second => do
      let x := (← valueOf steps first).toNumber
      let y := (← valueOf steps second).toNumber
      pure (.number (Number.reckon operation x y))
    | .negative inside => do
      let x := (← valueOf steps inside).toNumber
      pure (.number (-x))
    | .positive inside => do
      let x := (← valueOf steps inside).toNumber
      pure (.number x)
    | .opposite inside => do
      let cell ← valueOf steps inside
      pure (.ofBool !cell.isTrue)
    | .compare comparison first second => do
      let first ← valueOf steps first
      let second ← valueOf steps second
      pure (.ofBool (comparison.holds (Cell.compare (← numberFormat) first second)))
    | .fits wanted text pattern => do
      let text ← textOf (← valueOf steps text)
      let matcher ← patternOf steps pattern
      pure (.ofBool ((matcher.find? text.toArray 0).isSome == wanted))
    | .both first second => do
      let first ← valueOf steps first
      if !first.isTrue then pure (.ofBool false)
      else
        let second ← valueOf steps second
        pure (.ofBool second.isTrue)
    | .either first second => do
      let first ← valueOf steps first
      if first.isTrue then pure (.ofBool true)
      else
        let second ← valueOf steps second
        pure (.ofBool second.isTrue)
    | .choose condition yes no => do
      let condition ← valueOf steps condition
      valueOf steps (if condition.isTrue then yes else no)
    | .joined first second => do
      let first ← textOf (← valueOf steps first)
      let second ← textOf (← valueOf steps second)
      pure (.text (first ++ second))
    | .within keys table => do
      let key ← keyAt steps keys
      let number ← tableNumber table
      let found ← onTable number (Table.find key)
      pure (.ofBool found)
    | .builtin .length [.get (.variable name)] => do
      match ← slot name with
      | .table number => do
        let size ← onTable number fun table => (table.size, table)
        pure (.ofNat size)
      | .cell _ => do
        let cell ← variable_ name
        builtinValue .length [cell]
    | .builtin .match_ [text, pattern] => do
      let text ← textOf (← valueOf steps text)
      let matcher ← patternOf steps pattern
      let (start, length) := match matcher.find? text.toArray 0 with
        | some found => (found.start + 1, Int.ofNat (found.stop - found.start))
        | none => (0, -1)
      putShared Shared.matchStart (.ofNat start)
      putShared Shared.matchLength (.ofInt length)
      pure (.ofNat start)
    | .builtin builtin arguments => do
      let arguments ← valuesOf steps arguments
      builtinValue builtin arguments
    | .split text table separator => do
      let text ← textOf (← valueOf steps text)
      let separator ← match separator with
        | none => separatorOf (← sharedText Shared.fieldSeparator)
        | some (.pattern matcher) => pure (.pattern matcher)
        | some formula => separatorOf (← textOf (← valueOf steps formula))
      let number ← tableNumber table
      let cells := ((parts separator text).map Cell.told).toArray
      onTable number fun _ => ((), if cells.isEmpty then .nothing else .counted cells)
      pure (.ofNat cells.size)
    | .substitute all pattern replacement target => do
      let matcher ← patternOf steps pattern
      let replacement ← textOf (← valueOf steps replacement)
      let text ← textOf (← getAt steps target)
      let (count, pieces) := Texts.substituted matcher replacement all text.toArray (text.length + 2) 0 false
      if count != 0 then putAt steps target (.text pieces.flatten)
      pure (.ofNat count)
    | .call number given => do
      match (← get).functions[number]? with
      | none => leave
      | some function => do
        let given ← slotsOf steps given
        let given := given.toArray
        let own := given ++ Array.replicate (function.arity - given.size) (.cell .blank)
        modify fun state => { state with result := .blank }
        let (_, after) ← withOwn own (follow steps (function.body.getD .nothing))
        giveBack given after
        let result := (← get).result
        modify fun state => { state with result := .blank }
        pure result
    | .nextRecord target => do
      match ← nextRecord with
      | none => pure (.number 0.0)
      | some text => do
        receive steps text target
        pure (.number 1.0)
    | .readFile path target => do
      let path ← textOf (← valueOf steps path)
      readInto steps false path target
    | .readCommand command target => do
      let command ← textOf (← valueOf steps command)
      readInto steps true command target

/-- The values of formulas. -/
def valuesOf : Nat → List Formula → Work (List Cell)
  | 0, _ => leave
  | _ + 1, [] => pure []
  | steps + 1, first :: others => do
    let first ← valueOf steps first
    let others ← valuesOf steps others
    pure (first :: others)

/-- What formulas hand on to a function: a name that holds nothing may become a table there. -/
def slotsOf : Nat → List Formula → Work (List Slot)
  | 0, _ => leave
  | _ + 1, [] => pure []
  | steps + 1, first :: others => do
    let handed ← match first with
      | .get (.variable name) =>
        match ← slot name with
        | .table number => pure (Slot.table number)
        | .cell .blank =>
          if name == .shared Shared.fieldCount then pure (Slot.cell (← variable_ name))
          else pure (Slot.table (← tableNumber name))
        | .cell _ => pure (Slot.cell (← variable_ name))
      | formula => pure (Slot.cell (← valueOf steps formula))
    let others ← slotsOf steps others
    pure (handed :: others)

/-- The pattern that a formula tells. -/
def patternOf : Nat → Formula → Work Matcher
  | 0, _ => leave
  | steps + 1, formula => do
    match formula with
    | .pattern matcher => pure matcher
    | formula => do
      let text ← textOf (← valueOf steps formula)
      matcherOf text

/-- The key that formulas tell. -/
def keyAt : Nat → List Formula → Work Key
  | 0, _ => leave
  | steps + 1, keys => do
    match ← valuesOf steps keys with
    | [cell] => keyOf cell
    | cells => do
      let texts ← cells.mapM textOf
      pure (.text ((← sharedText Shared.keySeparator).intercalate texts))

/-- The cell at a place. -/
def getAt : Nat → Target → Work Cell
  | 0, _ => leave
  | steps + 1, target => do
    match target with
    | .variable name => variable_ name
    | .field index => do
      let index ← fieldIndex (← valueOf steps index)
      field index
    | .element table keys => do
      let key ← keyAt steps keys
      let number ← tableNumber table
      onTable number (Table.get key)

/-- Put a cell at a place. -/
def putAt : Nat → Target → Cell → Work Unit
  | 0, _, _ => leave
  | steps + 1, target, cell => do
    match target with
    | .variable name => putVariable name cell
    | .field index => do
      let index ← fieldIndex (← valueOf steps index)
      putField index cell
    | .element table keys => do
      let key ← keyAt steps keys
      let number ← tableNumber table
      onTable number fun table => ((), table.put key cell)

/-- Put a record that was read at a place, or let it be the record. -/
def receive : Nat → Raw → Option Target → Work Unit
  | 0, _, _ => leave
  | steps + 1, text, target =>
    match target with
    | none => putRecord text
    | some target => putAt steps target (.told text)

/-- Read a record from a file or a command. -/
def readInto : Nat → Bool → Raw → Option Target → Work Cell
  | 0, _, _, _ => leave
  | steps + 1, isCommand, path, target => do
    match ← nextFrom isCommand path with
    | none => pure (.number (-1.0))
    | some none => pure (.number 0.0)
    | some (some text) => do
      receive steps text target
      pure (.number 1.0)

/-- The texts of formulas as they are printed. -/
def printedTexts : Nat → List Formula → Work (List Raw)
  | 0, _ => leave
  | steps + 1, formulas => do
    let cells ← valuesOf steps formulas
    cells.mapM fun cell => do
      match cell with
      | .number _ => pure (cell.toText (← sharedText Shared.outputFormat))
      | cell => textOf cell

/-- Repeat a statement as long as a condition holds. -/
def repeated : Nat → Option Formula → Option Formula → Statement → Work Flow
  | 0, _, _, _ => leave
  | steps + 1, condition, step, body =>
    loop () fun () => do
      let holds ← match condition with
        | none => pure true
        | some condition => do
          let cell ← valueOf steps condition
          pure cell.isTrue
      if !holds then pure (.inr Flow.on)
      else
        let flow ← follow steps body
        if flow == .break_ then pure (.inr Flow.on)
        else if flow == .on || flow == .continue_ then
          if let some step := step then
            let _ ← valueOf steps step
          pure (.inl ())
        else pure (.inr flow)

/-- Follow a statement. -/
def follow : Nat → Statement → Work Flow
  | 0, _ => leave
  | steps + 1, statement => do
    match statement with
    | .nothing => pure .on
    | .reckon formula => do
      let _ ← valueOf steps formula
      pure .on
    | .print isFormatted arguments outlet => do
      let put : Raw → Work Unit := fun text => do
        match outlet with
        | none => act (Act.say text)
        | some (outlet, path) => do
          let path ← textOf (← valueOf steps path)
          writeTo outlet path text
      if isFormatted then
        let cells ← valuesOf steps arguments
        formatted "printf" put cells
      else if arguments.isEmpty then
        let text ← record
        put (text ++ (← sharedText Shared.outputEnd))
      else
        let texts ← printedTexts steps arguments
        let separator ← sharedText Shared.outputSeparator
        put (separator.intercalate texts ++ (← sharedText Shared.outputEnd))
      pure .on
    | .when_ condition yes no => do
      let condition ← valueOf steps condition
      follow steps (if condition.isTrue then yes else no)
    | .while_ condition body => repeated steps (some condition) none body
    | .doWhile body condition => do
      let flow ← follow steps body
      if flow == .break_ then pure .on
      else if flow == .on || flow == .continue_ then repeated steps (some condition) none body
      else pure flow
    | .for_ start condition step body => do
      if let some start := start then
        let _ ← valueOf steps start
      repeated steps condition step body
    | .visit name table body => do
      let number ← tableNumber table
      let keys ← onTable number Table.keys
      loop keys fun keys => do
        match keys with
        | [] => pure (.inr Flow.on)
        | key :: keys => do
          putVariable name (.text key)
          let flow ← follow steps body
          if flow == .break_ then pure (.inr Flow.on)
          else if flow == .on || flow == .continue_ then pure (.inl keys)
          else pure (.inr flow)
    | .erase table keys => do
      let key ← keyAt steps keys
      let number ← tableNumber table
      onTable number fun table => ((), table.erase key)
      pure .on
    | .clear table => do
      let number ← tableNumber table
      onTable number fun _ => ((), .nothing)
      pure .on
    | .next => pure .next
    | .nextFile => pure .nextFile
    | .exit status => do
      if let some status := status then
        let code := Number.signed (← valueOf steps status).toNumber
        modify fun state => { state with status := (code % 256).toNat }
      leave
    | .return_ value => do
      let result ← match value with
        | some value => valueOf steps value
        | none => pure .blank
      modify fun state => { state with result }
      pure .return_
    | .break_ => pure .break_
    | .continue_ => pure .continue_
    | .both first second => do
      let flow ← follow steps first
      if flow == .on then follow steps second else pure flow

end

/-- Whether a rule holds for the record. -/
def holdsFor (occasion : Occasion) : Work Bool := do
  match occasion with
  | .always => pure true
  | .when_ condition => do
    let cell ← valueOf deepest condition
    pure cell.isTrue
  | .between number start stop => do
    let hasBegun := (← get).begun.contains number
    let begins ← if hasBegun then pure true else do
      let cell ← valueOf deepest start
      pure cell.isTrue
    if !begins then pure false
    else
      let stops := (← valueOf deepest stop).isTrue
      let begun := (← get).begun.filter (· != number)
      modify fun state => { state with begun := if stops then begun else number :: begun }
      pure true
  | _ => pure false

/-- Follow rules for the record. -/
def followRules : List Rule → Work Flow
  | [] => pure .on
  | rule :: others => do
    if ← holdsFor rule.occasion then
      let flow ← follow deepest rule.body
      if flow == .next || flow == .nextFile then pure flow else followRules others
    else followRules others

/-- Follow rules for all records. -/
def followRecords (rules : List Rule) : Work Unit :=
  loop () fun () => do
    match ← nextRecord with
    | none => pure (.inr ())
    | some text => do
      putRecord text
      let flow ← followRules rules
      if flow == .nextFile then
        if let some source := (← get).main then act source.close
        modify fun state => { state with main := none }
      pure (.inl ())

/-- Whether a rule is followed at the beginning. -/
def isFirst (rule : Rule) : Bool :=
  match rule.occasion with
  | .first => true
  | _ => false

/-- Whether a rule is followed at the end. -/
def isLast (rule : Rule) : Bool :=
  match rule.occasion with
  | .last => true
  | _ => false

/-- Follow something; the result tells whether the report goes on. -/
def attempt (work : Work Unit) : Work Bool :=
  tryCatch (do
    work
    pure true) fun
    | .over => pure false

/-- Follow a script. -/
def run (rules : List Rule) : Work Unit := do
  let first := rules.filter isFirst
  let last := rules.filter isLast
  let others := rules.filter fun rule => !isFirst rule && !isLast rule
  -- What ends the rules for records does not keep those for the end from being followed.
  let _ ← attempt do
    for rule in first do
      let _ ← follow deepest rule.body
    if !others.isEmpty || !last.isEmpty then followRecords others
  let _ ← attempt do
    for rule in last do
      let _ ← follow deepest rule.body
  closeAll

end Work

end AnswerQuery.Host.Tool.Report
