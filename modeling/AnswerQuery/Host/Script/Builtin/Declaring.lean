import AnswerQuery.Host.Script.Assigning
import AnswerQuery.Host.Script.Builtin.Basic

/-! Commands of the rich dialect that declare variables, and those that calculate and remove them. -/

namespace AnswerQuery.Host.Script

/-- What is asked of variables that are declared. -/
structure Declaration where
  /-- The letters of what is to be particular about them. -/
  given : Raw := []
  /-- The letters of what is not to be any more. -/
  taken : Raw := []

namespace Declaration

/-- Read the options in front of variables, some of which are allowed; what follows them. -/
def read (allowed : Raw) : Nat → Declaration → List Raw → Sh (Declaration × List Raw)
  | 0, declaration, arguments => pure (declaration, arguments)
  | steps + 1, declaration, arguments => do
    match arguments with
    | ['-', '-'] :: others => pure (declaration, others)
    | (sign :: letter :: letters) :: others =>
      let letters := letter :: letters
      if sign != '-' && sign != '+' then pure (declaration, arguments)
      else match letters.find? fun c => !allowed.contains c with
        | some wrong => Sh.refuseUse ([sign, wrong] ++ ": invalid option".toList)
        | none =>
          let next := if sign == '-' then { declaration with given := declaration.given ++ letters }
            else { declaration with taken := declaration.taken ++ letters }
          read allowed steps next others
    | _ => pure (declaration, arguments)

/-- Whether a letter is asked for. -/
def asks (declaration : Declaration) (letter : Char) : Bool :=
  declaration.given.contains letter

/-- A variable that has become what is asked for. -/
def applied (declaration : Declaration) (variable_ : Variable) : Variable :=
  let lettered := "ilunc".toList.filter declaration.asks
  let dropped := declaration.taken ++ (if lettered.contains 'l' then ['u'] else []) ++
    (if lettered.contains 'u' then ['l'] else [])
  let kept := variable_.traits.filter fun letter => !dropped.contains letter && !lettered.contains letter
  let items := match variable_.items with
    | some items => some items
    | none =>
      if declaration.asks 'A' then some (Items.table [])
      else if declaration.asks 'a' then
        some (Items.list (match variable_.value with
          | some value => [(0, value)]
          | none => []))
      else none
  { variable_ with
    traits := kept ++ lettered
    items
    value := if items.isSome then none else variable_.value
    exported := (variable_.exported || declaration.asks 'x') && !declaration.taken.contains 'x' }

end Declaration

namespace Sh

/-- The character in front of the number of a list among arguments, which no argument has. -/
def listMark : Char := '\x00'

/-- What an argument sets a variable to. -/
def givenOf (text : Raw) : Sh Given := do
  match text with
  | c :: number =>
    if c == listMark then
      let shell ← get
      pure (.list (((Numeral.natural? number).bind fun place => shell.lists[place]?).getD []))
    else pure (.text text)
  | [] => pure (.text [])

/-- Keep what a variable is, so that it is restored behind the function that is being run, and let there be a new one. -/
def hide (name : Raw) : Sh Unit := do
  modify fun shell =>
    let before := shell.variables_.lookup name
    let kept : Shadowed := .variable_ name before
    let fresh : Variable := { value := none, exported := (before.map Variable.exported).getD false }
    let shell := shell.put name fresh
    match shell.shadowed with
    | [] => shell
    | first :: others =>
      let isKept := first.any fun other => match other with
        | .variable_ known _ => known == name
        | _ => false
      if isKept then { shell with variables_ := (match before with
          | some variable_ => shell.put name variable_
          | none => shell).variables_ }
      else { shell with shadowed := (kept :: first) :: others }

/-- Complain about what is no name. -/
def refuseName {α : Type} (text : Raw) : Sh α :=
  giveUp ('\x60' :: text ++ "': not a valid identifier".toList)

/-- Declare one variable, which may be set as well. -/
def declareOne (declaration : Declaration) (isLocal : Bool) (written : Raw) : Sh Unit := do
  let word := Word.ofPlain written
  let (name, assignment) ← match Word.assignment? .rich word with
    | some assignment => pure (assignment.name, some assignment)
    | none =>
      let name := written.takeWhile (· != '[')
      if Raw.isName name && (name.length == written.length || written.getLast? == some ']') then pure (name, none)
      else refuseName written
  if isLocal then hide name
  let shell ← get
  let real := if declaration.asks 'n' then name else shell.realName Shell.longestNaming name
  let before := (shell.variables_.lookup real).getD ⟨none, false, false, none, []⟩
  if before.fixed && (assignment.isSome || declaration.taken.contains 'r') then
    giveUp (real ++ ": readonly variable".toList)
  let given ← match assignment with
    | some assignment => some <$> givenOf (Word.unquoted assignment.value)
    | none => pure none
  let isList := match given with
    | some (.list _) => true
    | _ => false
  let shaped := declaration.applied before
  let shaped := if isList && shaped.items.isNone then { shaped with items := some (.list []) } else shaped
  modify fun shell => shell.put real shaped
  match assignment, given with
  | some assignment, some given =>
    let part := assignment.part.map Word.unquoted
    -- What is given to a whole list or table without places is its first element.
    let part := match given, shaped.items, part with
      | .text _, some (.table _), none => some ['0']
      | _, _, _ => part
    carryAssigned { name := real, part, appends := assignment.appends, given } false
  | _, _ => pure ()
  if declaration.asks 'r' then
    modify fun shell => match shell.variables_.lookup real with
      | some variable_ => shell.put real { variable_ with fixed := true }
      | none => shell

/-- Declare variables one after the other: the status. -/
def declareEach (declaration : Declaration) (isLocal : Bool) : Nat → List Raw → Sh Nat
  | status, [] => pure status
  | status, written :: others => do
    match ← attempt (declareOne declaration isLocal written) with
    | .ok () => declareEach declaration isLocal status others
    | .error .error => declareEach declaration isLocal 1 others
    | .error leaving => throw leaving

/-- Show variables as commands that declare them. -/
def showDeclared (wanted : Variable → Bool) : Sh Unit := do
  let shell ← get
  let shown := shell.variables_.filter fun pair => wanted pair.2
  for (name, variable_) in shown.mergeSort fun first second => Raw.inOrder first.1 second.1 do
    sayLine (variable_.declared name)

/-- Show variables that are named as commands that declare them. -/
def showNamed : Nat → List Raw → Sh Nat
  | status, [] => pure status
  | status, name :: others => do
    let shell ← get
    let own := (shell.ownItems? name).map fun items => ({ value := none, items := some items } : Variable)
    match (shell.variables_.lookup name).or own with
    | some variable_ => do
      sayLine (variable_.declared name)
      showNamed status others
    | none => do
      protest (name ++ ": not found".toList)
      showNamed 1 others

/-- Whether a variable has all of the letters that are asked for. -/
def isWanted (declaration : Declaration) (variable_ : Variable) : Bool :=
  (declaration.given.filter "aAilunrx".toList.contains).all variable_.letters.contains

/-- Say which of some names are those of functions. -/
def findFunctions (namesOnly : Bool) : Nat → List Raw → Sh Nat
  | status, [] => pure status
  | status, name :: others => do
    let shell ← get
    if (shell.functions.lookup name).isSome then
      if namesOnly then sayLine name
      findFunctions namesOnly status others
    else findFunctions namesOnly 1 others

/-- Declare variables, or show them. -/
def declareVariables (onlyLocal : Bool) (arguments : List Raw) : Sh Nat := do
  let shell ← get
  if onlyLocal && shell.callers.isEmpty then giveUp "can only be used in a function".toList
  let (declaration, names) ← Declaration.read "aAfFgiIlnrtuxpc".toList (arguments.length + 1) {} arguments
  let isLocal := !shell.callers.isEmpty && !declaration.asks 'g'
  if declaration.asks 'f' || declaration.asks 'F' then
    if names.isEmpty then
      for (name, _) in shell.functions.mergeSort fun first second => Raw.inOrder first.1 second.1 do
        sayLine ("declare -f ".toList ++ name)
      pure 0
    else findFunctions (declaration.asks 'F') 0 names
  else if declaration.asks 'p' && !names.isEmpty then showNamed 0 names
  else if names.isEmpty then
    showDeclared (isWanted declaration)
    pure 0
  else declareEach declaration isLocal 0 names

/-- Pass variables on to programs, or show those that are passed on. -/
def exportNamed (arguments : List Raw) : Sh Nat := do
  let (declaration, names) ← Declaration.read "fnp".toList (arguments.length + 1) {} arguments
  if declaration.asks 'f' then
    let shell ← get
    match names.find? fun name => (shell.functions.lookup name).isNone with
    | some name => giveUp (name ++ ": not a function".toList)
    | none => pure 0
  else if names.isEmpty then
    showDeclared Variable.exported
    pure 0
  else if declaration.asks 'n' then declareEach { taken := ['x'] } false 0 names
  else declareEach { given := ['x'] } false 0 names

/-- Let variables keep their values, or show those that do. -/
def fixNamed (arguments : List Raw) : Sh Nat := do
  let (declaration, names) ← Declaration.read "aAfp".toList (arguments.length + 1) {} arguments
  if declaration.asks 'f' then pure 0
  else if names.isEmpty then
    showDeclared Variable.fixed
    pure 0
  else declareEach { given := 'r' :: declaration.given.filter "aA".toList.contains } false 0 names

/-- Remove an element of a variable. -/
def unsetElement (name part : Raw) : Sh Unit := do
  let shell ← get
  match shell.variables_.lookup name with
  | none => pure ()
  | some variable_ => do
    if variable_.fixed then giveUp (name ++ ": cannot unset: readonly variable".toList)
    let put := fun (items : Items) => modify fun shell => shell.put name { variable_ with items := some items }
    match variable_.items with
    | some (.table entries) =>
      put (.table (entries.filter fun entry => entry.1 != Reckon.unquoted part))
    | some (.list elements) =>
      if part == ['@'] || part == ['*'] then modify fun shell => shell.drop name
      else
        let place ← Reckon.placeOf Reckon.deepest name (some (.list elements)) part
        put (.list (elements.filter fun element => element.1 != place))
    | none => do
      let place ← reckon part
      if place != 0 then giveUp (name ++ ": not an array variable".toList)
      modify fun shell => shell.drop name

/-- Remove one variable or function; with `alone`, nothing but a variable. -/
def unsetOne (functions alone references : Bool) (written : Raw) : Sh Unit := do
  let shell ← get
  let dropFunction := modify fun shell =>
    { shell with functions := shell.functions.filter fun known => known.1 != written }
  let name := written.takeWhile (· != '[')
  if functions then dropFunction
  else if name.length < written.length && Raw.isName name then
    unsetElement (shell.realName Shell.longestNaming name) ((written.drop (name.length + 1)).dropLast)
  else
    let real := if references then written else shell.realName Shell.longestNaming written
    if (shell.variables_.lookup real).isSome then unset real
    else if !alone && (shell.functions.lookup written).isSome then dropFunction

/-- Remove variables or functions one after the other: the status. -/
def unsetEach (functions alone references : Bool) : Nat → List Raw → Sh Nat
  | status, [] => pure status
  | status, written :: others => do
    match ← attempt (unsetOne functions alone references written) with
    | .ok () => unsetEach functions alone references status others
    | .error .error => unsetEach functions alone references 1 others
    | .error leaving => throw leaving

/-- Remove variables or functions. -/
def unsetNamed (arguments : List Raw) : Sh Nat := do
  let (chosen, names) ← readOptions "fvn" arguments
  let asks := fun (letter : Char) => chosen.any fun option => option.letter == letter
  if asks 'f' && asks 'v' then
    giveUp "cannot simultaneously unset a function and a variable".toList
  unsetEach (asks 'f') (asks 'v') (asks 'n') 0 names

/-- Calculate formulas: whether the last one is zero. -/
def calculateEach : List Raw → Sh Nat
  | [] => giveUp "expression expected".toList
  | formulas => do
    let values ← formulas.mapM reckon
    pure (if values.getLast? == some 0 then 1 else 0)

end Sh

end AnswerQuery.Host.Script
