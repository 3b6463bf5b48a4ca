import AnswerQuery.Host.Script.Builtin.Processes
import AnswerQuery.Host.Script.Reference

/-! Commands of the rich dialect that send signals, wait for processes, and say what is to be done when something
happens. -/

namespace AnswerQuery.Host.Script

namespace Happening

/-- The number that stands for the failure of a command where signals are told apart. -/
def failure : Nat := 1000

/-- What can happen besides the arrival of a signal. -/
def others : List (String × Nat) :=
  [("ERR", failure), ("DEBUG", 1001), ("RETURN", 1002)]

/-- What is called by a name, or by its number. -/
def ofText? (text : Raw) : Option Nat :=
  let capital := text.map Char.toUpper
  match Signal.ofNumeral? text with
  | some number => some number
  | none =>
    let short := if "SIG".toList.isPrefixOf capital then capital.drop 3 else capital
    match others.find? fun pair => pair.1.toList == capital with
    | some (_, number) => some number
    | none =>
      if short == "EXIT".toList then some 0
      else ((List.range' 1 (Signal.count - 1)).find? fun signal =>
        Signal.isNamed signal && Signal.fullName signal == short).or (Signal.ofFullName? short)

/-- What something that happens is called. -/
def title (number : Nat) : Raw :=
  match others.find? fun pair => pair.2 == number with
  | some (name, _) => name.toList
  | none => if number = 0 then "EXIT".toList else "SIG".toList ++ fullName number
where
  /-- The name of a signal among those that have one. -/
  fullName (number : Nat) : Raw :=
    if number = 29 then "IO".toList else Signal.fullName number

end Happening

namespace Sh

/-- Say what is to be done when things happen, one after the other: the status. -/
def plan (action : Option Raw) : Nat → List Raw → Sh Nat
  | status, [] => pure status
  | status, name :: others => do
    match Happening.ofText? name with
    | none => do
      protest (name ++ ": invalid signal specification".toList)
      plan action 1 others
    | some number => do
      if number < Signal.count then setTrap action number
      else modify fun shell =>
        let kept := shell.traps.filter fun trap => trap.1 != number
        { shell with traps := match action with
            | some script => (number, script) :: kept
            | none => kept }
      plan action status others

/-- Show what is done when some things happen, or when anything does. -/
def showPlans (names : List Raw) : Sh Nat := do
  let shell ← get
  let mut status := 0
  for name in names do
    if (Happening.ofText? name).isNone then
      protest (name ++ ": invalid signal specification".toList)
      status := 1
  let wanted := names.filterMap Happening.ofText?
  for (number, action) in shell.traps.mergeSort fun first second => first.1 ≤ second.1 do
    if names.isEmpty || wanted.contains number then
      sayLine ("trap -- ".toList ++ quotedText action ++ [' '] ++ Happening.title number)
  pure status

/-- The table of the signals. -/
def showSignals : Sh Unit := do
  let shown := (List.range' 1 (Signal.count - 1)).filter Signal.isNamed
  let cells := shown.map fun signal =>
    let digits := decimal signal
    List.replicate (2 - digits.length) ' ' ++ digits ++ ") ".toList ++ Happening.title signal
  let rec rows : Nat → List Raw → Sh Unit
    | 0, _ => pure ()
    | steps + 1, cells =>
      match cells with
      | [] => pure ()
      | _ => do
        let row := cells.take 5
        say (['\t'].intercalate row ++ (if row.length = 5 then ['\n'] else "\t\n".toList))
        rows steps (cells.drop 5)
  rows 20 cells

/-- Say what is to be done when something happens. -/
def planAll (arguments : List Raw) : Sh Nat := do
  let (chosen, operands) ← readOptions "lp" arguments
  let asks := fun (letter : Char) => chosen.any fun option => option.letter == letter
  if asks 'l' then
    showSignals
    pure 0
  else if asks 'p' || operands.isEmpty then showPlans operands
  else match operands with
    | [name] =>
      if (Happening.ofText? name).isSome || name == ['-'] then plan none 0 [name]
      else showUsage
    | action :: names =>
      if (Signal.ofNumeral? action).isSome then plan none 0 (action :: names)
      else plan (if action == ['-'] then none else some action) 0 names
    | [] => pure 0

/-- The group of processes that an argument names by its number. -/
def groupNamed (text : Raw) : Sh Group := do
  let shell ← get
  let found := match text with
    | ['%'] => shell.groups.head?
    | ['%', '+'] => shell.groups.head?
    | ['%', '%'] => shell.groups.head?
    | ['%', '-'] => (shell.groups.drop 1).head?
    | '%' :: digits => (Numeral.natural? digits).bind fun number =>
        shell.groups.find? fun group => group.number == number
    | _ => none
  match found with
  | some group => pure group
  | none => giveUp (text ++ ": no such job".toList)

/-- Wait for processes one after the other: the status of the last one. -/
def awaitNamed : Nat → List Raw → Sh Nat
  | status, [] => pure status
  | _, name :: others => do
    let shell ← get
    let group ← match name with
      | '%' :: _ => do
        match ← attempt (groupNamed name) with
        | .ok group => pure (some group)
        | .error .error => return ← awaitNamed 127 others
        | .error leaving => throw leaving
      | _ =>
        match Numeral.natural? name with
        | none => giveUp ('\x60' :: name ++ "': not a pid or valid job spec".toList)
        | some process => pure (shell.groups.find? fun group => group.processes.getLast? == some process)
    match group with
    | none => do
      protest ("pid ".toList ++ name ++ " is not a child of this shell".toList)
      awaitNamed 127 others
    | some group =>
      if !(← awaitEach group.ended true group.processes) then interruptedStatus
      else
        markWaited fun other => other.number == group.number
        let shell ← get
        let status := ((shell.groups.find? fun other => other.number == group.number).map Group.status).getD (.exited 0)
        awaitNamed (statusCode status) others

/-- Wait for processes. -/
def awaitAsked (arguments : List Raw) : Sh Nat := do
  let (chosen, names) ← readOptions "fnp:" arguments
  let shell ← get
  if chosen.any fun option => option.letter == 'n' then
    match shell.groups.reverse.find? fun group => !group.waited with
    | some group => awaitNamed 0 [decimal (group.processes.getLast?.getD 0)]
    | none => pure 127
  else match names with
    | [] => do
      let count := (shell.groups.map fun group => group.processes.length + 1).foldl (· + ·) 1
      waitForAll count
    | names => awaitNamed 0 names

/-- Show signals by their numbers or names: the status. -/
def tellSignals : Nat → List Raw → Sh Nat
  | status, [] => pure status
  | status, text :: others => do
    let known := match Numeral.natural? text with
      | some number =>
        let signal := if 128 < number then number - 128 else number
        if 0 < signal && Signal.isNamed signal then some ((Happening.title signal).drop 3) else none
      | none => ((Happening.ofText? text).filter (· < Signal.count)).map decimal
    match known with
    | some shown => do
      sayLine shown
      tellSignals status others
    | none => do
      protest (text ++ ": invalid signal specification".toList)
      tellSignals 1 others

/-- Send a signal to what arguments name: the status. -/
def signalEach (signal : Nat) : Nat → List Raw → Sh Nat
  | status, [] => pure status
  | status, name :: others => do
    let target ← match name with
      | '%' :: _ => do
        let group ← groupNamed name
        pure (some (group.processes.getLast?.getD 0))
      | _ => pure (Numeral.natural? name)
    match target with
    | none => do
      protest (name ++ ": arguments must be process or job IDs".toList)
      signalEach signal 1 others
    | some process => do
      let result : Except OsError Unit ← ask (.send signal process)
      match result with
      | .ok () => signalEach signal status others
      | .error reason => do
        protest ("(".toList ++ decimal process ++ ") - ".toList ++ reason.description)
        signalEach signal 1 others

/-- Send signals, or tell about them. -/
def signalAll (arguments : List Raw) : Sh Nat := do
  let signalOf := fun (text : Raw) => do
    match (Happening.ofText? text).filter (· < Signal.count) with
    | some signal => pure signal
    | none => giveUp (text ++ ": invalid signal specification".toList)
  let send := fun (signal : Nat) (names : List Raw) =>
    if names.isEmpty then showUsage else signalEach signal 0 names
  match arguments with
  | [] => showUsage
  | ['-', 'l'] :: [] => do
    showSignals
    pure 0
  | ['-', 'L'] :: [] => do
    showSignals
    pure 0
  | ['-', 'l'] :: names => tellSignals 0 names
  | ['-', '-'] :: names => send 15 names
  | ['-', c] :: text :: names =>
    if c == 's' || c == 'n' then do
      let signal ← signalOf text
      send signal names
    else do
      let signal ← signalOf [c]
      send signal (text :: names)
  | ('-' :: c :: rest) :: names =>
    if (c == 's' || c == 'n') && rest.isEmpty then giveUp (['-', c] ++ ": option requires an argument".toList)
    else do
      let signal ← signalOf (c :: rest)
      send signal names
  | names => send 15 names

end Sh

end AnswerQuery.Host.Script
