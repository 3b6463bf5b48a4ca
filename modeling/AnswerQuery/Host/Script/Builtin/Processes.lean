import AnswerQuery.Host.Script.Builtin.Basic

/-! Commands of a shell that are about processes and signals. -/

namespace AnswerQuery.Host.Script

namespace Sh

/-- The group of processes that an argument names. -/
def groupOf (text : Raw) (controlled : Bool) : Sh Group := do
  let shell ← get
  let found ← match text with
    | ['%'] => current shell
    | ['%', '+'] => current shell
    | ['%', '%'] => current shell
    | ['%', '-'] =>
      match shell.groups with
      | _ :: group :: _ => pure group
      | _ => giveUp ("No previous job: ".toList ++ text)
    | '%' :: rest =>
      match (Numeral.natural? rest).bind fun number => shell.groups.find? fun group => group.number == number with
      | some group => pure group
      | none =>
        -- The commands of processes are not kept, so that only the empty text is at their front.
        match (if rest == ['?'] then shell.groups else []) with
        | [group] => pure group
        | _ => giveUp ("No such job: ".toList ++ text)
    | _ => giveUp ("No such job: ".toList ++ text)
  if controlled then giveUp ("job ".toList ++ text ++ " not created under job control".toList)
  pure found
where
  /-- The processes that were started last. -/
  current (shell : Shell) : Sh Group :=
    match shell.groups with
    | group :: _ => pure group
    | [] => giveUp ("No current job: ".toList ++ text)

/-- Go on with processes that were stopped, which are none. -/
def controlGroups (arguments : List Raw) : Sh Nat := do
  let names ← withoutOptions arguments
  match names with
  | [] => do
    let shell ← get
    if shell.groups.isEmpty then giveUp "No current job".toList
    giveUp "job (null) not created under job control".toList
  | name :: _ => do
    let _ ← groupOf name true
    pure 0

/-- How processes have ended, in words. -/
def endText : ExitStatus → Raw
  | .exited 0 => "Done".toList
  | .exited code => "Done(".toList ++ decimal code ++ [')']
  | .killed signal _ => (Signal.description signal).take 32

/-- Show processes; those that have ended are forgotten. -/
def showGroup (numbers leaders : Bool) (group : Group) : Sh Unit := do
  if leaders then sayLine (decimal (group.processes.head?.getD 0))
  else
    let shell ← get
    let sign := match shell.groups with
      | first :: others =>
        if first.number == group.number then '+'
        else if (others.head?.map Group.number) == some group.number then '-' else ' '
      | [] => ' '
    let front := ['['] ++ decimal group.number ++ [']', ' ', sign, ' ']
    let process := if numbers then decimal (group.processes.head?.getD 0) ++ [' '] else []
    let state := if group.isOver then endText group.status else "Running".toList
    let padded := fun (text : Raw) => text ++ List.replicate (max 1 (33 - text.length)) ' '
    say (padded (front ++ process ++ state))
    let others := group.processes.drop 1
    if numbers then
      for other in others do
        say " |\n".toList
        say (padded (List.replicate front.length ' ' ++ decimal other ++ [' ']))
    else say (others.flatMap fun _ => " | ".toList)
    sayLine []
    if group.isOver then forget group.number

/-- Show the processes that have been started. -/
def showGroups (arguments : List Raw) : Sh Nat := do
  let (chosen, names) ← readOptions "lp" arguments
  let numbers := chosen.any fun option => option.letter == 'l'
  let leaders := chosen.any fun option => option.letter == 'p'
  if names.isEmpty then
    noteEnded
    for group in (← get).groups do
      showGroup numbers leaders group
  else
    for name in names do
      let group ← groupOf name false
      showGroup numbers leaders group
  pure 0

/-- Mark processes as waited for. -/
def markWaited (wanted : Group → Bool) : Sh Unit :=
  modify fun shell =>
    let mark := fun (group : Group) => if wanted group then { group with waited := true } else group
    { shell with groups := shell.groups.map mark }

/-- The status when a signal has come while something was waited for. -/
def interruptedStatus : Sh Nat := do
  let caught : List Nat ← ask .caught
  modify fun shell => { shell with pending := shell.pending ++ caught }
  pure (128 + (caught.head?.getD 0))

/-- Wait for all processes, those that were started first last. -/
def waitForAll : Nat → Sh Nat
  | 0 => pure 0
  | steps + 1 => do
    noteEnded
    let shell ← get
    match shell.groups.find? fun group => !group.isOver with
    | none => do
      markWaited fun _ => true
      pure 0
    | some group =>
      let missing := group.processes.filter fun process => (group.ended.lookup process).isNone
      let result : Except OsError ExitStatus ← ask (.wait (missing.head?.getD 0) true)
      match result with
      | .error .interrupted => interruptedStatus
      | .error _ => do
        note (missing.head?.getD 0) (.exited 127)
        waitForAll steps
      | .ok status => do
        note (missing.head?.getD 0) status
        waitForAll steps

/-- Wait for processes one after the other: the status of the last one. -/
def waitForEach : Nat → List Raw → Sh Nat
  | status, [] => pure status
  | _, name :: others => do
    let shell ← get
    let group? ← match name with
      | '%' :: _ => some <$> groupOf name false
      | _ => do
        let process ← numberOf name
        pure (shell.groups.find? fun group => group.processes.getLast? == some process)
    match group? with
    | none => waitForEach 127 others
    | some group =>
      if !(← awaitEach group.ended true group.processes) then interruptedStatus
      else
        markWaited fun other => other.number == group.number
        let shell ← get
        let status := ((shell.groups.find? fun other => other.number == group.number).map Group.status).getD (.exited 0)
        waitForEach (statusCode status) others

/-- Wait for processes. -/
def wait (arguments : List Raw) : Sh Nat := do
  match ← withoutOptions arguments with
  | [] => do
    let count := ((← get).groups.map fun group => group.processes.length + 1).foldl (· + ·) 1
    waitForAll count
  | names => waitForEach 127 names

/-- How a signal is sent. -/
def killUsage : Raw :=
  "Usage: kill [-s sigspec | -signum | -sigspec] [pid | job]... or\nkill -l [exitstatus]".toList

/-- Show the signals, or the one that an argument names. -/
def listSignals : List Raw → Sh Nat
  | [] => do
    sayLine ['0']
    for signal in List.range' 1 (Signal.count - 1) do
      sayLine (Signal.name signal)
    pure 0
  | text :: _ => do
    let number ← numberOf text
    let signal := if 128 < number then number - 128 else number
    if 0 < signal && signal < Signal.count then
      sayLine (Signal.name signal)
      pure 0
    else giveUp ("invalid signal number or exit status: ".toList ++ text)

/-- Send a signal to what arguments name. -/
def sendEach (signal : Nat) : Nat → List Raw → Sh Nat
  | status, [] => pure status
  | status, name :: others => do
    let process ← match name with
      | '%' :: _ => do
        let _ ← groupOf name false
        pure 0
      | '-' :: rest => do
        let _ ← numberOf rest
        pure 0
      | _ => numberOf name
    let result : Except OsError Unit ← ask (.send signal process)
    match result with
    | .ok () => sendEach signal status others
    | .error reason => do
      protest (reason.description ++ ['\n'])
      sendEach signal 1 others

/-- Send signals. -/
def kill (arguments : List Raw) : Sh Nat := do
  let send := fun (signal : Nat) (names : List Raw) =>
    if names.isEmpty then giveUp killUsage else sendEach signal 0 names
  match arguments with
  | [] => giveUp killUsage
  | ('-' :: name) :: others =>
    match Signal.ofText? 1 name with
    | some signal => send signal others
    | none => do
      let (chosen, names) ← readOptions "ls:" arguments
      let mut signal : Option Nat := none
      for option in chosen do
        if option.letter == 's' then
          match Signal.ofText? 1 option.argument with
          | some known => signal := some known
          | none => giveUp ("invalid signal number or name: ".toList ++ option.argument)
      if chosen.any fun option => option.letter == 'l' then
        if signal.isSome then giveUp killUsage else listSignals names
      else send (signal.getD 15) names
  | names => send 15 names

/-- Let something be done when a signal arrives, or let usual things happen. -/
def setTrap (action : Option Raw) (signal : Nat) : Sh Unit := do
  modify fun shell =>
    let others := shell.traps.filter fun trap => trap.1 != signal
    { shell with traps := match action with
        | some script => (signal, script) :: others
        | none => others }
  let shell ← get
  if signal != 0 && !shell.ignoredBefore.contains signal then
    ask (.react signal (match action with
      | none => .usual
      | some [] => .ignored
      | some _ => .caught))

/-- Show what is done when signals arrive. -/
def showTraps : Sh Unit := do
  let shell ← get
  for (signal, action) in shell.traps.mergeSort fun first second => first.1 ≤ second.1 do
    sayLine ("trap -- ".toList ++ quote action ++ [' '] ++ Signal.name signal)

/-- Let something be done when each of some signals arrives. -/
def setTraps (action : Option Raw) : List Raw → Sh Nat
  | [] => pure 0
  | name :: others => do
    match Signal.ofText? 0 name with
    | some signal => do
      setTrap action signal
      setTraps action others
    | none => do
      sayError ("trap: ".toList ++ name ++ ": bad trap\n".toList)
      pure 1

/-- Let something be done when signals arrive. -/
def trap (arguments : List Raw) : Sh Nat := do
  match ← withoutOptions arguments with
  | [] => do
    showTraps
    pure 0
  | [name] => setTraps none [name]
  | action :: names =>
    if (Signal.ofNumeral? action).isSome then setTraps none (action :: names)
    else setTraps (if action == ['-'] then none else some action) names

/-- Show how much time has been used, which is not counted. -/
def times : Sh Nat := do
  let row := "0m0.000000s 0m0.000000s".toList
  sayLine row
  sayLine row
  pure 0

end Sh

end AnswerQuery.Host.Script
