import AnswerQuery.Host.Script.Redirect
import AnswerQuery.Host.Script.Signal

/-! The processes that a shell starts, and how it waits for them. -/

namespace AnswerQuery.Host.Script

/-- The status that a shell makes of how a process ended. -/
def statusCode : ExitStatus → Nat
  | .exited code => code
  | .killed signal _ => 128 + signal

namespace Sh

/-- Remember processes that were started together; a place that is not needed any more is used again. -/
def remember (processes : List Nat) : Sh Nat := do
  let shell ← get
  let inOrder := shell.groups.mergeSort fun first second => first.number ≤ second.number
  let unneeded := inOrder.find? fun group => group.isOver && group.waited
  let groups := match unneeded with
    | some gone => shell.groups.filter fun group => group.number != gone.number
    | none => shell.groups
  let numbers := List.range' 1 (groups.length + 1)
  let number := (numbers.find? fun number => !groups.any fun group => group.number == number).getD 1
  set { shell with groups := { number, processes } :: groups }
  pure number

/-- Forget processes. -/
def forget (number : Nat) : Sh Unit :=
  modify fun shell => { shell with groups := shell.groups.filter fun group => group.number != number }

/-- Note how a process has ended. -/
def note (process : Nat) (status : ExitStatus) : Sh Unit :=
  modify fun shell =>
    let noted := fun (group : Group) =>
      if group.processes.contains process then { group with ended := (process, status) :: group.ended } else group
    { shell with groups := shell.groups.map noted }

/-- Note how the processes have ended that are not waited for. -/
def noteEnded : Sh Unit := do
  for group in (← get).groups do
    for process in group.processes do
      if (group.ended.lookup process).isNone then
        let ended : Option ExitStatus ← ask (.ended process)
        if let some status := ended then note process status

/-- Say by which signal a process has been ended, unless that is usual. -/
def announceEnd : ExitStatus → Sh Unit
  | .exited _ => pure ()
  | .killed signal _ =>
    if signal = 2 || signal = 13 then pure ()
    else sayError (Signal.description signal ++ ['\n'])

/-- Wait for one process, or for a signal if that may come first; whether it was the process. -/
def awaitProcess (process : Nat) (interruptible : Bool) : Sh Bool := do
  let result : Except OsError ExitStatus ← ask (.wait process interruptible)
  match result with
  | .ok status =>
    note process status
    announceEnd status
    pure true
  | .error .interrupted => pure false
  | .error _ =>
    note process (.exited 127)
    pure true

/-- Wait for processes that were started together, or for a signal if that may come first; whether it was them. -/
def awaitEach (ended : List (Nat × ExitStatus)) (interruptible : Bool) : List Nat → Sh Bool
  | [] => pure true
  | process :: others => do
    let hasEnded ← if (ended.lookup process).isSome then pure true else awaitProcess process interruptible
    if hasEnded then
      awaitEach ended interruptible others
    else pure false

/-- Wait for processes that were just started: the statuses of each. -/
def awaitAll (processes : List Nat) : Sh (List Nat) := do
  let number ← remember processes
  let _ ← awaitEach [] false processes
  let shell ← get
  let ended := ((shell.groups.find? fun group => group.number == number).map Group.ended).getD []
  forget number
  noteEnded
  pure (processes.map fun process => statusCode ((ended.lookup process).getD (.exited 0)))

/-- Wait for processes that were just started: the status of the last one. -/
def await (processes : List Nat) : Sh Nat := do
  let statuses ← awaitAll processes
  pure (statuses.getLast?.getD 0)

/-- Be a process that a shell has started to run a part of its script. -/
def enterBranch : Sh Unit := do
  let shell ← get
  for (signal, action) in shell.traps do
    if signal != 0 && !action.isEmpty then ask (.react signal .usual)
  set { shell with
    groups := [], layers := shell.layers + 1
    traps := shell.traps.filter fun (_, action) => action.isEmpty
    input := { shell.input with descriptor := none, text := [], pushed := [], complete := true } }
  match shell.input.descriptor with
  | some descriptor => if firstPrivate ≤ descriptor then ask (.close descriptor)
  | none => pure ()

/-- Be a process that is not waited for. -/
def enterBackground (isFirst : Bool) : Sh Unit := do
  ask (.react 2 .ignored)
  ask (.react 3 .ignored)
  if isFirst then
    ask (.close 0)
    let _ ← ask (.openFile "/dev/null".toList .reading)

/-- Whether something is done when a signal arrives. -/
def hasTraps : Sh Bool := do
  let shell ← get
  pure (shell.traps.any fun (_, action) => !action.isEmpty)

end Sh

end AnswerQuery.Host.Script
