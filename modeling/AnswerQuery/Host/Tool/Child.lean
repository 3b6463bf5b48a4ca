import AnswerQuery.Host.Machine
import AnswerQuery.Host.Tool.Basic

/-! Other programs that are run by programs. -/

namespace AnswerQuery.Host.Tool

/-- The shell that commands are handed to. -/
def usualShell : Raw := "/bin/sh".toList

/-- Become the program at a path; one that is no program is handed to the shell. -/
def becomeAt (path : Raw) (arguments : List Raw) (bindings : List (Raw × Raw)) : Job OsError := do
  let reason : OsError ← Job.call (.execute path arguments bindings)
  if reason == .badExecutable then
    Job.call (.execute usualShell (usualShell :: path :: arguments.drop 1) bindings)
  else pure reason

/-- Become the first of several programs that can be run. -/
def becomeFirst (arguments : List Raw) (bindings : List (Raw × Raw)) : OsError → List Raw → Job OsError
  | reason, [] => pure reason
  | reason, path :: others => do
    match ← becomeAt path arguments bindings with
    | .noEntry => becomeFirst arguments bindings reason others
    | .notDirectory => becomeFirst arguments bindings reason others
    | .noAccess => becomeFirst arguments bindings .noAccess others
    | other => pure other

/-- Become the program of a name, the first of the arguments, which is looked for in the directories of a variable; the
result tells why that failed. -/
def become (arguments : List Raw) (bindings : List (Raw × Raw)) : Job OsError := do
  let name := arguments.head?.getD []
  if name.isEmpty then pure .noEntry
  else if name.contains '/' then becomeAt name arguments bindings
  else
    let search := (bindings.lookup "PATH".toList).getD Files.usualSearch
    becomeFirst arguments bindings .noEntry ((Raw.split ':' search).map (Machine.inDirectory name))

/-- The status of a program that cannot be run. -/
def statusOfRefusal (reason : OsError) : Nat :=
  if reason == .noEntry then 127 else 126

namespace Act

/-- The environment variables. -/
def bindings : Act (List (Raw × Raw)) :=
  ask .bindings

/-- Wait until a process ends. -/
def await (process : Nat) : Act ExitStatus := do
  let result : Except OsError ExitStatus ← ask (.wait process false)
  pure (match result with
    | .ok status => status
    | .error _ => .exited 127)

/-- Start a process that does a job. -/
def start (job : Job Nat) : Act Nat :=
  StateT.lift (Job.fork job.toProgram)

/-- Hand a command to the shell: a job. -/
def shellJob (command : Raw) (bindings : List (Raw × Raw)) : Job Nat := do
  let reason ← becomeAt usualShell ["sh".toList, "-c".toList, command] bindings
  pure (statusOfRefusal reason)

/-- What a command writes that is handed to the shell, and how it ends. -/
def outputOf (command : Raw) : Act (Bytes × ExitStatus) := do
  flush
  let bindings ← bindings
  let (reading, writing) : Nat × Nat ← ask .makePipe
  let child ← start do
    let _ ← Job.call (.duplicate writing 1)
    Job.call (.close reading)
    Job.call (.close writing)
    shellJob command bindings
  ask (.close writing)
  let result : Except OsError Bytes ← StateT.lift (Job.readAll reading)
  ask (.close reading)
  let status ← await child
  pure (result.toOption.getD [], status)

/-- Hand a command to the shell and wait for it. -/
def runCommand (command : Raw) : Act ExitStatus := do
  flush
  let bindings ← bindings
  let child ← start (shellJob command bindings)
  await child

end Act

end AnswerQuery.Host.Tool
