import AnswerQuery.Stage
import AnswerQuery.System.ExitStatus
import AnswerQuery.System.OsError

/-! What is asked of an operating system in order to run pipelines, with pipe ends that are held until they are closed. -/

namespace AnswerQuery

/-- A file opened for writing. -/
structure OutputFile where
  /-- What the system knows the file by. -/
  handle : Nat
  deriving DecidableEq, Repr

/-- The read end of a pipe. -/
structure PipeEnd where
  /-- What the system knows the pipe by. -/
  handle : Nat
  deriving DecidableEq, Repr

/-- A process that was started. -/
structure Child where
  /-- What the system knows the process by. -/
  handle : Nat
  deriving DecidableEq, Repr

/-- What a process reads. -/
inductive Inlet where
  /-- What the process that starts it would read. -/
  | inherited
  /-- A pipe, whose read end is held until it is closed. -/
  | pipe (source : PipeEnd)
  deriving DecidableEq, Repr

/-- Where a process writes. -/
inductive Outlet where
  /-- Where the process that starts it would write. -/
  | inherited
  /-- A new pipe. -/
  | pipe
  /-- A file. -/
  | file (target : OutputFile)
  deriving DecidableEq, Repr

/-- A process that was started, and the read end of the pipe it writes, if it writes one. -/
structure Started where
  /-- The process. -/
  child : Child
  /-- The read end of the pipe it writes. -/
  source : Option PipeEnd
  deriving DecidableEq, Repr

/-- An operating system with states of a given type. -/
structure System (σ : Type) where
  /-- Whether there is anything at a path. -/
  hasEntry : σ → Text → Bool
  /-- Open a file for writing and empty it. -/
  create : Text → StateM σ (Except OsError OutputFile)
  /-- Start a program. The inlet stays open here as well. -/
  launch : Stage → Inlet → Outlet → StateM σ (Except OsError Started)
  /-- Give up the read end of a pipe. -/
  close : PipeEnd → StateM σ Unit
  /-- Wait until a process ends. -/
  wait : Child → StateM σ (Except OsError ExitStatus)
  /-- Write to the standard error. -/
  report : Text → StateM σ Unit

/-- Give up an inlet. -/
def System.release {σ : Type} (system : System σ) : Inlet → StateM σ Unit
  | .inherited => pure ()
  | .pipe source => system.close source

/-- Wait for processes in order, whatever comes of it. -/
def System.waitEach {σ : Type} (system : System σ) : List Child → StateM σ Unit
  | [] => pure ()
  | child :: others => do
    let _ ← system.wait child
    system.waitEach others

end AnswerQuery
