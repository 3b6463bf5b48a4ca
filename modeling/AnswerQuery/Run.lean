import AnswerQuery.Failure
import AnswerQuery.System.Basic

/-! Running pipelines: every stage is started before any is waited for. -/

namespace AnswerQuery

/-- What the next stage reads: the pipe that the last one writes. -/
def Inlet.after : Option PipeEnd → Inlet
  | some source => .pipe source
  | none => .inherited

/-- Where a stage writes: a pipe if others follow, or else the file if there is one. -/
def Outlet.before (later : List Stage) (file : Option OutputFile) : Outlet :=
  match later, file with
  | _ :: _, _ => .pipe
  | [], some target => .file target
  | [], none => .inherited

/-- Wait for processes in order; each status is kept with the program it belongs to. If a process cannot be waited for,
its program is named, and the others are not waited for. -/
def System.waitAll {σ : Type} (system : System σ) :
    List (Text × Child) → StateM σ (Except Failure (List (Text × ExitStatus)))
  | [] => pure (.ok [])
  | (program, child) :: others => do
    match ← system.wait child with
    | .error reason => pure (.error (.launch program reason))
    | .ok status =>
      let statuses ← system.waitAll others
      pure (statuses.map fun statuses => (program, status) :: statuses)

/-- Start stages and wait for all of them. If one cannot be started, those before it are waited for while its inlet is
still held, whatever comes of that, and no other is started. -/
def launchStages {σ : Type} (system : System σ) (file : Option OutputFile) :
    List Stage → Inlet → List (Text × Child) → StateM σ (Except Failure (List (Text × ExitStatus)))
  | [], _, running => system.waitAll running
  | stage :: later, inlet, running => do
    match ← system.launch stage inlet (.before later file) with
    | .ok started =>
      system.release inlet
      launchStages system file later (.after started.source) (running ++ [(stage.program, started.child)])
    | .error reason =>
      system.waitEach (running.map Prod.snd)
      system.release inlet
      pure (.error (.launch stage.program reason))

/-- Run a pipeline; its output file is emptied before anything is started. -/
def Pipeline.run {σ : Type} (pipeline : Pipeline) (system : System σ) :
    StateM σ (Except Failure (List (Text × ExitStatus))) :=
  match pipeline.output with
  | none => launchStages system none pipeline.stages .inherited []
  | some path => do
    match ← system.create path with
    | .ok file => launchStages system (some file) pipeline.stages .inherited []
    | .error reason => pure (.error (.datastore path reason))

/-- Run a program on the standard streams and wait for it. A wait that fails counts as a launch that fails. -/
def Stage.run {σ : Type} (stage : Stage) (system : System σ) : StateM σ (Except Failure ExitStatus) := do
  match ← system.launch stage .inherited .inherited with
  | .error reason => pure (.error (.launch stage.program reason))
  | .ok started =>
    let ended ← system.wait started.child
    pure (ended.mapError (.launch stage.program))

end AnswerQuery
