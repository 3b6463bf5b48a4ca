import AnswerQuery.Installation
import AnswerQuery.Interpreter
import AnswerQuery.Run
import AnswerQuery.Solver
import AnswerQuery.Trace

/-! The workbench: an installation with all that is done with it, from the solver to the interpreter. -/

namespace AnswerQuery

/-- An installation, and what is reported while it is used. -/
structure Workbench where
  /-- The installation. -/
  installation : Installation
  /-- What is reported. -/
  trace : Trace

namespace Workbench

/-- The grounder in front of the solvers that do not ground. -/
def grounder : Text := "lparse".toList

/-- The option that lets the grounder accept classical negation. -/
def trueNegation : Text := "--true-negation".toList

/-- The stages that compute the answer sets of a program; that the program is there is checked before the solver. -/
def solverStages (hasEntry : Text → Bool) (solver program : Text) : Except Failure (Solver × List Stage) :=
  if hasEntry program then
    match Solver.ofName? solver with
    | none => .error (.unknownSolver solver)
    | some known =>
      match known.family with
      | .grounded =>
        .ok (known, [((Stage.mk grounder []).withArgument trueNegation).withArgument program, ⟨known.name, []⟩])
      | .standalone => .ok (known, [(Stage.mk known.name []).withArgument program])
  else .error (.missingProgram program)

/-- The stage that extracts the models a solver prints. -/
def extractStage (workbench : Workbench) (solver : Solver) : Stage :=
  (Stage.mk (workbench.installation.path .extractor) []).withArgument ("--solver=".toList ++ solver.name)

/-- The stage that turns the models into facts. -/
def prepStage (workbench : Workbench) : Stage :=
  ⟨workbench.installation.path .normalizer, []⟩

/-- The pipeline that computes the datastore of a program. -/
def datastorePipeline (workbench : Workbench) (hasEntry : Text → Bool) (solver program : Text) :
    Except Failure Pipeline := do
  let (known, stages) ← solverStages hasEntry solver program
  let pipeline : Pipeline := { stages }
  pure (((pipeline.followedBy (workbench.extractStage known)).followedBy workbench.prepStage).writingTo
    (workbench.installation.path .datastore))

/-- The call of an interpreter that consults the datastore and the queries. -/
def interpreterStage (workbench : Workbench) (interpreter : Text) : Except Failure Stage :=
  match Interpreter.ofName? interpreter with
  | none => .error (.unknownInterpreter interpreter)
  | some known =>
    .ok (known.consulting workbench.installation.platform
      [workbench.installation.path .datastore, workbench.installation.path .queries])

variable {σ : Type}

/-- Report a message about the processes. -/
def report (workbench : Workbench) (system : System σ) (message : Text) : StateM σ Unit :=
  if workbench.trace.reports .pipeline then system.report (message ++ ['\n']) else pure ()

/-- Report how a program ended. -/
def reportEnd (workbench : Workbench) (system : System σ) (program : Text) (status : ExitStatus) : StateM σ Unit :=
  workbench.report system (program ++ " exited with ".toList ++ status.message)

/-- Report the programs that did not end as they should. -/
def reportFailures (workbench : Workbench) (system : System σ) : List (Text × ExitStatus) → StateM σ Unit
  | [] => pure ()
  | (program, status) :: others => do
    if !status.succeeded then workbench.reportEnd system program status
    workbench.reportFailures system others

/-- Compute the answer sets of a program and overwrite the datastore with them. -/
def fillDatastore (workbench : Workbench) (system : System σ) (solver program : Text) :
    StateM σ (Except Failure Unit) := do
  match workbench.datastorePipeline (system.hasEntry (← get)) solver program with
  | .error failure => pure (.error failure)
  | .ok pipeline =>
    workbench.report system ("Generating datastore: ".toList ++ pipeline.shellForm)
    match ← pipeline.run system with
    | .error failure => pure (.error failure)
    | .ok statuses =>
      workbench.reportFailures system statuses
      pure (.ok ())

/-- Run an interpreter that has already been chosen. -/
def consult (workbench : Workbench) (system : System σ) (stage : Stage) : StateM σ (Except Failure Unit) := do
  workbench.report system ("Starting interpreter: ".toList ++ stage.shellForm)
  match ← stage.run system with
  | .error failure => pure (.error failure)
  | .ok status =>
    workbench.reportEnd system stage.program status
    pure (.ok ())

/-- Run an interpreter on the datastore as it is. -/
def openInterpreter (workbench : Workbench) (system : System σ) (interpreter : Text) :
    StateM σ (Except Failure Unit) :=
  match workbench.interpreterStage interpreter with
  | .error failure => pure (.error failure)
  | .ok stage => workbench.consult system stage

/-- Compute the datastore of a program and run an interpreter on it. The interpreter is chosen first, so that a name
that is unknown leaves the datastore as it is. -/
def query (workbench : Workbench) (system : System σ) (solver program interpreter : Text) :
    StateM σ (Except Failure Unit) :=
  match workbench.interpreterStage interpreter with
  | .error failure => pure (.error failure)
  | .ok stage => do
    match ← workbench.fillDatastore system solver program with
    | .error failure => pure (.error failure)
    | .ok () => workbench.consult system stage

end Workbench

end AnswerQuery
