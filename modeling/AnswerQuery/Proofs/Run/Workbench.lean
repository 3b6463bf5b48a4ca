import AnswerQuery.Proofs.Run.Wiring
import AnswerQuery.Workbench

/-! What a workbench asks of its operating system: messages, the calls of a pipeline between them, and the run of an
interpreter. -/

namespace AnswerQuery

/-- Whether some calls do nothing but write messages. -/
def OnlyReports (calls : List Call) : Prop :=
  ∀ call ∈ calls, ∃ message, call = .report message

namespace OnlyReports

variable {calls : List Call}

/-- Messages launch nothing. -/
theorem launch?_eq_nil (reports : OnlyReports calls) : calls.filterMap Call.launch? = [] := by
  rw [List.filterMap_eq_nil_iff]
  intro call member
  obtain ⟨message, rfl⟩ := reports call member
  rfl

/-- Messages wait for nothing. -/
theorem awaited?_eq_nil (reports : OnlyReports calls) : calls.filterMap Call.awaited? = [] := by
  rw [List.filterMap_eq_nil_iff]
  intro call member
  obtain ⟨message, rfl⟩ := reports call member
  rfl

/-- Messages use no file. -/
theorem usesFile (reports : OnlyReports calls) : ∀ call ∈ calls, call.usesFile = false := by
  intro call member
  obtain ⟨message, rfl⟩ := reports call member
  rfl

/-- No message is a wait that fails. -/
theorem waitFails (reports : OnlyReports calls) : ∀ call ∈ calls, call.waitFails = false := by
  intro call member
  obtain ⟨message, rfl⟩ := reports call member
  rfl

/-- Messages after messages are only messages. -/
theorem append {more : List Call} (reports : OnlyReports calls) (others : OnlyReports more) :
    OnlyReports (calls ++ more) := by
  rw [OnlyReports, List.forall_mem_append]
  exact ⟨reports, others⟩

end OnlyReports

namespace Workbench

variable {σ : Type} (workbench : Workbench) (system : System σ)

/-- A report is a message or nothing. -/
theorem runs_report (message : Text) (before : σ) :
    ∃ calls after, OnlyReports calls ∧
      system.Runs (workbench.report system message) (workbench.report system.logged message) before () calls after := by
  rw [report, report]
  split
  -- What the trace does not report is not written.
  · exact ⟨_, _, by simp [OnlyReports], .report _ before⟩
  · exact ⟨_, _, by simp [OnlyReports], .answer () before⟩

/-- The programs that failed are reported one after the other. -/
theorem runs_reportFailures (statuses : List (Text × ExitStatus)) (before : σ) :
    ∃ calls after, OnlyReports calls ∧
      system.Runs (workbench.reportFailures system statuses) (workbench.reportFailures system.logged statuses) before ()
        calls after := by
  induction statuses generalizing before with
  | nil => exact ⟨_, _, by simp [OnlyReports], .answer () before⟩
  | cons head others ih =>
    obtain ⟨program, status⟩ := head
    rw [reportFailures, reportFailures]
    split
    · -- The report of this program stands before those of the others.
      obtain ⟨first, middle, reports, runs⟩ :=
        workbench.runs_report system (program ++ " exited with ".toList ++ status.message) before
      obtain ⟨second, after, others, goesOn⟩ := ih middle
      exact ⟨_, after, reports.append others, runs.andThen goesOn⟩
    · obtain ⟨calls, after, reports, runs⟩ := ih before
      exact ⟨calls, after, reports, runs⟩

/-- What comes of running a program on the standard streams: it is refused, it cannot be waited for, or it ends. -/
inductive StageEnds (stage : Stage) :
    Except OsError Started → Except Failure ExitStatus → List Call → Prop
  /-- It is refused. -/
  | refused (reason : OsError) (calls : List Call) :
      StageEnds stage (.error reason) (.error (.launch stage.program reason)) calls
  /-- It is started, but cannot be waited for. -/
  | unawaited {started : Started} {reason : OsError} {calls : List Call}
      (fails : .wait started.child (.error reason) ∈ calls) :
      StageEnds stage (.ok started) (.error (.launch stage.program reason)) calls
  /-- It is started, and no wait fails. -/
  | ended {started : Started} {calls : List Call} (status : ExitStatus)
      (succeeds : ∀ call ∈ calls, call.waitFails = false) :
      StageEnds stage (.ok started) (.ok status) calls

/-- A program on the standard streams is launched, and waited for if it is not refused. -/
theorem runs_stage (stage : Stage) (before : σ) :
    ∃ outcome result calls after, calls.filterMap Call.launch? = [⟨stage, .inherited, .inherited, outcome⟩] ∧
      (∀ call ∈ calls, call.usesFile = false) ∧
      system.Runs (stage.run system) (stage.run system.logged) before result calls after ∧
      StageEnds stage outcome result calls := by
  cases launched : (system.launch stage .inherited .inherited).run before with
  | mk outcome middle =>
    have launch := System.Runs.launch launched
    cases outcome with
    | error reason =>
      exact ⟨_, _, _, middle, rfl, by simp [Call.usesFile], launch.andThen (.answer _ middle), .refused reason _⟩
    | ok started =>
      cases waited : (system.wait started.child).run middle with
      | mk outcome after =>
        -- A wait that fails is told like a launch that is refused.
        refine ⟨_, _, _, after, rfl, by simp [Call.usesFile], launch.andThen (System.Runs.wait waited).result, ?_⟩
        cases outcome with
        | error reason => exact .unawaited (by simp)
        | ok status => exact .ended status (by simp [Call.waitFails])

/-- Running an interpreter launches it and nothing else, and uses no file. -/
theorem runs_consult (stage : Stage) (before : σ) :
    ∃ outcome result calls after, calls.filterMap Call.launch? = [⟨stage, .inherited, .inherited, outcome⟩] ∧
      (∀ call ∈ calls, call.usesFile = false) ∧
      system.Runs (workbench.consult system stage) (workbench.consult system.logged stage) before
        (result.map fun _ => ()) calls after ∧
      StageEnds stage outcome result calls := by
  -- A message announces the interpreter.
  obtain ⟨announcing, announced, announcement, announces⟩ :=
    workbench.runs_report system ("Starting interpreter: ".toList ++ stage.shellForm) before
  obtain ⟨outcome, result, calls, ended, launches, unused, runs, ends⟩ := runs_stage system stage announced
  cases result with
  | error failure =>
    -- Nothing is reported behind a failure.
    refine ⟨outcome, .error failure, announcing ++ calls, ended, ?_, ?_, ?_, ?_⟩
    · rw [List.filterMap_append, announcement.launch?_eq_nil, launches, List.nil_append]
    · rw [List.forall_mem_append]
      exact ⟨announcement.usesFile, unused⟩
    · rw [← List.append_nil calls]
      exact announces.andThen (runs.andThen (.answer _ ended))
    · cases ends with
      | refused reason _ => exact .refused reason _
      | unawaited fails => exact .unawaited (List.mem_append_right _ fails)
  | ok status =>
    -- A message tells how the interpreter ended.
    obtain ⟨ending, after, report, reports⟩ :=
      workbench.runs_report system (stage.program ++ " exited with ".toList ++ status.message) ended
    refine ⟨outcome, .ok status, announcing ++ (calls ++ ending), after, ?_, ?_,
      announces.andThen (runs.andThen reports.result), ?_⟩
    · simp only [List.filterMap_append, announcement.launch?_eq_nil, launches, report.launch?_eq_nil, List.nil_append,
        List.append_nil]
    · simp only [List.forall_mem_append]
      exact ⟨announcement.usesFile, unused, report.usesFile⟩
    · cases ends with
      | ended _ succeeds =>
        refine .ended status ?_
        simp only [List.forall_mem_append]
        exact ⟨announcement.waitFails, succeeds, report.waitFails⟩

/-- What is wrong with an interpreter is that no supported one has its name. -/
theorem interpreterStage_cases (name : Text) :
    ((∀ known : Interpreter, known.name ≠ name) ∧
      workbench.interpreterStage name = .error (.unknownInterpreter name)) ∨
    ∃ stage, (∃ known : Interpreter, known.name = name) ∧ workbench.interpreterStage name = .ok stage := by
  rw [interpreterStage]
  cases found : Interpreter.ofName? name with
  | none =>
    -- An interpreter of that name would have been found.
    refine .inl ⟨?_, rfl⟩
    intro known same
    rw [Interpreter.ofName?_eq_some_iff.mpr same] at found
    cases found
  | some known => exact .inr ⟨_, ⟨known, Interpreter.ofName?_eq_some_iff.mp found⟩, rfl⟩

/-- What is wrong with a program and its solver: the program is missing, or else no supported solver has the name. -/
theorem datastorePipeline_cases (hasEntry : Text → Bool) (solver program : Text) :
    (hasEntry program = false ∧
      workbench.datastorePipeline hasEntry solver program = .error (.missingProgram program)) ∨
    (hasEntry program = true ∧ (∀ known : Solver, known.name ≠ solver) ∧
      workbench.datastorePipeline hasEntry solver program = .error (.unknownSolver solver)) ∨
    ∃ pipeline, hasEntry program = true ∧ (∃ known : Solver, known.name = solver) ∧
      workbench.datastorePipeline hasEntry solver program = .ok pipeline ∧
      pipeline.output = some (workbench.installation.path .datastore) ∧ pipeline.stages ≠ [] := by
  rw [datastorePipeline]
  cases found : hasEntry program with
  | false =>
    -- Nobody asks for the solver of a program that is not there.
    refine .inl ⟨rfl, ?_⟩
    simp only [solverStages, found]
    rfl
  | true =>
    cases chosen : Solver.ofName? solver with
    | none =>
      refine .inr (.inl ⟨rfl, ?_, ?_⟩)
      · intro known same
        rw [Solver.ofName?_eq_some_iff.mpr same] at chosen
        cases chosen
      · simp only [solverStages, found, chosen]
        rfl
    | some known =>
      -- Both families of solvers have stages, and those behind them are the same.
      obtain ⟨stages, made⟩ : ∃ stages, solverStages hasEntry solver program = .ok (known, stages) := by
        cases family : known.family <;> simp [solverStages, found, chosen, family]
      rw [made]
      exact .inr (.inr ⟨_, rfl, ⟨known, Solver.ofName?_eq_some_iff.mp chosen⟩, rfl, rfl, by simp⟩)

/-- Nothing is done where there is no pipeline to run. -/
theorem fillDatastore_of_error {solver program : Text} {state : σ} {failure : Failure}
    (built : workbench.datastorePipeline (system.hasEntry state) solver program = .error failure) :
    (workbench.fillDatastore system solver program).run state = (.error failure, state) := by
  rw [fillDatastore, run_look, built, run_answer]

/-- A pipeline is announced, then it is run, and then the programs that failed are reported. -/
theorem fillDatastore_of_ok {solver program : Text} {state : σ} {pipeline : Pipeline}
    (built : workbench.datastorePipeline (system.hasEntry state) solver program = .ok pipeline) :
    (workbench.fillDatastore system solver program).run state =
      (do
        workbench.report system ("Generating datastore: ".toList ++ pipeline.shellForm)
        match ← pipeline.run system with
        | .error failure => pure (.error failure)
        | .ok statuses =>
          workbench.reportFailures system statuses
          pure (.ok ()) : StateM σ (Except Failure Unit)).run state := by
  rewrite [fillDatastore, run_look, built]
  -- The match on the pipeline is decided now.
  rfl

/-- Without a pipeline there are no calls. -/
theorem runs_fillDatastore_of_error {solver program : Text} {before : σ} {failure : Failure}
    (built : workbench.datastorePipeline (system.hasEntry before) solver program = .error failure) :
    system.Runs (workbench.fillDatastore system solver program) (workbench.fillDatastore system.logged solver program)
      before (.error failure) [] before :=
  .congr (workbench.fillDatastore_of_error system built)
    (fun _ => workbench.fillDatastore_of_error system.logged built) (.answer _ before)

/-- The calls of a pipeline stand behind an announcement, and it alone decides whether there is a failure. Only if there
is none, something is reported behind them. -/
theorem runs_fillDatastore_of_ok {solver program : Text} {before : σ} {pipeline : Pipeline}
    (built : workbench.datastorePipeline (system.hasEntry before) solver program = .ok pipeline) :
    ∃ announcing begun, OnlyReports announcing ∧ system.Leads before announcing begun ∧
      (∀ failure calls ended,
        system.Runs (pipeline.run system) (pipeline.run system.logged) begun (.error failure) calls ended →
        system.Runs (workbench.fillDatastore system solver program)
          (workbench.fillDatastore system.logged solver program) before (.error failure) (announcing ++ calls) ended) ∧
      ∀ statuses calls ended,
        system.Runs (pipeline.run system) (pipeline.run system.logged) begun (.ok statuses) calls ended →
        ∃ reporting after, OnlyReports reporting ∧ system.Leads ended reporting after ∧
          system.Runs (workbench.fillDatastore system solver program)
            (workbench.fillDatastore system.logged solver program) before (.ok ())
            (announcing ++ (calls ++ reporting)) after := by
  obtain ⟨announcing, begun, announcement, announces⟩ :=
    workbench.runs_report system ("Generating datastore: ".toList ++ pipeline.shellForm) before
  -- The pipeline is the same whether calls are written down or not.
  have same := workbench.fillDatastore_of_ok system built
  have builtLogged (earlier : List Call) :
      workbench.datastorePipeline (system.logged.hasEntry (before, earlier)) solver program = .ok pipeline := built
  have sameLogged (earlier : List Call) := workbench.fillDatastore_of_ok system.logged (builtLogged earlier)
  refine ⟨announcing, begun, announcement, announces.leads, ?_, ?_⟩
  · intro failure calls ended runs
    rw [← List.append_nil calls]
    exact .congr same sameLogged (announces.andThen (runs.andThen (.answer _ ended)))
  · intro statuses calls ended runs
    obtain ⟨reporting, after, report, reports⟩ := workbench.runs_reportFailures system statuses ended
    exact ⟨reporting, after, report, reports.leads,
      .congr same sameLogged (announces.andThen (runs.andThen reports.result))⟩

end Workbench

end AnswerQuery
