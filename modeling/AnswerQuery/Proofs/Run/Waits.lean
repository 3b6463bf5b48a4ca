import AnswerQuery.Proofs.Run.Errands

/-! Waits that cannot fail: only processes that were started are waited for, so that no wait fails on an operating system
that keeps track of what it has started. -/

namespace AnswerQuery

variable {σ : Type}

/-- Whether every process that is waited for was started before. -/
def AwaitsStarted (calls : List Call) : Prop :=
  ∀ front child outcome back, calls = front ++ .wait child outcome :: back →
    child ∈ (front.filterMap Call.started?).map Started.child

namespace AwaitsStarted

variable {calls more : List Call}

/-- Calls that wait for nothing wait only for what was started. -/
theorem of_no_wait (idle : calls.filterMap Call.awaited? = []) : AwaitsStarted calls := by
  -- Any wait would be one of the calls.
  rintro front child outcome back rfl
  simp [Call.awaited?] at idle

/-- Calls that wait for nothing may come before others that wait only for what is started in them. -/
theorem behind (idle : calls.filterMap Call.awaited? = [])
    (awaited : ∀ child ∈ more.filterMap Call.awaited?, child ∈ (calls.filterMap Call.started?).map Started.child) :
    AwaitsStarted (calls ++ more) := by
  intro front child outcome back parts
  -- The wait is not one of the first calls, so that these stand before it.
  obtain ⟨between, rfl, behind⟩ | ⟨between, rfl, inside⟩ := List.append_eq_append_iff.mp parts
  · have member : child ∈ (calls.filterMap Call.started?).map Started.child :=
      awaited child (by simp [behind, Call.awaited?])
    simp only [List.filterMap_append, List.map_append, List.mem_append]
    exact .inl member
  · -- It would be one of the first calls, unless these end right in front of it.
    cases between with
    | nil =>
      rw [List.nil_append] at inside
      simpa using awaited child (by simp [← inside, Call.awaited?])
    | cons first between =>
      cases inside
      simp [Call.awaited?] at idle

/-- If two lists of calls wait only for what was started, they do so one after the other. -/
theorem append (first : AwaitsStarted calls) (second : AwaitsStarted more) : AwaitsStarted (calls ++ more) := by
  intro front child outcome back parts
  obtain ⟨between, rfl, behind⟩ | ⟨between, rfl, inside⟩ := List.append_eq_append_iff.mp parts
  · -- The wait is one of the second calls.
    simp only [List.filterMap_append, List.map_append, List.mem_append]
    exact .inr (second between child outcome back behind)
  · -- The wait is one of the first calls, or the very first of the second, which cannot be.
    cases between with
    | nil =>
      rw [List.nil_append] at inside
      cases second [] child outcome back inside.symm
    | cons head between =>
      cases inside
      exact first front child outcome between rfl

end AwaitsStarted

/-- Messages wait for nothing, and so for nothing that was not started. -/
theorem OnlyReports.awaitsStarted {calls : List Call} (reports : OnlyReports calls) : AwaitsStarted calls :=
  .of_no_wait reports.awaited?_eq_nil

/-- Only the processes of its stages are waited for in a course. -/
theorem Course.awaitsStarted (course : Course) (file : Option OutputFile) (inlet : Inlet) :
    AwaitsStarted (course.calls file inlet []) := by
  -- All launches come before the first wait.
  obtain ⟨others, rest, parts⟩ : ∃ others rest,
      course.calls file inlet [] = launchCalls file others inlet course.launched ++ rest := by
    cases refusal : course.refusal with
    | none =>
      rw [Course.calls, refusal]
      exact ⟨_, _, rfl⟩
    | some refused =>
      rw [Course.calls, refusal]
      exact ⟨_, _, rfl⟩
  rw [parts]
  refine .behind (awaited_launchCalls ..) fun child member => ?_
  -- Each of the processes is that of a launch.
  have awaited := course.awaited_calls file inlet []
  rw [parts, List.filterMap_append, awaited_launchCalls, List.nil_append] at awaited
  have taken := List.mem_of_mem_take (awaited ▸ member)
  simpa [started_launchCalls, Launched.running] using taken

/-- A pipeline waits only for processes that it has started. -/
theorem Pipeline.awaitsStarted (pipeline : Pipeline) (system : System σ) (state : σ) :
    AwaitsStarted (pipeline.calls system state) := by
  obtain ⟨path, reason, -, -, calls⟩ | ⟨file, opening, course, opened, -, -, calls, -⟩ :=
    pipeline.calls_cases system state
  · -- Where the file cannot be opened, nothing is waited for.
    rw [calls]
    exact .of_no_wait rfl
  · rw [calls]
    exact (AwaitsStarted.of_no_wait opened.awaited).append (course.awaitsStarted file .inherited)

namespace Workbench

variable (workbench : Workbench) (system : System σ)

/-- Filling the datastore waits only for processes that were started for it. -/
theorem fillDatastore_awaitsStarted (solver program : Text) (before : σ) :
    ∃ result calls after, AwaitsStarted calls ∧
      system.Runs (workbench.fillDatastore system solver program) (workbench.fillDatastore system.logged solver program)
        before result calls after := by
  cases built : workbench.datastorePipeline (system.hasEntry before) solver program with
  | error failure =>
    exact ⟨_, [], before, .of_no_wait rfl, workbench.runs_fillDatastore_of_error system built⟩
  | ok pipeline =>
    obtain ⟨announcing, begun, announcement, -, fails, succeeds⟩ :=
      workbench.runs_fillDatastore_of_ok system built
    -- Only messages stand around the calls of the pipeline.
    have runs := pipeline.runs system begun
    have awaits := announcement.awaitsStarted.append (pipeline.awaitsStarted system begun)
    cases ended : ((pipeline.run system).run begun).1 with
    | error failure =>
      rw [ended] at runs
      exact ⟨_, _, _, awaits, fails _ _ _ runs⟩
    | ok statuses =>
      rw [ended] at runs
      obtain ⟨reporting, after, report, -, whole⟩ := succeeds _ _ _ runs
      refine ⟨_, _, after, ?_, whole⟩
      rw [← List.append_assoc]
      exact awaits.append report.awaitsStarted

/-- A program on the standard streams is waited for only if it was started. -/
theorem stage_awaitsStarted (stage : Stage) (before : σ) :
    ∃ result calls after, AwaitsStarted calls ∧
      system.Runs (stage.run system) (stage.run system.logged) before result calls after := by
  cases launched : (system.launch stage .inherited .inherited).run before with
  | mk outcome middle =>
    have launch := System.Runs.launch launched
    cases outcome with
    | error reason => exact ⟨_, _, middle, .of_no_wait rfl, launch.andThen (.answer _ middle)⟩
    | ok started =>
      cases waited : (system.wait started.child).run middle with
      | mk outcome after =>
        -- The launch stands right before the wait.
        exact ⟨_, _, after, .behind rfl (by simp [Call.awaited?, Call.started?]),
          launch.andThen (System.Runs.wait waited).result⟩

/-- Running an interpreter waits only for its process. -/
theorem consult_awaitsStarted (stage : Stage) (before : σ) :
    ∃ result calls after, AwaitsStarted calls ∧
      system.Runs (workbench.consult system stage) (workbench.consult system.logged stage) before result calls after := by
  obtain ⟨announcing, announced, announcement, announces⟩ :=
    workbench.runs_report system ("Starting interpreter: ".toList ++ stage.shellForm) before
  obtain ⟨result, calls, ended, awaits, runs⟩ := stage_awaitsStarted system stage announced
  -- Before and behind its process there are only messages.
  cases result with
  | error failure =>
    exact ⟨_, _, ended, announcement.awaitsStarted.append (awaits.append (.of_no_wait rfl)),
      announces.andThen (runs.andThen (.answer (Except.error failure) ended))⟩
  | ok status =>
    obtain ⟨ending, after, report, reports⟩ :=
      workbench.runs_report system (stage.program ++ " exited with ".toList ++ status.message) ended
    exact ⟨_, _, after, announcement.awaitsStarted.append (awaits.append report.awaitsStarted),
      announces.andThen (runs.andThen reports.result)⟩

/-- An errand waits only for processes that were started for it. -/
theorem perform_awaitsStarted (errand : Errand) (before : σ) :
    ∃ result calls after, AwaitsStarted calls ∧
      system.Runs (workbench.perform system errand) (workbench.perform system.logged errand) before result calls
        after := by
  obtain ⟨result, calls, filled, awaits, runs⟩ :=
    workbench.fillDatastore_awaitsStarted system errand.solver errand.program before
  -- The datastore is filled first, and an interpreter is run if one is named and nothing has failed.
  cases named : errand.interpreter with
  | none =>
    simp only [perform, named]
    exact ⟨_, _, _, awaits, runs⟩
  | some name =>
    simp only [perform, named, query]
    cases chosen : workbench.interpreterStage name with
    | error failure => exact ⟨_, _, _, .of_no_wait rfl, .answer _ before⟩
    | ok stage =>
      cases result with
      | error failure =>
        exact ⟨_, _, _, awaits.append (.of_no_wait rfl), runs.andThen (.answer (Except.error failure) filled)⟩
      | ok done =>
        -- The interpreter is started behind everything else.
        obtain ⟨_, consulting, after, awaitsToo, goesOn⟩ := workbench.consult_awaitsStarted system stage filled
        exact ⟨_, _, after, awaits.append awaitsToo, runs.andThen goesOn⟩

end Workbench

/-- An operating system that keeps track of the processes it has started, so that each of them can be waited for. -/
structure System.Tracks (system : System σ) where
  /-- Whether a process has been started. -/
  Knows : σ → Child → Prop
  /-- A process that is started is known. -/
  started : ∀ {before stage inlet outlet process after},
    system.Takes before (.launch stage inlet outlet (.ok process)) after → Knows after process.child
  /-- A process that is known stays known. -/
  kept : ∀ {before call after child}, system.Takes before call after → Knows before child → Knows after child
  /-- A process that is known can be waited for. -/
  waited : ∀ {before child outcome after}, system.Takes before (.wait child outcome) after → Knows before child →
    ∃ status, outcome = .ok status

namespace System.Tracks

variable {system : System σ} {before after : σ} {calls : List Call}

/-- Processes stay known, whatever is asked for. -/
theorem kept_of_leads (tracks : system.Tracks) (leads : system.Leads before calls after) {child : Child}
    (known : tracks.Knows before child) : tracks.Knows after child := by
  -- One call after the other keeps what is known.
  induction leads with
  | none => exact known
  | call takes _ ih => exact ih (tracks.kept takes known)

/-- Every process that was started on the way is known. -/
theorem started_of_leads (tracks : system.Tracks) (leads : system.Leads before calls after) :
    ∀ child ∈ (calls.filterMap Call.started?).map Started.child, tracks.Knows after child := by
  induction leads with
  | none => simp
  | @call _ _ _ call calls takes leads ih =>
    intro child member
    cases started : call.started? with
    -- A call that starts nothing leaves it to the later ones.
    | none => exact ih child (by simpa [started] using member)
    | some process =>
      rw [List.filterMap_cons_some started, List.map_cons, List.mem_cons] at member
      rcases member with rfl | member
      · -- It is known when it is started, and from then on.
        obtain ⟨stage, inlet, outlet, rfl⟩ := Call.eq_launch_of_started? started
        exact tracks.kept_of_leads leads (tracks.started takes)
      · exact ih child member

/-- If only processes are waited for that were started, no wait fails. -/
theorem waitFails_of_leads (tracks : system.Tracks) (leads : system.Leads before calls after)
    (awaits : AwaitsStarted calls) : ∀ call ∈ calls, call.waitFails = false := by
  intro call member
  -- The calls in front of it lead to the state in which it is answered.
  obtain ⟨front, back, rfl⟩ := List.append_of_mem member
  obtain ⟨reached, earlier, _ | ⟨takes, -⟩⟩ := System.leads_append_iff.mp leads
  cases call with
  | wait child outcome =>
    -- The process was started before, so that it is known here.
    have known := tracks.started_of_leads earlier child (awaits front child outcome back rfl)
    obtain ⟨status, rfl⟩ := tracks.waited takes known
    rfl
  | _ => rfl

/-- A pipeline ends with a file that cannot be opened, with a launch that is refused, or with the status of each stage. -/
theorem pipeline_ends (tracks : system.Tracks) (pipeline : Pipeline) (state : σ) :
    (∃ path reason, .create path (.error reason) ∈ pipeline.calls system state) ∨
    (∃ stage inlet outlet reason, .launch stage inlet outlet (.error reason) ∈ pipeline.calls system state) ∨
    ∃ statuses : List ExitStatus, statuses.length = pipeline.stages.length ∧
      ((pipeline.run system).run state).1 = .ok ((pipeline.stages.map Stage.program).zip statuses) := by
  have waits := tracks.waitFails_of_leads (pipeline.runs system state).leads (pipeline.awaitsStarted system state)
  obtain ⟨path, reason, -, -, calls⟩ | ⟨file, opening, course, opened, named, comes, calls, -⟩ :=
    pipeline.calls_cases system state
  · exact .inl ⟨path, reason, by simp [calls]⟩
  rcases comes.cases with ⟨refusal, refused, -, -⟩ | ⟨complete, statuses, lengths, -, result⟩ |
    ⟨complete, front, lost, back, statuses, reason, parts, lengths, outcomes, -⟩
  · have member := Course.mem_calls_of_refusal refused file .inherited []
    exact .inr (.inl ⟨_, _, _, _, calls ▸ List.mem_append_right _ member⟩)
  · -- Every stage was started, so that there are as many statuses as stages.
    refine .inr (.inr ⟨statuses, ?_, named ▸ result⟩)
    rw [lengths, ← named, Course.stages, complete, List.append_nil, List.length_map]
  · -- The wait that fails would be one of the calls.
    obtain ⟨-, fails, -⟩ := Course.calls_of_failed_wait complete parts lengths outcomes file .inherited
    cases waits _ (calls ▸ List.mem_append_right _ fails)

/-- No wait fails while an errand is carried out. -/
theorem errand_waits_succeed (tracks : system.Tracks) (workbench : Workbench) (errand : Errand) (state : σ) :
    ∀ call ∈ workbench.calls system errand state, call.waitFails = false := by
  obtain ⟨_, calls, _, awaits, runs⟩ := workbench.perform_awaitsStarted system errand state
  rw [Workbench.calls, runs.calls_eq]
  exact tracks.waitFails_of_leads runs.leads awaits

end System.Tracks

end AnswerQuery
