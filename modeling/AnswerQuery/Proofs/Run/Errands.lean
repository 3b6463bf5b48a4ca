import AnswerQuery.Proofs.Run.Workbench

/-! What any number of queries do to the datastore, and which of several failures is noticed first. -/

namespace AnswerQuery

/-- What a workbench is asked for: the datastore of a program, and then an interpreter on it if one is named. -/
structure Errand where
  /-- The name of the solver. -/
  solver : Text
  /-- The path of the program. -/
  program : Text
  /-- The name of the interpreter, if there is to be one. -/
  interpreter : Option Text

variable {σ : Type}

/-- Carry out an errand. -/
def Workbench.perform (workbench : Workbench) (system : System σ) (errand : Errand) :
    StateM σ (Except Failure Unit) :=
  match errand.interpreter with
  | some interpreter => workbench.query system errand.solver errand.program interpreter
  | none => workbench.fillDatastore system errand.solver errand.program

/-- What is asked of an operating system while an errand is carried out. -/
def Workbench.calls (workbench : Workbench) (system : System σ) (errand : Errand) (state : σ) : List Call :=
  ((workbench.perform system.logged errand).run (state, [])).2.2

/-- The code that tells how an errand ended. -/
def endCode : Except Failure Unit → Nat
  | .ok () => 0
  | .error failure => failure.exitCode

/-- Nothing is wrong with the names of an errand, so that there is a pipeline to run for it. -/
structure Errand.Prepared (errand : Errand) (workbench : Workbench) (hasEntry : Text → Bool) (pipeline : Pipeline) :
    Prop where
  /-- If an interpreter is named, it is one of those that are supported. -/
  interpreter : ∀ name ∈ errand.interpreter, ∃ known : Interpreter, known.name = name
  /-- The program is there. -/
  program : hasEntry errand.program = true
  /-- The solver is one of those that are supported. -/
  solver : ∃ known : Solver, known.name = errand.solver
  /-- The pipeline is the one that computes the datastore. -/
  pipeline : workbench.datastorePipeline hasEntry errand.solver errand.program = .ok pipeline

/-- Every stage of a pipeline was started and seen to end, and its output holds what the last of them wrote, and nothing
else. -/
structure Filled {system : System σ} {path : Text} (reading : FileReading system path) (pipeline : Pipeline)
    (before : σ) (launches : List Launch) (calls : List Call) (after : σ) : Prop where
  /-- The launches are those of all stages. -/
  stages : launches.map Launch.stage = pipeline.stages
  /-- No launch is refused. -/
  started : ∀ launch ∈ launches, ∃ started, launch.outcome = .ok started
  /-- Each process is seen to end. -/
  ended : ∀ launch ∈ launches, ∀ child ∈ launch.child?, child ∈ calls.filterMap Call.ended?
  /-- If nobody else writes to the output, the contents are what the process that was started for the last stage wrote to
  its standard output. -/
  contents : ∃ last inlet target started, pipeline.stages.getLast? = some last ∧
    .launch last inlet (.file target) (.ok started) ∈ calls ∧
    (reading.writer before = none →
      ∃ octets, reading.Wrote before calls started.child octets ∧ reading.contents after = some octets)

/-- Every stage of a pipeline was started, but the process of one of them cannot be waited for. Its output holds what the
last stage has written, and nothing else. -/
structure Unawaited {system : System σ} {path : Text} (reading : FileReading system path) (pipeline : Pipeline)
    (before : σ) (program : Text) (reason : OsError) (calls : List Call) (after : σ) : Prop where
  /-- The launches are those of all stages. -/
  stages : (calls.filterMap Call.launch?).map Launch.stage = pipeline.stages
  /-- No launch is refused. -/
  started : ∀ launch ∈ calls.filterMap Call.launch?, ∃ started, launch.outcome = .ok started
  /-- The processes are waited for in order up to the one whose wait fails, and no further. -/
  fails : ∃ earlier launch later child, calls.filterMap Call.launch? = earlier ++ launch :: later ∧
    launch.stage.program = program ∧ launch.child? = some child ∧ .wait child (.error reason) ∈ calls ∧
    calls.filterMap Call.awaited? = (earlier ++ [launch]).filterMap Launch.child?
  /-- If nobody else writes to the output, the contents are what the process of the last stage has written so far, or had
  written when it was seen to end. -/
  contents : ∃ last inlet target started, pipeline.stages.getLast? = some last ∧
    .launch last inlet (.file target) (.ok started) ∈ calls ∧
    (reading.writer before = none →
      ∃ octets, (reading.Wrote before calls started.child octets ∨ octets = reading.written after started.child) ∧
        reading.contents after = some octets)

/-- The ways in which an errand can end, each with its code, its calls, and what it leaves. They stand in the order in
which failures are noticed: each of them says that nothing failed in one of the ways before it. What becomes of the
datastore is said for a state in which no process of an earlier errand still writes to it. -/
inductive Errand.Ends (errand : Errand) (workbench : Workbench) {system : System σ}
    (reading : FileReading system (workbench.installation.path .datastore)) (before : σ) :
    Except Failure Unit → Nat → List Call → σ → Prop
  /-- The interpreter that is named is none that is supported: nothing is asked for, and nothing changes. -/
  | unknownInterpreter {name : Text} (named : errand.interpreter = some name)
      (unknown : ∀ known : Interpreter, known.name ≠ name) :
      Ends errand workbench reading before (.error (.unknownInterpreter name)) 4 [] before
  /-- The program is not there: nothing is asked for, and nothing changes. -/
  | missingProgram (interpreter : ∀ name ∈ errand.interpreter, ∃ known : Interpreter, known.name = name)
      (missing : system.hasEntry before errand.program = false) :
      Ends errand workbench reading before (.error (.missingProgram errand.program)) 5 [] before
  /-- The solver is none that is supported: nothing is asked for, and nothing changes. -/
  | unknownSolver (interpreter : ∀ name ∈ errand.interpreter, ∃ known : Interpreter, known.name = name)
      (program : system.hasEntry before errand.program = true)
      (unknown : ∀ known : Solver, known.name ≠ errand.solver) :
      Ends errand workbench reading before (.error (.unknownSolver errand.solver)) 3 [] before
  /-- The datastore cannot be opened: nothing is started, and it stays as it was. -/
  | unwritable {pipeline : Pipeline} {reason : OsError} {calls : List Call} {after : σ}
      (prepared : errand.Prepared workbench (system.hasEntry before) pipeline)
      (refused : .create (workbench.installation.path .datastore) (.error reason) ∈ calls)
      (launches : calls.filterMap Call.launch? = [])
      (kept : reading.writer before = none → reading.contents after = reading.contents before) :
      Ends errand workbench reading before (.error (.datastore (workbench.installation.path .datastore) reason)) 1
        calls after
  /-- A stage is refused: it is the last that is launched, and the datastore is left empty. -/
  | stageRefused {pipeline : Pipeline} {target : OutputFile} {earlier : List Launch} {stage : Stage}
      {later : List Stage} {inlet : Inlet} {outlet : Outlet} {reason : OsError} {calls : List Call} {after : σ}
      (prepared : errand.Prepared workbench (system.hasEntry before) pipeline)
      (opened : .create (workbench.installation.path .datastore) (.ok target) ∈ calls)
      (stages : pipeline.stages = earlier.map Launch.stage ++ stage :: later)
      (launches : calls.filterMap Call.launch? = earlier ++ [⟨stage, inlet, outlet, .error reason⟩])
      (started : ∀ launch ∈ earlier, ∃ started, launch.outcome = .ok started)
      (empty : reading.writer before = none → reading.contents after = some []) :
      Ends errand workbench reading before (.error (.launch stage.program reason)) 1 calls after
  /-- A stage cannot be waited for: no interpreter is launched, and the datastore holds what the last stage has written. -/
  | stageUnawaited {pipeline : Pipeline} {target : OutputFile} {program : Text} {reason : OsError} {calls : List Call}
      {after : σ} (prepared : errand.Prepared workbench (system.hasEntry before) pipeline)
      (opened : .create (workbench.installation.path .datastore) (.ok target) ∈ calls)
      (unawaited : Unawaited reading pipeline before program reason calls after) :
      Ends errand workbench reading before (.error (.launch program reason)) 1 calls after
  /-- The interpreter is refused: the datastore holds what the pipeline wrote all the same. -/
  | interpreterRefused {pipeline : Pipeline} {target : OutputFile} {name : Text} {stage : Stage}
      {launches : List Launch} {reason : OsError} {calls : List Call} {after : σ}
      (prepared : errand.Prepared workbench (system.hasEntry before) pipeline)
      (opened : .create (workbench.installation.path .datastore) (.ok target) ∈ calls)
      (named : errand.interpreter = some name) (interpreter : workbench.interpreterStage name = .ok stage)
      (called : calls.filterMap Call.launch? = launches ++ [⟨stage, .inherited, .inherited, .error reason⟩])
      (filled : Filled reading pipeline before launches calls after) :
      Ends errand workbench reading before (.error (.launch stage.program reason)) 1 calls after
  /-- The interpreter is started but cannot be waited for: the datastore holds what the pipeline wrote all the same. -/
  | interpreterUnawaited {pipeline : Pipeline} {target : OutputFile} {name : Text} {stage : Stage}
      {launches : List Launch} {started : Started} {reason : OsError} {calls : List Call} {after : σ}
      (prepared : errand.Prepared workbench (system.hasEntry before) pipeline)
      (opened : .create (workbench.installation.path .datastore) (.ok target) ∈ calls)
      (named : errand.interpreter = some name) (interpreter : workbench.interpreterStage name = .ok stage)
      (called : calls.filterMap Call.launch? = launches ++ [⟨stage, .inherited, .inherited, .ok started⟩])
      (fails : .wait started.child (.error reason) ∈ calls)
      (filled : Filled reading pipeline before launches calls after) :
      Ends errand workbench reading before (.error (.launch stage.program reason)) 1 calls after
  /-- Nothing is refused, no wait fails, and no interpreter is named. -/
  | computed {pipeline : Pipeline} {target : OutputFile} {calls : List Call} {after : σ}
      (prepared : errand.Prepared workbench (system.hasEntry before) pipeline)
      (opened : .create (workbench.installation.path .datastore) (.ok target) ∈ calls)
      (unnamed : errand.interpreter = none)
      (filled : Filled reading pipeline before (calls.filterMap Call.launch?) calls after)
      (succeeds : ∀ call ∈ calls, call.waitFails = false) :
      Ends errand workbench reading before (.ok ()) 0 calls after
  /-- Nothing is refused, no wait fails, and the interpreter that is named is started after the pipeline. -/
  | consulted {pipeline : Pipeline} {target : OutputFile} {name : Text} {stage : Stage} {launches : List Launch}
      {started : Started} {calls : List Call} {after : σ}
      (prepared : errand.Prepared workbench (system.hasEntry before) pipeline)
      (opened : .create (workbench.installation.path .datastore) (.ok target) ∈ calls)
      (named : errand.interpreter = some name) (interpreter : workbench.interpreterStage name = .ok stage)
      (called : calls.filterMap Call.launch? = launches ++ [⟨stage, .inherited, .inherited, .ok started⟩])
      (filled : Filled reading pipeline before launches calls after)
      (succeeds : ∀ call ∈ calls, call.waitFails = false) :
      Ends errand workbench reading before (.ok ()) 0 calls after

/-- Nothing is launched before the output is open. -/
theorem Opened.launch?_eq_nil {output : Option Text} {file : Option OutputFile} {opening : List Call}
    (opened : Opened output file opening) : opening.filterMap Call.launch? = [] := by
  cases opened <;> rfl

/-- No wait fails before the output is open. -/
theorem Opened.waitFails {output : Option Text} {file : Option OutputFile} {opening : List Call}
    (opened : Opened output file opening) : ∀ call ∈ opening, call.waitFails = false := by
  cases opened <;> simp [Call.waitFails]

/-- A file is opened by a call. -/
theorem Opened.create_mem {path : Text} {file : Option OutputFile} {opening : List Call}
    (opened : Opened (some path) file opening) : ∃ target, .create path (.ok target) ∈ opening := by
  cases opened with
  | file _ target => exact ⟨target, List.mem_singleton_self _⟩

/-- Neither an announcement nor opening the output adds a launch. -/
theorem launch?_behind_announcement {announcing opening : List Call} {output : Option Text}
    {file : Option OutputFile} (announcement : OnlyReports announcing) (opened : Opened output file opening)
    (calls : List Call) :
    (announcing ++ (opening ++ calls)).filterMap Call.launch? = calls.filterMap Call.launch? := by
  simp only [List.filterMap_append, announcement.launch?_eq_nil, opened.launch?_eq_nil, List.nil_append]

namespace FileReading

variable {system : System σ} {path : Text} {before middle after : σ} {calls first second : List Call}

/-- Whether nobody writes to a file after some calls, if nobody did before them and no wait among them fails. -/
def Settles (reading : FileReading system path) (before : σ) (calls : List Call) (after : σ) : Prop :=
  reading.writer before = none → (∀ call ∈ calls, call.waitFails = false) → reading.writer after = none

/-- Calls that use no file start no writer. -/
theorem settles_of_unused (reading : FileReading system path) (leads : system.Leads before calls after)
    (unused : ∀ call ∈ calls, call.usesFile = false) : reading.Settles before calls after :=
  fun idle _ => (reading.kept_of_leads leads idle unused).2

/-- If nobody writes after the earlier calls, it depends on the later ones. -/
theorem Settles.append {reading : FileReading system path} (earlier : reading.Settles before first middle)
    (later : reading.Settles middle second after) : reading.Settles before (first ++ second) after := by
  intro idle succeeds
  -- No wait fails in either part.
  rw [List.forall_mem_append] at succeeds
  exact later (earlier idle succeeds.1) succeeds.2

end FileReading

section Filling

variable {system : System σ} {path : Text} (reading : FileReading system path) {pipeline : Pipeline} {course : Course}
  {file : Option OutputFile} {announcing opening reporting : List Call} {before begun ended after : σ}

/-- If every stage of a pipeline is started, there is a last one. -/
theorem Course.exists_last (complete : course.refusal = none) (named : course.stages = pipeline.stages)
    (nonempty : pipeline.stages ≠ []) :
    ∃ earlier last, course.launched = earlier ++ [last] ∧ pipeline.stages.getLast? = some last.stage := by
  have stages : course.launched.map Launched.stage = pipeline.stages := by
    simpa [Course.stages, complete] using named
  -- The pipeline has stages, and all of them were started.
  have launchedAny : course.launched ≠ [] := by
    intro launchedNone
    exact nonempty (by rw [← stages, launchedNone, List.map_nil])
  refine ⟨_, _, (List.dropLast_concat_getLast launchedAny).symm, ?_⟩
  rw [← stages, List.getLast?_map, List.getLast?_eq_some_getLast launchedAny, Option.map_some]

/-- If every stage is started and no wait fails, the output is filled, whatever is reported around it. -/
theorem Filled.of_completion {statuses : List ExitStatus} (complete : course.refusal = none)
    (lengths : statuses.length = course.launched.length) (outcomes : course.outcomes = statuses.map .ok)
    (named : course.stages = pipeline.stages) (nonempty : pipeline.stages ≠ [])
    (opened : Opened (some path) file opening) (announcement : OnlyReports announcing)
    (report : OnlyReports reporting) (announces : system.Leads before announcing begun)
    (leads : system.Leads begun (opening ++ course.calls file .inherited []) ended)
    (reports : system.Leads ended reporting after) :
    Filled reading pipeline before
      ((announcing ++ (opening ++ course.calls file .inherited [] ++ reporting)).filterMap Call.launch?)
      (announcing ++ (opening ++ course.calls file .inherited [] ++ reporting)) after ∧
      reading.Settles before (announcing ++ (opening ++ course.calls file .inherited [] ++ reporting)) after := by
  obtain ⟨granted, grants, launches⟩ := course.launches file .inherited []
  obtain ⟨earlier, last, launched, isLast⟩ := Course.exists_last complete named nonempty
  obtain ⟨-, seen, -⟩ := Course.calls_of_statuses complete lengths outcomes file .inherited
  obtain ⟨source, target, member, written⟩ := reading.written_of_completion complete launched opened leads
  -- Only the course launches anything, and without a refusal all its launches are granted.
  have called : (announcing ++ (opening ++ course.calls file .inherited [] ++ reporting)).filterMap Call.launch? =
      granted := by
    rw [List.append_assoc, launch?_behind_announcement announcement opened, List.filterMap_append, launches,
      report.launch?_eq_nil, complete]
    simp
  -- The last process is seen to end like all the others.
  have lastSeen : last.started.child ∈ (course.calls file .inherited []).filterMap Call.ended? := by
    rw [seen, launched]
    simp [Launched.running]
  refine ⟨⟨?stages, ?started, ?ended, last.stage, source, target, last.started, isLast, ?member, ?contents⟩, ?settles⟩
  case stages =>
    rw [called, grants.stages]
    simpa [Course.stages, complete] using named
  case started =>
    rw [called]
    exact grants.started
  case ended =>
    intro launch launchMember child process
    -- The processes of the launches are those that are waited for.
    have ends : child ∈ (course.calls file .inherited []).filterMap Call.ended? := by
      rw [seen, ← grants.children]
      exact List.mem_filterMap.mpr ⟨launch, called ▸ launchMember, process⟩
    simp only [List.filterMap_append, List.mem_append, ends, true_or, or_true]
  case member => exact List.mem_append_right _ (List.mem_append_left _ member)
  case contents =>
    intro idle
    -- Announcing the pipeline starts no writer.
    obtain ⟨-, idle⟩ := reading.kept_of_leads announces idle announcement.usesFile
    obtain ⟨octets, wrote, filled, idle⟩ := (written idle).2 lastSeen
    -- What is reported behind it leaves the file alone.
    obtain ⟨same, -⟩ := reading.kept_of_leads reports idle report.usesFile
    exact ⟨octets, (wrote.append reporting).prepend announces, same.trans filled⟩
  case settles =>
    intro idle _
    -- The writer was seen to end, and nothing is launched behind it.
    obtain ⟨-, idle⟩ := reading.kept_of_leads announces idle announcement.usesFile
    obtain ⟨_, -, -, idle⟩ := (written idle).2 lastSeen
    exact (reading.kept_of_leads reports idle report.usesFile).2

/-- What the output was filled with is still there after calls that use no file. -/
theorem Filled.append {launches : List Launch} {calls more : List Call}
    (filled : Filled reading pipeline before launches calls ended) (settles : reading.Settles before calls ended)
    (succeeds : ∀ call ∈ calls, call.waitFails = false) (leads : system.Leads ended more after)
    (unused : ∀ call ∈ more, call.usesFile = false) :
    Filled reading pipeline before launches (calls ++ more) after := by
  obtain ⟨stages, started, seen, last, inlet, target, process, isLast, member, contents⟩ := filled
  refine ⟨stages, started, ?_, last, inlet, target, process, isLast, List.mem_append_left _ member, ?_⟩
  · -- A process that was seen to end before is so still.
    intro launch launchMember child same
    rw [List.filterMap_append]
    exact List.mem_append_left _ (seen launch launchMember child same)
  · -- Nobody writes any more when the later calls begin.
    intro idle
    obtain ⟨octets, wrote, holds⟩ := contents idle
    obtain ⟨same, -⟩ := reading.kept_of_leads leads (settles idle succeeds) unused
    exact ⟨octets, wrote.append more, same.trans holds⟩

/-- If every stage is started but a wait fails, the output holds what the last stage has written. -/
theorem Unawaited.of_failed_wait {front back : List Launched} {lost : Launched} {statuses : List ExitStatus}
    {reason : OsError} (complete : course.refusal = none) (parts : course.launched = front ++ lost :: back)
    (lengths : statuses.length = front.length) (outcomes : course.outcomes = statuses.map .ok ++ [.error reason])
    (named : course.stages = pipeline.stages) (nonempty : pipeline.stages ≠ [])
    (opened : Opened (some path) file opening) (announcement : OnlyReports announcing)
    (announces : system.Leads before announcing begun)
    (leads : system.Leads begun (opening ++ course.calls file .inherited []) after) :
    Unawaited reading pipeline before lost.stage.program reason
      (announcing ++ (opening ++ course.calls file .inherited [])) after := by
  obtain ⟨granted, grants, launches⟩ := course.launches file .inherited []
  obtain ⟨earlier, last, launched, isLast⟩ := Course.exists_last complete named nonempty
  obtain ⟨awaited, fails, -⟩ := Course.calls_of_failed_wait complete parts lengths outcomes file .inherited
  obtain ⟨source, target, member, written⟩ := reading.written_of_completion complete launched opened leads
  have called : (announcing ++ (opening ++ course.calls file .inherited [])).filterMap Call.launch? = granted := by
    rw [launch?_behind_announcement announcement opened, launches, complete]
    simp
  -- The waits are those of the course, which end with the one that fails.
  have waited : (announcing ++ (opening ++ course.calls file .inherited [])).filterMap Call.awaited? =
      ((front ++ [lost]).map Launched.running).map Prod.snd := by
    rw [List.filterMap_append, List.filterMap_append, announcement.awaited?_eq_nil, opened.awaited, awaited]
    rfl
  refine ⟨?stages, ?started, ?fails, last.stage, source, target, last.started, isLast, ?member, ?contents⟩
  case stages =>
    rw [called, grants.stages]
    simpa [Course.stages, complete] using named
  case started =>
    rw [called]
    exact grants.started
  case fails =>
    -- The launches are in three parts like the stages: the process that is lost is that of the middle one.
    obtain ⟨before, launch, behind, same, stage, process, fronted⟩ := (parts ▸ grants).split
    refine ⟨before, launch, behind, lost.started.child, called.trans same, congrArg Stage.program stage, process,
      List.mem_append_right _ (List.mem_append_right _ fails), ?_⟩
    rw [waited]
    simp [fronted.children, process, Launched.running]
  case member => exact List.mem_append_right _ member
  case contents =>
    intro idle
    obtain ⟨-, idle⟩ := reading.kept_of_leads announces idle announcement.usesFile
    obtain ⟨running, ended⟩ := written idle
    -- The last stage may have been seen to end under the number of an earlier process.
    by_cases seen : last.started.child ∈ (course.calls file .inherited []).filterMap Call.ended?
    · obtain ⟨octets, wrote, holds, -⟩ := ended seen
      exact ⟨octets, .inl (wrote.prepend announces), holds⟩
    · exact ⟨_, .inr rfl, running seen⟩

end Filling

section Ending

variable {workbench : Workbench} {system : System σ}
  (reading : FileReading system (workbench.installation.path .datastore)) {errand : Errand} {pipeline : Pipeline}
  {announcing : List Call} {before begun after : σ}

/-- If the datastore cannot be opened, it is kept, whatever is reported before that. -/
theorem Errand.Ends.of_unopened (prepared : errand.Prepared workbench (system.hasEntry before) pipeline)
    (reason : OsError) (announcement : OnlyReports announcing)
    (leads : system.Leads before
      (announcing ++ [.create (workbench.installation.path .datastore) (.error reason)]) after) :
    errand.Ends workbench reading before (.error (.datastore (workbench.installation.path .datastore) reason)) 1
      (announcing ++ [.create (workbench.installation.path .datastore) (.error reason)]) after ∧
      reading.Settles before (announcing ++ [.create (workbench.installation.path .datastore) (.error reason)])
        after := by
  -- Neither the reports nor the call that fails use a file.
  have unused : ∀ call ∈ announcing ++ [.create (workbench.installation.path .datastore) (.error reason)],
      call.usesFile = false := by
    simp only [List.forall_mem_append, List.forall_mem_singleton]
    exact ⟨announcement.usesFile, rfl⟩
  -- The attempt to open the datastore comes last, and nothing was launched before it.
  refine ⟨.unwritable prepared (by simp) ?_ fun idle => (reading.kept_of_leads leads idle unused).1,
    reading.settles_of_unused leads unused⟩
  rw [List.filterMap_append, announcement.launch?_eq_nil]
  rfl

/-- If a stage is refused, the datastore is empty, whatever is reported before that. -/
theorem Errand.Ends.of_refusal {course : Course} {refusal : Refusal} {file : Option OutputFile} {opening : List Call}
    (prepared : errand.Prepared workbench (system.hasEntry before) pipeline)
    (refused : course.refusal = some refusal) (named : course.stages = pipeline.stages)
    (opened : Opened (some (workbench.installation.path .datastore)) file opening)
    (announcement : OnlyReports announcing) (announces : system.Leads before announcing begun)
    (leads : system.Leads begun (opening ++ course.calls file .inherited []) after) :
    errand.Ends workbench reading before (.error (.launch refusal.stage.program refusal.reason)) 1
      (announcing ++ (opening ++ course.calls file .inherited [])) after ∧
      reading.Settles before (announcing ++ (opening ++ course.calls file .inherited [])) after := by
  obtain ⟨target, creates⟩ := opened.create_mem
  obtain ⟨granted, grants, launches⟩ := course.launches file .inherited []
  rw [refused, Option.toList_some, List.map_singleton] at launches
  have called := (launch?_behind_announcement announcement opened _).trans launches
  -- The stages that were granted stand before the one that is refused, and the others behind it.
  have ordered : pipeline.stages = granted.map Launch.stage ++ refusal.stage :: refusal.later := by
    rw [← named, grants.stages, Course.stages, refused]
  -- Only opening the datastore changes it: neither the reports nor the stages before the refusal use a file.
  have empty (idle : reading.writer before = none) :
      reading.contents after = some [] ∧ reading.writer after = none :=
    reading.empty_of_refusal refused opened leads (reading.kept_of_leads announces idle announcement.usesFile).2
  exact ⟨.stageRefused prepared (List.mem_append_right _ (List.mem_append_left _ creates)) ordered called grants.started
    fun idle => (empty idle).1, fun idle _ => (empty idle).2⟩

/-- If a stage cannot be waited for, somebody may still write to the datastore. -/
theorem Errand.Ends.of_failed_wait {course : Course} {front back : List Launched} {lost : Launched}
    {statuses : List ExitStatus} {reason : OsError} {file : Option OutputFile} {opening : List Call}
    (prepared : errand.Prepared workbench (system.hasEntry before) pipeline) (complete : course.refusal = none)
    (parts : course.launched = front ++ lost :: back) (lengths : statuses.length = front.length)
    (outcomes : course.outcomes = statuses.map .ok ++ [.error reason]) (named : course.stages = pipeline.stages)
    (nonempty : pipeline.stages ≠ []) (opened : Opened (some (workbench.installation.path .datastore)) file opening)
    (announcement : OnlyReports announcing) (announces : system.Leads before announcing begun)
    (leads : system.Leads begun (opening ++ course.calls file .inherited []) after) :
    errand.Ends workbench reading before (.error (.launch lost.stage.program reason)) 1
      (announcing ++ (opening ++ course.calls file .inherited [])) after ∧
      reading.Settles before (announcing ++ (opening ++ course.calls file .inherited [])) after := by
  obtain ⟨target, creates⟩ := opened.create_mem
  have unawaited := Unawaited.of_failed_wait reading complete parts lengths outcomes named nonempty opened announcement
    announces leads
  refine ⟨.stageUnawaited prepared (List.mem_append_right _ (List.mem_append_left _ creates)) unawaited, ?_⟩
  -- The wait that fails is one of the calls.
  intro _ succeeds
  obtain ⟨-, -, ⟨_, _, _, child, -, -, -, fails, -⟩, -⟩ := unawaited
  cases succeeds _ fails

end Ending

namespace Workbench

variable {workbench : Workbench} {system : System σ}
  (reading : FileReading system (workbench.installation.path .datastore)) (errand : Errand) (before : σ)

/-- If the interpreter of an errand is known, the errand ends because of its pipeline, or the datastore is filled. -/
theorem runs_fillDatastore (interpreter : ∀ name ∈ errand.interpreter, ∃ known : Interpreter, known.name = name) :
    ∃ result calls after,
      system.Runs (workbench.fillDatastore system errand.solver errand.program)
        (workbench.fillDatastore system.logged errand.solver errand.program) before result calls after ∧
      reading.Settles before calls after ∧
      ((∃ failure, result = .error failure ∧
        errand.Ends workbench reading before (.error failure) failure.exitCode calls after) ∨
      (result = .ok () ∧ (∀ call ∈ calls, call.waitFails = false) ∧ ∃ pipeline target,
        errand.Prepared workbench (system.hasEntry before) pipeline ∧
        .create (workbench.installation.path .datastore) (.ok target) ∈ calls ∧
        Filled reading pipeline before (calls.filterMap Call.launch?) calls after)) := by
  -- The names are looked at first; then the pipeline is run, which begins with the datastore.
  obtain ⟨missing, built⟩ | ⟨program, unknown, built⟩ | ⟨pipeline, program, solver, built, output, nonempty⟩ :=
    workbench.datastorePipeline_cases (system.hasEntry before) errand.solver errand.program
  · exact ⟨_, _, _, workbench.runs_fillDatastore_of_error system built, fun idle _ => idle,
      .inl ⟨_, rfl, .missingProgram interpreter missing⟩⟩
  · exact ⟨_, _, _, workbench.runs_fillDatastore_of_error system built, fun idle _ => idle,
      .inl ⟨_, rfl, .unknownSolver interpreter program unknown⟩⟩
  have prepared : errand.Prepared workbench (system.hasEntry before) pipeline := ⟨interpreter, program, solver, built⟩
  obtain ⟨announcing, begun, announcement, announces, fails, succeeds⟩ :=
    workbench.runs_fillDatastore_of_ok system built
  obtain ⟨path, reason, ended, same, runs⟩ | ⟨file, opening, result, ended, course, opened, named, comes, runs⟩ :=
    pipeline.runs_cases system begun
  · -- The file that cannot be opened is the datastore.
    obtain rfl : workbench.installation.path .datastore = path := Option.some_inj.mp (output.symm.trans same)
    have whole := fails _ _ _ runs
    obtain ⟨ends, settles⟩ := Errand.Ends.of_unopened reading prepared reason announcement whole.leads
    exact ⟨_, _, ended, whole, settles, .inl ⟨_, rfl, ends⟩⟩
  rw [output] at opened
  -- The pipeline ends with a refusal, with all statuses, or with a wait that fails.
  rcases comes.cases with ⟨refusal, refused, -, rfl⟩ | ⟨complete, statuses, lengths, outcomes, rfl⟩ |
    ⟨complete, front, lost, back, statuses, reason, parts, lengths, outcomes, rfl⟩
  · obtain ⟨ends, settles⟩ :=
      Errand.Ends.of_refusal reading prepared refused named opened announcement announces runs.leads
    exact ⟨_, _, ended, fails _ _ _ runs, settles, .inl ⟨_, rfl, ends⟩⟩
  · -- Behind the statuses the programs that failed are reported.
    obtain ⟨reporting, after, report, reports, whole⟩ := succeeds _ _ _ runs
    obtain ⟨target, creates⟩ := opened.create_mem
    obtain ⟨filled, settles⟩ := Filled.of_completion reading complete lengths outcomes named nonempty opened
      announcement report announces runs.leads reports
    have waits : ∀ call ∈ announcing ++ (opening ++ course.calls file .inherited [] ++ reporting),
        call.waitFails = false := by
      simp only [List.forall_mem_append]
      exact ⟨announcement.waitFails, ⟨opened.waitFails, Course.waitFails_calls_of_statuses complete outcomes⟩,
        report.waitFails⟩
    exact ⟨_, _, after, whole, settles, .inr ⟨rfl, waits, pipeline, target, prepared, by simp [creates], filled⟩⟩
  · obtain ⟨ends, settles⟩ := Errand.Ends.of_failed_wait reading prepared complete parts lengths outcomes named nonempty
      opened announcement announces runs.leads
    exact ⟨_, _, ended, fails _ _ _ runs, settles, .inl ⟨_, rfl, ends⟩⟩

/-- An errand ends in one of the ways that are listed. -/
theorem runs_perform :
    ∃ result calls after,
      system.Runs (workbench.perform system errand) (workbench.perform system.logged errand) before result calls after ∧
      reading.Settles before calls after ∧ errand.Ends workbench reading before result (endCode result) calls after := by
  cases named : errand.interpreter with
  | none =>
    obtain ⟨_, calls, after, runs, settles, ⟨failure, rfl, ends⟩ |
      ⟨rfl, succeeds, pipeline, target, prepared, created, filled⟩⟩ :=
      runs_fillDatastore reading errand before (by simp [named])
    · exact ⟨_, calls, after, by simpa only [perform, named] using runs, settles, ends⟩
    · exact ⟨_, calls, after, by simpa only [perform, named] using runs, settles,
        .computed prepared created named filled succeeds⟩
  | some name =>
    simp only [perform, named, query]
    -- The interpreter is chosen before anything else is done, and started after everything else.
    obtain ⟨unknown, chosen⟩ | ⟨stage, known, chosen⟩ := workbench.interpreterStage_cases name
    · rw [chosen]
      exact ⟨_, _, _, .answer _ before, fun idle _ => idle, .unknownInterpreter named unknown⟩
    rw [chosen]
    obtain ⟨_, calls, filledAt, runs, settles, ⟨failure, rfl, ends⟩ |
      ⟨rfl, succeeds, pipeline, target, prepared, created, filled⟩⟩ :=
      runs_fillDatastore reading errand before (by simpa [named] using known)
    · -- A failure of the pipeline ends the query as it is.
      refine ⟨_, _, filledAt, runs.andThen (.answer _ filledAt), ?_, ?_⟩
      · rw [List.append_nil]
        exact settles
      · rw [List.append_nil]
        exact ends
    obtain ⟨outcome, result, consulting, after, launches, unused, goesOn, stageEnds⟩ :=
      workbench.runs_consult system stage filledAt
    -- Neither its launch nor its wait changes the datastore.
    have filled := filled.append reading settles succeeds goesOn.leads unused
    have created := List.mem_append_left consulting created
    -- The launch of the interpreter is the last one.
    have called : (calls ++ consulting).filterMap Call.launch? =
        calls.filterMap Call.launch? ++ [⟨stage, .inherited, .inherited, outcome⟩] := by
      rw [List.filterMap_append, launches]
    refine ⟨_, _, after, runs.andThen goesOn, settles.append (reading.settles_of_unused goesOn.leads unused), ?_⟩
    cases stageEnds with
    | refused reason _ => exact .interpreterRefused prepared created named chosen called filled
    | unawaited fails =>
      exact .interpreterUnawaited prepared created named chosen called (List.mem_append_right _ fails) filled
    | ended _ consulted =>
      refine .consulted prepared created named chosen called filled ?_
      rw [List.forall_mem_append]
      exact ⟨succeeds, consulted⟩

end Workbench

end AnswerQuery
