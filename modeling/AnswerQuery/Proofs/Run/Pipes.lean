import AnswerQuery.Proofs.Run.Calls

/-! Which read ends of pipes are still held while a pipeline waits for its processes. -/

namespace AnswerQuery

/-- The read ends that are held after one call more. -/
def Call.holding (held : List PipeEnd) : Call → List PipeEnd
  -- The inlet of a process that was started stays open until it is given up.
  | .launch _ _ _ (.ok started) => held ++ started.source.toList
  | .close source => held.erase source
  | _ => held

/-- The read ends that are held after some calls. -/
def heldAfter (held : List PipeEnd) (calls : List Call) : List PipeEnd :=
  calls.foldl Call.holding held

/-- The read ends that are held at each of the waits among some calls. -/
def heldAtWaits (held : List PipeEnd) : List Call → List (List PipeEnd)
  | [] => []
  | call :: calls =>
    let others := heldAtWaits (call.holding held) calls
    if call.awaited?.isSome then held :: others else others

/-- What is held after more calls is what the later ones leave of what the earlier ones left. -/
theorem heldAfter_append (held : List PipeEnd) (first second : List Call) :
    heldAfter held (first ++ second) = heldAfter (heldAfter held first) second :=
  List.foldl_append

/-- The waits among more calls are those of the earlier calls, then those of the later ones. -/
theorem heldAtWaits_append (held : List PipeEnd) (first second : List Call) :
    heldAtWaits held (first ++ second) = heldAtWaits held first ++ heldAtWaits (heldAfter held first) second := by
  induction first generalizing held with
  | nil => rfl
  | cons call calls ih =>
    rw [List.cons_append, heldAtWaits, heldAtWaits, ih]
    split <;> rfl

/-- Nothing is held at a wait where there is none. -/
theorem heldAtWaits_of_no_wait (held : List PipeEnd) {calls : List Call}
    (none : calls.filterMap Call.awaited? = []) : heldAtWaits held calls = [] := by
  induction calls generalizing held with
  | nil => rfl
  | cons call calls ih =>
    simp only [List.filterMap_eq_nil_iff, List.mem_cons, forall_eq_or_imp] at none ih
    simp [heldAtWaits, none.1, ih _ none.2]

/-- Waiting gives up nothing. -/
theorem heldAfter_waitCalls (held : List PipeEnd) (children : List Child)
    (outcomes : List (Except OsError ExitStatus)) : heldAfter held (waitCalls children outcomes) = held := by
  -- Each wait leaves what the one before it left.
  rw [waitCalls, ← List.map_uncurry_zip_eq_zipWith, heldAfter, List.foldl_map]
  induction children.zip outcomes with
  | nil => rfl
  | cons _ _ ih => exact ih

/-- At each of several waits the same is held. -/
theorem heldAtWaits_waitCalls (held : List PipeEnd) (children : List Child)
    (outcomes : List (Except OsError ExitStatus)) :
    heldAtWaits held (waitCalls children outcomes) = List.replicate (min children.length outcomes.length) held := by
  -- There is one wait for each process that has an outcome.
  rw [waitCalls, ← List.map_uncurry_zip_eq_zipWith, ← List.length_zip]
  induction children.zip outcomes with
  | nil => rfl
  | cons _ others ih => exact congrArg (held :: ·) ih

/-- The read ends that an inlet keeps open. -/
def Inlet.ends : Inlet → List PipeEnd
  | .inherited => []
  | .pipe source => [source]

/-- An inherited inlet keeps nothing open. -/
@[simp] theorem Inlet.ends_inherited : Inlet.ends .inherited = [] := rfl

/-- A pipe keeps its read end open. -/
@[simp] theorem Inlet.ends_pipe (source : PipeEnd) : Inlet.ends (.pipe source) = [source] := rfl

/-- Giving up an inlet leaves nothing of it. -/
theorem Inlet.heldAfter_closing (inlet : Inlet) : heldAfter inlet.ends inlet.closing = [] := by
  cases inlet <;> simp [Inlet.ends, Inlet.closing, heldAfter, Call.holding]

/-- Starting a stage and giving up its inlet exchanges the pipe that it reads for the pipe that it writes. -/
theorem heldAfter_launch_closing (stage : Stage) (inlet : Inlet) (outlet : Outlet) (started : Started) :
    heldAfter inlet.ends (.launch stage inlet outlet (.ok started) :: inlet.closing) =
      (Inlet.after started.source).ends := by
  -- The pipe that is written is held behind the one that is read, and the one in front is given up.
  obtain ⟨child, source⟩ := started
  cases inlet <;> cases source <;> simp [Inlet.ends, Inlet.closing, Inlet.after, heldAfter, Call.holding]

/-- After any number of launches the pipe of the last one is all that is held. -/
theorem heldAfter_launchCalls (file : Option OutputFile) (others : List Stage) (inlet : Inlet)
    (launched : List Launched) :
    heldAfter inlet.ends (launchCalls file others inlet launched) = (inlet.past launched).ends := by
  -- One exchange is made for each stage.
  induction launched generalizing inlet with
  | nil => rfl
  | cons first launched ih =>
    rw [launchCalls, ← List.cons_append, heldAfter_append, heldAfter_launch_closing, ih]
    rfl

/-- A program that is refused brings nothing to hold, and nothing is given up for it. -/
theorem heldAfter_refused (held : List PipeEnd) (stage : Stage) (inlet : Inlet) (outlet : Outlet)
    (reason : OsError) (calls : List Call) :
    heldAfter held (.launch stage inlet outlet (.error reason) :: calls) = heldAfter held calls := rfl

/-- A program that is refused changes nothing for the waits. -/
theorem heldAtWaits_refused (held : List PipeEnd) (stage : Stage) (inlet : Inlet) (outlet : Outlet)
    (reason : OsError) (calls : List Call) :
    heldAtWaits held (.launch stage inlet outlet (.error reason) :: calls) = heldAtWaits held calls := rfl

/-- At every wait of a course the pipe of the last launch is all that is held. -/
theorem Course.heldAtWaits_calls (course : Course) (file : Option OutputFile) (inlet : Inlet)
    (running : List (Text × Child)) :
    heldAtWaits inlet.ends (course.calls file inlet running) =
      List.replicate (min (running.length + course.launched.length) course.outcomes.length)
        (inlet.past course.launched).ends := by
  -- Nothing is waited for before the last launch, and nothing is given up between the waits.
  have waits := heldAtWaits_waitCalls (inlet.past course.launched).ends
    ((running ++ course.launched.map Launched.running).map Prod.snd) course.outcomes
  rw [List.length_map, List.length_append, List.length_map] at waits
  obtain ⟨launched, refusal, outcomes⟩ := course
  cases refusal with
  | none =>
    rw [Course.calls, heldAtWaits_append, heldAfter_launchCalls, waits,
      heldAtWaits_of_no_wait _ (awaited_launchCalls ..), List.nil_append]
  | some refusal =>
    -- What is given up behind the waits does not change what was held at them.
    rw [Course.calls, heldAtWaits_append, heldAfter_launchCalls, heldAtWaits_of_no_wait _ (awaited_launchCalls ..),
      List.nil_append, heldAtWaits_refused, heldAtWaits_append, waits,
      heldAtWaits_of_no_wait _ (Inlet.awaited_closing _), List.append_nil]

/-- A course that ends with a refusal leaves nothing open. -/
theorem Course.heldAfter_calls {course : Course} {refusal : Refusal} (refused : course.refusal = some refusal)
    (file : Option OutputFile) (inlet : Inlet) (running : List (Text × Child)) :
    heldAfter inlet.ends (course.calls file inlet running) = [] := by
  simp only [Course.calls, refused]
  rw [heldAfter_append, heldAfter_launchCalls, heldAfter_refused, heldAfter_append, heldAfter_waitCalls,
    Inlet.heldAfter_closing]

/-- Opening the output brings no read end, and nothing is waited for. -/
theorem Opened.held {output : Option Text} {file : Option OutputFile} {opening : List Call}
    (opened : Opened output file opening) (calls : List Call) :
    heldAtWaits [] (opening ++ calls) = heldAtWaits [] calls ∧
      heldAfter [] (opening ++ calls) = heldAfter [] calls := by
  cases opened <;> exact ⟨rfl, rfl⟩

/-- An operating system hands out a read end for each process that writes a pipe, and for no other. -/
def System.OpensPipes {σ : Type} (system : System σ) : Prop :=
  ∀ stage inlet outlet state started, ((system.launch stage inlet outlet).run state).1 = .ok started →
    (started.source.isSome ↔ outlet = .pipe)

/-- Stages write pipes where others follow. -/
theorem Outlet.before_eq_pipe_iff (later : List Stage) (file : Option OutputFile) :
    Outlet.before later file = .pipe ↔ later ≠ [] := by
  cases later <;> cases file <;> simp [Outlet.before]

/-- The last stage that was started writes a pipe just if a stage after it was refused. -/
theorem Course.isSome_source_last_iff {σ : Type} {system : System σ} (opens : system.OpensPipes) {course : Course}
    {file : Option OutputFile} {inlet : Inlet} {running : List (Text × Child)}
    (answered : ∀ call ∈ course.calls file inlet running, system.Answers call)
    {earlier : List Launched} {last : Launched} (launched : course.launched = earlier ++ [last]) :
    last.started.source.isSome ↔ course.refusal.isSome := by
  -- Its launch is the last of the launches, and onto a pipe just if a stage is left.
  have launchedLast (others : List Stage) :
      .launch last.stage (inlet.past earlier) (.before others file) (.ok last.started) ∈
        launchCalls file others inlet course.launched := by
    rw [launched, launchCalls_append]
    exact List.mem_append_right _ (List.mem_cons_self ..)
  cases refused : course.refusal with
  | none =>
    obtain ⟨state, answer⟩ := answered _ (by
      simp only [Course.calls, refused]
      exact List.mem_append_left _ (launchedLast []))
    simp [opens _ _ _ _ _ answer, Outlet.before_eq_pipe_iff]
  | some refusal =>
    obtain ⟨state, answer⟩ := answered _ (by
      simp only [Course.calls, refused]
      exact List.mem_append_left _ (launchedLast (refusal.stage :: refusal.later)))
    simp [opens _ _ _ _ _ answer, Outlet.before_eq_pipe_iff]

/-- A launch that is refused when a pipeline is run ends a course that was taken through its stages. -/
theorem Pipeline.course_of_refused {σ : Type} {system : System σ} {pipeline : Pipeline} {state : σ} {stage : Stage}
    {inlet : Inlet} {outlet : Outlet} {reason : OsError}
    (refused : .launch stage inlet outlet (.error reason) ∈ pipeline.calls system state) :
    ∃ file opening later, ∃ course : Course, Opened pipeline.output file opening ∧
      course.stages = pipeline.stages ∧ course.refusal = some ⟨stage, later, reason⟩ ∧
      course.ComesTo [] ((pipeline.run system).run state).1 ∧
      pipeline.calls system state = opening ++ course.calls file .inherited [] ∧
      ∀ call ∈ course.calls file .inherited [], system.Answers call := by
  obtain ⟨path, cause, -, -, calls⟩ | ⟨file, opening, course, opened, named, comes, calls, answered⟩ :=
    pipeline.calls_cases system state
  · -- A run that cannot open its output launches nothing.
    rw [calls, List.mem_singleton] at refused
    cases refused
  · rw [calls] at refused
    rcases List.mem_append.mp refused with member | member
    · exact absurd member (opened.launch_not_mem stage inlet outlet (.error reason))
    · obtain ⟨later, refusal⟩ := Course.refusal_of_mem_calls member
      exact ⟨file, opening, later, course, opened, named, refusal, comes, calls, answered⟩

/-- If the launch of a stage is refused, its program is named, exactly the processes of the stages before it are waited
for, and at each of these waits the read end of the pipe that the last of them writes is still held. -/
theorem Pipeline.refused_launch_waits_holding_pipe {σ : Type} (system : System σ) (opens : system.OpensPipes)
    (pipeline : Pipeline) (state : σ) (stage : Stage) (inlet : Inlet) (outlet : Outlet) (reason : OsError)
    (refused : .launch stage inlet outlet (.error reason) ∈ pipeline.calls system state) :
    ∃ (launched : List Launched) (later : List Stage),
      pipeline.stages = launched.map Launched.stage ++ stage :: later ∧
      ((pipeline.run system).run state).1 = .error (.launch stage.program reason) ∧
      (pipeline.calls system state).filterMap Call.started? = launched.map Launched.started ∧
      (pipeline.calls system state).filterMap Call.awaited? = launched.map (fun each => each.started.child) ∧
      (∀ earlier last, launched = earlier ++ [last] → ∃ source, last.started.source = some source ∧
        heldAtWaits [] (pipeline.calls system state) = List.replicate launched.length [source]) ∧
      heldAfter [] (pipeline.calls system state) = [] := by
  obtain ⟨file, opening, later, course, opened, named, refusal, comes, calls, answered⟩ :=
    Pipeline.course_of_refused refused
  generalize ((pipeline.run system).run state).1 = result at comes ⊢
  cases comes with
  | completed complete _ =>
    -- This course would have no refusal.
    rw [complete] at refusal
    cases refusal
  | @refused unlaunched same each =>
    obtain rfl : unlaunched = ⟨stage, later, reason⟩ := Option.some_inj.mp (same.symm.trans refusal)
    refine ⟨course.launched, later, ?_, rfl, ?_, ?_, ?_, ?_⟩
    · simpa [Course.stages, refusal] using named.symm
    · rw [calls, List.filterMap_append, opened.started, course.started_calls, List.nil_append]
    · rw [calls, List.filterMap_append, opened.awaited, Course.awaited_calls_of_length each, List.nil_append,
        List.nil_append, List.map_map]
      rfl
    · -- The last stage before it writes a pipe, whose read end is the inlet that is held.
      intro earlier last launched
      have writes := (Course.isSome_source_last_iff opens answered launched).mpr (by rw [refusal]; rfl)
      obtain ⟨source, same⟩ := Option.isSome_iff_exists.mp writes
      refine ⟨source, same, ?_⟩
      have held := course.heldAtWaits_calls file .inherited []
      rw [calls, (opened.held _).1]
      simpa [each, launched, Inlet.after, same] using held
    · rw [calls, (opened.held _).2]
      exact Course.heldAfter_calls refusal file .inherited []

/-- An operating system that can start every program but one, and counts what it has started. Every wait comes to the
same. -/
def System.lacking (absent : Text) (outcome : Except OsError ExitStatus := .ok (.exited 0)) : System Nat where
  hasEntry _ _ := false
  create _ := pure (.ok ⟨0⟩)
  launch stage _ outlet := fun count =>
    if stage.program = absent then (.error .noEntry, count)
    else (.ok ⟨⟨count⟩, if outlet = .pipe then some ⟨count⟩ else none⟩, count + 1)
  close _ := pure ()
  wait _ := pure outcome
  report _ := pure ()

/-- A counter numbers the pipes that are asked for, and no others. -/
theorem System.opensPipes_lacking (absent : Text) (outcome : Except OsError ExitStatus) :
    (System.lacking absent outcome).OpensPipes := by
  intro stage inlet outlet state started answer
  by_cases same : stage.program = absent
  · -- A program that is refused hands out nothing.
    simp [System.lacking, StateT.run, same] at answer
  · simp only [System.lacking, StateT.run, same, if_false, Except.ok.injEq] at answer
    rw [← answer]
    split <;> simp_all

/-- A program that writes for one that is missing. -/
def unreadPipeline : Pipeline := ⟨[⟨['a'], []⟩, ⟨['b'], []⟩], none⟩

/-- The program is waited for while its pipe is held. -/
theorem unreadPipeline_waits_holding_pipe :
    (System.lacking ['b']).OpensPipes ∧
    .launch ⟨['b'], []⟩ (.pipe ⟨0⟩) .inherited (.error .noEntry) ∈ unreadPipeline.calls (System.lacking ['b']) 0 ∧
    ∃ (launched : List Launched) (later : List Stage),
      unreadPipeline.stages = launched.map Launched.stage ++ ⟨['b'], []⟩ :: later ∧
      ((unreadPipeline.run (System.lacking ['b'])).run 0).1 = .error (.launch ['b'] .noEntry) ∧
      (unreadPipeline.calls (System.lacking ['b']) 0).filterMap Call.started? = launched.map Launched.started ∧
      (unreadPipeline.calls (System.lacking ['b']) 0).filterMap Call.awaited? =
        launched.map (fun each => each.started.child) ∧
      (∀ earlier last, launched = earlier ++ [last] → ∃ source, last.started.source = some source ∧
        heldAtWaits [] (unreadPipeline.calls (System.lacking ['b']) 0) = List.replicate launched.length [source]) ∧
      heldAfter [] (unreadPipeline.calls (System.lacking ['b']) 0) = [] :=
  -- The launch that is refused is the second of the calls.
  have refused : .launch ⟨['b'], []⟩ (.pipe ⟨0⟩) .inherited (.error .noEntry) ∈
      unreadPipeline.calls (System.lacking ['b']) 0 :=
    .tail _ (.head _)
  ⟨System.opensPipes_lacking ['b'] _, refused,
    Pipeline.refused_launch_waits_holding_pipe (System.lacking ['b']) (System.opensPipes_lacking ['b'] _)
      unreadPipeline 0 ⟨['b'], []⟩ (.pipe ⟨0⟩) .inherited .noEntry refused⟩

/-- A process whose reader is missing is not always waited for with the read end of its pipe closed. -/
theorem unread_pipe_is_held_at_wait :
    ((unreadPipeline.run (System.lacking ['b'])).run 0).1 = .error (.launch ['b'] .noEntry) ∧
    ¬ ∀ held ∈ heldAtWaits [] (unreadPipeline.calls (System.lacking ['b']) 0),
      ∀ started ∈ (unreadPipeline.calls (System.lacking ['b']) 0).filterMap Call.started?,
        ∀ source ∈ started.source, source ∉ held := by
  -- The first pipe is held at the only wait.
  refine ⟨rfl, ?_⟩
  intro closed
  exact closed [⟨0⟩] (by decide) ⟨⟨0⟩, some ⟨0⟩⟩ (by decide) ⟨0⟩ rfl (by decide)

/-- If no launch is refused, nothing is held at any of the waits. -/
theorem Pipeline.completed_launches_wait_holding_nothing {σ : Type} (system : System σ) (opens : system.OpensPipes)
    (pipeline : Pipeline) (state : σ)
    (granted : ∀ stage inlet outlet reason,
      .launch stage inlet outlet (.error reason) ∉ pipeline.calls system state) :
    ∀ held ∈ heldAtWaits [] (pipeline.calls system state), held = [] := by
  obtain ⟨path, cause, -, -, calls⟩ | ⟨file, opening, course, opened, named, comes, calls, answered⟩ :=
    pipeline.calls_cases system state
  · -- Nothing is waited for where the output cannot be opened.
    rw [calls]
    simp [heldAtWaits, Call.awaited?]
  cases refusal : course.refusal with
  | some unlaunched =>
    -- The launch that is refused would be one of the calls.
    have member := Course.mem_calls_of_refusal refusal file .inherited []
    exact absurd (calls ▸ List.mem_append_right _ member) (granted _ _ _ _)
  | none =>
    -- The last stage writes no pipe, so that its launch leaves nothing to hold.
    have ends : (Inlet.past .inherited course.launched).ends = [] := by
      rcases course.launched.eq_nil_or_concat with launched | ⟨earlier, last, launched⟩
      · rw [launched, Inlet.past_nil, Inlet.ends_inherited]
      · rw [List.concat_eq_append] at launched
        have writes := (not_congr (Course.isSome_source_last_iff opens answered launched)).mpr (by simp [refusal])
        simp [launched, Inlet.after, Option.not_isSome_iff_eq_none.mp writes]
    have held := course.heldAtWaits_calls file .inherited []
    rw [ends, Inlet.ends_inherited] at held
    rw [calls, (opened.held _).1, held]
    exact fun each member => List.eq_of_mem_replicate member

end AnswerQuery
