import AnswerQuery.Run

/-! What a pipeline asks of its operating system: the exact list of calls with their answers, in order. -/

namespace AnswerQuery

/-- What was asked of an operating system, and what it answered. -/
inductive Call where
  /-- A file was to be opened and emptied. -/
  | create (path : Text) (outcome : Except OsError OutputFile)
  /-- A program was to be started. -/
  | launch (stage : Stage) (inlet : Inlet) (outlet : Outlet) (outcome : Except OsError Started)
  /-- The read end of a pipe was given up. -/
  | close (source : PipeEnd)
  /-- A process was waited for. -/
  | wait (child : Child) (outcome : Except OsError ExitStatus)
  /-- A message was written. -/
  | report (message : Text)

/-- What a call started, if it started anything. -/
def Call.started? : Call → Option Started
  | .launch _ _ _ (.ok started) => some started
  | _ => none

/-- The process that a call waited for, whatever came of it, if it waited. -/
def Call.awaited? : Call → Option Child
  | .wait child _ => some child
  | _ => none

/-- The process that a call saw end, if it saw one. -/
def Call.ended? : Call → Option Child
  | .wait child (.ok _) => some child
  | _ => none

/-- Whether a call is a wait that fails. -/
def Call.waitFails : Call → Bool
  | .wait _ (.error _) => true
  | _ => false

/-- Only a wait that gives a status sees a process end. -/
theorem Call.eq_wait_of_ended? {call : Call} {child : Child} (ended : call.ended? = some child) :
    ∃ status, call = .wait child (.ok status) := by
  -- Neither a wait that fails nor any other call sees a process end.
  cases call with
  | wait other outcome =>
    cases outcome with
    | ok status =>
      obtain rfl : other = child := Option.some_inj.mp ended
      exact ⟨status, rfl⟩
    | error reason => cases ended
  | _ => cases ended

/-- Only a launch that is granted starts a process. -/
theorem Call.eq_launch_of_started? {call : Call} {process : Started} (started : call.started? = some process) :
    ∃ stage inlet outlet, call = .launch stage inlet outlet (.ok process) := by
  -- Neither a launch that is refused nor any other call starts one.
  cases call with
  | launch stage inlet outlet outcome =>
    cases outcome with
    | ok other =>
      obtain rfl : other = process := Option.some_inj.mp started
      exact ⟨stage, inlet, outlet, rfl⟩
    | error reason => cases started
  | _ => cases started

/-- Nothing is started where a program is refused. -/
theorem Call.started?_refused (stage : Stage) (inlet : Inlet) (outlet : Outlet) (reason : OsError) :
    (Call.launch stage inlet outlet (.error reason)).started? = none := rfl

/-- No launch waits for anything. -/
theorem Call.awaited?_launch (stage : Stage) (inlet : Inlet) (outlet : Outlet) (outcome : Except OsError Started) :
    (Call.launch stage inlet outlet outcome).awaited? = none := rfl

/-- Whether an operating system can give the answer that a call has. -/
def System.Answers {σ : Type} (system : System σ) : Call → Prop
  | .create path outcome => ∃ state, ((system.create path).run state).1 = outcome
  | .launch stage inlet outlet outcome => ∃ state, ((system.launch stage inlet outlet).run state).1 = outcome
  | .close _ => True
  | .wait child outcome => ∃ state, ((system.wait child).run state).1 = outcome
  | .report _ => True

/-- An action that also writes down what was asked and answered. -/
def logging {σ α : Type} (action : StateM σ α) (call : α → Call) : StateM (σ × List Call) α :=
  fun (state, calls) =>
    let (answer, after) := action.run state
    (answer, after, calls ++ [call answer])

/-- An operating system whose calls are written down. -/
def System.logged {σ : Type} (system : System σ) : System (σ × List Call) where
  hasEntry state path := system.hasEntry state.1 path
  create path := logging (system.create path) (.create path)
  launch stage inlet outlet := logging (system.launch stage inlet outlet) (.launch stage inlet outlet)
  close source := logging (system.close source) fun _ => .close source
  wait child := logging (system.wait child) (.wait child)
  report message := logging (system.report message) fun _ => .report message

/-- One action after another: the second goes on with the answer and the state of the first. -/
theorem run_andThen {σ α β : Type} (action : StateM σ α) (next : α → StateM σ β) (state : σ) :
    (action >>= next).run state = (next (action.run state).1).run (action.run state).2 := rfl

/-- Nothing is done for an answer that is at hand. -/
theorem run_answer {σ α : Type} (answer : α) (state : σ) :
    (pure answer : StateM σ α).run state = (answer, state) := rfl

/-- Looking at a state leaves it as it is. -/
theorem run_look {σ α : Type} (next : σ → StateM σ α) (state : σ) :
    (get >>= next).run state = (next state).run state := rfl

section Recording

variable {σ : Type} {system : System σ}

/-- Whether a call with its answer takes an operating system from one state to another. -/
def System.Takes (system : System σ) (before : σ) : Call → σ → Prop
  | .create path outcome, after => (system.create path).run before = (outcome, after)
  | .launch stage inlet outlet outcome, after => (system.launch stage inlet outlet).run before = (outcome, after)
  | .close source, after => (system.close source).run before = ((), after)
  | .wait child outcome, after => (system.wait child).run before = (outcome, after)
  | .report message, after => (system.report message).run before = ((), after)

/-- Calls with their answers that lead an operating system from one state to another, one after the other. -/
inductive System.Leads (system : System σ) : σ → List Call → σ → Prop
  /-- Where nothing is asked, nothing changes. -/
  | none (state : σ) : Leads system state [] state
  /-- A call comes before the others. -/
  | call {before middle after : σ} {call : Call} {calls : List Call} (takes : system.Takes before call middle)
      (leads : Leads system middle calls after) : Leads system before (call :: calls) after

/-- Calls lead on from where the earlier ones lead to. -/
theorem System.leads_append_iff {before after : σ} {first second : List Call} :
    system.Leads before (first ++ second) after ↔
      ∃ middle, system.Leads before first middle ∧ system.Leads middle second after := by
  -- The state in between is the one that the first calls lead to, one after the other.
  induction first generalizing before with
  | nil =>
    constructor
    · intro leads
      exact ⟨before, .none before, leads⟩
    · rintro ⟨_, ⟨⟩, leads⟩
      exact leads
  | cons call first ih =>
    constructor
    · rintro (_ | ⟨takes, leads⟩)
      obtain ⟨middle, front, back⟩ := ih.mp leads
      exact ⟨middle, .call takes front, back⟩
    · rintro ⟨middle, _ | ⟨takes, front⟩, back⟩
      exact .call takes (ih.mpr ⟨middle, front, back⟩)

/-- Every call on the way is one that the operating system can answer so. -/
theorem System.Leads.answers {before after : σ} {calls : List Call} (leads : system.Leads before calls after) :
    ∀ call ∈ calls, system.Answers call := by
  induction leads with
  | none => simp
  | @call before _ _ call _ takes _ ih =>
    rw [List.forall_mem_cons]
    refine ⟨?_, ih⟩
    -- What it answers to the call is what it answers in the state before it.
    cases call with
    | create => exact ⟨before, congrArg Prod.fst takes⟩
    | launch => exact ⟨before, congrArg Prod.fst takes⟩
    | close => trivial
    | wait => exact ⟨before, congrArg Prod.fst takes⟩
    | report => trivial

/-- An action runs from one state to another with an answer, it does the same while its calls are written down, and what
is written down leads from the one state to the other. -/
structure System.Runs {α : Type} (system : System σ) (plain : StateM σ α) (logged : StateM (σ × List Call) α)
    (before : σ) (answer : α) (calls : List Call) (after : σ) : Prop where
  /-- What the action comes to. -/
  plain : plain.run before = (answer, after)
  /-- It comes to the same with a log, whatever was written before. -/
  logged : ∀ earlier, logged.run (before, earlier) = (answer, after, earlier ++ calls)
  /-- The calls lead from state to state. -/
  leads : system.Leads before calls after

namespace System

/-- An action has only the answer that it runs to. -/
theorem Runs.answer_eq {α : Type} {plain : StateM σ α} {logged : StateM (σ × List Call) α} {before after : σ}
    {answer : α} {calls : List Call} (runs : system.Runs plain logged before answer calls after) :
    (plain.run before).1 = answer := by
  rw [runs.plain]

/-- An action has only the state that it runs to. -/
theorem Runs.state_eq {α : Type} {plain : StateM σ α} {logged : StateM (σ × List Call) α} {before after : σ}
    {answer : α} {calls : List Call} (runs : system.Runs plain logged before answer calls after) :
    (plain.run before).2 = after := by
  rw [runs.plain]

/-- What a log holds in the end are the calls, if it held nothing before. -/
theorem Runs.calls_eq {α : Type} {plain : StateM σ α} {logged : StateM (σ × List Call) α} {before after : σ}
    {answer : α} {calls : List Call} (runs : system.Runs plain logged before answer calls after) :
    (logged.run (before, [])).2.2 = calls := by
  rw [runs.logged, List.nil_append]

/-- What an action runs to is what it computes. -/
theorem Runs.computed {α : Type} {plain : StateM σ α} {logged : StateM (σ × List Call) α} {before after : σ}
    {answer : α} {calls : List Call} (runs : system.Runs plain logged before answer calls after) :
    system.Runs plain logged before (plain.run before).1 (logged.run (before, [])).2.2 (plain.run before).2 := by
  rw [runs.answer_eq, runs.calls_eq, runs.state_eq]
  exact runs

/-- It counts only what an action does from the state that it runs from. -/
theorem Runs.congr {α : Type} {plain other : StateM σ α} {logged otherLogged : StateM (σ × List Call) α}
    {before after : σ} {answer : α} {calls : List Call} (same : other.run before = plain.run before)
    (sameLogged : ∀ earlier, otherLogged.run (before, earlier) = logged.run (before, earlier))
    (runs : system.Runs plain logged before answer calls after) :
    system.Runs other otherLogged before answer calls after where
  plain := same.trans runs.plain
  logged earlier := (sameLogged earlier).trans (runs.logged earlier)
  leads := runs.leads

/-- An answer that is at hand asks for nothing. -/
theorem Runs.answer {α : Type} (answer : α) (state : σ) :
    system.Runs (pure answer) (pure answer) state answer [] state where
  plain := rfl
  logged earlier := by rw [run_answer, List.append_nil]
  leads := .none state

/-- The calls of an action come before those of the action that goes on with its answer. -/
theorem Runs.andThen {α β : Type} {plain : StateM σ α} {logged : StateM (σ × List Call) α} {next : α → StateM σ β}
    {nextLogged : α → StateM (σ × List Call) β} {before middle after : σ} {answer : α} {result : β}
    {first second : List Call} (runs : system.Runs plain logged before answer first middle)
    (goesOn : system.Runs (next answer) (nextLogged answer) middle result second after) :
    system.Runs (plain >>= next) (logged >>= nextLogged) before result (first ++ second) after where
  -- Each of the two runs is made up of the first action and of the one that goes on.
  plain := by rw [run_andThen, runs.plain, goesOn.plain]
  logged earlier := by rw [run_andThen, runs.logged, goesOn.logged, List.append_assoc]
  leads := leads_append_iff.mpr ⟨middle, runs.leads, goesOn.leads⟩

/-- What is made of an answer asks for nothing more. -/
theorem Runs.result {α β : Type} {plain : StateM σ α} {logged : StateM (σ × List Call) α} {result : α → β}
    {before after : σ} {answer : α} {calls : List Call} (runs : system.Runs plain logged before answer calls after) :
    system.Runs (plain >>= fun answer => pure (result answer)) (logged >>= fun answer => pure (result answer)) before
      (result answer) calls after where
  plain := by rw [run_andThen, runs.plain, run_answer]
  logged earlier := by rw [run_andThen, runs.logged, run_answer]
  leads := runs.leads

/-- An action that is written down is one call. -/
theorem Runs.logging {α : Type} {action : StateM σ α} {before after : σ} {answer : α} (call : α → Call)
    (result : action.run before = (answer, after)) (takes : system.Takes before (call answer) after) :
    system.Runs action (logging action call) before answer [call answer] after where
  plain := result
  logged earlier := by
    -- The one place where the log of an action is opened.
    simp only [AnswerQuery.logging, StateT.run] at result ⊢
    rw [result]
  leads := .call takes (.none after)

/-- A file that is opened is one call. -/
theorem Runs.create {path : Text} {before after : σ} {outcome : Except OsError OutputFile}
    (result : (system.create path).run before = (outcome, after)) :
    system.Runs (system.create path) (system.logged.create path) before outcome [.create path outcome] after :=
  .logging (.create path) result result

/-- A launch is one call. -/
theorem Runs.launch {stage : Stage} {inlet : Inlet} {outlet : Outlet} {before after : σ}
    {outcome : Except OsError Started} (result : (system.launch stage inlet outlet).run before = (outcome, after)) :
    system.Runs (system.launch stage inlet outlet) (system.logged.launch stage inlet outlet) before outcome
      [.launch stage inlet outlet outcome] after :=
  .logging (.launch stage inlet outlet) result result

/-- A wait is one call. -/
theorem Runs.wait {child : Child} {before after : σ} {outcome : Except OsError ExitStatus}
    (result : (system.wait child).run before = (outcome, after)) :
    system.Runs (system.wait child) (system.logged.wait child) before outcome [.wait child outcome] after :=
  .logging (.wait child) result result

/-- A message is one call. -/
theorem Runs.report (message : Text) (before : σ) :
    system.Runs (system.report message) (system.logged.report message) before () [.report message]
      ((system.report message).run before).2 :=
  .logging (fun _ => .report message) rfl rfl

end System

end Recording

section Launching

variable {σ : Type} (system : System σ)

/-- The calls that give up an inlet. -/
def Inlet.closing : Inlet → List Call
  | .inherited => []
  | .pipe source => [.close source]

/-- Nothing is started where an inlet is given up. -/
theorem Inlet.started_closing (inlet : Inlet) : inlet.closing.filterMap Call.started? = [] := by
  cases inlet <;> rfl

/-- Nothing is waited for where an inlet is given up. -/
theorem Inlet.awaited_closing (inlet : Inlet) : inlet.closing.filterMap Call.awaited? = [] := by
  cases inlet <;> rfl

/-- No process is seen to end where an inlet is given up. -/
theorem Inlet.ended_closing (inlet : Inlet) : inlet.closing.filterMap Call.ended? = [] := by
  cases inlet <;> rfl

/-- What holds of giving up a pipe holds of all that gives up an inlet. -/
theorem Inlet.forall_mem_closing {holds : Call → Prop} (close : ∀ source, holds (.close source)) (inlet : Inlet) :
    ∀ call ∈ inlet.closing, holds call := by
  cases inlet <;> simp [closing, close]

/-- Giving up an inlet is a call where there is a pipe to close. -/
theorem System.Runs.release (inlet : Inlet) (before : σ) :
    system.Runs (system.release inlet) (system.logged.release inlet) before () inlet.closing
      ((system.release inlet).run before).2 := by
  -- What is inherited stays open.
  cases inlet with
  | inherited => exact .answer () before
  | pipe source => exact .logging (fun _ => .close source) rfl rfl

/-- The calls that wait for processes, in order, with what came of each wait. -/
def waitCalls (children : List Child) (outcomes : List (Except OsError ExitStatus)) : List Call :=
  List.zipWith Call.wait children outcomes

/-- What holds of waiting holds of all calls that wait. -/
theorem forall_mem_waitCalls {holds : Call → Prop} (wait : ∀ child outcome, holds (.wait child outcome))
    (children : List Child) (outcomes : List (Except OsError ExitStatus)) :
    ∀ call ∈ waitCalls children outcomes, holds call := by
  intro call member
  -- Each of the calls is made of a process and what came of waiting for it.
  rw [waitCalls, ← List.map_uncurry_zip_eq_zipWith, List.mem_map] at member
  obtain ⟨⟨child, outcome⟩, -, rfl⟩ := member
  exact wait child outcome

/-- Nothing is started while processes are waited for. -/
theorem started_waitCalls (children : List Child) (outcomes : List (Except OsError ExitStatus)) :
    (waitCalls children outcomes).filterMap Call.started? = [] := by
  rw [List.filterMap_eq_nil_iff]
  exact forall_mem_waitCalls (fun _ _ => rfl) children outcomes

/-- Processes are waited for in order, each of them once, as far as there are outcomes. -/
theorem awaited_waitCalls (children : List Child) (outcomes : List (Except OsError ExitStatus)) :
    (waitCalls children outcomes).filterMap Call.awaited? = children.take outcomes.length := by
  induction children generalizing outcomes with
  | nil => simp [waitCalls]
  | cons child children ih =>
    cases outcomes with
    -- Without outcomes nothing is waited for.
    | nil => rfl
    | cons outcome outcomes => simpa [waitCalls, Call.awaited?] using ih outcomes

/-- If every wait gives a status, each process is seen to end, as far as there are statuses. -/
theorem ended_waitCalls_ok (children : List Child) (statuses : List ExitStatus) :
    (waitCalls children (statuses.map .ok)).filterMap Call.ended? = children.take statuses.length := by
  -- The first status is that of the first process.
  induction children generalizing statuses with
  | nil => simp [waitCalls]
  | cons child children ih =>
    cases statuses with
    | nil => rfl
    | cons status statuses => simpa [waitCalls, Call.ended?] using ih statuses

/-- If every wait gives a status, none of them fails. -/
theorem waitFails_waitCalls_ok (children : List Child) (statuses : List ExitStatus) :
    ∀ call ∈ waitCalls children (statuses.map .ok), call.waitFails = false := by
  intro call member
  rw [waitCalls, ← List.map_uncurry_zip_eq_zipWith, List.mem_map] at member
  obtain ⟨⟨child, outcome⟩, paired, rfl⟩ := member
  -- The outcome is that of some status.
  obtain ⟨status, -, rfl⟩ := List.mem_map.mp (List.of_mem_zip paired).2
  rfl

/-- If only the last wait fails, the others stand before it, and the processes behind it are not waited for. -/
theorem waitCalls_failed {earlier : List Child} {statuses : List ExitStatus}
    (lengths : statuses.length = earlier.length) (child : Child) (later : List Child) (reason : OsError) :
    waitCalls (earlier ++ child :: later) (statuses.map .ok ++ [.error reason]) =
      waitCalls earlier (statuses.map .ok) ++ [.wait child (.error reason)] := by
  -- The outcomes are used up with the wait that fails.
  rw [waitCalls, List.zipWith_append (by simp [lengths])]
  simp [waitCalls]

/-- Waiting for each process asks once for each, whatever the answers are. -/
theorem System.Runs.waitEach (children : List Child) (before : σ) :
    ∃ outcomes after, outcomes.length = children.length ∧
      system.Runs (system.waitEach children) (system.logged.waitEach children) before () (waitCalls children outcomes)
        after := by
  -- Each wait begins in the state that the one before it leaves.
  induction children generalizing before with
  | nil => exact ⟨[], before, rfl, .answer () before⟩
  | cons child others ih =>
    cases result : (system.wait child).run before with
    | mk outcome middle =>
      -- The outcome is dropped, and the others are waited for from the state it leaves.
      obtain ⟨outcomes, after, lengths, runs⟩ := ih middle
      exact ⟨outcome :: outcomes, after, by simp [lengths], (Runs.wait result).andThen runs⟩

/-- What comes of waiting for processes in order until a wait fails. -/
inductive Waited :
    List (Text × Child) → List (Except OsError ExitStatus) → Except Failure (List (Text × ExitStatus)) → Prop
  /-- Nothing is left to wait for. -/
  | none : Waited [] [] (.ok [])
  /-- A process cannot be waited for: its program is named, and the others are not waited for. -/
  | failed (program : Text) (child : Child) (others : List (Text × Child)) (reason : OsError) :
      Waited ((program, child) :: others) [.error reason] (.error (.launch program reason))
  /-- A process has ended: its status stands in front of what comes of the others. -/
  | ended {others : List (Text × Child)} {outcomes : List (Except OsError ExitStatus)}
      {result : Except Failure (List (Text × ExitStatus))} (program : Text) (child : Child) (status : ExitStatus)
      (waited : Waited others outcomes result) :
      Waited ((program, child) :: others) (.ok status :: outcomes)
        (result.map fun statuses => (program, status) :: statuses)

/-- Either every wait gives a status, or the last of them fails. -/
theorem Waited.cases {processes : List (Text × Child)} {outcomes : List (Except OsError ExitStatus)}
    {result : Except Failure (List (Text × ExitStatus))} (waited : Waited processes outcomes result) :
    (∃ statuses : List ExitStatus, statuses.length = processes.length ∧ outcomes = statuses.map .ok ∧
      result = .ok ((processes.map Prod.fst).zip statuses)) ∨
    ∃ (earlier : List (Text × Child)) (program : Text) (child : Child) (later : List (Text × Child))
      (statuses : List ExitStatus) (reason : OsError), processes = earlier ++ (program, child) :: later ∧
      statuses.length = earlier.length ∧ outcomes = statuses.map .ok ++ [.error reason] ∧
      result = .error (.launch program reason) := by
  -- The wait that fails is the first one or one of the others.
  induction waited with
  | none => exact .inl ⟨[], rfl, rfl, rfl⟩
  | failed program child others reason => exact .inr ⟨[], program, child, others, [], reason, rfl, rfl, rfl, rfl⟩
  | ended program child status _ ih =>
    -- One status more stands in front, whichever way the others went.
    obtain ⟨statuses, lengths, rfl, rfl⟩ | ⟨earlier, named, lost, later, statuses, reason, rfl, lengths, rfl, rfl⟩ := ih
    · exact .inl ⟨status :: statuses, by simp [lengths], rfl, rfl⟩
    · exact .inr ⟨(program, child) :: earlier, named, lost, later, status :: statuses, reason, rfl, by simp [lengths],
        rfl, rfl⟩

/-- Waiting for all processes asks for each in turn until a wait fails. -/
theorem System.Runs.waitAll (running : List (Text × Child)) (before : σ) :
    ∃ outcomes result after, Waited running outcomes result ∧
      system.Runs (system.waitAll running) (system.logged.waitAll running) before result
        (waitCalls (running.map Prod.snd) outcomes) after := by
  -- The recursion is over the processes that are left; a wait that fails ends it.
  induction running generalizing before with
  | nil => exact ⟨[], _, before, .none, .answer _ before⟩
  | cons head others ih =>
    obtain ⟨program, child⟩ := head
    cases answer : (system.wait child).run before with
    | mk outcome middle =>
      have wait := Runs.wait answer
      cases outcome with
      | error reason =>
        -- With one outcome there is one call, however many processes are left.
        have calls : waitCalls (((program, child) :: others).map Prod.snd) [.error reason] =
            [.wait child (.error reason)] := by
          simp [waitCalls]
        refine ⟨_, _, middle, .failed program child others reason, ?_⟩
        rw [calls]
        exact wait.andThen (.answer _ middle)
      | ok status =>
        -- Only now the others are waited for.
        obtain ⟨outcomes, result, after, waited, runs⟩ := ih middle
        exact ⟨_, _, after, waited.ended program child status, wait.andThen runs.result⟩

/-- A stage that was started, with what the operating system answered. -/
structure Launched where
  /-- The stage. -/
  stage : Stage
  /-- Its process, and the pipe that it writes. -/
  started : Started

/-- What is waited for: the process, under the name of its program. -/
def Launched.running (launched : Launched) : Text × Child :=
  (launched.stage.program, launched.started.child)

/-- A stage that could not be started. -/
structure Refusal where
  /-- The stage. -/
  stage : Stage
  /-- The stages after it, none of which was tried. -/
  later : List Stage
  /-- Why it could not be started. -/
  reason : OsError

/-- How the stages of a pipeline fared. -/
structure Course where
  /-- The stages that were started. -/
  launched : List Launched
  /-- The stage after them that could not be started, if there is one. -/
  refusal : Option Refusal
  /-- What came of waiting for the processes, in order. -/
  outcomes : List (Except OsError ExitStatus)

/-- The stages of the pipeline, started or not. -/
def Course.stages (course : Course) : List Stage :=
  course.launched.map Launched.stage ++
    (match course.refusal with
    | some refusal => refusal.stage :: refusal.later
    | none => [])

/-- What running the stages comes to, where some processes were running before. -/
inductive Course.ComesTo (course : Course) (running : List (Text × Child)) :
    Except Failure (List (Text × ExitStatus)) → Prop
  /-- A stage could not be started, and each process was waited for, whatever came of that. -/
  | refused {refusal : Refusal} (refused : course.refusal = some refusal)
      (each : course.outcomes.length = (running ++ course.launched.map Launched.running).length) :
      ComesTo course running (.error (.launch refusal.stage.program refusal.reason))
  /-- Every stage was started, and the processes were waited for until a wait failed. -/
  | completed {result : Except Failure (List (Text × ExitStatus))} (complete : course.refusal = none)
      (waited : Waited (running ++ course.launched.map Launched.running) course.outcomes result) :
      ComesTo course running result

/-- The inlet of the stage after those that were started. -/
def Inlet.past (inlet : Inlet) (launched : List Launched) : Inlet :=
  launched.foldl (fun _ last => .after last.started.source) inlet

/-- Before anything is started the inlet is the first one. -/
@[simp] theorem Inlet.past_nil (inlet : Inlet) : inlet.past [] = inlet := rfl

/-- Only the last stage that was started determines the inlet of the next. -/
@[simp] theorem Inlet.past_concat (inlet : Inlet) (earlier : List Launched) (last : Launched) :
    inlet.past (earlier ++ [last]) = .after last.started.source := by
  simp [Inlet.past]

/-- The calls that start stages before others: each stage writes for the one after it, and its own inlet is given up. -/
def launchCalls (file : Option OutputFile) (others : List Stage) : Inlet → List Launched → List Call
  | _, [] => []
  | inlet, first :: launched =>
    .launch first.stage inlet (.before (launched.map Launched.stage ++ others) file) (.ok first.started) ::
      (inlet.closing ++ launchCalls file others (.after first.started.source) launched)

/-- Stages are started one after the other: the later ones read what the earlier ones write. -/
theorem launchCalls_append (file : Option OutputFile) (others : List Stage) (inlet : Inlet)
    (first second : List Launched) :
    launchCalls file others inlet (first ++ second) =
      launchCalls file (second.map Launched.stage ++ others) inlet first ++
        launchCalls file others (inlet.past first) second := by
  -- What follows a launch is the second part as well as the others, so that its outlet stays the same.
  induction first generalizing inlet with
  | nil => rfl
  | cons head first ih => simp [launchCalls, Inlet.past, ih]

/-- What holds of launching and of giving up a pipe holds of all that starts stages. -/
theorem forall_mem_launchCalls {holds : Call → Prop}
    (launch : ∀ stage inlet outlet started, holds (.launch stage inlet outlet (.ok started)))
    (close : ∀ source, holds (.close source)) (file : Option OutputFile) (others : List Stage) (inlet : Inlet)
    (launched : List Launched) : ∀ call ∈ launchCalls file others inlet launched, holds call := by
  -- A stage that is started adds its launch and the call that gives up its inlet.
  induction launched generalizing inlet with
  | nil => simp [launchCalls]
  | cons first launched ih =>
    rw [launchCalls, List.forall_mem_cons, List.forall_mem_append]
    exact ⟨launch .., inlet.forall_mem_closing close, ih _⟩

/-- Starting stages starts each of them once, in order. -/
theorem started_launchCalls (file : Option OutputFile) (others : List Stage) (inlet : Inlet)
    (launched : List Launched) :
    (launchCalls file others inlet launched).filterMap Call.started? = launched.map Launched.started := by
  -- Between the launches inlets are given up.
  induction launched generalizing inlet with
  | nil => rfl
  | cons first launched ih => simp [launchCalls, Call.started?, Inlet.started_closing, ih]

/-- Nothing is waited for while stages are started. -/
theorem awaited_launchCalls (file : Option OutputFile) (others : List Stage) (inlet : Inlet)
    (launched : List Launched) : (launchCalls file others inlet launched).filterMap Call.awaited? = [] := by
  rw [List.filterMap_eq_nil_iff]
  exact forall_mem_launchCalls (fun _ _ _ _ => rfl) (fun _ => rfl) file others inlet launched

/-- The calls of a course: all launches, then all waits; an inlet that no stage took is given up only after them. -/
def Course.calls (course : Course) (file : Option OutputFile) (inlet : Inlet) (running : List (Text × Child)) :
    List Call :=
  let waits := waitCalls ((running ++ course.launched.map Launched.running).map Prod.snd) course.outcomes
  match course.refusal with
  | none => launchCalls file [] inlet course.launched ++ waits
  | some refusal =>
    let last := inlet.past course.launched
    launchCalls file (refusal.stage :: refusal.later) inlet course.launched ++
      .launch refusal.stage last (.before refusal.later file) (.error refusal.reason) :: (waits ++ last.closing)

/-- A stage that is refused is one of the launches of a course. -/
theorem Course.mem_calls_of_refusal {course : Course} {refusal : Refusal} (refused : course.refusal = some refusal)
    (file : Option OutputFile) (inlet : Inlet) (running : List (Text × Child)) :
    .launch refusal.stage (inlet.past course.launched) (.before refusal.later file) (.error refusal.reason) ∈
      course.calls file inlet running := by
  simp [Course.calls, refused]

/-- A launch that is refused among the calls of a course is the one that ends it. -/
theorem Course.refusal_of_mem_calls {course : Course} {file : Option OutputFile} {first : Inlet}
    {running : List (Text × Child)} {stage : Stage} {inlet : Inlet} {outlet : Outlet} {reason : OsError}
    (refused : .launch stage inlet outlet (.error reason) ∈ course.calls file first running) :
    ∃ later, course.refusal = some ⟨stage, later, reason⟩ := by
  -- No other call of a course is a launch that is refused.
  have launches (others : List Stage) : ∀ call ∈ launchCalls file others first course.launched,
      call ≠ .launch stage inlet outlet (.error reason) :=
    forall_mem_launchCalls (by simp) (by simp) file others first course.launched
  have waits (children : List Child) (outcomes : List (Except OsError ExitStatus)) :
      ∀ call ∈ waitCalls children outcomes, call ≠ .launch stage inlet outlet (.error reason) :=
    forall_mem_waitCalls (by simp) children outcomes
  have closes (last : Inlet) : ∀ call ∈ last.closing, call ≠ .launch stage inlet outlet (.error reason) :=
    last.forall_mem_closing (by simp)
  obtain ⟨launched, refusal, outcomes⟩ := course
  cases refusal with
  | none =>
    -- Without a refusal there are only launches that are granted, and waits.
    rcases List.mem_append.mp refused with member | member
    · exact absurd rfl (launches _ _ member)
    · exact absurd rfl (waits _ _ _ member)
  | some unlaunched =>
    simp only [Course.calls, List.mem_append, List.mem_cons] at refused
    rcases refused with member | same | member | member
    · exact absurd rfl (launches _ _ member)
    · cases same
      exact ⟨unlaunched.later, rfl⟩
    · exact absurd rfl (waits _ _ _ member)
    · exact absurd rfl (closes _ _ member)

/-- What the calls of a course start are its stages, each with the process it is given. -/
theorem Course.started_calls (course : Course) (file : Option OutputFile) (inlet : Inlet)
    (running : List (Text × Child)) :
    (course.calls file inlet running).filterMap Call.started? = course.launched.map Launched.started := by
  obtain ⟨launched, refusal, outcomes⟩ := course
  -- Neither a refused launch nor a wait nor giving up an inlet starts anything.
  cases refusal with
  | none => simp only [Course.calls, List.filterMap_append, started_launchCalls, started_waitCalls, List.append_nil]
  | some refusal =>
    simp only [Course.calls, List.filterMap_append, List.filterMap_cons_none (Call.started?_refused ..),
      started_launchCalls, started_waitCalls, Inlet.started_closing, List.append_nil]

/-- The calls of a course wait for the processes in the order in which they were started, each of them once, as far as
there are outcomes. -/
theorem Course.awaited_calls (course : Course) (file : Option OutputFile) (inlet : Inlet)
    (running : List (Text × Child)) :
    (course.calls file inlet running).filterMap Call.awaited? =
      ((running ++ course.launched.map Launched.running).map Prod.snd).take course.outcomes.length := by
  obtain ⟨launched, refusal, outcomes⟩ := course
  -- No launch waits, whether it is refused or not, and neither does giving up an inlet.
  cases refusal with
  | none => simp only [Course.calls, List.filterMap_append, awaited_launchCalls, awaited_waitCalls, List.nil_append]
  | some refusal =>
    simp only [Course.calls, List.filterMap_append, List.filterMap_cons_none (Call.awaited?_launch ..),
      awaited_launchCalls, awaited_waitCalls, Inlet.awaited_closing, List.nil_append, List.append_nil]

/-- If each process has an outcome, each of them is waited for. -/
theorem Course.awaited_calls_of_length {course : Course} {running : List (Text × Child)}
    (each : course.outcomes.length = (running ++ course.launched.map Launched.running).length)
    (file : Option OutputFile) (inlet : Inlet) :
    (course.calls file inlet running).filterMap Call.awaited? =
      (running ++ course.launched.map Launched.running).map Prod.snd := by
  rw [Course.awaited_calls, each, ← List.length_map Prod.snd, List.take_length]

/-- If no stage is refused, the processes of a course that are seen to end are those whose wait gives a status. -/
theorem Course.ended_calls {course : Course} (complete : course.refusal = none) (file : Option OutputFile)
    (inlet : Inlet) (running : List (Text × Child)) :
    (course.calls file inlet running).filterMap Call.ended? =
      (waitCalls ((running ++ course.launched.map Launched.running).map Prod.snd) course.outcomes).filterMap
        Call.ended? := by
  -- No process is seen to end while stages are started.
  have launches : (launchCalls file [] inlet course.launched).filterMap Call.ended? = [] := by
    rw [List.filterMap_eq_nil_iff]
    exact forall_mem_launchCalls (fun _ _ _ _ => rfl) (fun _ => rfl) file [] inlet course.launched
  simp only [Course.calls, complete, List.filterMap_append, launches, List.nil_append]

/-- A course with one stage more that was started before the others. -/
def Course.cons (first : Launched) (course : Course) : Course :=
  { course with launched := first :: course.launched }

/-- One stage more at the front is one launch more, and its inlet is given up before anything else is done. -/
theorem Course.calls_cons (first : Launched) (course : Course) (file : Option OutputFile) (inlet : Inlet)
    (running : List (Text × Child)) :
    (course.cons first).calls file inlet running =
      .launch first.stage inlet (.before course.stages file) (.ok first.started) ::
        (inlet.closing ++ course.calls file (.after first.started.source) (running ++ [first.running])) := by
  -- The processes that are waited for are the same: the first one only changes sides.
  obtain ⟨launched, refusal, answers⟩ := course
  cases refusal <;> simp [Course.cons, Course.calls, Course.stages, launchCalls, Inlet.past]

/-- A course with one stage more at its front comes to the same: the process of that stage only changes sides. -/
theorem Course.ComesTo.cons {first : Launched} {course : Course} {running : List (Text × Child)}
    {result : Except Failure (List (Text × ExitStatus))} (comes : course.ComesTo (running ++ [first.running]) result) :
    (course.cons first).ComesTo running result := by
  -- It is waited for between those that ran before and those of the later stages, as it was.
  have processes : running ++ (course.cons first).launched.map Launched.running =
      running ++ [first.running] ++ course.launched.map Launched.running := by
    simp [Course.cons]
  cases comes with
  | refused refused each => exact .refused refused (by rw [processes]; exact each)
  | completed complete waited => exact .completed complete (by rw [processes]; exact waited)

/-- A course ends with a stage that is refused, with a status for each stage, or with a stage whose process cannot be
waited for. -/
theorem Course.ComesTo.cases {course : Course} {result : Except Failure (List (Text × ExitStatus))}
    (comes : course.ComesTo [] result) :
    (∃ refusal, course.refusal = some refusal ∧ course.outcomes.length = course.launched.length ∧
      result = .error (.launch refusal.stage.program refusal.reason)) ∨
    (course.refusal = none ∧ ∃ statuses : List ExitStatus, statuses.length = course.launched.length ∧
      course.outcomes = statuses.map .ok ∧ result = .ok ((course.stages.map Stage.program).zip statuses)) ∨
    (course.refusal = none ∧ ∃ (front : List Launched) (lost : Launched) (back : List Launched)
      (statuses : List ExitStatus) (reason : OsError), course.launched = front ++ lost :: back ∧
      statuses.length = front.length ∧ course.outcomes = statuses.map .ok ++ [.error reason] ∧
      result = .error (.launch lost.stage.program reason)) := by
  -- Only a course without a refusal is split further, by how its waits end.
  cases comes with
  | @refused refusal refused each => exact .inl ⟨refusal, refused, by simpa using each, rfl⟩
  | completed complete waited =>
    rw [List.nil_append] at waited
    rcases waited.cases with ⟨statuses, lengths, outcomes, rfl⟩ |
      ⟨earlier, program, child, later, statuses, reason, processes, lengths, outcomes, rfl⟩
    · -- The programs are those of the stages, since every stage was started.
      have programs : (course.launched.map Launched.running).map Prod.fst = course.stages.map Stage.program := by
        simp [Course.stages, complete, Launched.running]
      exact .inr (.inl ⟨complete, statuses, by simpa using lengths, outcomes, by rw [programs]⟩)
    · -- The process that cannot be waited for is that of some stage.
      obtain ⟨front, others, launched, rfl, behind⟩ := List.map_eq_append_iff.mp processes
      obtain ⟨lost, back, rfl, running, rfl⟩ := List.map_eq_cons_iff.mp behind
      obtain ⟨rfl, rfl⟩ := Prod.mk.inj running
      exact .inr (.inr ⟨complete, front, lost, back, statuses, reason, launched, by simpa using lengths, outcomes, rfl⟩)

/-- Running stages takes some course, with the calls of that course. -/
theorem System.Runs.launchStages (file : Option OutputFile) (stages : List Stage) (inlet : Inlet)
    (running : List (Text × Child)) (before : σ) :
    ∃ (course : Course) (result : Except Failure (List (Text × ExitStatus))) (after : σ),
      course.stages = stages ∧ course.ComesTo running result ∧
      system.Runs (launchStages system file stages inlet running) (launchStages system.logged file stages inlet running)
        before result (course.calls file inlet running) after := by
  -- The recursion is over the stages that are left; a stage that is refused ends it.
  induction stages generalizing inlet running before with
  | nil =>
    -- No stage is left, so that the processes are waited for until a wait fails.
    obtain ⟨outcomes, result, after, waited, runs⟩ := System.Runs.waitAll system running before
    refine ⟨⟨[], none, outcomes⟩, result, after, rfl, .completed rfl (by simpa using waited), ?_⟩
    have waits : (Course.mk [] none outcomes).calls file inlet running =
        waitCalls (running.map Prod.snd) outcomes := by
      simp [Course.calls, launchCalls]
    rw [waits]
    exact runs
  | cons stage later ih =>
    cases answer : (system.launch stage inlet (.before later file)).run before with
    | mk outcome middle =>
      cases outcome with
      | ok started =>
        -- The launch and the inlet that is given up stand before the calls of the stages that are left.
        have released := System.Runs.release system inlet middle
        obtain ⟨course, result, after, named, comes, runs⟩ :=
          ih (.after started.source) (running ++ [(stage.program, started.child)])
            ((system.release inlet).run middle).2
        refine ⟨course.cons ⟨stage, started⟩, result, after, ?_, comes.cons, ?_⟩
        · simpa [Course.stages, Course.cons] using named
        · rw [Course.calls_cons, named]
          exact (Runs.launch answer).andThen (released.andThen runs)
      | error reason =>
        -- Each process that runs is waited for, and only then the inlet is given up.
        obtain ⟨outcomes, waited, lengths, runs⟩ := System.Runs.waitEach system (running.map Prod.snd) middle
        have released := System.Runs.release system inlet waited
        refine ⟨⟨[], some ⟨stage, later, reason⟩, outcomes⟩, _, ((system.release inlet).run waited).2, rfl,
          .refused rfl (by simpa using lengths), ?_⟩
        have calls : (Course.mk [] (some ⟨stage, later, reason⟩) outcomes).calls file inlet running =
            .launch stage inlet (.before later file) (.error reason) ::
              (waitCalls (running.map Prod.snd) outcomes ++ inlet.closing) := by
          simp [Course.calls, launchCalls]
        rw [calls]
        exact (Runs.launch answer).andThen (runs.andThen released.result)

/-- What a pipeline asks of an operating system, from the first call to the last. -/
def Pipeline.calls (pipeline : Pipeline) (system : System σ) (state : σ) : List Call :=
  ((pipeline.run system.logged).run (state, [])).2.2

/-- How the output of a pipeline is opened before its stages are started. -/
inductive Opened : Option Text → Option OutputFile → List Call → Prop
  /-- The standard output is open. -/
  | standard : Opened none none []
  /-- A file is opened by one call. -/
  | file (path : Text) (target : OutputFile) : Opened (some path) (some target) [.create path (.ok target)]

/-- A file is open if there is one to be opened. -/
theorem Opened.target_eq {path : Text} {file : Option OutputFile} {opening : List Call}
    (opened : Opened (some path) file opening) : ∃ target, file = some target := by
  cases opened with
  | file _ target => exact ⟨target, rfl⟩

/-- Nothing is started before the output is open. -/
theorem Opened.started {output : Option Text} {file : Option OutputFile} {opening : List Call}
    (opened : Opened output file opening) : opening.filterMap Call.started? = [] := by
  cases opened <;> rfl

/-- Nothing is launched before the output is open, not even in vain. -/
theorem Opened.launch_not_mem {output : Option Text} {file : Option OutputFile} {opening : List Call}
    (opened : Opened output file opening) (stage : Stage) (inlet : Inlet) (outlet : Outlet)
    (outcome : Except OsError Started) : .launch stage inlet outlet outcome ∉ opening := by
  cases opened <;> simp

/-- Nothing is waited for before the output is open. -/
theorem Opened.awaited {output : Option Text} {file : Option OutputFile} {opening : List Call}
    (opened : Opened output file opening) : opening.filterMap Call.awaited? = [] := by
  cases opened <;> rfl

/-- A run either ends with a file that cannot be opened, or opens its output and takes a course through its stages. -/
theorem Pipeline.runs_cases (pipeline : Pipeline) (before : σ) :
    (∃ path reason after, pipeline.output = some path ∧
      system.Runs (pipeline.run system) (pipeline.run system.logged) before (.error (.datastore path reason))
        [.create path (.error reason)] after) ∨
    ∃ file opening result after, ∃ course : Course, Opened pipeline.output file opening ∧
      course.stages = pipeline.stages ∧ course.ComesTo [] result ∧
      system.Runs (pipeline.run system) (pipeline.run system.logged) before result
        (opening ++ course.calls file .inherited []) after := by
  -- Only the file that is opened, if there is one, stands before the calls of the stages.
  obtain ⟨stages, output⟩ := pipeline
  cases output with
  | none =>
    obtain ⟨course, result, after, named, comes, runs⟩ :=
      System.Runs.launchStages system none stages .inherited [] before
    exact .inr ⟨none, [], result, after, course, .standard, named, comes, runs⟩
  | some path =>
    cases answer : (system.create path).run before with
    | mk outcome middle =>
      cases outcome with
      | ok target =>
        -- The stages are run from the state in which the file is open.
        obtain ⟨course, result, after, named, comes, runs⟩ :=
          System.Runs.launchStages system (some target) stages .inherited [] middle
        exact .inr ⟨some target, _, result, after, course, .file path target, named, comes,
          (System.Runs.create answer).andThen runs⟩
      | error reason =>
        -- Without its output nothing is started.
        exact .inl ⟨path, reason, middle, rfl, (System.Runs.create answer).andThen (.answer _ middle)⟩

/-- Writing the calls down changes neither what a pipeline comes to nor the state it ends in. -/
theorem Pipeline.runs (pipeline : Pipeline) (before : σ) :
    system.Runs (pipeline.run system) (pipeline.run system.logged) before ((pipeline.run system).run before).1
      (pipeline.calls system before) ((pipeline.run system).run before).2 := by
  -- Both ways to end say what the run comes to with and without a log.
  rcases pipeline.runs_cases system before with ⟨_, _, _, -, runs⟩ | ⟨_, _, _, _, _, -, -, -, runs⟩
  · exact runs.computed
  · exact runs.computed

/-- A run ends with a file that cannot be opened or takes a course through its stages, and its calls tell which. -/
theorem Pipeline.calls_cases (pipeline : Pipeline) (state : σ) :
    (∃ path reason, pipeline.output = some path ∧
      ((pipeline.run system).run state).1 = .error (.datastore path reason) ∧
      pipeline.calls system state = [.create path (.error reason)]) ∨
    ∃ file opening, ∃ course : Course, Opened pipeline.output file opening ∧
      course.stages = pipeline.stages ∧ course.ComesTo [] ((pipeline.run system).run state).1 ∧
      pipeline.calls system state = opening ++ course.calls file .inherited [] ∧
      ∀ call ∈ course.calls file .inherited [], system.Answers call := by
  rcases pipeline.runs_cases system state with
    ⟨path, reason, after, output, runs⟩ | ⟨file, opening, result, after, course, opened, named, comes, runs⟩
  · exact .inl ⟨path, reason, output, runs.answer_eq, runs.calls_eq⟩
  · refine .inr ⟨file, opening, course, opened, named, runs.answer_eq ▸ comes, runs.calls_eq, ?_⟩
    -- The calls that open the output stand before those of the course.
    intro call member
    exact runs.leads.answers call (List.mem_append_right _ member)

end Launching

end AnswerQuery
