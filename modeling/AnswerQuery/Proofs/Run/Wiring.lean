import AnswerQuery.Proofs.Run.Files
import AnswerQuery.Proofs.Run.Pipes

/-! In what order a pipeline starts its stages and waits for them, and what each of them reads and writes. -/

namespace AnswerQuery

/-- The launch of a stage, and what it came to. -/
structure Launch where
  /-- The stage. -/
  stage : Stage
  /-- What it was to read. -/
  inlet : Inlet
  /-- Where it was to write. -/
  outlet : Outlet
  /-- What it came to. -/
  outcome : Except OsError Started

/-- The launch that a call is, if it is one. -/
def Call.launch? : Call → Option Launch
  | .launch stage inlet outlet outcome => some ⟨stage, inlet, outlet, outcome⟩
  | _ => none

/-- A launch is itself. -/
@[simp] theorem Call.launch?_launch (stage : Stage) (inlet : Inlet) (outlet : Outlet)
    (outcome : Except OsError Started) :
    (Call.launch stage inlet outlet outcome).launch? = some ⟨stage, inlet, outlet, outcome⟩ := rfl

/-- The process that a launch started, if it started one. -/
def Launch.child? (launch : Launch) : Option Child :=
  launch.outcome.toOption.map Started.child

/-- The status that a wait gives, if a call is a wait that gives one. -/
def Call.status? : Call → Option ExitStatus
  | .wait _ (.ok status) => some status
  | _ => none

/-- Whether a call opens a file. -/
def Call.creates : Call → Bool
  | .create .. => true
  | _ => false

/-- Launches of stages one after the other, each of which reads what the one before it writes. -/
structure Wired (stages : List Stage) (file : Option OutputFile) (inlet : Inlet) (launches : List Launch) : Prop where
  /-- The stages are launched in order from the first one on, and each at most once. -/
  order : launches.map Launch.stage <+: stages
  /-- The first stage reads what the launches begin with. -/
  first : ∀ launch ∈ launches.head?, launch.inlet = inlet
  /-- A stage is launched after another one only if that one was started, and it reads the pipe that that one writes. -/
  next : ∀ index earlier later, launches[index]? = some earlier → launches[index + 1]? = some later →
    ∃ child source, earlier.outcome = .ok ⟨child, some source⟩ ∧ later.inlet = .pipe source
  /-- Every stage but the last writes to a pipe. -/
  inner : ∀ index launch, launches[index]? = some launch → index + 1 < stages.length → launch.outlet = .pipe
  /-- The last stage writes to the file, or to the standard output if there is none. -/
  last : ∀ index launch, launches[index]? = some launch → index + 1 = stages.length →
    launch.outlet = file.elim .inherited .file

namespace Wired

variable {stage : Stage} {stages later : List Stage} {file : Option OutputFile} {inlet : Inlet}
  {launches earlier : List Launch}

/-- Nothing is wrong where nothing is launched. -/
theorem nil (stages : List Stage) (file : Option OutputFile) (inlet : Inlet) : Wired stages file inlet [] where
  order := List.nil_prefix
  first := by simp
  next := by simp
  inner := by simp
  last := by simp

/-- One launch more comes before the others, if the first of them reads the pipe that it writes. -/
theorem cons {read : Inlet} {outcome : Except OsError Started} (inlet : Inlet) (wired : Wired later file read launches)
    (reads : launches ≠ [] → ∃ child source, outcome = .ok ⟨child, some source⟩ ∧ read = .pipe source) :
    Wired (stage :: later) file inlet (⟨stage, inlet, .before later file, outcome⟩ :: launches) where
  order := List.cons_prefix_cons.mpr ⟨rfl, wired.order⟩
  first := by simp
  next := by
    intro index earlier next atIndex behind
    cases index with
    | zero =>
      -- Only here the launch in front is one of the two.
      obtain rfl : _ = earlier := Option.some_inj.mp atIndex
      rw [List.getElem?_cons_succ] at behind
      obtain ⟨child, source, started, pipe⟩ := reads (List.ne_nil_of_mem (List.mem_of_getElem? behind))
      rw [← List.head?_eq_getElem?] at behind
      exact ⟨child, source, started, (wired.first next behind).trans pipe⟩
    | succ index => exact wired.next index earlier next atIndex behind
  inner := by
    intro index launch atIndex followed
    cases index with
    | zero =>
      obtain rfl : _ = launch := Option.some_inj.mp atIndex
      -- What its outlet is depends on whether a stage follows.
      cases later with
      | nil => simp at followed
      | cons _ _ => rfl
    | succ index => exact wired.inner index launch atIndex (Nat.lt_of_succ_lt_succ followed)
  last := by
    intro index launch atIndex unfollowed
    cases index with
    | zero =>
      obtain rfl : _ = launch := Option.some_inj.mp atIndex
      cases later with
      | nil => cases file <;> rfl
      | cons _ _ => simp at unfollowed
    | succ index => exact wired.last index launch atIndex (Nat.succ.inj unfollowed)

end Wired

/-- Giving up an inlet launches nothing. -/
theorem Inlet.launch?_closing (inlet : Inlet) : inlet.closing.filterMap Call.launch? = [] := by
  cases inlet <;> rfl

/-- Waiting launches nothing. -/
theorem launch?_waitCalls (children : List Child) (outcomes : List (Except OsError ExitStatus)) :
    (waitCalls children outcomes).filterMap Call.launch? = [] := by
  rw [List.filterMap_eq_nil_iff]
  exact forall_mem_waitCalls (fun _ _ => rfl) children outcomes

/-- The launches of a course are those of its stages, connected by pipes. -/
theorem Course.wired {σ : Type} {system : System σ} (opens : system.OpensPipes) (course : Course)
    (file : Option OutputFile) (inlet : Inlet) (running : List (Text × Child))
    (answered : ∀ call ∈ course.calls file inlet running, system.Answers call) :
    Wired course.stages file inlet ((course.calls file inlet running).filterMap Call.launch?) := by
  -- The induction is on the stages that were started; a stage that is refused is launched last.
  obtain ⟨launched, refusal, outcomes⟩ := course
  induction launched generalizing inlet running with
  | nil =>
    cases refusal with
    | none =>
      have launches : ((Course.mk [] none outcomes).calls file inlet running).filterMap Call.launch? = [] := by
        simp only [Course.calls, launchCalls, List.nil_append, launch?_waitCalls]
      rw [launches]
      exact .nil _ file inlet
    | some refusal =>
      have launches : ((Course.mk [] (some refusal) outcomes).calls file inlet running).filterMap Call.launch? =
          [⟨refusal.stage, inlet, .before refusal.later file, .error refusal.reason⟩] := by
        simp [Course.calls, launchCalls, launch?_waitCalls, Inlet.launch?_closing]
      rw [launches]
      exact .cons inlet (.nil refusal.later file .inherited) (by simp)
  | cons first launched ih =>
    -- The others are connected among themselves, and begin with what the first one writes.
    have calls := Course.calls_cons first ⟨launched, refusal, outcomes⟩ file inlet running
    rw [Course.cons] at calls
    rw [calls, List.forall_mem_cons, List.forall_mem_append] at answered
    obtain ⟨⟨state, answer⟩, -, answeredLater⟩ := answered
    have wired := ih _ _ answeredLater
    rw [calls, List.filterMap_cons_some (Call.launch?_launch ..), List.filterMap_append, Inlet.launch?_closing,
      List.nil_append]
    refine .cons inlet wired ?_
    intro another
    -- Where another stage is launched, this one writes to a pipe.
    have followed : (Course.mk launched refusal outcomes).stages ≠ [] := by
      intro unfollowed
      have order := wired.order
      rw [unfollowed, List.prefix_nil, List.map_eq_nil_iff] at order
      exact another order
    have writes := (opens _ _ _ _ _ answer).mpr ((Outlet.before_eq_pipe_iff ..).mpr followed)
    obtain ⟨stage, child, source⟩ := first
    obtain ⟨source, rfl⟩ := Option.isSome_iff_exists.mp writes
    exact ⟨child, source, rfl, rfl⟩

/-- What holds of launching, waiting, and giving up a pipe holds of every call of a course. -/
theorem Course.forall_mem_calls {holds : Call → Prop}
    (launch : ∀ stage inlet outlet outcome, holds (.launch stage inlet outlet outcome))
    (close : ∀ source, holds (.close source)) (wait : ∀ child outcome, holds (.wait child outcome)) (course : Course)
    (file : Option OutputFile) (inlet : Inlet) (running : List (Text × Child)) :
    ∀ call ∈ course.calls file inlet running, holds call := by
  have launches := forall_mem_launchCalls (fun _ _ _ _ => launch ..) close file
  -- A stage that is refused adds its launch and its inlet.
  obtain ⟨launched, refusal, outcomes⟩ := course
  cases refusal with
  | none =>
    rw [Course.calls, List.forall_mem_append]
    exact ⟨launches _ _ _, forall_mem_waitCalls wait _ _⟩
  | some refusal =>
    rw [Course.calls, List.forall_mem_append, List.forall_mem_cons, List.forall_mem_append]
    exact ⟨launches _ _ _, launch .., forall_mem_waitCalls wait _ _, Inlet.forall_mem_closing close _⟩

/-- Whether launches are those that started some stages: for each stage one launch, which started its process. -/
def Granted (launches : List Launch) (launched : List Launched) : Prop :=
  launches.map (fun launch => (launch.stage, launch.outcome)) = launched.map fun each => (each.stage, .ok each.started)

namespace Granted

variable {launches : List Launch} {launched : List Launched}

/-- The launches are those of the stages, in order. -/
theorem stages (granted : Granted launches launched) :
    launches.map Launch.stage = launched.map Launched.stage := by
  -- Each launch is paired with what it came to, and so is each stage.
  have stages := congrArg (List.map Prod.fst) granted
  rw [List.map_map, List.map_map] at stages
  exact stages

/-- Each of the launches started a process. -/
theorem started (granted : Granted launches launched) : ∀ launch ∈ launches, ∃ started, launch.outcome = .ok started := by
  intro launch member
  -- Its outcome is among those of the stages.
  have answer : (launch.stage, launch.outcome) ∈ launched.map fun each => (each.stage, .ok each.started) :=
    granted ▸ List.mem_map_of_mem member
  obtain ⟨each, -, same⟩ := List.mem_map.mp answer
  exact ⟨each.started, (Prod.mk.inj same).2.symm⟩

/-- The processes of the launches are those of the stages. -/
theorem children (granted : Granted launches launched) :
    launches.filterMap Launch.child? = (launched.map Launched.running).map Prod.snd := by
  -- A process is part of what a launch came to.
  have processes := congrArg (List.filterMap fun answer => answer.2.toOption.map Started.child) granted
  rw [List.filterMap_map, List.filterMap_map] at processes
  rw [List.map_map, ← List.filterMap_eq_map]
  exact processes

/-- Where the stages are in three parts, so are the launches. -/
theorem split {front back : List Launched} {lost : Launched} (granted : Granted launches (front ++ lost :: back)) :
    ∃ (earlier : List Launch) (launch : Launch) (later : List Launch), launches = earlier ++ launch :: later ∧
      launch.stage = lost.stage ∧ launch.child? = some lost.started.child ∧ Granted earlier front := by
  -- The list of pairs is parted first, and the launches as it is.
  rw [Granted, List.map_append, List.map_cons, List.map_eq_append_iff] at granted
  obtain ⟨earlier, others, rfl, front, behind⟩ := granted
  obtain ⟨launch, later, rfl, answer, -⟩ := List.map_eq_cons_iff.mp behind
  obtain ⟨stage, outcome⟩ := Prod.mk.inj answer
  exact ⟨earlier, launch, later, rfl, stage, by rw [Launch.child?, outcome]; rfl, front⟩

end Granted

/-- The launches that start stages are those of the stages. -/
theorem granted_launchCalls (file : Option OutputFile) (others : List Stage) (inlet : Inlet)
    (launched : List Launched) : Granted ((launchCalls file others inlet launched).filterMap Call.launch?) launched := by
  induction launched generalizing inlet with
  | nil => rfl
  | cons first launched ih =>
    -- Between one launch and the next an inlet is given up.
    rw [launchCalls, List.filterMap_cons_some (Call.launch?_launch ..), List.filterMap_append, Inlet.launch?_closing,
      List.nil_append]
    exact congrArg (_ :: ·) (ih _)

/-- The launches of a course: those that start processes, and the one that is refused, if there is one. -/
theorem Course.launches (course : Course) (file : Option OutputFile) (inlet : Inlet) (running : List (Text × Child)) :
    ∃ launches : List Launch, Granted launches course.launched ∧
      (course.calls file inlet running).filterMap Call.launch? = launches ++ course.refusal.toList.map fun refusal =>
        ⟨refusal.stage, inlet.past course.launched, .before refusal.later file, .error refusal.reason⟩ := by
  obtain ⟨launched, refusal, outcomes⟩ := course
  -- Neither waiting nor giving up an inlet adds a launch.
  cases refusal with
  | none => exact ⟨_, granted_launchCalls file [] inlet launched, by simp [Course.calls, launch?_waitCalls]⟩
  | some refusal =>
    exact ⟨_, granted_launchCalls file (refusal.stage :: refusal.later) inlet launched,
      by simp [Course.calls, launch?_waitCalls, Inlet.launch?_closing]⟩

/-- If every wait gives a status, the statuses are those of the calls. -/
theorem status?_waitCalls_ok {children : List Child} {statuses : List ExitStatus}
    (lengths : statuses.length = children.length) :
    (waitCalls children (statuses.map .ok)).filterMap Call.status? = statuses := by
  -- For each process there is a status, and no status is left over.
  induction children generalizing statuses with
  | nil => simpa [waitCalls] using (List.eq_nil_of_length_eq_zero lengths).symm
  | cons child children ih =>
    cases statuses with
    | nil => cases lengths
    | cons status statuses =>
      have first : (Call.wait child (.ok status)).status? = some status := rfl
      rw [List.map_cons, waitCalls, List.zipWith_cons_cons, List.filterMap_cons_some first]
      exact congrArg (status :: ·) (ih (Nat.succ.inj lengths))

/-- If no stage is refused, the calls of a course that are no launches are its waits. -/
theorem Course.mem_waitCalls_of_waitFails {course : Course} (complete : course.refusal = none)
    {file : Option OutputFile} {inlet : Inlet} {running : List (Text × Child)} {call : Call}
    (member : call ∈ course.calls file inlet running) (fails : call.waitFails = true) :
    call ∈ waitCalls ((running ++ course.launched.map Launched.running).map Prod.snd) course.outcomes := by
  simp only [Course.calls, complete, List.mem_append] at member
  rcases member with launching | waiting
  · -- Nothing is waited for while stages are started.
    have granted : ∀ call ∈ launchCalls file [] inlet course.launched, call.waitFails = false :=
      forall_mem_launchCalls (fun _ _ _ _ => rfl) (fun _ => rfl) file [] inlet course.launched
    rw [granted call launching] at fails
    cases fails
  · exact waiting

/-- If no stage is refused, the statuses of the calls are those of the waits. -/
theorem Course.status?_calls {course : Course} (complete : course.refusal = none) (file : Option OutputFile)
    (inlet : Inlet) (running : List (Text × Child)) :
    (course.calls file inlet running).filterMap Call.status? =
      (waitCalls ((running ++ course.launched.map Launched.running).map Prod.snd) course.outcomes).filterMap
        Call.status? := by
  have launches : (launchCalls file [] inlet course.launched).filterMap Call.status? = [] := by
    rw [List.filterMap_eq_nil_iff]
    exact forall_mem_launchCalls (fun _ _ _ _ => rfl) (fun _ => rfl) file [] inlet course.launched
  simp only [Course.calls, complete, List.filterMap_append, launches, List.nil_append]

/-- If every wait of a course gives a status, each process is waited for, and each of them is seen to end. -/
theorem Course.calls_of_statuses {course : Course} {statuses : List ExitStatus} (complete : course.refusal = none)
    (lengths : statuses.length = course.launched.length) (outcomes : course.outcomes = statuses.map .ok)
    (file : Option OutputFile) (inlet : Inlet) :
    (course.calls file inlet []).filterMap Call.awaited? = (course.launched.map Launched.running).map Prod.snd ∧
      (course.calls file inlet []).filterMap Call.ended? = (course.launched.map Launched.running).map Prod.snd ∧
      (course.calls file inlet []).filterMap Call.status? = statuses := by
  -- There are as many statuses as processes, so that none of these is left out.
  have each : statuses.length = ((course.launched.map Launched.running).map Prod.snd).length := by simp [lengths]
  refine ⟨Course.awaited_calls_of_length (by simp [outcomes, lengths]) file inlet, ?_, ?_⟩
  · rw [Course.ended_calls complete, List.nil_append, outcomes, ended_waitCalls_ok, each, List.take_length]
  · rw [Course.status?_calls complete, List.nil_append, outcomes, status?_waitCalls_ok each]

/-- If every wait of a course gives a status, none of them fails. -/
theorem Course.waitFails_calls_of_statuses {course : Course} {statuses : List ExitStatus}
    (complete : course.refusal = none) (outcomes : course.outcomes = statuses.map .ok) {file : Option OutputFile}
    {inlet : Inlet} {running : List (Text × Child)} :
    ∀ call ∈ course.calls file inlet running, call.waitFails = false := by
  intro call member
  rw [Bool.eq_false_iff]
  intro fails
  -- A wait that fails would be one of the waits of the course.
  have waiting := Course.mem_waitCalls_of_waitFails complete member fails
  rw [outcomes] at waiting
  rw [waitFails_waitCalls_ok _ _ _ waiting] at fails
  cases fails

/-- If the last wait of a course fails, the processes are waited for up to that one, and no other wait fails. -/
theorem Course.calls_of_failed_wait {course : Course} {front back : List Launched} {lost : Launched}
    {statuses : List ExitStatus} {reason : OsError} (complete : course.refusal = none)
    (launched : course.launched = front ++ lost :: back) (lengths : statuses.length = front.length)
    (outcomes : course.outcomes = statuses.map .ok ++ [.error reason]) (file : Option OutputFile) (inlet : Inlet) :
    (course.calls file inlet []).filterMap Call.awaited? =
        ((front ++ [lost]).map Launched.running).map Prod.snd ∧
      .wait lost.started.child (.error reason) ∈ course.calls file inlet [] ∧
      ∀ call ∈ course.calls file inlet [], call.waitFails = true → call = .wait lost.started.child (.error reason) := by
  -- The wait that fails stands behind those that give statuses.
  have waits : waitCalls ((course.launched.map Launched.running).map Prod.snd) course.outcomes =
      waitCalls ((front.map Launched.running).map Prod.snd) (statuses.map .ok) ++
        [.wait lost.started.child (.error reason)] := by
    rw [launched, outcomes, List.map_append, List.map_append, List.map_cons, List.map_cons]
    exact waitCalls_failed (by simpa using lengths) _ _ reason
  refine ⟨?_, ?_, ?_⟩
  · -- The outcomes are as many as the processes up to that one.
    have processes : (course.launched.map Launched.running).map Prod.snd =
        ((front ++ [lost]).map Launched.running).map Prod.snd ++ (back.map Launched.running).map Prod.snd := by
      simp [launched]
    rw [Course.awaited_calls, List.nil_append, processes]
    exact List.take_left' (by simp [outcomes, lengths])
  · simp only [Course.calls, complete, List.nil_append, waits, List.mem_append, List.mem_singleton, or_true]
  · intro call member fails
    have waiting := Course.mem_waitCalls_of_waitFails complete member fails
    rw [List.nil_append, waits] at waiting
    -- A wait before the last one gives a status.
    rcases List.mem_append.mp waiting with before | last
    · rw [waitFails_waitCalls_ok _ _ _ before] at fails
      cases fails
    · exact List.mem_singleton.mp last

end AnswerQuery
