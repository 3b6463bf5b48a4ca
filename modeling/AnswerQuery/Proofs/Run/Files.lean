import AnswerQuery.Proofs.Run.Calls

/-! What a pipeline leaves in its output file, where processes write to files only through their standard output. -/

namespace AnswerQuery

/-- Whether a call opens a file for writing or starts a process on one. -/
def Call.usesFile : Call → Bool
  | .create _ (.ok _) => true
  | .launch _ _ (.file _) (.ok _) => true
  | _ => false

/-- A program that is refused writes to no file. -/
theorem Call.usesFile_refused (stage : Stage) (inlet : Inlet) (outlet : Outlet) (reason : OsError) :
    (Call.launch stage inlet outlet (.error reason)).usesFile = false := by
  cases outlet <;> rfl

/-- The states of an operating system, read as what they say about the file at a path. Nobody writes to the file but a
process that was started on it, and that process writes there what it writes to its standard output. This is asked of the
programs as much as of the operating system: one that opens the file by its path does not keep to it. -/
structure FileReading {σ : Type} (system : System σ) (path : Text) where
  /-- What is in the file, if there is one. -/
  contents : σ → Option Bytes
  /-- The process that was started on the file, until it is seen to end. -/
  writer : σ → Option Child
  /-- What a process has written to its standard output so far. -/
  written : σ → Child → Bytes
  /-- Whether an open file is the one at the path. -/
  IsOpen : OutputFile → Prop
  /-- Opening the file empties it. -/
  emptied : ∀ {before target after}, writer before = none → system.Takes before (.create path (.ok target)) after →
    IsOpen target ∧ contents after = some [] ∧ writer after = none
  /-- Where the file is empty, a process that is started on it begins its contents. -/
  started : ∀ {before stage inlet target process after}, writer before = none → IsOpen target →
    contents before = some [] → system.Takes before (.launch stage inlet (.file target) (.ok process)) after →
    contents after = some (written after process.child) ∧ writer after = some process.child
  /-- Where no process writes to the file, only the calls that use files can change it. -/
  kept : ∀ {before call after}, writer before = none → call.usesFile = false → system.Takes before call after →
    contents after = contents before ∧ writer after = none
  /-- What the process writes in the meantime is added to the contents; it writes no more once it is seen to end. -/
  grown : ∀ {before child call after}, writer before = some child → call.usesFile = false →
    system.Takes before call after →
    (∃ more, contents after = (contents before).map (· ++ more) ∧ written after child = written before child ++ more) ∧
      writer after = if call.ended? = some child then none else some child

/-- A computer on which one file can be written. -/
structure Desk where
  /-- What is in the file, if there is one. -/
  contents : Option Bytes
  /-- The process that writes to the file. -/
  writer : Option Child
  /-- What the last process that was started on the file has written. -/
  written : Bytes
  /-- How many processes were started. -/
  started : Nat

/-- An operating system that can start every program but one. A process that was started on the file writes all that it
has to say when it is waited for, and every process fails in the end. -/
def System.desk (path : Text) (said : Bytes) (absent : Text) : System Desk where
  hasEntry _ _ := true
  create name := fun desk =>
    if name = path then (.ok ⟨0⟩, { desk with contents := some [] }) else (.error .noEntry, desk)
  launch stage _ outlet := fun desk =>
    let child : Child := ⟨desk.started⟩
    if stage.program = absent then (.error .noEntry, desk)
    else match outlet with
      | .inherited => (.ok ⟨child, none⟩, { desk with started := desk.started + 1 })
      | .pipe => (.ok ⟨child, some ⟨desk.started⟩⟩, { desk with started := desk.started + 1 })
      | .file _ => (.ok ⟨child, none⟩, { desk with writer := some child, written := [], started := desk.started + 1 })
  close _ := pure ()
  wait child := fun desk =>
    if desk.writer = some child then
      (.ok (.exited 1), { desk with
        contents := desk.contents.map (· ++ said), writer := none, written := desk.written ++ said })
    else (.ok (.exited 1), desk)
  report _ := pure ()

/-- Of the calls that use no file, only one that waits for the process on the file changes anything about it. -/
theorem Desk.changes {path : Text} {said : Bytes} {absent : Text} {before after : Desk} {call : Call}
    (unused : call.usesFile = false) (takes : (System.desk path said absent).Takes before call after) :
    (∃ child, before.writer = some child ∧ call.ended? = some child ∧ after.writer = none ∧
      after.contents = before.contents.map (· ++ said) ∧ after.written = before.written ++ said) ∨
    ((∀ child ∈ before.writer, call.ended? ≠ some child) ∧ after.writer = before.writer ∧
      after.contents = before.contents ∧ after.written = before.written) := by
  cases call with
  | create name outcome =>
    simp only [System.Takes, System.desk, StateT.run] at takes
    split at takes <;> cases takes
    -- A file that is opened would be used; one that is not leaves the desk alone.
    · cases unused
    · exact .inr ⟨by simp [Call.ended?], rfl, rfl, rfl⟩
  | launch stage inlet outlet outcome =>
    simp only [System.Takes, System.desk, StateT.run] at takes
    split at takes
    · cases takes
      exact .inr ⟨by simp [Call.ended?], rfl, rfl, rfl⟩
    · -- Only a process on the file would become its writer.
      cases outlet <;> cases takes
      · exact .inr ⟨by simp [Call.ended?], rfl, rfl, rfl⟩
      · exact .inr ⟨by simp [Call.ended?], rfl, rfl, rfl⟩
      · cases unused
  | wait child outcome =>
    simp only [System.Takes, System.desk, StateT.run] at takes
    split at takes
    case isTrue writes =>
      -- Here the writer says all that it has to say.
      cases takes
      exact .inl ⟨child, writes, rfl, rfl, rfl, rfl⟩
    case isFalse other =>
      cases takes
      refine .inr ⟨?_, rfl, rfl, rfl⟩
      rintro writer writes ended
      cases ended
      exact other writes
  | close source =>
    cases takes
    exact .inr ⟨by simp [Call.ended?], rfl, rfl, rfl⟩
  | report message =>
    cases takes
    exact .inr ⟨by simp [Call.ended?], rfl, rfl, rfl⟩

variable {σ : Type} {system : System σ} {path : Text} {before middle after : σ} {calls : List Call}

namespace FileReading

/-- Where no process writes to the file, calls that use no file leave it as it was. -/
theorem kept_of_leads (reading : FileReading system path) (leads : system.Leads before calls after)
    (idle : reading.writer before = none) (unused : ∀ call ∈ calls, call.usesFile = false) :
    reading.contents after = reading.contents before ∧ reading.writer after = none := by
  -- No call starts a writer, so that each of them leaves the file to the next as it was.
  induction leads with
  | none => exact ⟨rfl, idle⟩
  | call takes leads ih =>
    rw [List.forall_mem_cons] at unused
    obtain ⟨same, idle⟩ := reading.kept idle unused.1 takes
    obtain ⟨sameLater, idleLater⟩ := ih idle unused.2
    exact ⟨sameLater.trans same, idleLater⟩

/-- What a process had written to its standard output when it was seen to end. -/
def Wrote (reading : FileReading system path) (before : σ) (calls : List Call) (child : Child) (octets : Bytes) :
    Prop :=
  ∃ front status back middle, calls = front ++ .wait child (.ok status) :: back ∧
    system.Leads before (front ++ [.wait child (.ok status)]) middle ∧ octets = reading.written middle child

/-- Calls that come earlier do not change what was written. -/
theorem Wrote.prepend {reading : FileReading system path} {earlier : List Call} {child : Child} {octets : Bytes}
    (leads : system.Leads before earlier middle) (wrote : reading.Wrote middle calls child octets) :
    reading.Wrote before (earlier ++ calls) child octets := by
  -- The wait that saw it end is reached from further away.
  obtain ⟨front, status, back, awaited, rfl, waits, rfl⟩ := wrote
  refine ⟨earlier ++ front, status, back, awaited, (List.append_assoc ..).symm, ?_, rfl⟩
  rw [List.append_assoc]
  exact System.leads_append_iff.mpr ⟨middle, leads, waits⟩

/-- Calls that come later do not change what was written. -/
theorem Wrote.append {reading : FileReading system path} {child : Child} {octets : Bytes}
    (wrote : reading.Wrote before calls child octets) (later : List Call) :
    reading.Wrote before (calls ++ later) child octets := by
  obtain ⟨front, status, back, awaited, rfl, waits, rfl⟩ := wrote
  exact ⟨front, status, back ++ later, awaited, List.append_assoc .., waits, rfl⟩

/-- As long as the process that writes to a file is not seen to end, the file holds what it has written so far, and from
then on what it had written by then. -/
theorem written_of_leads (reading : FileReading system path) {child : Child} (leads : system.Leads before calls after)
    (writes : reading.writer before = some child)
    (begun : reading.contents before = some (reading.written before child))
    (unused : ∀ call ∈ calls, call.usesFile = false) :
    (child ∉ calls.filterMap Call.ended? →
      reading.contents after = some (reading.written after child) ∧ reading.writer after = some child) ∧
    (child ∈ calls.filterMap Call.ended? →
      ∃ octets, reading.Wrote before calls child octets ∧ reading.contents after = some octets ∧
        reading.writer after = none) := by
  -- The file holds what the process has written so far from call to call, until it is seen to end.
  induction leads with
  | none => exact ⟨fun _ => ⟨begun, writes⟩, by simp⟩
  | @call before middle after call calls takes leads ih =>
    rw [List.forall_mem_cons] at unused
    obtain ⟨⟨more, longer, written⟩, next⟩ := reading.grown writes unused.1 takes
    -- What the process adds to the file is what it writes.
    have holds : reading.contents middle = some (reading.written middle child) := by
      rw [longer, begun, written, Option.map_some]
    by_cases ends : call.ended? = some child
    · -- From here on nobody writes to the file.
      rw [if_pos ends] at next
      obtain ⟨same, idle⟩ := reading.kept_of_leads leads next unused.2
      refine ⟨fun unended => absurd (by simp [ends]) unended, fun _ => ?_⟩
      obtain ⟨status, rfl⟩ := Call.eq_wait_of_ended? ends
      exact ⟨_, ⟨[], status, calls, middle, rfl, .call takes (.none middle), rfl⟩, same.trans holds, idle⟩
    · rw [if_neg ends] at next
      obtain ⟨running, ended⟩ := ih next holds unused.2
      -- Whether it is seen to end is up to the later calls.
      have later : child ∈ (call :: calls).filterMap Call.ended? ↔ child ∈ calls.filterMap Call.ended? := by
        simp [ends]
      rw [later]
      refine ⟨running, fun member => ?_⟩
      obtain ⟨octets, wrote, filled, idle⟩ := ended member
      exact ⟨octets, wrote.prepend (.call takes (.none middle)), filled, idle⟩

/-- A file that a pipeline has just opened is empty, and nobody writes to it. -/
theorem empty_of_opened (reading : FileReading system path) {file : Option OutputFile} {opening : List Call}
    (opened : Opened (some path) file opening) (leads : system.Leads before opening after)
    (idle : reading.writer before = none) :
    ∃ target, file = some target ∧ reading.IsOpen target ∧ reading.contents after = some [] ∧
      reading.writer after = none := by
  cases opened with
  | file _ target =>
    obtain _ | ⟨takes, ⟨⟩⟩ := leads
    obtain ⟨isOpen, empty, idle⟩ := reading.emptied idle takes
    exact ⟨target, rfl, isOpen, empty, idle⟩

end FileReading

/-- Giving up an inlet uses no file. -/
theorem Inlet.usesFile_closing (inlet : Inlet) : ∀ call ∈ inlet.closing, call.usesFile = false :=
  inlet.forall_mem_closing fun _ => rfl

/-- Waiting uses no file. -/
theorem usesFile_waitCalls (children : List Child) (outcomes : List (Except OsError ExitStatus)) :
    ∀ call ∈ waitCalls children outcomes, call.usesFile = false :=
  forall_mem_waitCalls (fun _ _ => rfl) children outcomes

/-- Stages that are started before others write to pipes, and use no file. -/
theorem usesFile_launchCalls (file : Option OutputFile) {others : List Stage} (followed : others ≠ []) (inlet : Inlet)
    (launched : List Launched) : ∀ call ∈ launchCalls file others inlet launched, call.usesFile = false := by
  induction launched generalizing inlet with
  | nil => simp [launchCalls]
  | cons first launched ih =>
    -- Whether by those that are started or by the others, the stage is followed.
    have piped : Outlet.before (launched.map Launched.stage ++ others) file = .pipe := by
      obtain ⟨next, later, same⟩ := List.exists_cons_of_ne_nil (List.append_ne_nil_of_right_ne_nil _ followed)
      rw [same, Outlet.before]
    rw [launchCalls, piped, List.forall_mem_cons, List.forall_mem_append]
    exact ⟨rfl, inlet.usesFile_closing, ih _⟩

/-- A course with a refusal uses no file: the stage that would write to it is refused itself or not tried. -/
theorem Course.usesFile_calls {course : Course} {refusal : Refusal} (refused : course.refusal = some refusal)
    (file : Option OutputFile) (inlet : Inlet) (running : List (Text × Child)) :
    ∀ call ∈ course.calls file inlet running, call.usesFile = false := by
  simp only [Course.calls, refused, List.forall_mem_append, List.forall_mem_cons]
  exact ⟨usesFile_launchCalls file (by simp) inlet _, Call.usesFile_refused .., usesFile_waitCalls _ _,
    Inlet.usesFile_closing _⟩

/-- If a stage is refused, the file that was opened for the pipeline is left empty. -/
theorem FileReading.empty_of_refusal (reading : FileReading system path) {course : Course} {refusal : Refusal}
    {file : Option OutputFile} {opening : List Call} {inlet : Inlet} (refused : course.refusal = some refusal)
    (opened : Opened (some path) file opening)
    (leads : system.Leads before (opening ++ course.calls file inlet []) after) (idle : reading.writer before = none) :
    reading.contents after = some [] ∧ reading.writer after = none := by
  -- It is empty when it has been opened, and no call after that uses it.
  obtain ⟨middle, front, back⟩ := System.leads_append_iff.mp leads
  obtain ⟨_, -, -, empty, idle⟩ := reading.empty_of_opened opened front idle
  obtain ⟨same, idle⟩ := reading.kept_of_leads back idle (Course.usesFile_calls refused file inlet [])
  exact ⟨same.trans empty, idle⟩

/-- If every stage is started, only the launch of the last one uses the file, and the processes are waited for later. -/
theorem Course.calls_around_last {course : Course} {earlier : List Launched} {last : Launched}
    (complete : course.refusal = none) (launched : course.launched = earlier ++ [last]) (target : OutputFile)
    (inlet : Inlet) :
    ∃ piping finishing : List Call,
      course.calls (some target) inlet [] =
        piping ++ .launch last.stage (inlet.past earlier) (.file target) (.ok last.started) :: finishing ∧
      (∀ call ∈ piping, call.usesFile = false) ∧ (∀ call ∈ finishing, call.usesFile = false) ∧
      finishing.filterMap Call.ended? =
        (waitCalls ((course.launched.map Launched.running).map Prod.snd) course.outcomes).filterMap Call.ended? := by
  refine ⟨launchCalls (some target) [last.stage] inlet earlier,
    (inlet.past earlier).closing ++
      waitCalls ((course.launched.map Launched.running).map Prod.snd) course.outcomes, ?_,
    usesFile_launchCalls _ (by simp) inlet earlier, ?_, ?_⟩
  · -- The last stage has none behind it, so that it writes to the file.
    simp [Course.calls, complete, launched, launchCalls_append, launchCalls, Outlet.before]
  · -- Behind its launch there is an inlet to give up, and the processes are waited for.
    rw [List.forall_mem_append]
    exact ⟨Inlet.usesFile_closing _, usesFile_waitCalls _ _⟩
  · rw [List.filterMap_append, Inlet.ended_closing, List.nil_append]

/-- If every stage is started, the file that was opened for the pipeline holds what the last of them has written: so far
if it is not seen to end, and all of it if it is. -/
theorem FileReading.written_of_completion (reading : FileReading system path) {course : Course}
    {earlier : List Launched} {last : Launched} {file : Option OutputFile} {opening : List Call} {inlet : Inlet}
    (complete : course.refusal = none) (launched : course.launched = earlier ++ [last])
    (opened : Opened (some path) file opening)
    (leads : system.Leads before (opening ++ course.calls file inlet []) after) :
    ∃ source target,
      .launch last.stage source (.file target) (.ok last.started) ∈ opening ++ course.calls file inlet [] ∧
      (reading.writer before = none →
        (last.started.child ∉ (course.calls file inlet []).filterMap Call.ended? →
          reading.contents after = some (reading.written after last.started.child)) ∧
        (last.started.child ∈ (course.calls file inlet []).filterMap Call.ended? →
          ∃ octets, reading.Wrote before (opening ++ course.calls file inlet []) last.started.child octets ∧
            reading.contents after = some octets ∧ reading.writer after = none)) := by
  obtain ⟨_, front, back⟩ := System.leads_append_iff.mp leads
  obtain ⟨target, rfl⟩ := opened.target_eq
  obtain ⟨piping, finishing, calls, piped, unused, endings⟩ := Course.calls_around_last complete launched target inlet
  rw [calls] at back ⊢
  refine ⟨_, target, List.mem_append_right _ (List.mem_append_right _ (List.mem_cons_self ..)), fun idle => ?_⟩
  -- Up to its launch the file is empty, and from then on the last stage writes to it until it is seen to end.
  obtain ⟨_, same, isOpen, empty, idle⟩ := reading.empty_of_opened opened front idle
  obtain rfl := Option.some_inj.mp same
  obtain ⟨_, middle, back⟩ := System.leads_append_iff.mp back
  obtain ⟨same, idle⟩ := reading.kept_of_leads middle idle piped
  obtain _ | ⟨takes, rest⟩ := back
  obtain ⟨begun, writes⟩ := reading.started idle isOpen (same.trans empty) takes
  obtain ⟨running, ended⟩ := reading.written_of_leads rest writes begun unused
  -- Whether it is seen to end is up to the calls behind its launch.
  have seen := Course.ended_calls complete (some target) inlet []
  rw [List.nil_append, ← endings, calls] at seen
  rw [seen]
  refine ⟨fun unended => (running unended).1, fun member => ?_⟩
  obtain ⟨octets, wrote, filled, idle⟩ := ended member
  exact ⟨octets, ((wrote.prepend (.call takes (.none _))).prepend middle).prepend front, filled, idle⟩

end AnswerQuery
