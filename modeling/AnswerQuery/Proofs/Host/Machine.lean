import AnswerQuery.Host.Service

/-! What a machine remembers: a process that was started is known for ever, whatever is done by it and by others. -/

namespace AnswerQuery.Host

namespace Machine

/-- Whether every process that one machine knows is known to another. -/
def Remembers (before after : Machine) : Prop :=
  ∀ identity, before.knows identity = true → after.knows identity = true

namespace Remembers

variable {before middle after : Machine}

/-- What is remembered is remembered of what was remembered before. -/
theorem trans (earlier : before.Remembers middle) (later : middle.Remembers after) : before.Remembers after :=
  fun identity known => later identity (earlier identity known)

/-- A machine with the same processes and statuses knows the same. -/
theorem of_eq (processes : after.processes = before.processes) (statuses : after.statuses = before.statuses) :
    before.Remembers after := by
  intro identity known
  simpa only [knows, processes, statuses] using known

/-- A process that is replaced by what has become of it keeps its number. -/
theorem update (remembers : before.Remembers middle) (process : Process) :
    before.Remembers (middle.update process) := by
  refine remembers.trans fun identity known => ?_
  simp only [knows, Machine.update, Bool.or_eq_true, List.any_map, List.any_eq_true, Function.comp_apply] at known ⊢
  refine known.imp_left ?_
  rintro ⟨other, member, same⟩
  refine ⟨other, member, ?_⟩
  -- It is replaced only by a process of the same number.
  split
  case isTrue replaced => rwa [← beq_iff_eq.mp replaced]
  case isFalse => exact same

/-- A process that goes on keeps its number. -/
theorem resume (remembers : before.Remembers middle) (process : Process) (program : Program) :
    before.Remembers (middle.resume process program) :=
  remembers.update _

/-- How a process ended is known after its end. -/
theorem finish (remembers : before.Remembers middle) (ended : Nat) (status : ExitStatus) :
    before.Remembers (middle.finish ended status) := by
  refine remembers.trans fun identity known => ?_
  by_cases same : identity = ended
  · simp [knows, Machine.finish, same]
  · -- Any other process is left as it is.
    have other : (identity == ended) = false := beq_eq_false_iff_ne.mpr same
    simp only [knows, Machine.finish, Bool.or_eq_true, List.any_eq_true, List.lookup_cons, other] at known ⊢
    refine known.imp_left ?_
    rintro ⟨process, member, named⟩
    refine ⟨process, List.mem_filter.mpr ⟨member, ?_⟩, named⟩
    rw [beq_iff_eq.mp named, bne_iff_ne]
    exact same

/-- A process that is started comes to those that there are. -/
theorem start (remembers : before.Remembers middle) (process : Process) : before.Remembers (middle.start process) := by
  refine remembers.trans fun identity known => ?_
  simp only [knows, Machine.start, List.any_append, Bool.or_eq_true] at known ⊢
  exact known.imp_left .inl

end Remembers

section Serving

variable {machine next : Machine} {process : Process}

/-- Reading from an open file concerns no process. -/
theorem remembers_readOpened (number most : Nat) : machine.Remembers (machine.readOpened number most).2 := by
  rw [readOpened]
  split <;> exact .of_eq rfl rfl

/-- Writing to an open file concerns no process. -/
theorem remembers_writeOpened (number : Nat) (octets : Bytes) :
    machine.Remembers (machine.writeOpened number octets) := by
  rw [writeOpened]
  split <;> exact .of_eq rfl rfl

/-- Opening what a descriptor stands for concerns no process. -/
theorem remembers_reopen {opening : Files.Opening} {channel opened : Channel}
    (reopened : machine.reopen opening channel = .ok (opened, next)) : machine.Remembers next := by
  unfold reopen at reopened
  -- Only the files and the list of those that are open can change.
  repeat' split at reopened
  all_goals cases reopened
  all_goals exact .of_eq rfl rfl

/-- Opening a file concerns no process. -/
theorem remembers_openFile {descriptors : List (Nat × Channel)} {working : Nat} {path : Raw}
    {opening : Files.Opening} {channel : Channel}
    (opens : machine.openFile descriptors working path opening = .ok (channel, next)) : machine.Remembers next := by
  simp only [openFile, bind, Except.bind, pure, Except.pure] at opens
  cases opened : machine.files.openNode working path opening with
  | error reason =>
    rw [opened] at opens
    cases opens
  | ok pair =>
    have same : machine.Remembers { machine with files := pair.2 } := .of_eq rfl rfl
    simp only [opened] at opens
    -- Only what a descriptor stands for is opened by another way.
    split at opens
    case h_2 =>
      split at opens
      · exact same.trans (remembers_reopen opens)
      · cases opens
    all_goals cases opens
    all_goals exact same.trans (.of_eq rfl rfl)

/-- A process that goes on keeps its number, whatever has become of the files and the pipes. -/
theorem remembers_resume {changed : Machine} (processes : changed.processes = machine.processes)
    (statuses : changed.statuses = machine.statuses) (process : Process) (program : Program) :
    machine.Remembers (changed.resume process program) :=
  (Remembers.of_eq processes statuses).resume process program

/-- A read that is answered lets the process go on. -/
theorem remembers_serveRead {descriptor most : Nat} {answered : Except OsError Bytes → Program}
    (served : machine.serveRead process descriptor most answered = some next) : machine.Remembers next := by
  simp only [serveRead] at served
  split at served
  case h_7 number _ =>
    -- A file is read where it was opened for that.
    split at served <;> cases served
    · exact remembers_resume rfl rfl _ _
    · exact (remembers_readOpened number most).resume _ _
  case h_8 =>
    -- A pipe is read if there is something in it, or nobody can write to it.
    split at served
    · split at served <;> cases served
      exact remembers_resume rfl rfl _ _
    · cases served
      exact remembers_resume rfl rfl _ _
  all_goals cases served
  all_goals exact remembers_resume rfl rfl _ _

/-- A write that is answered lets the process go on or ends it. -/
theorem remembers_serveWrite {descriptor : Nat} {octets : Bytes} {answered : Except OsError Unit → Program}
    (served : machine.serveWrite process descriptor octets answered = some next) : machine.Remembers next := by
  simp only [serveWrite] at served
  split at served
  case h_4 =>
    -- A device without room takes only what is empty.
    split at served <;> cases served <;> exact remembers_resume rfl rfl _ _
  case h_6 number _ =>
    split at served <;> cases served
    · exact remembers_resume rfl rfl _ _
    · exact (remembers_writeOpened number octets).resume _ _
  case h_7 =>
    split at served
    · -- Nobody can read what is written to the pipe.
      split at served
      · cases served
        exact remembers_resume rfl rfl _ _
      split at served <;> cases served
      · exact remembers_resume rfl rfl _ _
      · exact (Remembers.of_eq rfl rfl).finish _ _
    · split at served
      · cases served
        exact remembers_resume rfl rfl _ _
      split at served <;> cases served
      exact remembers_resume rfl rfl _ _
  all_goals cases served
  all_goals exact remembers_resume rfl rfl _ _

/-- Going forward or back in a file lets the process go on. -/
theorem remembers_serveMove (descriptor : Nat) (distance : Int) (answered : Except OsError Unit → Program) :
    machine.Remembers (machine.serveMove process descriptor distance answered) := by
  rw [serveMove]
  split
  · split <;> exact remembers_resume rfl rfl _ _
  all_goals exact remembers_resume rfl rfl _ _

/-- Cutting a file off lets the process go on. -/
theorem remembers_serveResize (descriptor size : Nat) (answered : Except OsError Unit → Program) :
    machine.Remembers (machine.serveResize process descriptor size answered) := by
  rw [serveResize]
  split
  · split <;> exact remembers_resume rfl rfl _ _
  all_goals exact remembers_resume rfl rfl _ _

/-- A signal lets the process that sends it go on, and may end one. -/
theorem remembers_serveSend (signal target : Nat) (answered : Except OsError Unit → Program) :
    machine.Remembers (machine.serveSend process signal target answered) := by
  have same : machine.Remembers (machine.resume process (answered (.ok ()))) := remembers_resume rfl rfl _ _
  simp only [serveSend]
  split
  · exact remembers_resume rfl rfl _ _
  split
  · exact same
  -- The process that gets the signal ignores it, keeps it for later, or is ended by it.
  split
  · exact same
  split
  · -- A signal that was caught before is not kept twice.
    split
    · exact same
    · exact same.update _
  split
  · exact same
  · exact same.finish _ _

/-- A change of the files lets the process go on. -/
theorem remembers_serveChange {request : Request} {answered : Except OsError Unit → Program}
    (served : machine.serveChange process request answered = some next) : machine.Remembers next := by
  rw [serveChange] at served
  -- It is told whether the change was possible.
  split at served <;> cases served <;> exact remembers_resume rfl rfl _ _

/-- Opening a file lets the process go on. -/
theorem remembers_completeOpen (path : Raw) (opening : Files.Opening) (answered : Except OsError Nat → Program) :
    machine.Remembers (machine.completeOpen process path opening answered) := by
  rw [completeOpen]
  split
  · exact remembers_resume rfl rfl _ _
  case h_2 opens => exact (remembers_openFile opens).resume _ _

/-- Those that wait for a file are let go on one after the other. -/
theorem remembers_completeWaiting (others : List Process) (remembers : machine.Remembers next) :
    machine.Remembers (others.foldl completeWaiting next) := by
  -- One that waits for something else is left as it is.
  induction others generalizing next with
  | nil => exact remembers
  | cons other others ih =>
    refine ih (remembers.trans ?_)
    rw [completeWaiting]
    split
    · exact remembers_completeOpen _ _ _
    · exact .of_eq rfl rfl

/-- A file that is opened lets the process go on, and those that waited for it. -/
theorem remembers_serveOpen {path : Raw} {opening : Files.Opening} {answered : Except OsError Nat → Program}
    (served : machine.serveOpen process path opening answered = some next) : machine.Remembers next := by
  rw [serveOpen] at served
  split at served
  · cases served
    exact remembers_completeOpen path opening answered
  split at served <;> cases served
  exact remembers_completeWaiting _ (remembers_completeOpen path opening answered)

/-- Whatever a process asks for, no other process is forgotten, nor is it itself. -/
theorem remembers_serve {programs : Programs} {request : Request} {answered : request.Reply → Program}
    (served : machine.serve programs process request answered = some next) : machine.Remembers next := by
  cases request with
  | read => exact remembers_serveRead served
  | write => exact remembers_serveWrite served
  | openFile => exact remembers_serveOpen served
  | move =>
    cases served
    exact remembers_serveMove _ _ _
  | resize =>
    cases served
    exact remembers_serveResize _ _ _
  | send =>
    cases served
    exact remembers_serveSend _ _ _
  | remove | removeDirectory | makeDirectory | makeLink | makeName | rename | setMode | touch | touchOpen =>
    exact remembers_serveChange served
  | readLink | links | allows =>
    -- What is found is only told.
    cases served
    exact remembers_resume rfl rfl _ _
  | execute =>
    -- The process becomes another program or goes on with an error.
    simp only [serve] at served
    split at served <;> cases served <;> exact remembers_resume rfl rfl _ _
  | _ =>
    -- Every other call only lets the process go on, if it is answered.
    simp only [serve] at served
    repeat' split at served
    all_goals cases served
    all_goals exact remembers_resume rfl rfl _ _

/-- Whatever a process does next, no process is forgotten. -/
theorem remembers_advance {programs : Programs} (advanced : machine.advance programs process = some next) :
    machine.Remembers next := by
  rw [advance] at advanced
  split at advanced
  · cases advanced
  split at advanced
  · -- The process ends by itself.
    cases advanced
    exact (Remembers.of_eq rfl rfl).finish _ _
  · exact remembers_serve advanced
  · -- It starts another one and goes on.
    cases advanced
    exact (remembers_resume rfl rfl _ _).start _

/-- Whose turn it is does not matter for what is known. -/
theorem remembers_rotate (machine : Machine) : machine.Remembers machine.rotate := by
  rw [rotate]
  split
  case h_1 first others processes =>
    -- The process that came first comes last.
    intro identity known
    simp only [knows, setClock, processes, List.any_cons, List.any_append, List.any_nil, Bool.or_false] at known ⊢
    rwa [Bool.or_comm (others.any _)]
  · exact .of_eq rfl rfl

/-- No process is forgotten in a step of a machine. -/
theorem remembers_step {programs : Programs} (stepped : machine.step? programs = some next) :
    machine.Remembers next := by
  -- First it may be the turn of another process.
  have turned : machine.Remembers
      (if longestStreak < machine.streak then machine.rotate else { machine with streak := machine.streak + 1 }) := by
    split
    · exact remembers_rotate machine
    · exact .of_eq rfl rfl
  rw [step?] at stepped
  split at stepped
  case h_1 found =>
    obtain ⟨process, -, advanced⟩ := List.exists_of_findSome?_eq_some found
    cases stepped
    exact turned.trans (remembers_advance advanced)
  · -- All wait, and time passes.
    rw [sleep?, Option.map_eq_some_iff] at stepped
    obtain ⟨time, -, rfl⟩ := stepped
    exact turned.trans (.of_eq rfl rfl)

/-- No process is forgotten while a machine runs. -/
theorem remembers_runUntil (programs : Programs) (identity steps : Nat) (machine : Machine) :
    machine.Remembers (machine.runUntil programs identity steps).2 := by
  -- What is remembered is remembered from step to step.
  induction steps generalizing machine with
  | zero => exact .of_eq rfl rfl
  | succ steps ih =>
    rw [runUntil]
    split
    · exact .of_eq rfl rfl
    split
    case h_1 next stepped => exact (remembers_step stepped).trans (ih next)
    · exact .of_eq rfl rfl

end Serving

end Machine

end AnswerQuery.Host
