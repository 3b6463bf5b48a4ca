import AnswerQuery.Host.Site
import AnswerQuery.Proofs.Host.Files
import AnswerQuery.Proofs.Host.Machine
import AnswerQuery.Proofs.Run.Waits

/-! What a machine is to pipelines as an operating system: a pipe is handed out only where one is asked for, a process
that was started can be waited for, and a file that is opened for writing is empty until something is waited for. -/

namespace AnswerQuery.Host.Site

variable {before after : Site} {call : Call}

/-- A launch is refused and changes nothing, or it starts a process behind those that there are, after making a pipe if
one is asked for. -/
theorem launch_cases {stage : Stage} {inlet : Inlet} {outlet : Outlet} {outcome : Except OsError Started}
    (takes : Site.system.Takes before (.launch stage inlet outlet outcome) after) :
    ((∃ reason, outcome = .error reason) ∧ after = before) ∨
    ∃ (machine : Machine) (process : Process) (source : Option PipeEnd),
      outcome = .ok ⟨⟨machine.next⟩, source⟩ ∧ (source.isSome = true ↔ outlet = .pipe) ∧
      machine.files = before.machine.files ∧ machine.processes = before.machine.processes ∧
      machine.statuses = before.machine.statuses ∧ after = { before with machine := machine.start process } := by
  simp only [System.Takes, system, launch, StateT.run] at takes
  -- What the program is called decides whether it can be started.
  split at takes
  case h_1 reason _ =>
    cases takes
    exact .inl ⟨⟨reason, rfl⟩, rfl⟩
  · -- Only a pipe changes the machine before the process is started.
    cases outlet <;> cases takes <;> exact .inr ⟨_, _, _, rfl, by simp, rfl, rfl, rfl, rfl⟩

/-- A new pipe is handed out to a stage that is to write one, and to no other. -/
theorem opensPipes : Site.system.OpensPipes := by
  intro stage inlet outlet site started answer
  have takes : Site.system.Takes site (.launch stage inlet outlet (.ok started))
      ((Site.system.launch stage inlet outlet).run site).2 := Prod.ext answer rfl
  obtain ⟨⟨_, ⟨⟩⟩, -⟩ | ⟨_, _, source, granted, pipe, -⟩ := launch_cases takes
  cases granted
  exact pipe

/-- Writing to a channel concerns no process. -/
theorem remembers_writeTo (machine : Machine) (octets : Bytes) (channel : Channel) :
    machine.Remembers (writeTo machine octets channel) := by
  cases channel with
  | file number => exact Machine.remembers_writeOpened number octets
  | _ => exact .of_eq rfl rfl

/-- No process is forgotten, whatever is asked for. -/
theorem remembers_of_takes (takes : Site.system.Takes before call after) :
    before.machine.Remembers after.machine := by
  cases call with
  | create path outcome =>
    simp only [System.Takes, system, create, StateT.run] at takes
    -- A file that cannot be opened changes nothing.
    split at takes <;> cases takes
    · exact .of_eq rfl rfl
    case h_2 opens => exact Machine.remembers_openFile opens
  | launch stage inlet outlet outcome =>
    obtain ⟨-, rfl⟩ | ⟨machine, process, _, -, -, -, processes, statuses, rfl⟩ := launch_cases takes
    · exact .of_eq rfl rfl
    · exact (Machine.Remembers.of_eq processes statuses).start process
  | close source =>
    cases takes
    exact .of_eq rfl rfl
  | wait child outcome =>
    simp only [System.Takes, system, wait, StateT.run] at takes
    -- The machine runs only if there is such a process.
    split at takes <;> cases takes
    · exact Machine.remembers_runUntil programs child.handle Job.patience before.machine
    · exact .of_eq rfl rfl
  | report message =>
    cases takes
    exact remembers_writeTo before.machine (Utf8.encode message) before.errors

/-- A machine keeps track of the processes that were started on it. -/
def tracks : Site.system.Tracks where
  Knows site child := site.machine.knows child.handle = true
  started := by
    intro before stage inlet outlet process after takes
    obtain ⟨⟨_, ⟨⟩⟩, -⟩ | ⟨machine, _, _, granted, -, -, -, -, rfl⟩ := launch_cases takes
    cases granted
    -- The process has the number that was the next one.
    simp [Machine.knows, Machine.start]
  kept takes known := remembers_of_takes takes _ known
  waited := by
    intro before child outcome after takes known
    -- A machine waits in vain only for a process that it does not know.
    simp only [System.Takes, system, wait, StateT.run, known, if_true] at takes
    cases takes
    exact ⟨_, rfl⟩

/-- The octets of the file at a path, if there is one. -/
def contents? (site : Site) (path : Text) : Option Bytes :=
  match site.machine.files.inspect site.working (Raw.ofText path) true with
  | .ok (_, node) =>
    match node.content with
    | .file octets => some octets.toList
    | _ => none
  | .error _ => none

/-- Whether a call can change what is in files: one that opens a file, one that lets processes run, or a message. -/
def canChangeFiles : Call → Bool
  | .create _ (.ok _) => true
  | .wait _ (.ok _) => true
  | .report _ => true
  | _ => false

/-- What is at a path depends on the files and on the working directory. -/
theorem contents?_congr (site : Site) {machine : Machine} (files : machine.files = site.machine.files) (path : Text) :
    { site with machine }.contents? path = site.contents? path := by
  simp only [contents?, files]

/-- Launching programs, giving up pipes, and all that is refused leave files as they are. -/
theorem contents?_kept (kept : canChangeFiles call = false) (takes : Site.system.Takes before call after)
    (path : Text) : after.contents? path = before.contents? path := by
  cases call with
  | create name outcome =>
    simp only [System.Takes, system, create, StateT.run] at takes
    split at takes <;> cases takes
    · rfl
    · cases kept
  | launch stage inlet outlet outcome =>
    -- The process that is started has not run yet.
    obtain ⟨-, rfl⟩ | ⟨machine, process, _, -, -, files, -, -, rfl⟩ := launch_cases takes
    · rfl
    · exact contents?_congr before files path
  | close source =>
    cases takes
    rfl
  | wait child outcome =>
    simp only [System.Takes, system, wait, StateT.run] at takes
    split at takes <;> cases takes
    · cases kept
    · rfl
  | report message => cases kept

/-- A file is opened as it is. -/
theorem files_openFile {machine next : Machine} {descriptors : List (Nat × Channel)} {working number : Nat} {path : Raw}
    {opening : Files.Opening} {files : Files} {node : Node} {octets : ByteArray} {channel : Channel}
    (opened : machine.files.openNode working path opening = .ok (number, files))
    (found : files.node? number = some node) (file : node.content = .file octets)
    (opens : machine.openFile descriptors working path opening = .ok (channel, next)) : next.files = files := by
  -- Only for other nodes than files it matters what they are.
  simp only [Machine.openFile, bind, Except.bind, opened, found, Option.map_some, file] at opens
  cases opens
  rfl

/-- Where there is a file or nothing, opening it for writing leaves an empty file. -/
theorem contents?_created {path : Text} {target : OutputFile}
    (file : Site.system.hasEntry before path = true → (before.contents? path).isSome = true)
    (takes : Site.system.Takes before (.create path (.ok target)) after) : after.contents? path = some [] := by
  simp only [System.Takes, system, create, StateT.run] at takes
  split at takes <;> cases takes
  case h_2 channel machine opens =>
  cases opened : before.machine.files.openNode before.working (Raw.ofText path)
      { Files.Opening.writing with mode := 0o644 } with
  | error reason => simp [Machine.openFile, bind, Except.bind, opened] at opens
  | ok pair =>
    obtain ⟨number, files⟩ := pair
    obtain ⟨node, inspected, empty | ⟨rfl, other⟩⟩ := Files.inspect_openNode rfl rfl rfl opened
    · -- There is an empty file now, and it is opened as it is.
      have same := files_openFile opened (Files.node?_of_inspect inspected) empty opens
      simp [contents?, same, inspected, empty]
    · -- What is there is no file, which was excluded.
      have excluded := file (by simp [system, inspected, Except.toBool])
      simp [contents?, inspected] at excluded

/-- Calls that cannot change files leave what is at a path as it is, one after the other. -/
theorem contents?_of_leads {calls : List Call} (leads : Site.system.Leads before calls after)
    (kept : ∀ call ∈ calls, canChangeFiles call = false) (path : Text) :
    after.contents? path = before.contents? path := by
  -- From call to call the contents are the same.
  induction leads with
  | none => rfl
  | call takes _ ih =>
    rw [List.forall_mem_cons] at kept
    rw [ih kept.2, contents?_kept kept.1 takes path]

/-- Until a pipeline waits for the first time, its output is empty, whatever programs it has started: none of them has run
yet. The output may be a new file or one that was there before. -/
theorem output_empty_until_wait {pipeline : Pipeline} {path : Text} (output : pipeline.output = some path)
    (file : Site.system.hasEntry before path = true → (before.contents? path).isSome = true) {target : OutputFile}
    {front back : List Call}
    (calls : pipeline.calls Site.system before = .create path (.ok target) :: (front ++ back))
    (unawaited : front.filterMap Call.awaited? = [])
    (leads : Site.system.Leads before (.create path (.ok target) :: front) after) :
    after.contents? path = some [] := by
  obtain ⟨_, _, -, -, same⟩ | ⟨_, opening, course, opened, -, -, same, -⟩ := pipeline.calls_cases Site.system before
  · -- An output that cannot be opened is not open.
    rw [same] at calls
    cases calls
  rw [output] at opened
  cases opened with
  | file _ target =>
    rw [same, List.singleton_append, List.cons.injEq] at calls
    obtain ⟨-, rest⟩ := calls
    -- Behind the call that opens the output, only waits could change what is in it.
    have idle : ∀ call ∈ course.calls (some target) .inherited [],
        call.awaited? = none → canChangeFiles call = false :=
      course.forall_mem_calls (fun _ _ _ _ _ => rfl) (fun _ _ => rfl) (fun _ _ waits => by cases waits) _ _ _
    rw [rest, List.forall_mem_append] at idle
    obtain _ | ⟨created, leads⟩ := leads
    have kept : ∀ call ∈ front, canChangeFiles call = false := fun call member =>
      idle.1 call member (List.filterMap_eq_nil_iff.mp unawaited call member)
    rw [contents?_of_leads leads kept path, contents?_created file created]

/-- No wait fails while an errand is carried out on a machine. -/
theorem waits_succeed (workbench : Workbench) (errand : Errand) (site : Site) :
    ∀ call ∈ workbench.calls Site.system errand site, call.waitFails = false :=
  tracks.errand_waits_succeed workbench errand site

end AnswerQuery.Host.Site
