import AnswerQuery.Host.Program

/-! A machine: files, pipes and processes that run beside each other, and what becomes of them. -/

namespace AnswerQuery.Host

/-- A pipe: a queue of octets, written at the end and read at the front. -/
structure Pipe where
  /-- The octets that are read next. -/
  front : Bytes := []
  /-- What was written after them, the last piece first. -/
  later : List Bytes := []
  /-- How many octets are in the pipe. -/
  size : Nat := 0

namespace Pipe

/-- The octets in a pipe, in the order they are read. -/
def contents (pipe : Pipe) : Bytes :=
  pipe.front ++ pipe.later.reverse.flatten

/-- Write octets to a pipe. -/
def write (pipe : Pipe) (octets : Bytes) : Pipe :=
  { pipe with later := octets :: pipe.later, size := pipe.size + octets.length }

/-- Read at most so many octets from a pipe. -/
def read (pipe : Pipe) (most : Nat) : Bytes × Pipe :=
  let octets := pipe.contents
  (octets.take most, ⟨octets.drop most, [], pipe.size - (octets.take most).length⟩)

/-- What is written comes after all that was there. -/
@[simp] theorem contents_write (pipe : Pipe) (octets : Bytes) :
    (pipe.write octets).contents = pipe.contents ++ octets := by
  -- The last piece is the first of the list.
  simp [contents, write]

/-- What is read and what stays are all that was there. -/
theorem read_append (pipe : Pipe) (most : Nat) :
    (pipe.read most).1 ++ (pipe.read most).2.contents = pipe.contents := by
  -- The front that is taken and the rest make up the whole.
  simp only [read, contents, List.reverse_nil, List.flatten_nil, List.append_nil, List.take_append_drop]

end Pipe

/-- What a descriptor stands for. -/
inductive Channel where
  /-- A file that has been opened. -/
  | file (opened : Nat)
  /-- The read end of a pipe. -/
  | source (pipe : Nat)
  /-- The write end of a pipe. -/
  | target (pipe : Nat)
  | device (device : Device)
  /-- A directory that has been opened. -/
  | directory (node : Nat)
  deriving DecidableEq, Repr

/-- A file that has been opened, shared by all descriptors made from it. -/
structure Opened where
  /-- The node of the file. -/
  node : Nat
  /-- Where the next octet is read or written. -/
  offset : Nat
  /-- How it was opened. -/
  opening : Files.Opening
  deriving Repr

/-- A process. -/
structure Process where
  /-- Its number. -/
  identity : Nat
  /-- The number of the process that started it. -/
  parent : Nat
  /-- What it does next. -/
  program : Program
  /-- What its descriptors stand for. -/
  descriptors : List (Nat × Channel)
  /-- Its working directory. -/
  working : Nat
  /-- Its environment variables. -/
  bindings : List (Raw × Raw)
  /-- The signals it ignores. -/
  ignored : List Nat := []
  /-- The signals it catches. -/
  catches : List Nat := []
  /-- The signals it has caught and not yet asked for. -/
  caught : List Nat := []
  /-- The uses that are not allowed of files it makes. -/
  mask : Nat := 0o022
  /-- How much time it leaves to others. -/
  yielding : Int := 0
  /-- The time before which it does nothing. -/
  wakes : Nat := 0

/-- A machine. -/
structure Machine where
  /-- The files. -/
  files : Files
  /-- The files that have been opened. -/
  opened : Array Opened
  /-- The pipes. -/
  pipes : Array Pipe
  /-- The processes that have not ended, those that come first before others. -/
  processes : List Process
  /-- How the others ended. -/
  statuses : List (Nat × ExitStatus)
  /-- Those that have ended and that somebody has waited for. -/
  reaped : List Nat
  /-- The pipes whose read end is held outside of all processes. -/
  held : List Nat
  /-- The number of the next process. -/
  next : Nat
  /-- How many milliseconds have passed since the beginning of 1970. -/
  clock : Nat
  /-- How many calls the first process has made in a row. -/
  streak : Nat := 0

/-- The programs that can be installed: by the name of one and its arguments, what it does. -/
abbrev Programs := Raw → Option (List Raw → Program)

namespace Machine

/-- How many octets fit into a pipe. -/
def pipeCapacity : Nat := 65536

/-- How many octets are written to a pipe all at once or not at all. -/
def pipeUnit : Nat := 4096

/-- The most octets that an argument may have. -/
def longestArgument : Nat := 131071

/-- The most octets that all arguments and environment variables may take together. -/
def argumentSpace : Nat := 2097152

/-- How many octets the place of an argument takes. -/
def placeSize : Nat := 8

/-- The signal of a write that nobody can read. -/
def brokenPipeSignal : Nat := 13

/-- The signals that do nothing unless they are caught. -/
def harmlessSignals : List Nat := [0, 17, 18, 19, 20, 21, 22, 23, 28]

/-- How many nanoseconds a millisecond has. -/
def nanosecondsPerMillisecond : Int := 1000000

/-- Let it be as late as so many milliseconds after the beginning of 1970. -/
def setClock (machine : Machine) (clock : Nat) : Machine :=
  { machine with clock, files := { machine.files with now := Int.ofNat clock * nanosecondsPerMillisecond } }

/-- Whether some process can read a pipe, or its read end is held. -/
def hasReader (machine : Machine) (pipe : Nat) : Bool :=
  machine.held.contains pipe ||
    machine.processes.any (fun process => process.descriptors.any (fun pair => pair.2 == .source pipe))

/-- Whether some process can write to a pipe. -/
def hasWriter (machine : Machine) (pipe : Nat) : Bool :=
  machine.processes.any (fun process => process.descriptors.any (fun pair => pair.2 == .target pipe))

/-- Replace a process by what has become of it. -/
def update (machine : Machine) (process : Process) : Machine :=
  { machine with processes := machine.processes.map fun other =>
      if other.identity == process.identity then process else other }

/-- Let a process go on with a program. -/
def resume (machine : Machine) (process : Process) (program : Program) : Machine :=
  machine.update { process with program }

/-- Let a process end. -/
def finish (machine : Machine) (identity : Nat) (status : ExitStatus) : Machine :=
  { machine with
    processes := machine.processes.filter (fun process => process.identity != identity)
    statuses := (identity, status) :: machine.statuses
    streak := 0 }

/-- Whether a process was started that runs or has ended. -/
def knows (machine : Machine) (identity : Nat) : Bool :=
  machine.processes.any (fun process => process.identity == identity) || (machine.statuses.lookup identity).isSome

/-- Start a process and give it the next number. -/
def start (machine : Machine) (process : Process) : Machine :=
  { machine with
    processes := machine.processes ++ [{ process with identity := machine.next }]
    next := machine.next + 1 }

/-- Read from a file that has been opened. -/
def readOpened (machine : Machine) (number most : Nat) : Bytes × Machine :=
  match machine.opened[number]? with
  | none => ([], machine)
  | some file =>
    let octets := ((machine.files.octets file.node).extract file.offset (file.offset + most)).toList
    (octets, { machine with
      opened := machine.opened.setIfInBounds number { file with offset := file.offset + octets.length } })

/-- Octets with others written over them from a place on; a gap in front of those is filled with zeros. -/
def overwritten (before : ByteArray) (offset : Nat) (octets : ByteArray) : ByteArray :=
  let gap : ByteArray := ⟨Array.replicate (offset - before.size) 0⟩
  if before.size ≤ offset then before ++ gap ++ octets
  else before.extract 0 offset ++ octets ++ before.extract (offset + octets.size) before.size

/-- Write to a file that has been opened. -/
def writeOpened (machine : Machine) (number : Nat) (octets : Bytes) : Machine :=
  match machine.opened[number]? with
  | none => machine
  | some file =>
    let before := machine.files.octets file.node
    let offset := if file.opening.appends then before.size else file.offset
    let after := overwritten before offset ⟨octets.toArray⟩
    { machine with
      files := machine.files.setOctets file.node after
      opened := machine.opened.setIfInBounds number { file with offset := offset + octets.length } }

/-- Open a node. -/
def openContents (machine : Machine) (node : Nat) (opening : Files.Opening) : Nat × Machine :=
  (machine.opened.size, { machine with opened := machine.opened.push ⟨node, 0, opening⟩ })

/-- The least number that is not the number of a descriptor. -/
def freeDescriptor (descriptors : List (Nat × Channel)) : Nat :=
  -- Among one number more than there are descriptors, one is free.
  ((List.range (descriptors.length + 1)).find? (fun number => (descriptors.lookup number).isNone)).getD 0

/-- Let a descriptor stand for a channel. -/
def setDescriptor (descriptors : List (Nat × Channel)) (number : Nat) (channel : Channel) : List (Nat × Channel) :=
  (number, channel) :: descriptors.filter (fun pair => pair.1 != number)

/-- Let no descriptor have a number. -/
def dropDescriptor (descriptors : List (Nat × Channel)) (number : Nat) : List (Nat × Channel) :=
  descriptors.filter (fun pair => pair.1 != number)

/-- Open what a descriptor stands for once more; a file is begun from its start. -/
def reopen (machine : Machine) (opening : Files.Opening) : Channel → Except OsError (Channel × Machine)
  | .file number =>
    match machine.opened[number]? with
    | none => .error .noEntry
    | some file =>
      let files := if opening.empties then machine.files.setOctets file.node .empty else machine.files
      let (number, machine) := ({ machine with files }).openContents file.node opening
      .ok (.file number, machine)
  | .source pipe => .ok (if opening.writes then .target pipe else .source pipe, machine)
  | .target pipe => .ok (if opening.writes then .target pipe else .source pipe, machine)
  | .directory node => if opening.writes then .error .isDirectory else .ok (.directory node, machine)
  | other => .ok (other, machine)

/-- Open a file from a working directory, given what the descriptors of the process stand for. -/
def openFile (machine : Machine) (descriptors : List (Nat × Channel)) (working : Nat) (path : Raw)
    (opening : Files.Opening) : Except OsError (Channel × Machine) := do
  let (node, files) ← machine.files.openNode working path opening
  let machine := { machine with files }
  match (files.node? node).map Node.content with
  | some (.directory ..) => pure (.directory node, machine)
  | some (.device (.descriptor number)) =>
    match descriptors.lookup number with
    | some channel => machine.reopen opening channel
    | none => .error .noEntry
  | some (.device .terminal) => .error .noDevice
  | some (.device device) => pure (.device device, machine)
  | some (.channel pipe) => pure (if opening.writes then .target pipe else .source pipe, machine)
  | _ =>
    let (number, machine) := machine.openContents node opening
    pure (.file number, machine)

/-- What a program is told about a node. -/
def statusOf (number : Nat) (node : Node) : Status :=
  let (kind, size) : Kind × Nat := match node.content with
    | .file octets => (.file, octets.size)
    | .directory .. => (.directory, 4096)
    | .link target => (.link, target.length)
    | .program _ => (.file, 100000)
    | .device _ => (.device, 0)
    | .channel _ => (.channel, 0)
  let device : Option Device := match node.content with
    | .device device => some device
    | _ => none
  ⟨kind, size, node.mode, node.foreign, some number, node.changed, node.accessed, node.altered, device⟩

/-- What a program is told about a channel. -/
def describeChannel (machine : Machine) : Channel → Described
  | .file number =>
    match machine.opened[number]? with
    | some file =>
      let status := ((machine.files.node? file.node).map (statusOf file.node)).getD { kind := .file, size := 0, mode := 0, foreign := false, number := none }
      ⟨status, some file.offset, file.opening.appends⟩
    | none => ⟨{ kind := .file, size := 0, mode := 0, foreign := false, number := none }, none, false⟩
  | .directory node =>
    ⟨((machine.files.node? node).map (statusOf node)).getD { kind := .directory, size := 0, mode := 0, foreign := false, number := none }, none, false⟩
  | .device device =>
    ⟨{ kind := .device, size := 0, mode := 0o666, foreign := true, number := none, device := some device }, none, false⟩
  | _ => ⟨{ kind := .channel, size := 0, mode := 0o600, foreign := false, number := none }, none, false⟩

/-- The interpreter that the first line of a script names, and the argument that follows it. The line ends before a zero;
an interpreter that may go on behind what is looked at is none. -/
def interpreterLine? (octets : Bytes) (whole : Bool) : Option (Raw × List Raw) :=
  match Raw.ofOctets (octets.takeWhile (· != 10)) with
  | '#' :: '!' :: line =>
    let isSpace := fun c => c == ' ' || c == '\t'
    let isEnd := fun c => isSpace c || c == '\x00'
    let line := line.dropWhile isSpace
    let isCut := !whole && !octets.contains 10 && !line.any isEnd
    let line := line.takeWhile (· != '\x00')
    let argument := dropTrailing isSpace ((line.dropWhile (fun c => !isSpace c)).dropWhile isSpace)
    match line.takeWhile (fun c => !isSpace c) with
    | [] => none
    | interpreter => if isCut then none else some (interpreter, if argument.isEmpty then [] else [argument])
  | _ => none

/-- How many octets of a script are looked at for its interpreter. -/
def longestInterpreterLine : Nat := 255

/-- What is run at a path with arguments, the first of which is the name it is called by. A script is handed to the
interpreter it names, which may itself be a script; the depth of that is limited. -/
def load (programs : Programs) (files : Files) (working : Nat) :
    Nat → Raw → List Raw → Except OsError Program
  | 0, _, _ => .error .tooManyLinks
  | depth + 1, path, arguments => do
    let (_, node) ← files.inspect working path true
    if !node.allows .execute then .error .noAccess
    else
      match node.content with
      | .program name =>
        match programs name with
        | some program => pure (program arguments)
        | none => .error .badExecutable
      | .file octets =>
        match interpreterLine? (octets.extract 0 longestInterpreterLine).toList
            (octets.size ≤ longestInterpreterLine) with
        | none => .error .badExecutable
        | some (interpreter, more) =>
          load programs files working depth interpreter (interpreter :: more ++ path :: arguments.drop 1)
      | _ => .error .noAccess

/-- How many octets arguments and environment variables take. -/
def argumentSize (arguments : List Raw) (bindings : List (Raw × Raw)) : Nat :=
  let size := arguments.foldl (fun size argument => size + argument.length + 1 + placeSize) 0
  bindings.foldl (fun size pair => size + pair.1.length + pair.2.length + 2 + placeSize) size

/-- Check arguments that are handed to a program, with its environment variables. -/
def checkArguments (arguments : List Raw) (bindings : List (Raw × Raw)) : Except OsError Unit :=
  if arguments.any (fun argument => argument.contains '\x00') then .error .nulInArgument
  else if arguments.any (fun argument => longestArgument < argument.length) then .error .argumentsTooLong
  else if argumentSpace < argumentSize arguments bindings then .error .argumentsTooLong
  else .ok ()

/-- The first of several paths at which a program can be run. Paths that lead nowhere are passed over; one that may not
be run is remembered as the error in case no other can. -/
def loadFirst (attempt : Raw → Except OsError Program) : OsError → List Raw → Except OsError Program
  | reason, [] => .error reason
  | reason, path :: paths =>
    match attempt path with
    | .ok program => .ok program
    | .error .noEntry => loadFirst attempt reason paths
    | .error .notDirectory => loadFirst attempt reason paths
    | .error .noAccess => loadFirst attempt .noAccess paths
    | .error other => .error other

/-- The path of a program in a directory; the working directory may be left unnamed. -/
def inDirectory (program directory : Raw) : Raw :=
  if directory.isEmpty then program else directory ++ '/' :: program

/-- How many interpreters a script may go through. -/
def deepestScript : Nat := 6

/-- What is run for a name: a path is taken as it is, and anything else is looked for in the directories of the
variable `PATH`. -/
def loadNamed (programs : Programs) (files : Files) (working : Nat) (bindings : List (Raw × Raw))
    (program : Raw) (arguments : List Raw) : Except OsError Program := do
  checkArguments (program :: arguments) bindings
  let attempt := fun path => load programs files working deepestScript path (program :: arguments)
  if program.isEmpty then .error .noEntry
  else if program.contains '/' then attempt program
  else if Files.longestName < program.length then .error .nameTooLong
  else
    let search := (bindings.lookup "PATH".toList).getD Files.usualSearch
    loadFirst attempt .noEntry ((Raw.split ':' search).map (inDirectory program))

end Machine

end AnswerQuery.Host
