import AnswerQuery.Host.Machine

/-! How a machine answers the calls of its processes. -/

namespace AnswerQuery.Host

/-- The moment that a time stands for which a file is given, in place of the one it has. -/
def Stamp.moment (now before : Calendar.Moment) : Stamp → Calendar.Moment
  | .kept => before
  | .now => now
  | .at moment => moment

/-- Set when a node was used and when it was changed; that it was so just now may be said by all who can write it. -/
def Files.touch (files : Files) (number : Nat) (accessed changed : Stamp) : Except OsError Files :=
  match files.node? number with
  | none => .error .noEntry
  | some node =>
    let isNow := accessed == .now && changed == .now
    if node.foreign && !(isNow && node.allows .write) then .error (if isNow then .noAccess else .notPermitted)
    else .ok (files.modify number fun node => { node with
      accessed := accessed.moment files.now node.accessed
      changed := changed.moment files.now node.changed
      altered := files.now })

namespace Machine

/-- Answer a read: a pipe that is empty is waited for as long as somebody can write to it. -/
def serveRead (machine : Machine) (process : Process) (descriptor most : Nat)
    (next : Except OsError Bytes → Program) : Option Machine :=
  let fail := fun (reason : OsError) => some (machine.resume process (next (.error reason)))
  match process.descriptors.lookup descriptor with
  | none => fail .badDescriptor
  | some (.target _) => fail .badDescriptor
  | some (.directory _) => fail .isDirectory
  | some (.device .zero) => some (machine.resume process (next (.ok (List.replicate most 0))))
  | some (.device .full) => some (machine.resume process (next (.ok (List.replicate most 0))))
  | some (.device _) => some (machine.resume process (next (.ok [])))
  | some (.file number) =>
    if (machine.opened[number]?.map fun file => file.opening.reads) == some false then fail .badDescriptor
    else
      let (octets, machine) := machine.readOpened number most
      some (machine.resume process (next (.ok octets)))
  | some (.source pipe) =>
    match (machine.pipes.getD pipe {}).read most with
    | ([], _) => if machine.hasWriter pipe then none else some (machine.resume process (next (.ok [])))
    | (octets, rest) =>
      some (({ machine with pipes := machine.pipes.setIfInBounds pipe rest }).resume process (next (.ok octets)))

/-- Answer a write: a pipe takes what fits, and a process that writes to a pipe nobody can read is ended by a signal,
unless it ignores the signal. -/
def serveWrite (machine : Machine) (process : Process) (descriptor : Nat) (octets : Bytes)
    (next : Except OsError Unit → Program) : Option Machine :=
  let fail := fun (reason : OsError) => some (machine.resume process (next (.error reason)))
  match process.descriptors.lookup descriptor with
  | none => fail .badDescriptor
  | some (.source _) => fail .badDescriptor
  | some (.directory _) => fail .badDescriptor
  | some (.device .full) => if octets.isEmpty then some (machine.resume process (next (.ok ()))) else fail .noSpace
  | some (.device _) => some (machine.resume process (next (.ok ())))
  | some (.file number) =>
    if (machine.opened[number]?.map fun file => file.opening.writes) == some false then fail .badDescriptor
    else some ((machine.writeOpened number octets).resume process (next (.ok ())))
  | some (.target pipe) =>
    if !machine.hasReader pipe then
      if process.ignored.contains brokenPipeSignal then fail .brokenPipe
      else if process.catches.contains brokenPipeSignal then
        some (machine.resume { process with caught := process.caught ++ [brokenPipeSignal] } (next (.error .brokenPipe)))
      else some (machine.finish process.identity (.killed brokenPipeSignal false))
    else
      let before := machine.pipes.getD pipe {}
      let room := pipeCapacity - before.size
      if octets.length ≤ room then
        some (({ machine with pipes := machine.pipes.setIfInBounds pipe (before.write octets) }).resume process
          (next (.ok ())))
      else if room = 0 ∨ octets.length ≤ pipeUnit then none
      else
        let pipes := machine.pipes.setIfInBounds pipe (before.write (octets.take room))
        some (({ machine with pipes }).resume process
          (.call (.write descriptor (octets.drop room)) next))

/-- Answer a request to go forward or back in a file. -/
def serveMove (machine : Machine) (process : Process) (descriptor : Nat) (distance : Int)
    (next : Except OsError Unit → Program) : Machine :=
  match process.descriptors.lookup descriptor with
  | some (.file number) =>
    match machine.opened[number]? with
    | none => machine.resume process (next (.error .badDescriptor))
    | some file =>
      let offset := (Int.ofNat file.offset + distance).toNat
      ({ machine with opened := machine.opened.setIfInBounds number { file with offset } }).resume process
        (next (.ok ()))
  | some _ => machine.resume process (next (.error .notSeekable))
  | none => machine.resume process (next (.error .badDescriptor))

/-- Answer a request to cut a file off or to fill it up. -/
def serveResize (machine : Machine) (process : Process) (descriptor size : Nat)
    (next : Except OsError Unit → Program) : Machine :=
  match (process.descriptors.lookup descriptor) with
  | some (.file number) =>
    match machine.opened[number]? with
    | some file =>
      let before := machine.files.octets file.node
      let after := overwritten (before.extract 0 size) size .empty
      ({ machine with files := machine.files.setOctets file.node after }).resume process (next (.ok ()))
    | none => machine.resume process (next (.error .badDescriptor))
  | some _ => machine.resume process (next (.error .invalid))
  | none => machine.resume process (next (.error .badDescriptor))

/-- Answer a request to send a signal: it is ignored or kept for later, does nothing, or ends the process. -/
def serveSend (machine : Machine) (process : Process) (signal target : Nat)
    (next : Except OsError Unit → Program) : Machine :=
  match machine.processes.find? (fun other => other.identity == target) with
  | none =>
    let stillKnown := (machine.statuses.lookup target).isSome && !machine.reaped.contains target
    machine.resume process (next (if stillKnown then .ok () else .error .noProcess))
  | some other =>
    let machine := machine.resume process (next (.ok ()))
    match machine.processes.find? (fun other => other.identity == target) with
    | none => machine
    | some current =>
      if signal != 9 && other.ignored.contains signal then machine
      else if signal != 9 && other.catches.contains signal then
        if current.caught.contains signal then machine
        else machine.update { current with caught := current.caught ++ [signal] }
      else if harmlessSignals.contains signal then machine
      else machine.finish target (.killed signal false)

/-- What is changed in the files by a call that does nothing else. -/
def changeFiles (machine : Machine) (process : Process) : Request → Except OsError Files
  | .remove path => machine.files.remove process.working path
  | .removeDirectory path => machine.files.removeDirectory process.working path
  | .makeDirectory path mode =>
    machine.files.makeDirectory process.working path (mode - Nat.land mode process.mask)
  | .makeLink target path => machine.files.makeLink process.working target path
  | .makeName source path => machine.files.makeName process.working source path
  | .rename source target => machine.files.rename process.working source target
  | .setMode path mode => machine.files.setMode process.working path mode
  | .touch path follow accessed changed => do
    let (number, _) ← machine.files.inspect process.working path follow
    machine.files.touch number accessed changed
  | .touchOpen descriptor accessed changed =>
    match process.descriptors.lookup descriptor with
    | some (.file opened) =>
      match machine.opened[opened]? with
      | some file => machine.files.touch file.node accessed changed
      | none => .error .badDescriptor
    | some (.directory number) => machine.files.touch number accessed changed
    | some _ => .ok machine.files
    | none => .error .badDescriptor
  | _ => .error .invalid

/-- Carry out a change of the files and let the process go on with how it went. -/
def serveChange (machine : Machine) (process : Process) (request : Request)
    (next : Except OsError Unit → Program) : Option Machine :=
  match machine.changeFiles process request with
  | .ok files => some (({ machine with files }).resume process (next (.ok ())))
  | .error reason => some (machine.resume process (next (.error reason)))

/-- The pipe that a path is the name of, if it is one. -/
def pipeAt? (machine : Machine) (process : Process) (path : Raw) : Option Nat :=
  match machine.files.inspect process.working path true with
  | .ok (_, node) => match node.content with
    | .channel pipe => some pipe
    | _ => none
  | .error _ => none

/-- Whether a process waits until it can open the other end of a pipe with a name. -/
def waitsForOther (machine : Machine) (process other : Process) (pipe : Nat) (opening : Files.Opening) : Bool :=
  other.identity != process.identity &&
    match other.program with
    | .call (.openFile path wanted) _ =>
      (wanted.writes != opening.writes || (opening.reads && opening.writes)) && machine.pipeAt? other path == some pipe
    | _ => false

/-- Whether a pipe with a name can be opened: somebody else has to have its other end, or wait for that too. -/
def meetsOther (machine : Machine) (process : Process) (pipe : Nat) (opening : Files.Opening) : Bool :=
  (opening.reads && opening.writes) ||
  (if opening.writes then machine.hasReader pipe else machine.hasWriter pipe) ||
  machine.processes.any fun other => machine.waitsForOther process other pipe opening

/-- Open a file for a process that need not wait for that. -/
def completeOpen (machine : Machine) (process : Process) (path : Raw) (opening : Files.Opening)
    (next : Except OsError Nat → Program) : Machine :=
  let mode := opening.mode - Nat.land opening.mode process.mask
  match machine.openFile process.descriptors process.working path { opening with mode } with
  | .error reason => machine.resume process (next (.error reason))
  | .ok (channel, machine) =>
    let number := freeDescriptor process.descriptors
    machine.resume { process with descriptors := setDescriptor process.descriptors number channel } (next (.ok number))

/-- Let a process open the file that it waits for. -/
def completeWaiting (machine : Machine) (process : Process) : Machine :=
  match process.program with
  | .call (.openFile path opening) next => machine.completeOpen process path opening next
  | _ => machine

/-- Answer a request to open a file. The two ends of a pipe with a name are opened at the same time. -/
def serveOpen (machine : Machine) (process : Process) (path : Raw) (opening : Files.Opening)
    (next : Except OsError Nat → Program) : Option Machine :=
  match machine.pipeAt? process path with
  | none => some (machine.completeOpen process path opening next)
  | some pipe =>
    if !machine.meetsOther process pipe opening then none
    else
      let others := machine.processes.filter fun other => machine.waitsForOther process other pipe opening
      some (others.foldl completeWaiting (machine.completeOpen process path opening next))

/-- What a path leads to, as far as a process is told; the names of descriptors lead to what these stand for. -/
def statusAt (machine : Machine) (process : Process) (path : Raw) (follow : Bool) : Except OsError Status := do
  let (number, node) ← machine.files.inspect process.working path follow
  match node.content with
  | .device (.descriptor descriptor) =>
    match process.descriptors.lookup descriptor with
    | some channel => pure (machine.describeChannel channel).status
    | none => .error .noEntry
  | _ => pure (statusOf number node)

/-- The names in a directory that a process is told: descriptors have names while they stand for something, and one
more is needed to look into the directory. -/
def shownChildren (machine : Machine) (process : Process) (node : Node) : List (Raw × Nat) :=
  let free := freeDescriptor process.descriptors
  node.children.filter fun child =>
    match (machine.files.node? child.2).map Node.content with
    | some (.device (.descriptor number)) => number == free || (process.descriptors.lookup number).isSome
    | _ => true

/-- Answer the call that a process makes; none if it has to wait. -/
def serve (programs : Programs) (machine : Machine) (process : Process) :
    (request : Request) → (request.Reply → Program) → Option Machine
  | .read descriptor most, next => machine.serveRead process descriptor most next
  | .write descriptor octets, next => machine.serveWrite process descriptor octets next
  | .move descriptor distance, next => some (machine.serveMove process descriptor distance next)
  | .resize descriptor size, next => some (machine.serveResize process descriptor size next)
  | .openFile path opening, next => machine.serveOpen process path opening next
  | .close descriptor, next =>
    some (machine.resume { process with descriptors := dropDescriptor process.descriptors descriptor } (next ()))
  | .duplicate source target, next =>
    match process.descriptors.lookup source with
    | none => some (machine.resume process (next (.error .badDescriptor)))
    | some channel =>
      some (machine.resume { process with descriptors := setDescriptor process.descriptors target channel }
        (next (.ok ())))
  | .describe descriptor, next =>
    match process.descriptors.lookup descriptor with
    | none => some (machine.resume process (next (.error .badDescriptor)))
    | some channel => some (machine.resume process (next (.ok (machine.describeChannel channel))))
  | .makePipe, next =>
    let pipe := machine.pipes.size
    let reading := freeDescriptor process.descriptors
    let descriptors := setDescriptor process.descriptors reading (.source pipe)
    let writing := freeDescriptor descriptors
    let descriptors := setDescriptor descriptors writing (.target pipe)
    some (({ machine with pipes := machine.pipes.push {} }).resume { process with descriptors }
      (next (reading, writing)))
  | .execute path arguments bindings, next =>
    match (do
        checkArguments arguments bindings
        load programs machine.files process.working deepestScript path arguments) with
    | .error reason => some (machine.resume process (next reason))
    | .ok program =>
      let descriptors := process.descriptors.filter (fun pair => pair.1 < firstPrivate)
      some (machine.resume { process with bindings, descriptors, catches := [], caught := [] } program)
  | .wait child interruptible, next =>
    match machine.statuses.lookup child with
    | some status =>
      some (({ machine with reaped := child :: machine.reaped }).resume process (next (.ok status)))
    | none =>
      if interruptible && !process.caught.isEmpty then some (machine.resume process (next (.error .interrupted)))
      else if machine.processes.any (fun other => other.identity == child) then none
      else some (machine.resume process (next (.error .noChild)))
  | .ended child, next => some (machine.resume process (next (machine.statuses.lookup child)))
  | .send signal target, next => some (machine.serveSend process signal target next)
  | .react signal reaction, next =>
    let ignored := process.ignored.filter (· != signal)
    let catches := process.catches.filter (· != signal)
    let process := match reaction with
      | .usual => { process with ignored, catches }
      | .ignored => { process with ignored := signal :: ignored, catches }
      | .caught => { process with ignored, catches := signal :: catches }
    some (machine.resume process (next ()))
  | .ignored, next => some (machine.resume process (next process.ignored))
  | .yield more, next =>
    let yielding := min 19 (process.yielding + more)
    if more < 0 then some (machine.resume process (next (.error .noAccess)))
    else some (machine.resume { process with yielding } (next (.ok yielding)))
  | .caught, next => some (machine.resume { process with caught := [] } (next process.caught))
  | .inspect path follow, next => some (machine.resume process (next (machine.statusAt process path follow)))
  | .links path follow, next =>
    let count : Nat := match machine.files.inspect process.working path follow with
      | .ok (number, _) => machine.files.linkCount number
      | .error _ => 0
    some (machine.resume process (next count))
  | .allows path use, next =>
    let allowed := match machine.files.inspect process.working path true with
      | .ok (_, node) => node.allows use
      | .error _ => false
    some (machine.resume process (next allowed))
  | .list path, next =>
    match machine.files.inspect process.working path true with
    | .error reason => some (machine.resume process (next (.error reason)))
    | .ok (_, node) =>
      let answer := if !node.isDirectory then .error .notDirectory
        else if !node.allows .read then .error .noAccess
        else .ok ((machine.shownChildren process node).map Prod.fst)
      some (machine.resume process (next answer))
  | .remove path, next => machine.serveChange process (.remove path) next
  | .removeDirectory path, next => machine.serveChange process (.removeDirectory path) next
  | .makeDirectory path mode, next => machine.serveChange process (.makeDirectory path mode) next
  | .makeLink target path, next => machine.serveChange process (.makeLink target path) next
  | .makeName source path, next => machine.serveChange process (.makeName source path) next
  | .rename source target, next => machine.serveChange process (.rename source target) next
  | .setMode path mode, next => machine.serveChange process (.setMode path mode) next
  | .touch path follow accessed changed, next =>
    machine.serveChange process (.touch path follow accessed changed) next
  | .touchOpen descriptor accessed changed, next =>
    machine.serveChange process (.touchOpen descriptor accessed changed) next
  | .makeChannel path mode, next =>
    let node : Node := { content := .channel machine.pipes.size, mode := mode - Nat.land mode process.mask }
    match machine.files.createAt process.working path (fun _ => node) with
    | .ok files =>
      some (({ machine with files, pipes := machine.pipes.push {} }).resume process (next (.ok ())))
    | .error reason => some (machine.resume process (next (.error reason)))
  | .readLink path, next =>
    let answer := match machine.files.inspect process.working path false with
      | .ok (_, node) => match node.content with
        | .link target => .ok target
        | _ => .error .invalid
      | .error reason => .error reason
    some (machine.resume process (next answer))
  | .enter path, next =>
    match machine.files.inspect process.working path true with
    | .error reason => some (machine.resume process (next (.error reason)))
    | .ok (number, node) =>
      if !node.isDirectory then some (machine.resume process (next (.error .notDirectory)))
      else if !node.allows .execute then some (machine.resume process (next (.error .noAccess)))
      else some (machine.resume { process with working := number } (next (.ok ())))
  | .whereabouts, next => some (machine.resume process (next (machine.files.pathOf process.working)))
  | .identity, next => some (machine.resume process (next process.identity))
  | .parent, next => some (machine.resume process (next process.parent))
  | .bindings, next => some (machine.resume process (next process.bindings))
  | .setMask mask, next => some (machine.resume { process with mask } (next process.mask))
  | .pause milliseconds, next =>
    some (machine.resume { process with wakes := machine.clock + milliseconds } (next ()))
  | .clock, next => some (machine.resume process (next machine.clock))

/-- Let a process do what it does next; none if it has to wait. -/
def advance (programs : Programs) (machine : Machine) (process : Process) : Option Machine :=
  if machine.clock < process.wakes then none
  else match process.program with
    | .ended code => some (machine.finish process.identity (.exited (code % 256)))
    | .call request next => machine.serve programs process request next
    | .fork child next =>
      let number := machine.next
      some ((machine.resume process (next number)).start
        { process with program := child, parent := process.identity, caught := [] })

/-- Let time pass until a process wakes up. -/
def sleep? (machine : Machine) : Option Machine :=
  let times := (machine.processes.map Process.wakes).filter (fun time => machine.clock < time)
  times.min?.map machine.setClock

/-- How many calls the first process makes before others come first. -/
def longestStreak : Nat := 5000

/-- How many milliseconds so many calls take. -/
def streakTime : Nat := 20

/-- Let another process come first, after the first one has made many calls. -/
def rotate (machine : Machine) : Machine :=
  match machine.processes with
  | first :: others =>
    ({ machine with processes := others ++ [first], streak := 0 }).setClock (machine.clock + streakTime)
  | [] => machine

/-- One step of the machine: the first process that need not wait goes on, and if all wait, time passes. -/
def step? (programs : Programs) (machine : Machine) : Option Machine :=
  let machine := if longestStreak < machine.streak then machine.rotate else { machine with streak := machine.streak + 1 }
  match machine.processes.findSome? (fun process => machine.advance programs process) with
  | some next => some next
  | none => ({ machine with streak := 0 }).sleep?

/-- Let the machine run until a process has ended, for so many steps at most. A process that never ends counts as
killed. -/
def runUntil (programs : Programs) (identity : Nat) : Nat → Machine → ExitStatus × Machine
  | 0, machine => (.killed 9 false, machine)
  | steps + 1, machine =>
    match machine.statuses.lookup identity with
    | some status => (status, machine)
    | none =>
      match machine.step? programs with
      | some next => runUntil programs identity steps next
      | none => (.killed 9 false, machine)

end Machine

end AnswerQuery.Host
