import AnswerQuery.Host.Packing.Member
import AnswerQuery.Host.Tool.Bundling.Plan

/-! Storing files in archives. -/

namespace AnswerQuery.Host.Tool

namespace Bundling

open AnswerQuery.Host.Bundle (Entry EntryKind)

/-- An archive that is being written. -/
structure Outlet where
  /-- Where it is written. -/
  descriptor : Nat
  /-- What it is called. -/
  name : Raw
  /-- Its number, if it has one. -/
  number : Option Nat
  /-- Whether what is told goes to the standard error. -/
  aside : Bool

/-- Write pieces of an archive. -/
def emit (octets : Bytes) : Work Unit :=
  modify fun state => { state with pieces := octets :: state.pieces }

/-- An entry for a file of which the status is known. -/
def entryOf (plan : Plan) (name : Raw) (kind : EntryKind) (status : Status) : Entry :=
  let moment := plan.changed.getD status.changed
  let seconds := Calendar.Moment.seconds moment
  let named := fun (given : Option (Raw × Option Nat)) (usual : Raw) (number : Nat) => match given with
    | some (name, some number) => (name, number)
    | some (name, none) => (name, number)
    | none => (usual, number)
  let own := if status.foreign then 0 else 65534
  let (ownerName, owner) := named plan.owner (if status.foreign then "root" else "nobody").toList own
  let (groupName, group) := named plan.group (if status.foreign then "root" else "nogroup").toList own
  { name, kind
    mode := Mode.adjust (status.kind == .directory) 0 plan.modes status.mode
    owner, group
    ownerName := if plan.numeric then [] else ownerName
    groupName := if plan.numeric then [] else groupName
    changed := seconds.toNat }

/-- Write an entry, and tell it. -/
def emitEntry (plan : Plan) (outlet : Outlet) (path : Raw) (entry : Entry) : Work Unit := do
  if 0 < plan.verbose then
    let name := if plan.showsChanged then entry.name
      else if entry.kind == .directory && path.getLast? != some '/' then path ++ ['/'] else path
    let line ← if plan.verbose = 1 then pure (shown name) else longLine plan entry name
    tell outlet.aside line
  emit (entry.octets plan.layout)

/-- Remember a file that may be met again by another name. -/
def noteStored (plan : Plan) (path name : Raw) (status : Status) : Work Unit := do
  let links : Nat ← Act.ask (.links path plan.follows)
  if let some number := status.number then
    if 1 < links then
      let name ← safe plan true name
      modify fun state => { state with stored := (number, changed plan name) :: state.stored }

/-- The kind of a device. -/
def deviceOf : Option Device → Nat × Nat
  | some .null => (1, 3)
  | some .zero => (1, 5)
  | some .full => (1, 7)
  | _ => (5, 0)

/-- Complain that a file cannot be read, which may be no failure. -/
def faultReading (plan : Plan) (path : Raw) (what : String) (reason : OsError) : Act Unit :=
  if plan.forgives then
    Act.complain (shownName path ++ ": Warning: ".toList ++ what.toList ++ ": ".toList ++ reason.description)
  else faultAbout path what reason

/-- Store a file, and what is in it to a depth if it is a directory. -/
def store (plan : Plan) (outlet : Outlet) (deep : Bool) : Nat → Raw → Work Unit
  | 0, _ => pure ()
  | depth + 1, path => do
    match ← Act.inspect path plan.follows with
    | .error reason => faultReading plan path "Cannot stat" reason
    | .ok status =>
      let stored := (← get).stored
      let earlier := status.number.bind fun number => stored.lookup number
      let entry := fun (name : Raw) (kind : EntryKind) => entryOf plan name kind status
      if status.kind == .directory then
        let readable : Bool ← Act.ask (.allows path .read)
        if !readable then faultReading plan path "Cannot open" .noAccess
        else
          let inner := if path.getLast? == some '/' then path else path ++ ['/']
          let name ← safe plan false (dropTrailing (· == '/') inner)
          emitEntry plan outlet path (entry (dropTrailing (· == '/') (changed plan name) ++ ['/']) .directory)
          if deep then
            match ← Act.names path with
            | .error reason => faultReading plan path "Cannot open" reason
            | .ok names =>
              let names := if plan.sorts then names.mergeSort Raw.inOrder else names
              for name in names do
                let path := inner ++ name
                if !plan.excludes path then store plan outlet deep depth path
          if plan.removes then
            modify fun state => { state with leftovers := (path, true) :: state.leftovers }
      else if status.number.isSome && status.number == outlet.number then
        Act.complain (shownName path ++ ": file is the archive; not dumped".toList)
      else
        let keep := fun (_ : Unit) => do
          if plan.removes then
            modify fun state => { state with leftovers := (path, false) :: state.leftovers }
        let name ← safe plan false path
        let name := changed plan name
        match earlier with
        | some target => do
          emitEntry plan outlet path { entry name .second with target }
          keep ()
        | none =>
          match status.kind with
          | .file => do
            match ← Act.readFile path with
            | .error reason => faultReading plan path "Cannot open" reason
            | .ok octets => do
              emitEntry plan outlet path { entry name .file with size := octets.length }
              emit (Entry.filled octets)
              noteStored plan path path status
              keep ()
          | .link => do
            let target : Except OsError Raw ← Act.linkTarget path
            match target with
            | .error reason => faultReading plan path "Cannot readlink" reason
            | .ok target => do
              emitEntry plan outlet path { entry name .link with target }
              noteStored plan path path status
              keep ()
          | .channel => do
            emitEntry plan outlet path (entry name .channel)
            noteStored plan path path status
            keep ()
          | _ => emitEntry plan outlet path { entry name .characters with device := deviceOf status.device }

/-- How deep directories are gone through at most. -/
def depth : Nat := 256

/-- Write an archive from its beginning on, or as far as it is kept; what stands behind it goes. -/
def writeArchive (outlet : Outlet) (octets : Bytes) (isFile : Bool) : Act Unit := do
  Act.flush
  if !octets.isEmpty then
    let result : Except OsError Unit ← Act.ask (.write outlet.descriptor octets)
    if let .error reason := result then
      giveUp (shownName outlet.name ++ ": Cannot write: ".toList ++ reason.description)
  if isFile then
    let _ : Except OsError Unit ← Act.ask (.resize outlet.descriptor octets.length)

/-- Open an archive for writing. -/
def openOutlet (path : Raw) (opening : Files.Opening) : Act Outlet := do
  if path == ['-'] then
    let described : Except OsError Described ← Act.ask (.describe 1)
    let number := match described with
      | .ok described => if described.status.kind == .file then described.status.number else none
      | .error _ => none
    pure ⟨1, path, number, true⟩
  else
    let result : Except OsError Nat ← Act.ask (.openFile path opening)
    match result with
    | .error reason => giveUp (shownName path ++ ": Cannot open: ".toList ++ reason.description)
    | .ok descriptor => do
      let described : Except OsError Described ← Act.ask (.describe descriptor)
      let number := match described with
        | .ok described => if described.status.kind == .file then described.status.number else none
        | .error _ => none
      pure ⟨descriptor, path, number, false⟩

/-- Whether the name of an archive tells that it is packed in the usual way. -/
def tellsPacked (path : Raw) : Bool :=
  [".gz", ".tgz", ".taz"].any fun ending => ending.toList.isSuffixOf path

/-- The program that the name of an archive asks for. -/
def programFor? (path : Raw) : Option String :=
  ([("bzip2", [".bz2", ".tbz", ".tbz2", ".tz2"]), ("xz", [".xz", ".txz"]), ("lzma", [".lzma", ".tlz"]), ("lzip", [".lz"]),
    ("lzop", [".lzo"]), ("compress", [".Z", ".taZ"]), ("zstd", [".zst", ".tzst"])].find? fun pair =>
      pair.2.any fun ending => ending.toList.isSuffixOf path).map Prod.fst

/-- How an archive with a name is packed. -/
def packedFor (plan : Plan) (path : Raw) : Packed :=
  match plan.packed with
  | .named =>
    if tellsPacked path then .always
    else match programFor? path with
      | some program => .by_ program.toList
      | none => .found
  | other => other

/-- Say which options came too late. -/
def tellLate (plan : Plan) : Act Unit := do
  if !plan.late.isEmpty then
    fault ("The following options were used after any non-optional arguments in archive create or update mode.  " ++
      "These options are positional and affect only arguments that follow them.  " ++
      "Please, rearrange them properly.").toList
    for option in plan.late do
      fault (option ++ " has no effect".toList)

/-- Store the files that are named. -/
def storeAll (plan : Plan) (outlet : Outlet) (home : Raw) (sought : List Sought) : Work Unit := do
  for one in sought do
    goTo home one.places
    if !plan.excludes one.pattern.text then
      let path := one.pattern.text
      store plan outlet one.pattern.leads depth path

/-- Remove what has been stored, if that is wanted. -/
def removeStored : Work Unit := do
  for (path, isDirectory) in (← get).leftovers.reverse do
    let failure ← if isDirectory then Act.removeDirectory path else Act.remove path
    if let some reason := failure then
      Act.complain (shownName path ++ ": Cannot ".toList ++ (if isDirectory then "rmdir" else "unlink").toList ++
        ": ".toList ++ reason.description)
      Act.fail 2

/-- Make an archive. -/
def create (plan : Plan) (path : Raw) : Work Unit := do
  tellLate plan
  let (sought, _) ← plan.sought
  let home : Raw ← Act.ask .whereabouts
  let packed := packedFor plan path
  let outlet ← openOutlet path Files.Opening.writing
  if let .by_ program := packed then
    Act.report ("/bin/sh: 1: ".toList ++ program ++ ": not found\n".toList)
    Act.complain "Child returned status 127".toList
    Act.complain "Error is not recoverable: exiting now".toList
    Act.finish 2
  if let some label := plan.label then
    let now ← Act.now
    let entry : Entry := { name := label, kind := .label, changed := (Calendar.Moment.seconds now).toNat }
    emit (entry.block plan.layout)
  storeAll plan outlet home sought
  let octets := Bundle.closed plan.factor (← get).pieces.reverse.flatten
  let octets := if packed == .always then Packing.Member.pack 6 {} octets else octets
  writeArchive outlet octets false
  removeStored

end Bundling

end AnswerQuery.Host.Tool
