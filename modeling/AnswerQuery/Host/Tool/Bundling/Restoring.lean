import AnswerQuery.Host.Tool.Bundling.Storing

/-! Going through archives: listing what is in them, restoring it, and comparing it with what is there. -/

namespace AnswerQuery.Host.Tool

namespace Bundling

open AnswerQuery.Host.Bundle (Entry EntryKind Member Finding)

/-- An archive that has been read. -/
structure Inlet where
  /-- The octets. -/
  octets : Array UInt8
  /-- The status of the program that unpacked it. -/
  child : Nat := 0

/-- The status of the program that unpacks when it is told of a fault, which is said. -/
def unpackFault (what : String) : Act Nat := do
  Act.flush
  Act.report ("\ngzip: stdin: ".toList ++ what.toList ++ ['\n'])
  pure 1

/-- Octets unpacked. -/
def unpacked (octets : Bytes) : Act Inlet := do
  let octets := octets.toArray
  match Packing.Member.readFront octets 0 with
  | .error .missing => do
    let child ← unpackFault "not in gzip format"
    pure ⟨#[], child⟩
  | .error _ => do
    let child ← unpackFault "unexpected end of file"
    pure ⟨#[], child⟩
  | .ok (_, place) => do
    let outcome := Packing.Member.unpack octets place
    let child ← match outcome.result with
      | .ok _ => pure 0
      | .error (.packed .short) => unpackFault "unexpected end of file"
      | .error (.packed .broken) => unpackFault "invalid compressed data--format violated"
      | .error (.checked isSum _) =>
        unpackFault ("invalid compressed data--" ++ (if isSum then "length error" else "crc error"))
    pure ⟨outcome.octets.toArray, child⟩

/-- Read an archive. -/
def readArchive (plan : Plan) (path : Raw) : Act Inlet := do
  let descriptor ← if path == ['-'] then pure 0
    else
      let result : Except OsError Nat ← Act.ask (.openFile path .reading)
      match result with
      | .ok descriptor => pure descriptor
      | .error reason => giveUp (shownName path ++ ": Cannot open: ".toList ++ reason.description)
  let octets : Except OsError Bytes ← StateT.lift (Job.readAll descriptor)
  match octets with
  | .error reason => do
    Act.complain (shownName path ++ ": Cannot read: ".toList ++ reason.description)
    giveUp "At beginning of tape, quitting now".toList
  | .ok octets => do
    let isPacked := octets.take 2 == Packing.Member.marks
    match plan.packed with
    | .always => unpacked octets
    | .by_ program => do
      Act.report ("tar (child): ".toList ++ program ++ ": Cannot exec: No such file or directory\n".toList)
      Act.report "tar (child): Error is not recoverable: exiting now\n".toList
      Act.complain "Child returned status 2".toList
      Act.complain "Error is not recoverable: exiting now".toList
      Act.finish 2
    | _ =>
      if isPacked then
        if path == ['-'] then giveUp "Archive is compressed. Use -z option".toList
        else unpacked octets
      else do
        if octets.length < Bundle.blockSize then fault "This does not look like a tar archive".toList
        pure { octets := octets.toArray }

/-- The first name that means a path, and its number. -/
def soughtFor? (sought : List Sought) (path : Raw) : Option (Sought × Nat) :=
  sought.zipIdx.find? fun pair => pair.1.pattern.covers path

/-- Complain about the names that have not been found. -/
def tellMissing (sought : List Sought) : Work Unit := do
  let found := (← get).found
  for (one, number) in sought.zipIdx do
    if !found.contains number then
      fault (shownName one.pattern.text ++ ": Not found in archive".toList)

/-- Whether names have wildcards that mean nothing, which is told. -/
def tellWildcards (plan : Plan) (sought : List Sought) : Work Unit := do
  let found := (← get).found
  let hasSign := fun (text : Raw) => text.any fun c => c == '*' || c == '?' || c == '['
  if plan.wild.isNone && sought.zipIdx.any fun pair => !found.contains pair.2 && hasSign pair.1.pattern.text then
    Act.complain "Pattern matching characters used in file names".toList
    Act.complain "Use --wildcards to enable pattern matching, or --no-wildcards to suppress this warning".toList

/-- Go through an archive: what is done with each member that is meant, given where it goes. -/
def goThrough (plan : Plan) (sought : List Sought) (places : List Raw) (inlet : Inlet)
    (act : Member → Raw → List Raw → Work Unit) : Work Unit := do
  let contents := Bundle.contents inlet.octets plan.overZeros
  for finding in contents.findings do
    match finding with
    | .foreign => fault "This does not look like a tar archive".toList
    | .nonsense => fault "Skipping to next header".toList
    | .loneZeros count => Act.complain ("A lone zero block at ".toList ++ decimal count)
    | .member member => do
      let bare := dropTrailing (· == '/') member.entry.name
      let path ← safe plan false (if bare.isEmpty then member.entry.name.take 1 else bare)
      let chosen := soughtFor? sought path
      if (sought.isEmpty || chosen.isSome) && !plan.excludes path then
        if let some (_, number) := chosen then
          modify fun state => { state with found := number :: state.found }
        act member path ((chosen.map fun pair => pair.1.places).getD places)
      if !member.isWhole then
        giveUp "Unexpected EOF in archive".toList
  tellWildcards plan sought
  tellMissing sought

/-- Fail if the program that unpacked the archive did. -/
def endReading (inlet : Inlet) : Act Unit := do
  if inlet.child != 0 then
    giveUp ("Child returned status ".toList ++ decimal inlet.child)

/-- List an archive. -/
def list (plan : Plan) (path : Raw) : Work Unit := do
  let (sought, places) ← plan.sought
  let inlet ← readArchive plan path
  goThrough plan sought places inlet fun member _ _ => do
    let bare := dropTrailing (· == '/') member.entry.name
    let name := if plan.showsChanged && !bare.isEmpty then changed plan bare ++ member.entry.name.drop bare.length
      else member.entry.name
    let line ← if plan.verbose = 0 then pure (shown name) else longLine plan member.entry name
    tell false line
  endReading inlet

/-- Make the directories above a path; whether that worked. -/
def makeParents (plan : Plan) (path : Raw) : Work Unit := do
  let parents := ((List.range path.length).filter fun place => place != 0 && path[place]? == some '/').map fun place =>
    path.take place
  let mut going := true
  for parent in parents do
    if going then
      match ← Act.makeDirectory parent 0o777 with
      | none =>
        if 1 < plan.verbose then
          let mode := Mode.without 0o777 (← Act.mask)
          let what := "Creating directory:".toList
          let blanks := List.replicate ((← get).width + 18 - what.length) ' '
          tell plan.toOutput ('d' :: Mode.letters mode ++ blanks ++ what ++ ' ' :: shown parent)
      | some .alreadyThere => pure ()
      | some reason => do
        faultAbout parent "Cannot mkdir" reason
        going := false

/-- Remove what stands in the way: a file, or a directory that is empty. -/
def clear (path : Raw) : Act Bool := do
  match ← Act.inspect path false with
  | .error _ => pure false
  | .ok status => do
    let failure ← if status.kind == .directory then Act.removeDirectory path else Act.remove path
    pure failure.isNone

/-- Make something at a path, trying once more after what stands in the way has gone, or the directories above have been
made. -/
def making (plan : Plan) (path : Raw) (what : String) (attempt : Act (Option OsError)) : Work Bool := do
  if plan.existing == .removed then
    let _ ← clear path
  let again : Work Bool := do
    match ← attempt with
    | none => pure true
    | some reason => do
      faultAbout path what reason
      pure false
  match ← attempt with
  | none => pure true
  | some .alreadyThere =>
    if plan.existing == .skipped then
      if 0 < plan.verbose then Act.complain (shownName path ++ ": skipping existing file".toList)
      pure false
    else if plan.existing == .kept then
      faultAbout path what .alreadyThere
      pure false
    else if ← clear path then again
    else do
      faultAbout path what .alreadyThere
      pure false
  | some .noEntry => do
    makeParents plan path
    again
  | some reason => do
    faultAbout path what reason
    pure false

/-- The mode that something restored gets. -/
def modeOf (plan : Plan) (entry : Entry) : Act Nat := do
  if plan.keepsModes then pure entry.mode
  else pure (Mode.without (Nat.land entry.mode 0o777) (← Act.mask))

/-- When something restored was changed. -/
def momentOf (entry : Entry) : Calendar.Moment :=
  Calendar.Moment.ofSeconds (Int.ofNat entry.changed)

/-- Restore a file. -/
def restoreFile (plan : Plan) (path : Raw) (entry : Entry) (octets : Bytes) : Work Unit := do
  let mode := Nat.land entry.mode 0o777
  let newest ← if plan.existing == .newerKept then do
      match ← Act.inspect path false with
      | .ok status => pure (decide (Int.ofNat entry.changed ≤ Calendar.Moment.seconds status.changed))
      | .error _ => pure false
    else pure false
  if newest then
    Act.complain ("Current ".toList ++ quoted path ++ " is newer or same age".toList)
  else
    let opening : Files.Opening := if plan.existing == .overwritten then { Files.Opening.writing with mode }
      else { writes := true, creates := true, exclusive := true, mode }
    let attempt : Act (Option OsError) := do
      let result : Except OsError Nat ← Act.ask (.openFile path opening)
      match result with
      | .error reason => pure (some reason)
      | .ok descriptor => do
        if !octets.isEmpty then
          let _ : Except OsError Unit ← Act.ask (.write descriptor octets)
        Act.ask (.close descriptor)
        pure none
    if ← making plan path "Cannot open" attempt then
      if plan.keepsModes then
        let _ ← Act.setMode path entry.mode
      if !plan.touches then
        let _ ← Act.touch path true .now (.at (momentOf entry))

/-- Restore a directory. -/
def restoreDirectory (plan : Plan) (path : Raw) (entry : Entry) : Work Unit := do
  let mode ← modeOf plan entry
  let attempt := Act.makeDirectory path (Nat.lor mode 0o700)
  let late : Work Unit := do
    modify fun state => { state with directories := (path, mode, momentOf entry) :: state.directories }
  let isThere ← match ← Act.inspect path false with
    | .ok status => pure (status.kind == .directory)
    | .error _ => pure false
  if isThere then
    if plan.existing == .skipped then
      if 0 < plan.verbose then Act.complain (shownName path ++ ": skipping existing file".toList)
    else if plan.existing != .kept then late
  else if ← making { plan with existing := if plan.existing == .kept then .kept else .usual } path "Cannot mkdir" attempt then
    late

/-- Restore what a member stands for at a path. -/
def restoreAt (plan : Plan) (inlet : Inlet) (member : Member) (path : Raw) : Work Unit := do
  let entry := member.entry
  if entry.isDirectory then restoreDirectory plan path entry
  else match entry.kind with
    | .second => do
      let target ← safe plan true entry.target
      let target := (stripped? plan.stripped (changed plan target)).getD target
      let isSame ← match ← Act.inspect path false, ← Act.inspect target false with
        | .ok one, .ok other => pure (one.number.isSome && one.number == other.number)
        | _, _ => pure false
      if !isSame then
        let _ ← making plan path ("Cannot hard link to " ++ String.ofList (quoted target)) (Act.makeName target path)
    | .link => do
      let made ← making plan path ("Cannot create symlink to " ++ String.ofList (quoted entry.target))
        (Act.makeLink entry.target path)
      if made && !plan.touches then
        let _ ← Act.touch path false .now (.at (momentOf entry))
    | .channel => do
      let attempt : Act (Option OsError) := do
        let result : Except OsError Unit ← Act.ask (.makeChannel path (Nat.land entry.mode 0o777))
        pure (Act.outcome result)
      let made ← making plan path "Cannot mkfifo" attempt
      if made && !plan.touches then
        let _ ← Act.touch path false .now (.at (momentOf entry))
    | .characters => faultAbout path "Cannot mknod" .notPermitted
    | .blocks => faultAbout path "Cannot mknod" .notPermitted
    | .label => pure ()
    | kind => do
      if let .other sign := kind then
        Act.complain (shownName path ++ ": Unknown file type ".toList ++ quoted [sign] ++
          ", extracted as normal file".toList)
      if !member.isWhole then fault "Unexpected EOF in archive".toList
      restoreFile plan path entry (member.octets inlet.octets)

/-- The directory that is named as an archive, without what tells that it is one. -/
def topName (path : Raw) : Raw :=
  let name := Path.lastName path
  let endings := [".tar.gz", ".tar.bz2", ".tar.xz", ".tar.lzma", ".tar.lz", ".tar.lzo", ".tar.Z", ".tar.zst", ".tar", ".tgz",
    ".taz", ".tbz", ".tbz2", ".tz2", ".txz", ".tlz", ".tzst", ".taZ"]
  match endings.find? fun ending => ending.toList.isSuffixOf name && ending.length < name.length with
  | some ending => name.take (name.length - ending.length)
  | none => name

/-- Restore what is in an archive. -/
def extract (plan : Plan) (path : Raw) : Work Unit := do
  let (sought, places) ← plan.sought
  let home : Raw ← Act.ask .whereabouts
  let inlet ← readArchive plan path
  if sought.isEmpty then goTo home places
  let top := plan.top.map fun given => given.getD (topName path)
  goThrough plan sought places inlet fun member path places => do
    let path := changed plan path
    match stripped? plan.stripped path with
    | none => pure ()
    | some path => do
      let path := match top with
        | some top => if path == top || (top ++ ['/']).isPrefixOf path then path else top ++ '/' :: path
        | none => path
      goTo home places
      if 0 < plan.verbose then
        let name := if plan.showsChanged then path ++ (if member.entry.isDirectory then ['/'] else []) else member.entry.name
        let line ← if plan.verbose = 1 then pure (shown name) else longLine plan member.entry name
        tell plan.toOutput line
      if plan.toOutput then
        if member.entry.kind == .file && !member.entry.isDirectory then Act.put (member.octets inlet.octets)
      else restoreAt plan inlet member path
  for (path, mode, moment) in (← get).directories do
    let _ ← Act.setMode path mode
    if !plan.touches then
      let _ ← Act.touch path true .now (.at moment)
  endReading inlet

/-- Whether an entry stands for the kind of file that is there. -/
def isKind (entry : Entry) (status : Status) : Bool :=
  if entry.isDirectory then status.kind == .directory
  else match entry.kind with
    | .link => status.kind == .link
    | .channel => status.kind == .channel
    | .characters => status.kind == .device
    | .blocks => status.kind == .device
    | _ => status.kind == .file

/-- Compare a member with what is there. -/
def compareMember (plan : Plan) (inlet : Inlet) (member : Member) (path : Raw) : Work Unit := do
  let entry := member.entry
  let differs := fun (what : String) => do
    Act.sayLine (shown path ++ ": ".toList ++ what.toList)
    if (← getThe Output).status = 0 then Act.fail 1
  let missing := fun (reason : OsError) => do
    Act.complain (shownName path ++ ": Warning: Cannot stat: ".toList ++ reason.description)
    if (← getThe Output).status = 0 then Act.fail 1
  if entry.kind == .label then return
  match ← Act.inspect path false with
  | .error reason => missing reason
  | .ok status => do
    if entry.kind == .second then
      let target ← safe plan true entry.target
      match ← Act.inspect target false with
      | .error reason => missing reason
      | .ok other =>
        if status.number.isNone || status.number != other.number then
          differs ("Not linked to " ++ String.ofList (shown target))
    else if !isKind entry status then differs "File type differs"
    else if entry.kind == .link then
      let target : Except OsError Raw ← Act.linkTarget path
      if target.toOption != some entry.target then differs "Symlink differs"
    else do
      if Nat.land entry.mode 0o7777 != status.mode then differs "Mode differs"
      if entry.kind == .file && !entry.isDirectory then
        let own := if status.foreign then 0 else 65534
        if entry.owner != own then differs "Uid differs"
        if entry.group != own then differs "Gid differs"
        if momentOf entry != Calendar.Moment.ofSeconds (Calendar.Moment.seconds status.changed) then
          differs "Mod time differs"
        if status.size != entry.size then differs "Size differs"
        else
          match ← Act.readFile path with
          | .error reason => do
            faultAbout path "Cannot open" reason
          | .ok octets => if octets != member.octets inlet.octets then differs "Contents differ"

/-- Compare what is in an archive with what is there. -/
def compare (plan : Plan) (path : Raw) : Work Unit := do
  let (sought, places) ← plan.sought
  let home : Raw ← Act.ask .whereabouts
  let inlet ← readArchive plan path
  goTo home places
  goThrough plan sought places inlet fun member path places => do
    goTo home places
    if 0 < plan.verbose then
      let line ← if plan.verbose = 1 then pure (shown member.entry.name) else longLine plan member.entry member.entry.name
      tell false line
    compareMember plan inlet member path
  endReading inlet

/-- Tell the label of an archive; whether it is one of those that are named. -/
def tellLabel (plan : Plan) (path : Raw) : Work Unit := do
  let (sought, _) ← plan.sought
  let inlet ← readArchive plan path
  let label := (((Bundle.contents inlet.octets false).members.head?.filter fun member =>
    member.entry.kind == .label).map fun member => member.entry.name).getD []
  if sought.isEmpty then
    if !label.isEmpty then Act.sayLine (shown label)
  else if !sought.any fun one => one.pattern.text == label then Act.fail 1

end Bundling

end AnswerQuery.Host.Tool
