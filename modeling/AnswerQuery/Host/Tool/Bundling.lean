import AnswerQuery.Host.Tool.Bundling.Restoring

/-! Archives of files: made, changed, listed, and restored. -/

namespace AnswerQuery.Host.Tool

namespace Bundling

open AnswerQuery.Host.Bundle (Member)

/-- An archive that is there, or is made, and what it has so far. -/
def openKept (path : Raw) (makes : Bool) : Act (Outlet × Array UInt8) := do
  let outlet ← openOutlet path { reads := true, writes := true, creates := makes }
  let octets : Except OsError Bytes ← StateT.lift (Job.readAll (if path == ['-'] then 0 else outlet.descriptor))
  match octets with
  | .error reason => giveUp (shownName path ++ ": Cannot read: ".toList ++ reason.description)
  | .ok octets =>
    if octets.take 2 == Packing.Member.marks then giveUp "Cannot update compressed archives".toList
    if path != ['-'] then
      let _ : Except OsError Unit ← Act.ask (.move outlet.descriptor (-(Int.ofNat octets.length)))
    pure (outlet, octets.toArray)

/-- Complain about what an archive has and what makes no sense. -/
def tellFindings (contents : Bundle.Contents) : Act Unit := do
  for finding in contents.findings do
    match finding with
    | .foreign => fault "This does not look like a tar archive".toList
    | .nonsense => fault "Skipping to next header".toList
    | .loneZeros count => Act.complain ("A lone zero block at ".toList ++ decimal count)
    | .member _ => pure ()

/-- Write what an archive has kept and what is new. -/
def rewrite (plan : Plan) (outlet : Outlet) (kept : Bytes) : Work Unit := do
  let octets := Bundle.closed plan.factor (kept ++ (← get).pieces.reverse.flatten)
  writeArchive outlet octets (outlet.name != ['-'])

/-- The octets of an archive up to a block. -/
def upTo (octets : Array UInt8) (block : Nat) : Bytes :=
  (octets.extract 0 (block * Bundle.blockSize)).toList

/-- Append files. -/
def append (plan : Plan) (path : Raw) : Work Unit := do
  tellLate plan
  let (sought, _) ← plan.sought
  let home : Raw ← Act.ask .whereabouts
  let (outlet, octets) ← openKept path true
  let contents := Bundle.contents octets false
  tellFindings contents
  storeAll plan outlet home sought
  rewrite plan outlet (upTo octets contents.finish)
  removeStored

/-- The names whose files are newer than what members have of them; a directory that a member stands for gives way to
what is in it. -/
def newerOf (plan : Plan) (sought : List Sought) (members : List Member) : Work (List Sought) :=
  members.foldlM (fun (sought : List Sought) member => do
    let bare := dropTrailing (· == '/') member.entry.name
    match sought.find? fun one => one.pattern.text == bare with
    | none => pure sought
    | some one =>
      let others := sought.filter fun other => other.pattern.text != bare
      match ← Act.inspect bare plan.follows with
      | .error _ => pure sought
      | .ok status =>
        if status.kind == .directory then
          match ← Act.names bare with
          | .error _ => pure sought
          | .ok names =>
            pure (others ++ names.map fun name => { one with pattern := { one.pattern with text := bare ++ '/' :: name } })
        else
          pure (if Calendar.Moment.seconds status.changed ≤ Int.ofNat member.entry.changed then others else sought)) sought

/-- Append files that are newer than what the archive has of them. -/
def update (plan : Plan) (path : Raw) : Work Unit := do
  tellLate plan
  let (sought, _) ← plan.sought
  let home : Raw ← Act.ask .whereabouts
  let (outlet, octets) ← openKept path true
  let contents := Bundle.contents octets false
  tellFindings contents
  let sought ← newerOf plan sought contents.members
  storeAll plan outlet home sought
  rewrite plan outlet (upTo octets contents.finish)

/-- Append the members of other archives. -/
def join (plan : Plan) (path : Raw) : Work Unit := do
  let (sought, _) ← plan.sought
  let (outlet, octets) ← openKept path true
  let contents := Bundle.contents octets false
  tellFindings contents
  for one in sought do
    match ← Act.readFile one.pattern.text with
    | .error reason => faultAbout one.pattern.text "Cannot open" reason
    | .ok other =>
      let other := other.toArray
      let contents := Bundle.contents other false
      emit (upTo other contents.finish)
  rewrite plan outlet (upTo octets contents.finish)

/-- Remove members. -/
def delete (plan : Plan) (path : Raw) : Work Unit := do
  let (sought, _) ← plan.sought
  let (outlet, octets) ← openKept path false
  let contents := Bundle.contents octets false
  tellFindings contents
  let members := contents.members
  for member in members do
    let bare := dropTrailing (· == '/') member.entry.name
    match soughtFor? sought bare with
    | some (_, number) => modify fun state => { state with found := number :: state.found }
    | none =>
      emit (octets.extract (member.first * Bundle.blockSize) (member.next * Bundle.blockSize)).toList
  rewrite plan outlet []
  tellMissing sought

end Bundling

/-- Make, change, list or restore an archive. -/
def tar : Utility := fun _ arguments =>
  let act : List Raw → Act Unit := fun arguments => do
    let plan ← Bundling.planOf arguments
    let some action := plan.action |
      Bundling.misuse "You must specify one of the '-Acdtrux', '--delete' or '--test-label' options".toList
    if 1 < plan.archives.length then Bundling.misuse "Multiple archive files require '-M' option".toList
    let path := plan.archives.head?.getD ['-']
    let changes := action == .append || action == .update || action == .join || action == .delete
    if changes && plan.packed != .found && plan.packed != .named then
      Bundling.misuse "Cannot update compressed archives".toList
    let hasNames := plan.names.any fun named => match named with
      | .place _ => false
      | _ => true
    if action == .create && !hasNames then Bundling.misuse "Cowardly refusing to create an empty archive".toList
    let work : Bundling.Work Unit := match action with
      | .create => Bundling.create plan path
      | .list => Bundling.list plan path
      | .extract => Bundling.extract plan path
      | .append => Bundling.append plan path
      | .update => Bundling.update plan path
      | .join => Bundling.join plan path
      | .delete => Bundling.delete plan path
      | .compare => Bundling.compare plan path
      | .label => Bundling.tellLabel plan path
    let _ ← work.run {}
    if (← get).status = 2 then
      Act.complain "Exiting with failure status due to previous errors".toList
  ofAct act "tar".toList arguments

/-- The programs of this kind. -/
def bundlingTools : List (String × Utility) :=
  [("tar", tar)]

end AnswerQuery.Host.Tool
