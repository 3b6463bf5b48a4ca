import AnswerQuery.Host.Tool.Child
import AnswerQuery.Host.Tool.Mode
import AnswerQuery.Host.Tool.Moving

/-! Installing files: copies with a mode of their own, in directories that are made where that is wished. -/

namespace AnswerQuery.Host.Tool

namespace Installing

/-- What is to be done. -/
structure Plan where
  /-- How files are copied. -/
  copying : Moving.Plan
  /-- The mode of files. -/
  mode : Nat
  /-- Whether a file that is there already is kept if it is the same. -/
  compares : Bool
  /-- Whether directories are made. -/
  makes : Bool
  /-- Whether symbols are taken out of programs. -/
  strips : Option Raw
  /-- Whether the owner cannot be set. -/
  owned : Bool

/-- Make one of the directories on the way to a file. -/
def Plan.makeOne (plan : Plan) (mode : Nat) (path : Raw) : Act (Option OsError) := do
  let mask : Nat ← Act.ask (.setMask 0)
  let made ← Act.makeDirectory path mode
  let _ ← Act.ask (.setMask mask)
  if made.isNone && plan.copying.verbose then
    Act.sayLine ((← get).name ++ ": creating directory ".toList ++ quotedWord path)
  pure made

/-- The directories that a path leads through, the first one first. -/
def ancestors : Nat → Raw → List Raw
  | 0, _ => []
  | steps + 1, path =>
    match Path.parent? path with
    | none => []
    | some parent => if parent == ['/'] then [] else ancestors steps parent ++ [parent]

/-- Make the directories on the way to a path; whether that worked out. -/
def Plan.makeAncestors (plan : Plan) : List Raw → Act Bool
  | [] => pure true
  | path :: others => do
    if ← Act.isDirectory path true then plan.makeAncestors others
    else match ← plan.makeOne 0o755 path with
      | none => plan.makeAncestors others
      | some reason => do
        Act.complainAbout 1 "cannot create directory" path (if reason == .alreadyThere then .notDirectory else reason)
        pure false

/-- Make the directories on the way to a file if that is wished; whether it can be installed then. -/
def Plan.makesWay (plan : Plan) (isFirst : Bool) (path : Raw) : Act Bool :=
  if plan.makes && isFirst then plan.makeAncestors (ancestors path.length path) else pure true

/-- Make a directory and those on the way to it. -/
def Plan.makeDirectory (plan : Plan) (mode : Nat) (path : Raw) : Act Unit := do
  if ← plan.makeAncestors (ancestors path.length path) then
    match ← plan.makeOne 0o755 path with
    | none => do
      let _ ← Act.setMode path mode
    | some reason =>
      if ← Act.isDirectory path true then
        let _ ← Act.setMode path mode
      else Act.complainAbout 1 "cannot create directory" path reason

/-- Whether a file is the same as another one and has the mode that is wished. -/
def Plan.isThere (plan : Plan) (source target : Raw) : Act Bool := do
  match ← Act.inspect source false, ← Act.inspect target false with
  | .ok first, .ok second =>
    if 0o777 < plan.mode || first.kind != .file || second.kind != .file || first.size != second.size ||
        second.mode != plan.mode then pure false
    else match ← Act.readFile source, ← Act.readFile target with
      | .ok octets, .ok others => pure (octets == others)
      | _, _ => pure false
  | _, _ => pure false

/-- Take the symbols out of a program. -/
def strip (program path : Raw) : Act Bool := do
  Act.flush
  let bindings ← Act.bindings
  let called := (← get).name
  let child ← Act.start do
    let reason ← become [program, path] bindings
    Job.complain (Raw.octets (called ++ ": cannot run ".toList ++ program ++ ": ".toList ++ reason.description ++ ['\n']))
    pure 1
  match ← Act.await child with
  | .exited 0 => pure true
  | _ => do
    Act.complain "strip process terminated abnormally".toList
    pure false

/-- Install a file at a path. -/
def Plan.install (plan : Plan) (record : Moving.Record) (source target : Raw) : Act Moving.Record := do
  if plan.compares then
    if ← plan.isThere source target then return record
  let (outcome, record) ← (Moving.carryOut plan.copying 2 true ⟨source, target, source, target⟩).run record
  if outcome != .done then pure record
  else
    let stripped ← match plan.strips with
      | none => pure true
      | some program => do
        let worked ← strip program target
        if !worked then
          let _ ← Act.remove target
          Act.fail 1
        pure worked
    if stripped then
      if plan.owned then Act.complainAbout 1 "cannot change ownership of" target .notPermitted
      else if let some reason := ← Act.setMode target plan.mode then
        Act.complainAbout 1 "cannot change permissions of" target reason
    pure record

/-- The options. -/
def known : List Known :=
  [⟨"b", "", .nothing⟩, ⟨"backup", "backup", .maybe⟩, ⟨"C", "compare", .nothing⟩, ⟨"c", "", .nothing⟩,
    ⟨"Z", "context", .maybe⟩, ⟨"d", "directory", .nothing⟩, ⟨"D", "", .nothing⟩, ⟨"g", "group", .always⟩,
    ⟨"m", "mode", .always⟩, ⟨"T", "no-target-directory", .nothing⟩, ⟨"o", "owner", .always⟩,
    ⟨"p", "preserve-timestamps", .nothing⟩, ⟨"preserve-context", "preserve-context", .nothing⟩,
    ⟨"s", "strip", .nothing⟩, ⟨"strip-program", "strip-program", .always⟩, ⟨"S", "suffix", .always⟩,
    ⟨"t", "target-directory", .always⟩, ⟨"v", "verbose", .nothing⟩]

/-- Whether a name or a number is one of an owner. -/
def isOwner (text : Raw) : Bool :=
  text == "root".toList || (!text.isEmpty && text.all Char.isDigit)

/-- Where files are put: into a directory, or at a path. -/
inductive Place where
  | into (directory : Raw)
  | at_ (path : Raw)

/-- What is installed, and where. -/
def placesOf (invocation : Invocation) : Act (List Raw × Place) := do
  let operands := invocation.operands
  let into := invocation.argument? "t"
  match operands, into with
  | [], _ => Act.refuse 1 "missing file operand".toList
  | [first], none => Act.refuse 1 ("missing destination file operand after ".toList ++ quotedWord first)
  | _, some directory => do
    if invocation.has "T" then
      Act.die 1 "cannot combine --target-directory (-t) and --no-target-directory (-T)".toList
    match ← Act.inspect directory true with
    | .ok status =>
      if status.kind != .directory then
        Act.die 1 ("failed to access ".toList ++ quotedWord directory ++ ": Not a directory".toList)
    | .error reason =>
      if !(invocation.has "D" && reason == .noEntry) then
        Act.die 1 ("failed to access ".toList ++ quotedWord directory ++ ": ".toList ++ reason.description)
    pure (operands, .into directory)
  | operands, none => do
    let last := operands.getLast?.getD []
    if invocation.has "T" then
      if let some extra := operands[2]? then Act.refuse 1 ("extra operand ".toList ++ quotedWord extra)
      pure (operands.take 1, .at_ last)
    else match ← Moving.directoryOf? invocation last operands.length with
      | some directory => pure (operands.dropLast, .into directory)
      | none => pure (operands.take 1, .at_ last)

end Installing

open Installing in
/-- Install files. -/
def install : Utility := ofAct fun arguments => do
  let invocation ← Act.readOptions 1 known false arguments
  if 1 < (invocation.arguments "t").length then Act.die 1 "multiple target directories specified".toList
  let makesDirectories := invocation.has "d"
  if makesDirectories && invocation.has "s" then
    Act.die 1 "the strip option may not be used when installing a directory".toList
  if makesDirectories && invocation.has "t" then
    Act.die 1 "target directory not allowed when installing a directory".toList
  let (keeping, ending) ← Keeping.read invocation
  if makesDirectories && invocation.operands.isEmpty then Act.refuse 1 "missing file operand".toList
  let (sources, place) ← if makesDirectories then pure (invocation.operands, .into []) else placesOf invocation
  let modes ← match invocation.argument? "m" with
    | none => pure (0o755, 0o755)
    | some text => match Mode.read text with
      | none => Act.die 1 ("invalid mode ".toList ++ quoted text)
      | some changes => pure (Mode.adjust false 0 changes 0, Mode.adjust true 0 changes 0)
  if invocation.has "strip-program" && !invocation.has "s" then
    Act.complain "WARNING: ignoring --strip-program option as -s option was not specified".toList
  if invocation.has "C" && invocation.has "p" then
    Act.refuse 1 "options --compare (-C) and --preserve-timestamps are mutually exclusive".toList
  if invocation.has "C" && invocation.has "s" then
    Act.refuse 1 "options --compare (-C) and --strip are mutually exclusive".toList
  if invocation.has "C" && 0o777 < modes.1 then
    Act.complain "the --compare (-C) option is ignored when you specify a mode with non-permission bits".toList
  if let some owner := invocation.argument? "o" then
    if !isOwner owner then Act.die 1 ("invalid user ".toList ++ quoted owner)
  if let some group := invocation.argument? "g" then
    if !isOwner group then Act.die 1 ("invalid group ".toList ++ quoted group)
  let plan : Plan := {
    copying := {
      moves := false, recursive := false, following := .always, replacing := .always, onlyOlder := false, force := false
      removesFirst := true, keeping, ending, symbolic := false, hard := false, modes := .usual
      keepsTimes := invocation.has "p", keepsNames := false, empty := false, verbose := invocation.has "v"
      installs := true }
    mode := modes.1, compares := invocation.has "C", makes := invocation.has "D"
    strips := if invocation.has "s" then some ((invocation.argument? "strip-program").getD "strip".toList) else none
    owned := invocation.has "o" || invocation.has "g" }
  if makesDirectories then
    for path in sources do
      plan.makeDirectory modes.2 path
  else match place, sources with
    | .at_ target, source :: _ => do
      if ← plan.makesWay true target then
        let _ ← plan.install {} source target
    | .into directory, sources => do
      let mut record : Moving.Record := {}
      for (source, index) in sources.zipIdx do
        let target := Path.beneath directory (Path.lastName source)
        if ← plan.makesWay (index == 0) target then
          record ← plan.install record source target
    | _, [] => pure ()

/-- The programs of this kind. -/
def installingTools : List (String × Utility) :=
  [("install", install)]

end AnswerQuery.Host.Tool
