import AnswerQuery.Host.Tool.Keeping
import AnswerQuery.Host.Tool.Mode

/-! Copying and moving files and directories. -/

namespace AnswerQuery.Host.Tool

namespace Moving

/-- Which links are followed that are copied. -/
inductive Following where
  | never
  /-- Those that were named. -/
  | named
  | always
  deriving DecidableEq, Repr

/-- What is done about a file that is there already. -/
inductive Replacing where
  | always
  /-- It is asked before. -/
  | asking
  /-- It stays. -/
  | never
  deriving DecidableEq, Repr

/-- What becomes of the mode of a file. -/
inductive Modes where
  | usual
  /-- A copy gets the same mode. -/
  | kept
  /-- A copy gets the mode of a new file. -/
  | dropped
  deriving DecidableEq, Repr

/-- How files are copied or moved. -/
structure Plan where
  /-- Whether they are moved. -/
  moves : Bool
  /-- Whether directories are copied with all that is in them. -/
  recursive : Bool
  /-- Which links are followed. -/
  following : Following
  /-- What is done about files that are there already. -/
  replacing : Replacing
  /-- Whether files that are newer stay. -/
  onlyOlder : Bool
  /-- Whether a file that cannot be written is removed. -/
  force : Bool
  /-- Whether a file is removed before another one is put in its place. -/
  removesFirst : Bool
  /-- How files are kept that are replaced. -/
  keeping : Option Keeping
  /-- What their names end with. -/
  ending : Raw
  /-- Whether links to the files are made. -/
  symbolic : Bool
  /-- Whether the files get second names. -/
  hard : Bool
  /-- What becomes of modes. -/
  modes : Modes
  /-- Whether it stays known when files were changed. -/
  keepsTimes : Bool
  /-- Whether files with several names are copied once. -/
  keepsNames : Bool
  /-- Whether nothing is copied of what is in files. -/
  empty : Bool
  /-- Whether it is told what is done. -/
  verbose : Bool
  /-- Whether files are installed. -/
  installs : Bool := false

/-- What has been done. -/
structure Record where
  /-- The nodes that were named, and how. -/
  named : List (Nat × Raw) := []
  /-- The nodes that came from nodes that were named. -/
  made : List Nat := []
  /-- Nodes and the copies of them. -/
  copies : List (Nat × Raw) := []
  /-- Whether a directory has been made for what was named. -/
  started : Bool := false

/-- An activity that remembers what has been done. -/
abbrev Work := StateT Record Act

/-- What is copied or moved to where, and what was named when that began. -/
structure Step where
  /-- What is copied or moved. -/
  source : Raw
  /-- Where to. -/
  target : Raw
  /-- What was named. -/
  topSource : Raw
  /-- Where that is copied or moved to. -/
  topTarget : Raw

/-- How a step went. -/
inductive Outcome where
  | done
  | failed
  /-- A directory was found in itself. -/
  | circular
  deriving DecidableEq, Repr

/-- Complain, and the step has failed. -/
def refuse (message : Raw) : Work Outcome := do
  Act.complain message
  Act.fail 1
  pure .failed

/-- Complain about a file for a reason, and the step has failed. -/
def refuseFor (verb : String) (path : Raw) (reason : OsError) : Work Outcome :=
  refuse (verb.toList ++ ' ' :: quotedWord path ++ ": ".toList ++ reason.description)

/-- Whether two files are one. -/
def isSameNode (first second : Status) : Bool :=
  first.number.isSome && first.number == second.number

/-- What it means that the source and the target of a step are looked at together. -/
inductive Relation where
  /-- They are different enough. -/
  | distinct
  /-- There is nothing to do. -/
  | settled
  | same
  deriving DecidableEq, Repr

/-- Whether the source and the target of a step are the same file in a way that matters. -/
def relation (plan : Plan) (step : Step) (source target : Status) : Act Relation := do
  match ← Act.inspect step.source false, ← Act.inspect step.target false with
  | .ok sourceLink, .ok targetLink =>
    let sameLink := isSameNode sourceLink targetLink
    let sourceIsLink := sourceLink.kind == .link
    let targetIsLink := targetLink.kind == .link
    let sameName ← Act.isSameName step.source step.target
    let links : Nat ← Act.ask (.links step.target false)
    let either := fun (distinct : Bool) => pure (if distinct then Relation.distinct else .same)
    if plan.following == .never && sourceIsLink && targetIsLink then
      if !sameName && plan.keeping.isNone && sameLink then pure (if plan.moves then .same else .settled)
      else either (!sameName)
    else if plan.following != .never && !isSameNode source target then pure .distinct
    else if plan.following != .never && sourceIsLink && targetIsLink && plan.removesFirst then pure .distinct
    else if plan.keeping.isSome then
      if !sameLink then either (plan.moves || plan.following == .never || !sourceIsLink || targetIsLink)
      else either (!sameName)
    else if (plan.moves || plan.removesFirst) && targetIsLink then pure .distinct
    else if (plan.moves || plan.removesFirst) && sameLink && 1 < links && !sameName then either (!plan.moves)
    else if !sourceIsLink && !targetIsLink && !sameLink then pure .distinct
    else if !sourceIsLink && !targetIsLink && plan.hard then pure .settled
    else if plan.symbolic && targetIsLink then pure .distinct
    else if plan.following == .never then
      match ← Act.inspect step.source true, ← Act.inspect step.target true with
      | .ok one, .ok other =>
        if !isSameNode one other then pure .distinct
        else if plan.hard then pure (if targetIsLink then .distinct else .settled)
        else pure .same
      | _, _ => pure .distinct
    else pure .same
  | _, _ => pure .distinct

/-- Whether a file may be replaced, asking if that is wanted. -/
def mayReplace (plan : Plan) (target : Raw) (status : Status) : Act Bool := do
  let writable : Bool ← Act.ask (.allows target .write)
  if status.kind == .link || writable then Act.asks ("overwrite ".toList ++ quotedWord target)
  else
    let mode := Mode.octal status.mode
    let letters := Mode.letters status.mode
    if plan.moves || plan.removesFirst || plan.force then
      Act.asks ("replace ".toList ++ quotedWord target ++ ", overriding mode ".toList ++ mode ++ " (".toList ++ letters ++ [')'])
    else
      Act.asks ("unwritable ".toList ++ quotedWord target ++ " (mode ".toList ++ mode ++ ", ".toList ++ letters ++
        "); try anyway".toList)

/-- Tell what has been done. -/
def tell (front : String) (step : Step) (kept : Option Raw) : Act Unit :=
  Act.sayLine (front.toList ++ quotedWord step.source ++ " -> ".toList ++ quotedWord step.target ++ match kept with
    | some path => " (backup: ".toList ++ quotedWord path ++ [')']
    | none => [])

/-- Let a copy have the mode and the time of what it is a copy of, if that is wanted. -/
def dress (plan : Plan) (step : Step) (status : Status) : Act Unit := do
  if plan.modes == .kept then
    let _ ← Act.setMode step.target status.mode
  if plan.keepsTimes then
    let _ ← Act.touch step.target true (.at status.accessed) (.at status.changed)

/-- Copy what two descriptors stand for from one to the other. -/
def copyOctets (step : Step) (from_ to_ : Nat) : Work Outcome := do
  let result : Option (String × Raw × OsError) ← Act.loop () fun _ => do
    let octets : Except OsError Bytes ← Act.ask (.read from_ Job.chunk)
    match octets with
    | .error reason => pure (.inr (some ("error reading", step.source, reason)))
    | .ok [] => pure (.inr none)
    | .ok octets => do
      let written : Except OsError Unit ← Act.ask (.write to_ octets)
      match written with
      | .ok () => pure (.inl ())
      | .error reason => pure (.inr (some ("error writing", step.target, reason)))
  match result with
  | none => pure .done
  | some (verb, path, reason) => refuseFor verb path reason

/-- Open the file that something is copied to: one that is there, or a new one. -/
def openTarget (plan : Plan) (step : Step) (mode : Nat) (isNew : Bool) : Work (Except OsError Nat) := do
  let fresh : Work (Except OsError Nat) := do
    let opened : Except OsError Nat ← Act.ask (.openFile step.target { Files.Opening.writing with exclusive := true, mode })
    pure opened
  if isNew then fresh
  else
    let opened : Except OsError Nat ← Act.ask (.openFile step.target { writes := true, empties := !plan.empty })
    match opened with
    | .ok descriptor => pure (.ok descriptor)
    | .error reason =>
      if !plan.force then pure (.error reason)
      else match ← Act.remove step.target with
        | some reason => pure (.error reason)
        | none => do
          if plan.verbose then Act.sayLine ("removed ".toList ++ quotedWord step.target)
          fresh

/-- Copy a file. -/
def copyFile (plan : Plan) (step : Step) (status : Status) (isNew : Bool) : Work Outcome := do
  let opened : Except OsError Nat ← if plan.empty then pure (.ok 0) else Act.ask (.openFile step.source .reading)
  match opened with
  | .error reason =>
    refuse ("cannot open ".toList ++ quotedWord step.source ++ " for reading: ".toList ++ reason.description)
  | .ok reading => do
    let mode := if plan.modes == .dropped || status.kind != .file then 0o666 else status.mode
    let opened ← openTarget plan step mode isNew
    let outcome : Outcome ← match opened with
      | .error reason => do
        let isLink := match ← Act.inspect step.target false with
          | .ok there => there.kind == Kind.link
          | .error _ => false
        if reason == .alreadyThere && isLink then
          refuse ("not writing through dangling symlink ".toList ++ quotedWord step.target)
        else
          let slash := reason == .isDirectory && step.target.getLast? == some '/'
          refuseFor "cannot create regular file" step.target (if slash then .notDirectory else reason)
      | .ok writing => do
        let outcome ← if plan.empty then pure Outcome.done else copyOctets step reading writing
        Act.ask (.close writing)
        if outcome == .done then dress plan step status
        pure outcome
    if !plan.empty then Act.ask (.close reading)
    pure outcome

/-- Make a link, or a second name, in the place of a copy. -/
def copyAsLink (plan : Plan) (step : Step) (status : Status) (isNew : Bool) : Work Outcome := do
  let isHere := !(step.target.contains '/') || Path.placeOf step.target == ['.']
  if plan.symbolic && step.source.head? != some '/' && !isHere then
    refuse (nameFor step.target ++ ": can make relative symbolic links only in current directory".toList)
  else
    if !isNew && plan.force then
      let _ ← Act.remove step.target
    if plan.symbolic then
      match ← Act.makeLink step.source step.target with
      | none => pure .done
      | some reason =>
        refuse ("cannot create symbolic link ".toList ++ quotedWord step.target ++ " to ".toList ++ quotedWord step.source ++
          ": ".toList ++ reason.description)
    else
      let named ← if status.kind == .link then pure step.source
        else match ← Path.resolve .whole true step.source with
          | .ok names => pure (Path.ofNames names)
          | .error _ => pure step.source
      match ← Act.makeName named step.target with
      | none => pure .done
      | some reason =>
        refuse ("cannot create hard link ".toList ++ quotedWord step.target ++ " to ".toList ++ quotedWord step.source ++
          ": ".toList ++ reason.description)

/-- Copy what is no directory. -/
def copyLeaf (plan : Plan) (step : Step) (status : Status) (isNew : Bool) : Work Outcome := do
  if plan.symbolic || plan.hard then copyAsLink plan step status isNew
  else match status.kind with
    | .link =>
      match ← Act.linkTarget step.source with
      | .error reason => refuseFor "cannot read symbolic link" step.source reason
      | .ok target =>
        match ← Act.makeLink target step.target with
        | none => pure .done
        | some reason => refuseFor "cannot create symbolic link" step.target reason
    | .channel =>
      if !plan.recursive then copyFile plan step status isNew
      else
        let made : Except OsError Unit ← Act.ask (.makeChannel step.target status.mode)
        match made with
        | .ok () => do
          dress plan step status
          pure .done
        | .error reason => refuseFor "cannot create fifo" step.target reason
    | .device =>
      if plan.recursive then refuseFor "cannot create special file" step.target .notPermitted
      else copyFile plan step status isNew
    | _ => copyFile plan step status isNew

/-- The names in a directory in the order of what they stand for. -/
def namesInOrder (path : Raw) (names : List Raw) : Act (List Raw) := do
  let mut numbered : List (Nat × Raw) := []
  for name in names do
    let number := match ← Act.inspect (Path.beneath path name) false with
      | .ok status => status.number.getD 0
      | .error _ => 0
    numbered := (number, name) :: numbered
  pure ((numbered.reverse.mergeSort fun first second => first.1 ≤ second.1).map Prod.snd)

/-- Copy a directory, given how what is in it is copied. -/
def copyDirectory (plan : Plan) (descend : Step → Work Outcome) (step : Step) (status : Status) (isNew : Bool) :
    Work Outcome := do
  let failure ← if isNew then Act.makeDirectory step.target 0o777 else pure none
  match failure with
  | some reason => refuseFor "cannot create directory" step.target reason
  | none => do
    if isNew then
      if plan.verbose then
        if plan.moves then Act.sayLine ("created directory ".toList ++ quotedWord step.target)
        else tell "" step none
      if !(← get).started then
        let number := match ← Act.inspect step.target true with
          | .ok made => made.number.getD 0
          | .error _ => 0
        modify fun record => { record with started := true, copies := (number, step.target) :: record.copies }
    let outcome ← match ← Act.names step.source with
      | .error reason => refuseFor "cannot access" step.source reason
      | .ok names => do
        let mut outcome := Outcome.done
        for name in ← namesInOrder step.source names do
          if outcome != .circular then
            let next ← descend { step with
              source := Path.beneath step.source name, target := Path.beneath step.target name }
            if next != .done then outcome := next
        pure outcome
    if isNew && plan.modes != .dropped then
      let mask ← Act.mask
      let _ ← Act.setMode step.target (if plan.modes == .kept then status.mode else Mode.without status.mode mask)
    if plan.modes == .kept || plan.keepsTimes then dress plan step status
    pure outcome

/-- Put what a step names in its place once it is clear that this makes sense. -/
def transfer (plan : Plan) (descend : Step → Work Outcome) (named : Bool) (step : Step) (status : Status) (isNew : Bool)
    (kept : Option Raw) : Work Outcome := do
  let number := status.number.getD 0
  let isDirectory := status.kind == .directory
  let links : Nat ← Act.ask (.links step.source true)
  let record ← get
  let isCopied := if isDirectory then plan.recursive else !plan.moves && plan.keepsNames && 1 < links
  let earlier := if isCopied then record.copies.lookup number else none
  if isCopied && earlier.isNone && (named || !isDirectory) then
    modify fun record => { record with copies := (number, step.target) :: record.copies }
  let again := if isDirectory then earlier else none
  let isInside ← match again with
    | some path => Act.isSameName step.source path
    | none => pure false
  let isRepeated ← match again with
    | some path => Act.isSameName step.target path
    | none => pure false
  if isInside then
    Act.complain ("cannot copy a directory, ".toList ++ quotedWord step.topSource ++ ", into itself, ".toList ++
      quotedWord step.topTarget)
    Act.fail 1
    pure .circular
  else if isRepeated then
    Act.complain ("warning: source directory ".toList ++ quotedWord step.topSource ++ " specified more than once".toList)
    pure .done
  else if plan.moves then
    match ← Act.rename step.source step.target with
    | none => do
      if plan.verbose then tell "renamed " step kept
      pure .done
    | some .invalid =>
      refuse ("cannot move ".toList ++ quotedWord step.topSource ++ " to a subdirectory of itself, ".toList ++
        quotedWord step.topTarget)
    | some reason =>
      refuse ("cannot move ".toList ++ quotedWord step.source ++ " to ".toList ++ quotedWord step.target ++ ": ".toList ++
        reason.description)
  else if isDirectory then copyDirectory plan descend step status isNew
  else
    if plan.verbose then tell "" step kept
    match earlier with
    | some path =>
      match ← Act.makeName path step.target with
      | none => pure .done
      | some reason =>
        refuse ("cannot create hard link ".toList ++ quotedWord step.target ++ " to ".toList ++ quotedWord path ++
          ": ".toList ++ reason.description)
    | none => copyLeaf plan step status isNew

/-- Deal with what is at the target of a step already, and go on with the step. -/
def replace (plan : Plan) (descend : Step → Work Outcome) (named : Bool) (step : Step) (source target : Status) :
    Work Outcome := do
  let sourceIsDirectory := source.kind == .directory
  let targetIsDirectory := target.kind == .directory
  let relation ← relation plan step source target
  if relation == .same then
    refuse (quotedWord step.source ++ " and ".toList ++ quotedWord step.target ++ " are the same file".toList)
  else if relation == .settled then pure .done
  else if plan.onlyOlder && !sourceIsDirectory && source.changed ≤ target.changed then pure .done
  else
    let allowed : Bool ← match plan.replacing with
      | .always => pure true
      | .asking => if sourceIsDirectory && !plan.moves then pure true else mayReplace plan step.target target
      | _ => pure (sourceIsDirectory && !plan.moves)
    if !allowed then pure .done
    else if targetIsDirectory && !sourceIsDirectory && (!plan.moves || plan.keeping.isNone) then
      refuse ("cannot overwrite directory ".toList ++ quotedWord step.target ++ " with non-directory".toList)
    else if named && !sourceIsDirectory && (plan.keeping != some .numbered) &&
        (← get).made.contains (target.number.getD 0) then
      refuse ("will not overwrite just-created ".toList ++ quotedWord step.target ++ " with ".toList ++
        quotedWord step.source)
    else if sourceIsDirectory && !targetIsDirectory && (!plan.moves || plan.keeping.isNone) then
      refuse ("cannot overwrite non-directory ".toList ++ quotedWord step.target ++ " with directory ".toList ++
        quotedWord step.source)
    else
      let last := Path.lastName step.target
      let keeping := if last == ['.'] || last == ['.', '.'] || (!plan.moves && targetIsDirectory) then none
        else plan.keeping
      match keeping with
      | some keeping => do
        let path ← keeping.pathOf plan.ending (Path.withoutSlashes step.target)
        match ← Act.rename step.target path with
        | some reason => refuseFor "cannot backup" step.target reason
        | none => transfer plan descend named step source true (some path)
      | none =>
        let removes := !targetIsDirectory && !plan.moves &&
          (plan.removesFirst || (plan.following == .never && source.kind != .file))
        if !removes then transfer plan descend named step source false none
        else match ← Act.remove step.target with
          | some reason => refuseFor "cannot remove" step.target reason
          | none => do
            if plan.verbose then Act.sayLine ("removed ".toList ++ quotedWord step.target)
            transfer plan descend named step source true none

/-- Whether what a step names is a file that was named in the same place before and is copied once. -/
def isNamedAgain (plan : Plan) (named : Bool) (step : Step) (source : Status) : Work Bool := do
  if !named || source.kind == .directory || plan.installs || plan.moves || plan.keeping.isSome then pure false
  else
    let mut again := false
    for (number, path) in (← get).named do
      if number == source.number.getD 0 then
        if ← Act.isSameName step.source path then again := true
    pure again

/-- Copy or move what a step names, and what is in it to a depth. -/
def carryOut (plan : Plan) : Nat → Bool → Step → Work Outcome
  | 0, _, _ => pure .failed
  | depth + 1, named, step => do
    let follows := plan.following == .always || (named && plan.following == .named)
    match ← Act.inspect step.source follows with
    | .error reason => refuseFor "cannot stat" step.source reason
    | .ok source =>
      let number := source.number.getD 0
      let isDirectory := source.kind == .directory
      if isDirectory && !plan.recursive && !plan.moves then
        refuse ((if plan.installs then "omitting directory " else "-r not specified; omitting directory ").toList ++
          quotedWord step.source)
      else if (← isNamedAgain plan named step source) then
        Act.complain ("warning: source file ".toList ++ quotedWord step.source ++ " specified more than once".toList)
        pure .done
      else
        if named && !isDirectory then modify fun record => { record with named := (number, step.source) :: record.named }
        let plain := plan.moves || plan.symbolic || plan.hard || plan.keeping.isSome || plan.removesFirst ||
          (source.kind != .file && (plan.recursive || isDirectory || source.kind == .link))
        let outcome ← match ← Act.inspect step.target (!plain) with
          | .error .noEntry =>
            if (plan.moves || plan.installs) && step.target.isEmpty && !isDirectory then
              refuse "cannot overwrite directory '' with non-directory".toList
            else transfer plan (carryOut plan depth false) named step source true none
          | .error .tooManyLinks =>
            if plan.force then transfer plan (carryOut plan depth false) named step source true none
            else refuseFor "cannot stat" step.target .tooManyLinks
          | .error reason => refuseFor "cannot stat" step.target reason
          | .ok target => replace plan (carryOut plan depth false) named step source target
        if named && outcome == .done && !isDirectory then
          if let .ok made := ← Act.inspect step.target false then
            modify fun record => { record with made := made.number.getD 0 :: record.made }
        pure outcome

/-- Copy or move what was named. -/
def begin_ (plan : Plan) (source target : Raw) : Work Unit := do
  modify fun record => { record with started := false }
  let _ ← carryOut plan 300 true ⟨source, target, source, target⟩

/-- Make the directories that a path leads through below a directory. -/
def makeParents (plan : Plan) (directory : Raw) : List Raw → Raw → Act Bool
  | [], _ => pure true
  | name :: names, path => do
    let source := if path.isEmpty then name else Path.beneath path name
    let target := Path.beneath directory source
    let goOn := makeParents plan directory names source
    match ← Act.inspect target true with
    | .ok status =>
      if status.kind == .directory then goOn
      else do
        Act.complain (quotedWord target ++ " exists but is not a directory".toList)
        Act.fail 1
        pure false
    | .error _ =>
      match ← Act.inspect source true with
      | .error reason => do
        Act.complainAbout 1 "failed to get attributes of" source reason
        pure false
      | .ok status =>
        match ← Act.makeDirectory target status.mode with
        | some reason => do
          Act.complainAbout 1 "cannot make directory" target reason
          pure false
        | none => do
          if plan.verbose then Act.sayLine (source ++ " -> ".toList ++ target)
          goOn

/-- What is done about files that are there already, and whether only older ones are replaced. -/
def replacingOf (moves : Bool) (invocation : Invocation) : Act (Replacing × Bool) := do
  let replacing := match invocation.last? (if moves then ["f", "i", "n"] else ["i", "n"]) with
    | some "i" => Replacing.asking
    | some "n" => .never
    | _ => .always
  if replacing == .never && ["b", "backup", "S"].any invocation.has then
    Act.refuse 1 "options --backup and --no-clobber are mutually exclusive".toList
  pure (replacing, invocation.has "u" && replacing != .never)

/-- Where the last operand of several leads, if it is a directory. -/
def directoryOf? (invocation : Invocation) (target : Raw) (count : Nat) : Act (Option Raw) := do
  match ← Act.inspect target true with
  | .ok status =>
    if status.kind == .directory then pure (some target)
    else if 2 < count then Act.die 1 ("target ".toList ++ quotedWord target ++ ": Not a directory".toList)
    else pure none
  | .error reason =>
    if 2 < count && !invocation.has "T" then
      Act.die 1 ("target ".toList ++ quotedWord target ++ ": ".toList ++ reason.description)
    else pure none

/-- What is copied or moved to where: the directory that it is put into, if it is put into one, and what was named. -/
def placesOf (invocation : Invocation) : Act (Option Raw × List Raw) := do
  let operands := invocation.operands
  let into := invocation.argument? "t"
  if operands.isEmpty || (operands.length = 1 && into.isNone) then
    match operands with
    | [] => Act.refuse 1 "missing file operand".toList
    | first :: _ => Act.refuse 1 ("missing destination file operand after ".toList ++ quoted first)
  match into with
  | some directory => do
    if invocation.has "T" then Act.die 1 "cannot combine --target-directory (-t) and --no-target-directory (-T)".toList
    match ← Act.inspect directory true with
    | .error reason => Act.die 1 ("target directory ".toList ++ quotedWord directory ++ ": ".toList ++ reason.description)
    | .ok status => do
      if status.kind != .directory then
        Act.die 1 ("target directory ".toList ++ quotedWord directory ++ ": Not a directory".toList)
      pure (some directory, operands)
  | none =>
    if invocation.has "T" then
      if 2 < operands.length then Act.refuseExtra 1 ((operands[2]?).getD [])
      pure (none, operands)
    else do
      let target := operands.getLast?.getD []
      match ← directoryOf? invocation target operands.length with
      | some directory => pure (some directory, operands.dropLast)
      | none => pure (none, operands)

/-- Look at an option: there is no more than one directory that files are put into. -/
def lookAt (hasTarget : Bool) (given : Given) : Act Bool := do
  if given.key != "t" then pure hasTarget
  else if hasTarget then Act.die 1 "multiple target directories specified".toList
  else pure true

/-- The options that programs have in common that copy and move. -/
def commonOptions : List Known :=
  [⟨"b", "", .nothing⟩, ⟨"backup", "backup", .maybe⟩, ⟨"f", "force", .nothing⟩, ⟨"i", "interactive", .nothing⟩,
    ⟨"n", "no-clobber", .nothing⟩, ⟨"S", "suffix", .always⟩,
    ⟨"strip", "strip-trailing-slashes", .nothing⟩, ⟨"t", "target-directory", .always⟩,
    ⟨"T", "no-target-directory", .nothing⟩, ⟨"u", "update", .nothing⟩,
    ⟨"v", "verbose", .nothing⟩, ⟨"Z", "context", .maybe⟩]

/-- The options of the program that copies. -/
def copyOptions : List Known :=
  [⟨"a", "archive", .nothing⟩, ⟨"attributes-only", "attributes-only", .nothing⟩,
    ⟨"copy-contents", "copy-contents", .nothing⟩, ⟨"d", "", .nothing⟩, ⟨"H", "", .nothing⟩, ⟨"l", "link", .nothing⟩,
    ⟨"L", "dereference", .nothing⟩, ⟨"P", "no-dereference", .nothing⟩, ⟨"p", "", .nothing⟩,
    ⟨"no-preserve", "no-preserve", .always⟩, ⟨"parents", "parents", .nothing⟩, ⟨"preserve", "preserve", .maybe⟩,
    ⟨"R", "", .nothing⟩, ⟨"r", "recursive", .nothing⟩, ⟨"remove-destination", "remove-destination", .nothing⟩,
    ⟨"reflink", "reflink", .maybe⟩, ⟨"s", "symbolic-link", .nothing⟩, ⟨"sparse", "sparse", .always⟩,
    ⟨"x", "one-file-system", .nothing⟩] ++ commonOptions

/-- The words for what is kept of a file. -/
def attributes : List (List String × String) :=
  ["mode", "timestamps", "ownership", "links", "context", "xattr", "all"].map fun word => ([word], word)

/-- What is kept of files: modes, times and second names. -/
def keptOf (invocation : Invocation) : Act (Modes × Bool × Bool) := do
  let mut modes := Modes.usual
  let mut times := false
  let mut names := false
  for given in invocation.given do
    match given.key with
    | "a" =>
      modes := .kept
      times := true
      names := true
    | "d" => names := true
    | "p" =>
      modes := .kept
      times := true
    | "preserve" =>
      match given.argument with
      | none =>
        modes := .kept
        times := true
      | some text =>
        for word in Raw.split ',' text do
          match ← Act.choose "--preserve" attributes word with
          | "mode" => modes := .kept
          | "timestamps" => times := true
          | "links" => names := true
          | "all" =>
            modes := .kept
            times := true
            names := true
          | _ => pure ()
    | "no-preserve" =>
      for word in Raw.split ',' (given.argument.getD []) do
        match ← Act.choose "--no-preserve" attributes word with
        | "mode" => modes := .dropped
        | "timestamps" => times := false
        | "links" => names := false
        | "all" =>
          modes := .dropped
          times := false
          names := false
        | _ => pure ()
    | _ => pure ()
  pure (modes, times, names)

end Moving

/-- Copy files. -/
def cp : Utility := ofAct fun arguments => do
  let (_, invocation) ← Act.foldOptions 1 Moving.copyOptions false Moving.lookAt false arguments
  let (modes, keepsTimes, keepsNames) ← Moving.keptOf invocation
  let (replacing, onlyOlder) ← Moving.replacingOf false invocation
  let (keeping, ending) ← Keeping.read invocation
  if invocation.has "l" && invocation.has "s" then
    Act.refuse 1 "cannot make both hard and symbolic links".toList
  let recursive := ["a", "R", "r"].any invocation.has
  let hard := invocation.has "l"
  let following : Moving.Following := match invocation.last? ["a", "d", "H", "L", "P"] with
    | some "H" => .named
    | some "L" => .always
    | some _ => .never
    | none => if recursive && !hard then .never else .always
  let plan : Moving.Plan := {
    moves := false, recursive, following, replacing, onlyOlder, force := invocation.has "f"
    removesFirst := invocation.has "remove-destination", keeping, ending, symbolic := invocation.has "s", hard, modes
    keepsTimes, keepsNames, empty := invocation.has "attributes-only", verbose := invocation.has "v" }
  let (into, sources) ← Moving.placesOf invocation
  let sources := if invocation.has "strip" then sources.map Path.withoutSlashes else sources
  match into with
  | none =>
    if invocation.has "parents" then Act.refuse 1 "with --parents, the destination must be a directory".toList
    match sources with
    | [source, target] => do
      let _ ← (Moving.begin_ plan source target).run {}
    | _ => pure ()
  | some directory => do
    let mut record : Moving.Record := {}
    for source in sources do
      if invocation.has "parents" then
        let bare := Path.withoutSlashes source
        let names := Path.names bare
        if ← Moving.makeParents plan directory names.dropLast [] then
          let (_, next) ← (Moving.begin_ plan source (Path.beneath directory (['/'].intercalate names))).run record
          record := next
      else
        let last := Path.lastName source
        let last := if last == ['.', '.'] then ['.'] else last
        let (_, next) ← (Moving.begin_ plan source (Path.beneath directory last)).run record
        record := next

/-- Move files. -/
def mv : Utility := ofAct fun arguments => do
  let (_, invocation) ← Act.foldOptions 1 Moving.commonOptions false Moving.lookAt false arguments
  let (into, sources) ← Moving.placesOf invocation
  let (replacing, onlyOlder) ← Moving.replacingOf true invocation
  let (keeping, ending) ← Keeping.read invocation
  let plan : Moving.Plan := {
    moves := true, recursive := true, following := .never, replacing, onlyOlder, force := true, removesFirst := false
    keeping, ending, symbolic := false, hard := false, modes := .kept, keepsTimes := true, keepsNames := true, empty := false
    verbose := invocation.has "v" }
  let sources := if invocation.has "strip" then sources.map Path.withoutSlashes else sources
  match into with
  | none =>
    match sources with
    | [source, target] => do
      let _ ← (Moving.begin_ plan source target).run {}
    | _ => pure ()
  | some directory => do
    let mut record : Moving.Record := {}
    for source in sources do
      let (_, next) ← (Moving.begin_ plan source (Path.beneath directory (Path.lastName source))).run record
      record := next

/-- The programs of this kind. -/
def movingTools : List (String × Utility) :=
  [("cp", cp), ("mv", mv)]

end AnswerQuery.Host.Tool
