import AnswerQuery.Host.Tool.Amount
import AnswerQuery.Host.Tool.Keeping
import AnswerQuery.Host.Tool.Mode
import AnswerQuery.Host.Tool.Source
import AnswerQuery.Host.Tool.Time

/-! Making files, directories and links, and changing what is known of them. -/

namespace AnswerQuery.Host.Tool

namespace Making

/-- The mode that an option asks for, or a complaint about it. -/
def modeOf (invocation : Invocation) (base : Nat) (complain : Raw → Raw) : Act (Option Nat) := do
  match invocation.argument? "m" with
  | none => pure none
  | some text =>
    match Mode.read text with
    | none => Act.die 1 (complain text)
    | some changes => pure (some (Mode.adjust true (← Act.mask) changes base))

/-- Make one directory, and set its mode if one is asked for; whether that worked out. -/
def makeOne (verbose : Bool) (mode : Option Nat) (path : Raw) : Act (Option OsError) := do
  match ← Act.makeDirectory path 0o777 with
  | some reason => pure (some reason)
  | none => do
    if verbose then Act.sayLine ((← get).name ++ ": created directory ".toList ++ quotedWord path)
    if let some mode := mode then
      let _ ← Act.setMode path mode
    pure none

/-- The directories that a path leads through, the first one first. -/
def ancestors : Nat → Raw → List Raw
  | 0, _ => []
  | steps + 1, path =>
    match Path.parent? path with
    | none => []
    | some parent => if parent == ['/'] then [] else ancestors steps parent ++ [parent]

/-- Complain that a directory cannot be made. -/
def refuse (path : Raw) (reason : OsError) : Act Unit :=
  Act.complainAbout 1 "cannot create directory" path reason

/-- Make the directories that a path leads through; whether that worked out. -/
def makeAncestors (verbose : Bool) : List Raw → Act Bool
  | [] => pure true
  | path :: others => do
    match ← makeOne verbose none path with
    | none => makeAncestors verbose others
    | some reason => do
      match ← Act.inspect path true with
      | .ok status =>
        if status.kind == .directory then makeAncestors verbose others
        else do
          refuse path (if reason == .alreadyThere then .notDirectory else reason)
          pure false
      | .error _ => do
        refuse path reason
        pure false

end Making

/-- Make directories. -/
def mkdir : Utility := ofAct fun arguments => do
  let known : List Known := [⟨"m", "mode", .always⟩, ⟨"p", "parents", .nothing⟩, ⟨"v", "verbose", .nothing⟩,
    ⟨"Z", "context", .maybe⟩]
  let invocation ← Act.readOptions 1 known false arguments
  if invocation.operands.isEmpty then Act.refuse 1 "missing operand".toList
  let mode ← Making.modeOf invocation 0o777 fun text => "invalid mode ".toList ++ quoted text
  let verbose := invocation.has "v"
  for path in invocation.operands do
    if invocation.has "p" then
      let mask : Nat ← Act.ask (.setMask 0)
      let _ ← Act.ask (.setMask (Mode.without mask 0o300))
      let ready ← Making.makeAncestors verbose (Making.ancestors path.length path)
      let _ ← Act.ask (.setMask mask)
      if ready then
        match ← Making.makeOne verbose mode path with
        | none => pure ()
        | some reason =>
          if !(← Act.isDirectory path true) then Making.refuse path reason
    else if let some reason := ← Making.makeOne verbose mode path then Making.refuse path reason

/-- Make pipes with names. -/
def mkfifo : Utility := ofAct fun arguments => do
  let known : List Known := [⟨"m", "mode", .always⟩, ⟨"Z", "context", .maybe⟩]
  let invocation ← Act.readOptions 1 known false arguments
  if invocation.operands.isEmpty then Act.refuse 1 "missing operand".toList
  let mode ← Making.modeOf invocation 0o666 fun _ => "invalid mode".toList
  if 0o777 < mode.getD 0 then Act.die 1 "mode must specify only file permission bits".toList
  for path in invocation.operands do
    let result : Except OsError Unit ← Act.ask (.makeChannel path 0o666)
    match result with
    | .error reason => Act.complainAbout 1 "cannot create fifo" path reason
    | .ok () =>
      if let some mode := mode then
        let _ ← Act.setMode path mode

namespace Making

/-- The letters that names are made up of. -/
def letters : Array Char :=
  "abcdefghijklmnopqrstuvwxyzABCDEFGHIJKLMNOPQRSTUVWXYZ0123456789".toList.toArray

/-- So many letters that depend on a number. -/
def lettersOf : Nat → Nat → Raw
  | 0, _ => []
  | count + 1, number =>
    (letters[number % letters.size]?).getD 'a' :: lettersOf count (number / letters.size + 7 * (number % 13) + 29)

/-- Whether a text has a slash at its start or between other characters. -/
def leadsOn (text : Raw) : Bool :=
  text.head? == some '/' || (dropTrailing (· == '/') text).contains '/'

/-- A name that is not taken yet, tried in so many ways. -/
def freeName (make : Raw → Act (Option OsError)) (front back : Raw) (count : Nat) : Nat → Nat → Act (Except OsError Raw)
  | 0, _ => pure (.error .alreadyThere)
  | steps + 1, number => do
    let path := front ++ lettersOf count (number * 7919) ++ back
    match ← make path with
    | none => pure (.ok path)
    | some .alreadyThere => freeName make front back count steps (number + 1)
    | some reason => pure (.error reason)

/-- Make an empty file that must not be there yet. -/
def makeEmpty (path : Raw) : Act (Option OsError) := do
  let opening := { Files.Opening.writing with exclusive := true, mode := 0o600 }
  let result : Except OsError Nat ← Act.ask (.openFile path opening)
  match result with
  | .ok descriptor => do
    Act.ask (.close descriptor)
    pure none
  | .error reason => pure (some reason)

end Making

/-- Make a file or a directory with a name that is not taken. -/
def mktemp : Utility := ofAct fun arguments => do
  let known : List Known := [⟨"d", "directory", .nothing⟩, ⟨"q", "quiet", .nothing⟩, ⟨"u", "dry-run", .nothing⟩,
    ⟨"suffix", "suffix", .always⟩, ⟨"p", "", .always⟩, ⟨"tmpdir", "tmpdir", .maybe⟩, ⟨"t", "", .nothing⟩]
  let invocation ← Act.readOptions 1 known false arguments
  match invocation.operands with
  | _ :: _ :: _ => Act.refuse 1 "too many templates".toList
  | _ => pure ()
  let template := invocation.operands.head?.getD "tmp.XXXXXXXXXX".toList
  let (body, back) ← match invocation.argument? "suffix" with
    | some suffix =>
      if template.getLast? != some 'X' then
        Act.die 1 ("with --suffix, template ".toList ++ quoted template ++ " must end in X".toList)
      pure (template, suffix)
    | none =>
      let back := (template.reverse.takeWhile (· != 'X')).reverse
      pure (if template.contains 'X' then (template.take (template.length - back.length), back) else (template, []))
  if Making.leadsOn back then
    Act.die 1 ("invalid suffix ".toList ++ quoted back ++ ", contains directory separator".toList)
  let marks := (body.reverse.takeWhile (· == 'X')).length
  if marks < 3 then Act.die 1 ("too few X's in template ".toList ++ quoted (body ++ back))
  let quiet := invocation.has "q"
  let bindings : List (Raw × Raw) ← Act.ask .bindings
  let filled := fun (text : Option Raw) => text.filter fun text => !text.isEmpty
  let told := filled ((invocation.last? ["p", "tmpdir"]).bind fun key => invocation.argument? key)
  let variable_ := filled (bindings.lookup "TMPDIR".toList)
  let directory ←
    if invocation.has "t" then do
      if Making.leadsOn (body ++ back) then
        Act.die 1 ("invalid template, ".toList ++ quoted (body ++ back) ++ ", contains directory separator".toList)
      pure (some ((variable_.or told).getD "/tmp".toList))
    else if invocation.has "p" || invocation.has "tmpdir" || invocation.operands.isEmpty then do
      if body.head? == some '/' then
        Act.die 1 ("invalid template, ".toList ++ quoted (body ++ back) ++ "; with --tmpdir, it may not be absolute".toList)
      pure (some ((told.or variable_).getD "/tmp".toList))
    else pure none
  let place := match directory with
    | some directory => Path.beneath directory body
    | none => body
  let front := place.take (place.length - marks)
  let make := fun (path : Raw) => do
    if invocation.has "u" then
      match ← Act.inspect path false with
      | .ok _ => pure (some OsError.alreadyThere)
      | .error _ => pure none
    else if invocation.has "d" then Act.makeDirectory path 0o700
    else Making.makeEmpty path
  let process : Nat ← Act.ask .identity
  match ← Making.freeName make front back marks 200 process with
  | .ok path => Act.sayLine path
  | .error reason =>
    let kind := if invocation.has "d" then "directory" else "file"
    if !quiet then
      Act.complain ("failed to create ".toList ++ kind.toList ++ " via template ".toList ++ quotedWord (place ++ back) ++
        ": ".toList ++ reason.description)
    Act.finish 1

namespace Making

/-- How links are made. -/
structure Linking where
  /-- Whether they stand for paths. -/
  symbolic : Bool
  /-- Whether what is there already is removed. -/
  force : Bool
  /-- Whether it is asked before that. -/
  asks : Bool
  /-- Whether it is told what is made. -/
  verbose : Bool
  /-- Whether a link at the end of the source is followed. -/
  follows : Bool
  /-- Whether the path is told from the place of the link. -/
  relative : Bool
  /-- How what is there already is kept under another name. -/
  keeping : Option Keeping
  /-- What such names end with. -/
  ending : Raw

/-- A source as it is seen from the place of a link to it. -/
def relativeSource (source target : Raw) : Act Raw := do
  let directory := (Path.parent? target).getD ['.']
  match ← Path.resolve .nothing true source, ← Path.resolve .nothing true directory with
  | .ok names, .ok place => pure (Path.relative place names)
  | _, _ => pure source

/-- Whether removing a file would remove what a link to it stands for. -/
def areSame (linking : Linking) (source target : Raw) (there : Status) : Act Bool := do
  match ← Act.inspect source (linking.symbolic || linking.follows) with
  | .ok status =>
    let links : Nat ← Act.ask (.links source (linking.symbolic || linking.follows))
    if status.number.isNone || status.number != there.number then pure false
    else if links = 1 then pure true
    else Act.isSameName source target
  | .error _ => pure false

/-- Tell that a link cannot be made. -/
def refuseLink (linking : Linking) (source target : Raw) (reason : OsError) : Act Unit := do
  let what := if linking.symbolic then
      "symbolic link ".toList ++ quotedWord target ++
        (if source.isEmpty || reason == .nameTooLong then " -> ".toList ++ quotedWord source else [])
    else "hard link ".toList ++ quotedWord target ++
      (if reason == .alreadyThere || reason == .noSpace then [] else " => ".toList ++ quotedWord source)
  Act.complain ("failed to create ".toList ++ what ++ ": ".toList ++ reason.description)
  Act.fail 1

/-- Make way for a link: whether it may be made then, and the name under which something is kept. The links that have
just been made stay. -/
def makeWay (linking : Linking) (made : List Raw) (source target : Raw) : Act (Bool × Option Raw) := do
  let refuse := fun (message : Raw) => do
    Act.complain message
    Act.fail 1
    pure (false, none)
  match ← Act.inspect target false with
  | .error .noEntry => pure (true, none)
  | .error reason => refuse ("failed to access ".toList ++ quotedWord target ++ ": ".toList ++ reason.description)
  | .ok there =>
    if there.kind == .directory then refuse (nameFor target ++ ": cannot overwrite directory".toList)
    else if made.contains target then
      refuse ("will not overwrite just-created ".toList ++ quotedWord target ++ " with ".toList ++ quotedWord source)
    else if (linking.force && (linking.keeping.isNone || !linking.symbolic) ||
        (!linking.symbolic && linking.keeping.isSome)) && (← areSame linking source target there) then
      refuse (quotedWord source ++ " and ".toList ++ quotedWord target ++ " are the same file".toList)
    else
      let agrees ← if linking.asks then Act.asks ("replace ".toList ++ quotedWord target) else pure true
      if !agrees then pure (false, none)
      else match linking.keeping with
        | none =>
          let _ ← Act.remove target
          pure (true, none)
        | some keeping =>
          let path ← keeping.pathOf linking.ending target
          match ← Act.rename target path with
          | none => pure (true, some path)
          | some reason => refuse ("cannot backup ".toList ++ quotedWord target ++ ": ".toList ++ reason.description)

/-- Make a link, given the links that have just been made: whether it has been made. -/
def link (linking : Linking) (made : List Raw) (source target : Raw) : Act Bool := do
  let status ← if linking.symbolic then pure none else some <$> Act.inspect source linking.follows
  match status with
  | some (.error reason) => do
    Act.complainAbout 1 "failed to access" source reason
    pure false
  | _ =>
    let isDirectory := match status with
      | some (.ok status) => status.kind == Kind.directory
      | _ => false
    if isDirectory then
      Act.complain (nameFor source ++ ": hard link not allowed for directory".toList)
      Act.fail 1
      pure false
    else
      let (goesOn, kept) ← if linking.force || linking.asks || linking.keeping.isSome then
          makeWay linking made source target
        else pure (true, none)
      if !goesOn then pure false
      else
        let path ← if linking.symbolic && linking.relative then relativeSource source target else pure source
        let followed ← if !linking.symbolic && linking.follows then
            match ← Path.resolve .whole true source with
            | .ok names => pure (Path.ofNames names)
            | .error _ => pure source
          else pure path
        let failure ← if linking.symbolic then Act.makeLink path target else Act.makeName followed target
        match failure with
        | none =>
          if linking.verbose then
            let front := (kept.map fun path => quotedWord path ++ " ~ ".toList).getD []
            Act.sayLine (front ++ quotedWord target ++ (if linking.symbolic then " -> " else " => ").toList ++ quotedWord path)
          pure true
        | some reason =>
          refuseLink linking path target reason
          if let some kept := kept then
            if let some reason ← Act.rename kept target then
              Act.complain ("cannot un-backup ".toList ++ quotedWord target ++ ": ".toList ++ reason.description)
          pure false

/-- Look at an option: the directory that links are put into must be one. -/
def lookAtLinking (hasTarget : Bool) (given : Given) : Act Bool := do
  if given.key != "t" then pure hasTarget
  else if hasTarget then Act.die 1 "multiple target directories specified".toList
  else
    let directory := given.argument.getD []
    match ← Act.inspect directory true with
    | .error reason => Act.die 1 ("failed to access ".toList ++ quotedWord directory ++ ": ".toList ++ reason.description)
    | .ok status =>
      if status.kind != .directory then
        Act.die 1 ("target ".toList ++ quotedWord directory ++ " is not a directory".toList)
      pure true

/-- The options of the program that makes links. -/
def linkOptions : List Known :=
  [⟨"backup", "backup", .maybe⟩, ⟨"b", "", .nothing⟩, ⟨"d", "directory", .nothing⟩, ⟨"F", "", .nothing⟩,
    ⟨"f", "force", .nothing⟩, ⟨"i", "interactive", .nothing⟩, ⟨"n", "no-dereference", .nothing⟩,
    ⟨"T", "no-target-directory", .nothing⟩, ⟨"L", "logical", .nothing⟩, ⟨"P", "physical", .nothing⟩,
    ⟨"r", "relative", .nothing⟩, ⟨"S", "suffix", .always⟩, ⟨"t", "target-directory", .always⟩,
    ⟨"s", "symbolic", .nothing⟩, ⟨"v", "verbose", .nothing⟩]

end Making

/-- Where links are made: the directory that they are put into, if they are put into one, and what was named. -/
def Making.linkPlaces (invocation : Invocation) : Act (Option Raw × List Raw) := do
  let operands := invocation.operands
  let target := operands.getLast?.getD []
  match invocation.has "T", invocation.argument? "t", operands with
  | true, some _, _ => Act.die 1 "cannot combine --target-directory and --no-target-directory".toList
  | true, none, [_, _] => pure (none, operands)
  | true, none, _ :: _ :: extra :: _ => Act.refuse 1 ("extra operand ".toList ++ quotedWord extra)
  | true, none, _ => Act.refuse 1 ("missing destination file operand after ".toList ++ quotedWord target)
  | false, some directory, _ => pure (some directory, operands)
  | false, none, [_] => pure (some ['.'], operands)
  | false, none, _ => do
    let itself : Except OsError Status ← Act.inspect target false
    match ← Act.inspect target true with
    | .ok status =>
      let isLink := invocation.has "n" && (itself.toOption.map fun status => status.kind == Kind.link).getD false
      if status.kind == .directory && !isLink then pure (some target, operands.dropLast)
      else if operands.length = 2 then pure (none, operands)
      else Act.die 1 ("target ".toList ++ quotedWord target ++ ": Not a directory".toList)
    | .error reason =>
      if operands.length = 2 then pure (none, operands)
      else Act.die 1 ("target ".toList ++ quotedWord target ++ ": ".toList ++ reason.description)

/-- Make links. -/
def ln : Utility := ofAct fun arguments => do
  let (_, invocation) ← Act.foldOptions 1 Making.linkOptions false Making.lookAtLinking false arguments
  if invocation.operands.isEmpty then Act.refuse 1 "missing file operand".toList
  let symbolic := invocation.has "s"
  if invocation.has "r" && !symbolic then Act.die 1 "cannot do --relative without --symbolic".toList
  let (into, operands) ← Making.linkPlaces invocation
  let (keeping, ending) ← Keeping.read invocation
  let linking : Making.Linking := {
    symbolic, force := invocation.last? ["f", "i"] == some "f", asks := invocation.last? ["f", "i"] == some "i"
    verbose := invocation.has "v", follows := invocation.last? ["L", "P"] == some "L", relative := invocation.has "r"
    keeping, ending }
  match into, operands with
  | some directory, sources => do
    let mut made : List Raw := []
    for source in sources do
      let target := Path.beneath directory (Path.lastName source)
      if ← Making.link linking made source target then
        if linking.force && !symbolic && keeping != some .numbered then made := target :: made
  | none, [source, target] => discard (Making.link linking [] source target)
  | none, _ => pure ()

/-- Give a file a second name. -/
def link : Utility := ofAct fun arguments => do
  let invocation ← Act.readOptions 1 [] false arguments
  match invocation.operands with
  | [] => Act.refuse 1 "missing operand".toList
  | [only] => Act.refuse 1 ("missing operand after ".toList ++ quoted only)
  | _ :: _ :: extra :: _ => Act.refuseExtra 1 extra
  | [source, target] =>
    if let some reason := ← Act.makeName source target then
      Act.die 1 ("cannot create link ".toList ++ quotedWord target ++ " to ".toList ++ quotedWord source ++ ": ".toList ++
        reason.description)

namespace Making

/-- The times of files by their words, and whether each is that of the last use. -/
def timeWords : List (List String × Bool) :=
  [(["atime", "access", "use"], true), (["mtime", "modify"], false)]

/-- The options of the program that sets the times of files. -/
def touchOptions : List Known :=
  [⟨"a", "", .nothing⟩, ⟨"c", "no-create", .nothing⟩, ⟨"d", "date", .always⟩, ⟨"f", "", .nothing⟩,
    ⟨"h", "no-dereference", .nothing⟩, ⟨"m", "", .nothing⟩, ⟨"r", "reference", .always⟩, ⟨"t", "", .always⟩,
    ⟨"time", "time", .always⟩]

/-- The moment that a description means, seen from another one. -/
def momentFrom (base : Calendar.Moment) (text : Raw) : Act Calendar.Moment := do
  match Calendar.Moment.ofDescription? (← Act.zone) base text with
  | some moment => pure moment
  | none => Act.die 1 ("invalid date format ".toList ++ quoted text)

/-- The times that files are given: when they were used and when they were changed. -/
def stampsOf (invocation : Invocation) (stamped : Option Calendar.Moment) : Act (Stamp × Stamp) := do
  let described := invocation.argument? "d"
  match invocation.argument? "r", stamped with
  | some _, some _ => Act.refuse 1 "cannot specify times from more than one source".toList
  | none, some moment => do
    if described.isSome then Act.refuse 1 "cannot specify times from more than one source".toList
    pure (.at moment, .at moment)
  | some path, none => do
    match ← Act.inspect path (!invocation.has "h") with
    | .error reason =>
      Act.die 1 ("failed to get attributes of ".toList ++ quotedWord path ++ ": ".toList ++ reason.description)
    | .ok status =>
      match described with
      | none => pure (.at status.accessed, .at status.changed)
      | some text => do
        let accessed ← momentFrom status.accessed text
        let changed ← momentFrom status.changed text
        pure (.at accessed, .at changed)
  | none, none =>
    match described with
    | none => pure (.now, .now)
    | some text => do
      let now ← Act.now
      let moment ← momentFrom now text
      let stamp : Stamp := if moment == now then .now else .at moment
      pure (stamp, stamp)

/-- Set the times of a file, which is made first if that is wanted. -/
def touchAt (creates follow : Bool) (quiet : Bool) (accessed changed : Stamp) (path : Raw) : Act Unit := do
  let opened : Except OsError Nat ← if creates then
      Act.ask (.openFile path { writes := true, creates := true })
    else pure (.error .isDirectory)
  let openReason ← match opened with
    | .ok descriptor => do
      Act.ask (.close descriptor)
      pure none
    | .error reason => pure (some reason)
  match ← Act.touch path follow accessed changed with
  | none => pure ()
  | some reason =>
    match openReason.filter fun openReason => openReason != .isDirectory with
    | some openReason => Act.complainAbout 1 "cannot touch" path openReason
    | none => if !(quiet && reason == .noEntry) then Act.complainAbout 1 "setting times of" path reason

end Making

/-- Set the times of files, which are made if they are missing. -/
def touch : Utility := ofAct fun arguments => do
  let invocation ← Act.readOptions 1 Making.touchOptions false arguments
  let (now, zone) := (← Act.now, ← Act.zone)
  let mut accesses := false
  let mut changes := false
  let mut stamped : Option Calendar.Moment := none
  for given in invocation.given do
    let text := given.argument.getD []
    match given.key with
    | "a" => accesses := true
    | "m" => changes := true
    | "time" =>
      if ← Act.choose "--time" Making.timeWords text then accesses := true else changes := true
    | "t" =>
      match stampMoment? zone now text with
      | some moment => stamped := some moment
      | none => Act.die 1 ("invalid date format ".toList ++ quoted text)
    | _ => pure ()
  let (accessed, changed) ← Making.stampsOf invocation stamped
  if invocation.operands.isEmpty then Act.refuse 1 "missing file operand".toList
  let accessed := if changes && !accesses then .kept else accessed
  let changed := if accesses && !changes then .kept else changed
  let quiet := invocation.has "c"
  for path in invocation.operands do
    if path == ['-'] then
      let result : Except OsError Unit ← Act.ask (.touchOpen 1 accessed changed)
      if let .error reason := result then
        if !(quiet && reason == .badDescriptor) then Act.complainAbout 1 "setting times of" path reason
    else
      Making.touchAt (!(quiet || invocation.has "h")) (!invocation.has "h") quiet accessed changed path

namespace Making

/-- How a new size depends on the old one. -/
inductive Resizing where
  | exactly
  /-- So much is added, or taken off if that is less than zero. -/
  | by
  | atMost
  | atLeast
  | down
  | up
  deriving DecidableEq, Repr

/-- The way of changing a size that a sign tells. -/
def resizingOf (c : Char) : Option Resizing :=
  match c with
  | '<' => some .atMost
  | '>' => some .atLeast
  | '/' => some .down
  | '%' => some .up
  | _ => none

/-- The new size. -/
def newSize (way : Resizing) (amount : Int) (old : Nat) : Nat :=
  let size := amount.toNat
  match way with
  | .exactly => size
  | .by => (Int.ofNat old + amount).toNat
  | .atMost => min old size
  | .atLeast => max old size
  | .down => old / size * size
  | .up => (old + size - 1) / size * size

/-- Read how a size is changed, given how it was to be changed before, and by how much. -/
def readSize (before : Resizing) (text : Raw) : Act (Resizing × Int) := do
  let bare := text.dropWhile Raw.isSpace
  let sign := bare.head?.bind resizingOf
  let way := sign.getD before
  let rest := (if sign.isSome then bare.drop 1 else bare).dropWhile Raw.isSpace
  let isSigned := rest.head? == some '+' || rest.head? == some '-'
  if isSigned && way != .exactly then Act.refuse 1 "multiple relative modifiers specified".toList
  let way := if isSigned then .by else way
  let form : Amount.Form := { signed := true, letters := "EgGkKmMPtTYZ0" }
  let amount ← Act.amount 1 "Invalid number" form Numeral.least Numeral.greatest rest
  if amount = 0 && (way == .down || way == .up) then Act.die 1 "division by zero".toList
  pure (way, amount)

end Making

/-- Cut files off or fill them up. -/
def truncate : Utility := ofAct fun arguments => do
  let known : List Known := [⟨"c", "no-create", .nothing⟩, ⟨"o", "io-blocks", .nothing⟩, ⟨"r", "reference", .always⟩,
    ⟨"s", "size", .always⟩]
  let (told, invocation) ← Act.foldOptions 1 known false (fun (sized : Option (Making.Resizing × Int)) given => do
    if given.key == "s" then
      let before := (sized.map Prod.fst).getD .exactly
      pure (some (← Making.readSize before (given.argument.getD [])))
    else pure sized) none arguments
  let sized := told.map fun (way, amount) => (way, if invocation.has "o" then amount * 4096 else amount)
  if sized.isNone && !invocation.has "r" then
    Act.refuse 1 ("you must specify either ".toList ++ quoted "--size".toList ++ " or ".toList ++
      quoted "--reference".toList)
  if invocation.has "r" && (sized.map fun sized => sized.1 == .exactly).getD false then
    Act.refuse 1 ("you must specify a relative ".toList ++ quoted "--size".toList ++ " with ".toList ++
      quoted "--reference".toList)
  if invocation.has "o" && sized.isNone then
    Act.refuse 1 (quoted "--io-blocks".toList ++ " was specified but ".toList ++ quoted "--size".toList ++ " was not".toList)
  if invocation.operands.isEmpty then Act.refuse 1 "missing file operand".toList
  let reference ← match invocation.argument? "r" with
    | none => pure none
    | some path =>
      match ← Act.inspect path true with
      | .ok status => pure (some status.size)
      | .error reason => Act.die 1 ("cannot stat ".toList ++ quotedWord path ++ ": ".toList ++ reason.description)
  for path in invocation.operands do
    let opening : Files.Opening := { writes := true, creates := !invocation.has "c" }
    let result : Except OsError Nat ← Act.ask (.openFile path opening)
    match result with
    | .error reason =>
      if !(invocation.has "c" && reason == .noEntry) then
        Act.complain ("cannot open ".toList ++ quotedWord path ++ " for writing: ".toList ++ reason.description)
        Act.fail 1
    | .ok descriptor => do
      let described : Except OsError Described ← Act.ask (.describe descriptor)
      let old := match described with
        | .ok described => described.status.size
        | .error _ => 0
      let size := match sized, reference with
        | some (way, amount), some base => Making.newSize way amount base
        | some (way, amount), none => Making.newSize way amount old
        | none, base => base.getD 0
      let resized : Except OsError Unit ← Act.ask (.resize descriptor size)
      if let .error reason := resized then
        Act.complain ("failed to truncate ".toList ++ quotedWord path ++ " at ".toList ++ decimal size ++ " bytes: ".toList ++
          reason.description)
        Act.fail 1
      Act.ask (.close descriptor)

namespace Making

/-- How modes are changed. -/
structure Changing where
  /-- The mode that a file gets in place of another one, given whether it is a directory. -/
  change : Bool → Nat → Nat
  /-- The mode that would be expected at first sight, if it is told where another one comes out. -/
  expected : Option (Bool → Nat → Nat)
  /-- Whether it is told what is changed. -/
  changes : Bool
  /-- Whether it is told about all files. -/
  verbose : Bool
  /-- Whether complaints are left out. -/
  quiet : Bool
  /-- Whether all that is in directories is changed too. -/
  recursive : Bool

/-- A mode in digits and letters. -/
def modeText (mode : Nat) : Raw :=
  Mode.octal mode ++ " (".toList ++ Mode.letters mode ++ [')']

/-- Change the mode of a file and, to a depth, of all that is in it. -/
def changeMode (changing : Changing) : Nat → Bool → Raw → Act Unit
  | 0, _, _ => pure ()
  | depth + 1, named, path => do
    let complain := fun (message : Raw) => do
      if !changing.quiet then Act.complain message
      Act.fail 1
    match ← Act.inspect path named with
    | .error reason =>
      let isThere : Bool ← match ← Act.inspect path false with
        | .ok _ => pure (reason == .noEntry)
        | .error _ => pure false
      if isThere then complain ("cannot operate on dangling symlink ".toList ++ quotedWord path)
      else complain ("cannot access ".toList ++ quotedWord path ++ ": ".toList ++ reason.description)
      if changing.verbose then
        Act.sayLine (quotedWord path ++ " could not be accessed".toList)
    | .ok status =>
      if status.kind == .link then pure ()
      else
        let isDirectory := status.kind == .directory
        let mode := changing.change isDirectory status.mode
        match ← Act.setMode path mode with
        | some reason => complain ("changing permissions of ".toList ++ quotedWord path ++ ": ".toList ++ reason.description)
        | none => do
          if changing.verbose || (changing.changes && mode != status.mode) then
            Act.sayLine ("mode of ".toList ++ quotedWord path ++ (if mode = status.mode then " retained as ".toList ++ modeText mode
              else " changed from ".toList ++ modeText status.mode ++ " to ".toList ++ modeText mode))
          if let some expected := changing.expected then
            let plain := expected isDirectory status.mode
            if Mode.without mode plain != 0 then
              complain (nameFor path ++ ": new permissions are ".toList ++ Mode.letters mode ++ ", not ".toList ++
                Mode.letters plain)
        if changing.recursive && isDirectory then
          match ← Act.names path with
          | .error reason => complain ("cannot read directory ".toList ++ quotedWord path ++ ": ".toList ++ reason.description)
          | .ok names =>
            for name in names do
              changeMode changing depth false (Path.beneath path name)

/-- Whether an argument that begins like an option describes a mode. -/
def isModeOption (argument : Raw) : Bool :=
  match argument with
  | '-' :: c :: _ => "rwxXstugoa,+=01234567".toList.contains c
  | _ => false

end Making

/-- Change who may use files. -/
def chmod : Utility := ofAct fun arguments => do
  let known : List Known := [⟨"c", "changes", .nothing⟩, ⟨"f", "silent", .nothing⟩, ⟨"f", "quiet", .nothing⟩,
    ⟨"v", "verbose", .nothing⟩, ⟨"R", "recursive", .nothing⟩, ⟨"reference", "reference", .always⟩,
    ⟨"preserve-root", "preserve-root", .nothing⟩, ⟨"no-preserve-root", "no-preserve-root", .nothing⟩]
  let front := arguments.takeWhile fun argument => argument != ['-', '-']
  let told := front.filter Making.isModeOption
  let others := front.filter (fun argument => !Making.isModeOption argument) ++ arguments.drop front.length
  let invocation ← Act.readOptions 1 known false others
  let reference := invocation.argument? "reference"
  if reference.isSome && !told.isEmpty then Act.refuse 1 "cannot combine mode and --reference options".toList
  let (text, paths) := if reference.isSome then (none, invocation.operands)
    else if told.isEmpty then (invocation.operands.head?, invocation.operands.drop 1)
    else (some ([','].intercalate told), invocation.operands)
  if paths.isEmpty then
    match text with
    | some text =>
      if told.isEmpty then Act.refuse 1 ("missing operand after ".toList ++ quoted text)
      else Act.refuse 1 "missing operand".toList
    | none => Act.refuse 1 "missing operand".toList
  let mask ← Act.mask
  let change ← match reference with
    | some path =>
      match ← Act.inspect path true with
      | .ok status => pure fun (_ : Bool) (_ : Nat) => status.mode
      | .error reason =>
        Act.die 1 ("failed to get attributes of ".toList ++ quotedWord path ++ ": ".toList ++ reason.description)
    | none =>
      let text := text.getD []
      match Mode.read text with
      | some changes => pure fun (isDirectory : Bool) (mode : Nat) => Mode.adjust isDirectory mask changes mode
      | none => Act.refuse 1 ("invalid mode: ".toList ++ quoted text)
  let plain := (text.bind Mode.read).map fun changes =>
    fun (isDirectory : Bool) (mode : Nat) => Mode.adjust isDirectory 0 changes mode
  let changing : Making.Changing := {
    change, expected := if told.isEmpty then none else plain
    changes := invocation.last? ["c", "v"] == some "c", verbose := invocation.last? ["c", "v"] == some "v"
    quiet := invocation.has "f", recursive := invocation.has "R" }
  for path in paths do
    Making.changeMode changing 200 true path

/-- The programs of this kind. -/
def makingTools : List (String × Utility) :=
  [("chmod", chmod), ("link", link), ("ln", ln), ("mkdir", mkdir), ("mkfifo", mkfifo), ("mktemp", mktemp),
    ("touch", touch), ("truncate", truncate)]

end AnswerQuery.Host.Tool
