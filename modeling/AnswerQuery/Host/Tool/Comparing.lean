import AnswerQuery.Host.Script.Wildcard
import AnswerQuery.Host.Tool.Difference
import AnswerQuery.Host.Tool.Path
import AnswerQuery.Host.Tool.Time

/-! Comparing files and directories. -/

namespace AnswerQuery.Host.Tool

namespace Difference

/-- Complain about a file. -/
def complainAbout (path : Raw) (reason : OsError) : Act Unit :=
  Act.complain (path ++ ": ".toList ++ reason.description)

/-- The lines of a file. -/
def linesIn (plan : Plan) (octets : Bytes) : List Source.Line :=
  let lines := linesOf '\n' (Raw.ofOctets octets)
  if plan.stripsReturns then
    lines.map fun line => if line.ended && line.text.getLast? == some '\r' then { line with text := line.text.dropLast } else line
  else lines

/-- A file that is compared. -/
structure Subject where
  /-- Its path. -/
  path : Raw
  /-- What is known of it; nothing if it counts as empty. -/
  status : Option Status

namespace Subject

/-- Whether it is a directory. -/
def isDirectory (subject : Subject) : Bool :=
  (subject.status.map fun status => status.kind == .directory).getD false

/-- Whether it has lines that can be compared. -/
def isPlain (subject : Subject) : Bool :=
  (subject.status.map fun status => status.kind == .file || status.kind == .link).getD true

/-- When it was changed. -/
def moment (subject : Subject) : Calendar.Moment :=
  (subject.status.map Status.changed).getD 0

/-- Its octets. -/
def octets (subject : Subject) : Act (Except OsError Bytes) :=
  if subject.status.isNone then pure (.ok []) else Act.readFile subject.path

end Subject

/-- What the first file is called, or the label in its place. -/
def shownName (plan : Plan) (subject : Subject) : Raw :=
  (plan.labels[0]?).getD subject.path

/-- What the second file is called, or the label in its place. -/
def shownName' (plan : Plan) (subject : Subject) : Raw :=
  (plan.labels[1]?).getD subject.path

/-- Whether nothing is written about files that are the same. -/
def isSilent (plan : Plan) : Bool :=
  match plan.style with
  | .columns => plan.hidesSame
  | .merged => plan.forms.hidesCommon
  | _ => true

/-- Compare what is in two files; the flag tells whether they lie in directories that are compared. The result is a
status. -/
def compareOctets (plan : Plan) (inside : Bool) (subject subject' : Subject) (first second : Bytes) : Act Nat := do
  let (name, name') := (shownName plan subject, shownName' plan subject')
  let isBinary := !plan.text && ((first.take 65536).contains 0 || (second.take 65536).contains 0)
  let tell := fun (what : String) => do
    Act.sayLine (what.toList ++ name ++ " and ".toList ++ name' ++ " differ".toList)
    pure 1
  if isBinary then
    if first == second then pure 0 else tell (if plan.brief then "Files " else "Binary files ")
  else
    let lines := linesIn plan first
    let lines' := linesIn plan second
    let (one, other) := numbers plan lines lines'
    let around := if plan.style == .unified || plan.style == .context then plan.context else 0
    let changes := if first == second then [] else Alignment.changes (max plan.horizon around) one other
    let pair : Pair := {
      first := lines.toArray, second := lines'.toArray, name := subject.path, name' := subject'.path
      moment := subject.moment, moment' := subject'.moment, zone := ← Act.zone }
    let differs := changes.any (matters plan pair)
    let status ← if differs && plan.brief then tell "Files "
      else do
        if !plan.brief && (differs || !isSilent plan) then
          if inside then
            let names := headingName name ++ ' ' :: headingName name'
            Act.sayLine ("diff".toList ++ plan.arguments ++ ' ' :: names)
          sayChanges plan pair changes
        pure (if differs then 1 else 0)
    if plan.style == .editor || plan.style == .forwardEditor then
      let open_ := [(name, lines), (name', lines')].filter fun pair => pair.2.any fun line => !line.ended
      for (name, _) in open_ do
        Act.complain (name ++ ": No newline at end of file\n".toList)
      pure (if open_.isEmpty then status else 2)
    else pure status

/-- What kind of file it is. -/
def kindName (status : Status) : Raw :=
  match status.kind with
  | .directory => "directory".toList
  | .file => (if status.size = 0 then "regular empty file" else "regular file").toList
  | .link => "symbolic link".toList
  | .device => "character special file".toList
  | .channel => "fifo".toList

/-- What is known of a file that is compared; a minus stands for the standard input, which was changed just now. -/
def statusOf (followsLinks : Bool) (path : Raw) : Act (Except OsError Status) := do
  if path == ['-'] then
    let described : Except OsError Described ← Act.ask (.describe 0)
    let changed ← Act.now
    pure (described.map fun described => { described.status with changed })
  else Act.inspect path followsLinks

/-- Whether a file counts as empty, given whether a missing file does, whether it was named as an argument, and what is
known of it and of the other file. -/
def countsAsEmpty (missingIsEmpty named : Bool) (own other : Except OsError Status) : Bool :=
  missingIsEmpty && match own with
    | .ok status => status.kind == .file && status.mode % 512 == 0 && status.size == 0
    | .error reason => (reason == .noEntry || reason == .badDescriptor) && named && other.toOption.isSome

/-- Whether a name is left out. -/
def isExcluded (plan : Plan) (name : Raw) : Bool :=
  plan.excluded.any fun pattern =>
    Script.Wildcard.fits (Script.Wildcard.ofMarked false (pattern.map fun c => (c, false))) name

/-- The names in a directory that are compared. -/
def namesIn (plan : Plan) (path : Raw) (isThere : Bool) : Act (Option (List Raw)) := do
  if !isThere then pure (some [])
  else match ← Act.names path with
    | .error reason => do
      complainAbout path reason
      pure none
    | .ok names => pure (some (names.filter fun name => !isExcluded plan name))

/-- The names of two directories that are compared, in order, and whether they are in each of them. -/
def commonNames (plan : Plan) (isFirst : Bool) (subject subject' : Subject) : Act (Option (List (Raw × Bool × Bool))) := do
  let names ← namesIn plan subject.path subject.status.isSome
  let names' ← namesIn plan subject'.path subject'.status.isSome
  match names, names' with
  | some names, some names' =>
    let all := (names ++ names'.filter fun name => !names.contains name).mergeSort Raw.inOrder
    let all := if isFirst then all.filter fun name => Raw.inOrder plan.startingName name else all
    pure (some (all.map fun name => (name, names.contains name, names'.contains name)))
  | _, _ => pure none

/-- The file in a directory that has the name of another file. -/
def inside (plan : Plan) (directory file : Raw) : Act (Option Subject) := do
  if file == ['-'] then Act.die 2 "cannot compare '-' to a directory".toList
  let path := Path.beneath directory (Path.lastName file)
  match ← Act.inspect path plan.followsLinks with
  | .ok status => pure (some ⟨path, some status⟩)
  | .error reason => do
    complainAbout path reason
    pure none

/-- Compare what two names lead to, given the directories in which they lie, if these are compared, and how names in
directories are compared. -/
def compareSubjects (plan : Plan) (next : Raw × Raw → Option Raw → Option Raw → Act Nat) (within : Option (Raw × Raw))
    (name : Raw) (subject subject' : Subject) : Act Nat := do
  let directories := within.getD ([], [])
  let isSame := match subject.status, subject'.status with
    | some one, some other => subject.path == subject'.path || (one.number.isSome && one.number == other.number)
    | _, _ => false
  let areDirectories := (subject.isDirectory || subject.status.isNone) && (subject'.isDirectory || subject'.status.isNone)
  if subject.status.isNone && subject'.status.isNone then pure 0
  else if isSame && isSilent plan then pure 0
  else if areDirectories then
    if plan.style == .merged then Act.die 2 "-D option not supported with directories".toList
    if within.isSome && !plan.recursive then
      Act.sayLine ("Common subdirectories: ".toList ++ subject.path ++ " and ".toList ++ subject'.path)
      pure 0
    else match ← commonNames plan within.isNone subject subject' with
      | none => pure 2
      | some names =>
        let mut worst := 0
        for (name, isThere, isThere') in names do
          let status ← next (subject.path, subject'.path) (if isThere then some name else none)
            (if isThere' then some name else none)
          worst := max worst status
        pure worst
  else if subject.isDirectory || subject'.isDirectory ||
      (within.isSome && !(subject.isPlain && subject'.isPlain)) then
    match subject.status, subject'.status with
    | some one, some other => do
      Act.sayLine ("File ".toList ++ shownName plan subject ++ " is a ".toList ++ kindName one ++ " while file ".toList ++
        shownName' plan subject' ++ " is a ".toList ++ kindName other)
      pure 1
    | _, _ => do
      Act.sayLine ("Only in ".toList ++ (if subject.status.isNone then directories.2 else directories.1) ++ ": ".toList ++
        name)
      pure 1
  else
    let isLink := fun (subject : Subject) => (subject.status.map fun status => status.kind == .link).getD false
    if isLink subject && isLink subject' then
      let target : Except OsError Raw ← Act.linkTarget subject.path
      let target' : Except OsError Raw ← Act.linkTarget subject'.path
      if target.toOption == target'.toOption then pure 0
      else
        Act.sayLine ("Symbolic links ".toList ++ subject.path ++ " and ".toList ++ subject'.path ++ " differ".toList)
        pure 1
    else
      let octets ← subject.octets
      let octets' ← if isSame then pure octets else subject'.octets
      match octets, octets' with
      | .ok octets, .ok octets' => compareOctets plan within.isSome subject subject' octets octets'
      | _, _ => do
        if let .error reason := octets then complainAbout subject.path reason
        if let .error reason := octets' then complainAbout subject'.path reason
        pure 2

/-- Compare two files or, to a depth, two directories, given the directories in which they lie, if these are compared; a
file that is not there has no name. The result is a status. -/
def comparePaths (plan : Plan) : Nat → Option (Raw × Raw) → Option Raw → Option Raw → Act Nat
  | 0, _, _, _ => pure 0
  | depth + 1, within, entry, entry' => do
    let only := fun (directory name : Raw) => do
      Act.sayLine ("Only in ".toList ++ directory ++ ": ".toList ++ name)
      pure 1
    let isCompared := plan.missingIsEmpty || (entry.isSome && entry'.isSome) || (plan.firstMissingIsEmpty && entry'.isSome)
    let directories := within.getD ([], [])
    let name := (entry.orElse fun _ => entry').getD []
    let name' := (entry'.orElse fun _ => entry).getD []
    if !isCompared then only (if entry.isNone then directories.2 else directories.1) name
    else
      let (path, path') := if within.isNone then (name, name')
        else (Path.beneath directories.1 name, Path.beneath directories.2 name')
      let found ← statusOf plan.followsLinks path
      let found' ← if path == path' then pure found else statusOf plan.followsLinks path'
      let isEmpty := entry.isNone || countsAsEmpty (plan.missingIsEmpty || plan.firstMissingIsEmpty) within.isNone found found'
      let isEmpty' := entry'.isNone || (countsAsEmpty plan.missingIsEmpty within.isNone found' found &&
        (found'.toOption.isSome || !isEmpty))
      let reasons := [(path, isEmpty, found), (path', isEmpty', found')].filterMap fun (path, isEmpty, found) =>
        match isEmpty, found with
        | false, .error reason => some (path, reason)
        | _, _ => none
      if !reasons.isEmpty then
        for (path, reason) in reasons do
          complainAbout path reason
        pure 2
      else
        let known := fun (isEmpty : Bool) (found : Except OsError Status) => if isEmpty then none else found.toOption
        let subject : Subject := ⟨path, known isEmpty found⟩
        let subject' : Subject := ⟨path', known isEmpty' found'⟩
        let descends (directory file : Subject) : Bool :=
          within.isNone && directory.isDirectory && file.status.isSome && !file.isDirectory
        let chosen ← if descends subject subject' then do
            let moved ← inside plan path path'
            pure (moved, some subject')
          else if descends subject' subject then do
            let moved ← inside plan path' path
            pure (some subject, moved)
          else pure (some subject, some subject')
        match chosen with
        | (some subject, some subject') => do
          let next := fun (directories : Raw × Raw) (entry entry' : Option Raw) =>
            comparePaths plan depth (some directories) entry entry'
          let status ← compareSubjects plan next within name subject subject'
          if status = 0 && plan.tellsSame && !(subject.isDirectory || (subject.status.isNone && subject'.isDirectory)) then
            Act.sayLine ("Files ".toList ++ shownName plan subject ++ " and ".toList ++ shownName' plan subject' ++
              " are identical".toList)
          pure status
        | _ => pure 2

/-- Complain about the arguments and end the program. -/
def refuse {α : Type} (message : Raw) : Act α := do
  Act.complain message
  Act.complain ("Try '".toList ++ (← get).name ++ " --help' for more information.".toList)
  Act.finish 2

/-- The options that are known. -/
def known : List Known :=
  [⟨"binary", "binary", .nothing⟩, ⟨"q", "brief", .nothing⟩, ⟨"changed-group-format", "changed-group-format", .always⟩,
    ⟨"color", "color", .maybe⟩, ⟨"context", "context", .maybe⟩, ⟨"e", "ed", .nothing⟩, ⟨"x", "exclude", .always⟩,
    ⟨"X", "exclude-from", .always⟩, ⟨"t", "expand-tabs", .nothing⟩, ⟨"f", "forward-ed", .nothing⟩,
    ⟨"from-file", "from-file", .always⟩, ⟨"help", "help", .nothing⟩, ⟨"horizon-lines", "horizon-lines", .always⟩,
    ⟨"D", "ifdef", .always⟩, ⟨"w", "ignore-all-space", .nothing⟩, ⟨"B", "ignore-blank-lines", .nothing⟩,
    ⟨"i", "ignore-case", .nothing⟩, ⟨"ignore-file-name-case", "ignore-file-name-case", .nothing⟩,
    ⟨"I", "ignore-matching-lines", .always⟩, ⟨"b", "ignore-space-change", .nothing⟩,
    ⟨"E", "ignore-tab-expansion", .nothing⟩, ⟨"Z", "ignore-trailing-space", .nothing⟩,
    ⟨"inhibit-hunk-merge", "inhibit-hunk-merge", .nothing⟩, ⟨"T", "initial-tab", .nothing⟩, ⟨"L", "label", .always⟩,
    ⟨"left-column", "left-column", .nothing⟩, ⟨"line-format", "line-format", .always⟩, ⟨"d", "minimal", .nothing⟩,
    ⟨"N", "new-file", .nothing⟩, ⟨"new-group-format", "new-group-format", .always⟩,
    ⟨"new-line-format", "new-line-format", .always⟩, ⟨"no-dereference", "no-dereference", .nothing⟩,
    ⟨"no-ignore-file-name-case", "no-ignore-file-name-case", .nothing⟩, ⟨"normal", "normal", .nothing⟩,
    ⟨"old-group-format", "old-group-format", .always⟩, ⟨"old-line-format", "old-line-format", .always⟩,
    ⟨"l", "paginate", .nothing⟩, ⟨"palette", "palette", .always⟩, ⟨"presume-output-tty", "presume-output-tty", .nothing⟩,
    ⟨"n", "rcs", .nothing⟩, ⟨"r", "recursive", .nothing⟩, ⟨"s", "report-identical-files", .nothing⟩,
    ⟨"sdiff-merge-assist", "sdiff-merge-assist", .nothing⟩, ⟨"p", "show-c-function", .nothing⟩,
    ⟨"F", "show-function-line", .always⟩, ⟨"y", "side-by-side", .nothing⟩, ⟨"H", "speed-large-files", .nothing⟩,
    ⟨"S", "starting-file", .always⟩, ⟨"strip-trailing-cr", "strip-trailing-cr", .nothing⟩,
    ⟨"suppress-blank-empty", "suppress-blank-empty", .nothing⟩,
    ⟨"suppress-common-lines", "suppress-common-lines", .nothing⟩, ⟨"tabsize", "tabsize", .always⟩, ⟨"a", "text", .nothing⟩,
    ⟨"to-file", "to-file", .always⟩, ⟨"unchanged-group-format", "unchanged-group-format", .always⟩,
    ⟨"unchanged-line-format", "unchanged-line-format", .always⟩, ⟨"P", "unidirectional-new-file", .nothing⟩,
    ⟨"unified", "unified", .maybe⟩, ⟨"version", "version", .nothing⟩, ⟨"W", "width", .always⟩, ⟨"c", "", .nothing⟩,
    ⟨"C", "", .always⟩, ⟨"u", "", .nothing⟩, ⟨"U", "", .always⟩, ⟨"v", "", .nothing⟩, ⟨"h", "", .nothing⟩] ++
    (List.range 10).map fun digit => ⟨String.ofList (decimal digit), "", .nothing⟩

/-- Read an expression that lines are matched with. -/
def readMatcher (text : Raw) : Act Matcher := do
  match Matcher.read { extended := false } text with
  | .ok matcher => pure matcher
  | .error message => Act.die 2 (text ++ ": ".toList ++ message.toList)

/-- A value that is told for the first time, or that is told again; the option is named if it was told otherwise. -/
def setOnce (option : String) (before : Option Raw) (value : Raw) : Act (Option Raw) := do
  if before.any fun before => before != value then
    refuse ("conflicting ".toList ++ option.toList ++ " option value ".toList ++ "'".toList ++ value ++ ['\''])
  else pure (some value)

/-- The forms that tell how files are written in one, with some more that are told by an option. -/
def setForms (option : String) (forms others : Rendition.Forms) : Act Rendition.Forms := do
  let one := fun (before value : Option Raw) => match value with
    | some value => setOnce option before value
    | none => pure before
  let commonLine ← one forms.commonLine others.commonLine
  let removedLine ← one forms.removedLine others.removedLine
  let addedLine ← one forms.addedLine others.addedLine
  let common ← one forms.common others.common
  let removed ← one forms.removed others.removed
  let added ← one forms.added others.added
  let changed ← one forms.changed others.changed
  pure { commonLine, removedLine, addedLine, common, removed, added, changed }

/-- The forms that an option tells. -/
def formsOf (key : String) (argument : Raw) : Rendition.Forms :=
  match key with
  | "D" => .ofName argument
  | "line-format" => { commonLine := some argument, removedLine := some argument, addedLine := some argument }
  | "unchanged-line-format" => { commonLine := some argument }
  | "old-line-format" => { removedLine := some argument }
  | "new-line-format" => { addedLine := some argument }
  | "unchanged-group-format" => { common := some argument }
  | "old-group-format" => { removed := some argument }
  | "new-group-format" => { added := some argument }
  | _ => { changed := some argument }

/-- The patterns in a file, one on each line. -/
def patternsIn (path : Raw) : Act (List Raw) := do
  match ← Act.readFile path with
  | .error reason => Act.die 2 (path ++ ": ".toList ++ reason.description)
  | .ok octets =>
    pure (((linesOf '\n' (Raw.ofOctets octets)).map fun line => dropTrailing Raw.isSpace line.text).filter fun line =>
      !line.isEmpty)

/-- What an option changes. -/
def apply (plan : Plan) (given : Given) : Act Plan := do
  let argument := given.argument.getD []
  let isNumeral := !argument.isEmpty && argument.all Char.isDigit
  let numeral := fun (what : String) =>
    if isNumeral && Numeral.valueOf 10 argument != 0 then pure (Numeral.valueOf 10 argument)
    else refuse ("invalid ".toList ++ what.toList ++ ' ' :: quoted argument)
  let styled := fun (style : Style) =>
    if !plan.isStyled || plan.style == style then pure { plan with style, isStyled := true }
    else refuse "conflicting output style options".toList
  let around := fun (style : Style) => do
    let context ← if given.argument.isNone then pure 3
      else if isNumeral || argument.isEmpty then pure (Numeral.valueOf 10 argument)
      else refuse ("invalid context length ".toList ++ quoted argument)
    let plan ← styled style
    pure { plan with context := max context plan.context }
  match given.key with
  | "normal" => styled .normal
  | "q" => pure { plan with brief := true }
  | "s" => pure { plan with tellsSame := true }
  | "c" => around .context
  | "C" => around .context
  | "context" => around .context
  | "u" => around .unified
  | "U" => around .unified
  | "unified" => around .unified
  | "e" => styled .editor
  | "n" => styled .counted
  | "f" => styled .forwardEditor
  | "y" => styled .columns
  | "W" => do
    let width ← numeral "width"
    pure { plan with width }
  | "left-column" => pure { plan with leftColumn := true }
  | "suppress-common-lines" => pure { plan with hidesSame := true }
  | "suppress-blank-empty" => pure { plan with baresEmpty := true }
  | "p" => do
    let matcher ← readMatcher "^[[:alpha:]$_]".toList
    pure { plan with headings := plan.headings ++ [matcher] }
  | "F" => do
    let matcher ← readMatcher argument
    pure { plan with headings := plan.headings ++ [matcher] }
  | "L" => do
    if plan.labels.length = 2 then Act.die 2 "too many file label options".toList
    pure { plan with labels := plan.labels ++ [argument] }
  | "t" => pure { plan with expandsTabs := true }
  | "T" => pure { plan with initialTab := true }
  | "tabsize" => do
    let tab ← numeral "tabsize"
    pure { plan with tab }
  | "horizon-lines" => do
    if !isNumeral then refuse ("invalid horizon length ".toList ++ quoted argument)
    pure { plan with horizon := max plan.horizon (Numeral.valueOf 10 argument) }
  | "color" =>
    match given.argument.map String.ofList with
    | some "always" => pure { plan with colors := true }
    | some "never" => pure { plan with colors := false }
    | some "auto" => pure { plan with colors := false }
    | none => pure { plan with colors := false }
    | some _ => refuse ("invalid color ".toList ++ quoted argument)
  | "r" => pure { plan with recursive := true }
  | "no-dereference" => pure { plan with followsLinks := false }
  | "N" => pure { plan with missingIsEmpty := true }
  | "P" => pure { plan with firstMissingIsEmpty := true }
  | "x" => pure { plan with excluded := plan.excluded ++ [argument] }
  | "X" => do
    let patterns ← patternsIn argument
    pure { plan with excluded := plan.excluded ++ patterns }
  | "S" => do
    let before := if plan.startingName.isEmpty then none else some plan.startingName
    let startingName ← setOnce "-S" before argument
    pure { plan with startingName := startingName.getD [] }
  | "i" => pure { plan with ignoresCase := true }
  | "E" => pure { plan with blanks := match plan.blanks with
      | .none => .tabs
      | .trailing => .trailingAndTabs
      | other => other }
  | "Z" => pure { plan with blanks := match plan.blanks with
      | .none => .trailing
      | .tabs => .trailingAndTabs
      | other => other }
  | "b" => pure { plan with blanks := if plan.blanks == .all then .all else .amount }
  | "w" => pure { plan with blanks := .all }
  | "B" => pure { plan with ignoresBlankLines := true }
  | "I" => do
    let matcher ← readMatcher argument
    pure { plan with ignored := plan.ignored ++ [matcher] }
  | "a" => pure { plan with text := true }
  | "strip-trailing-cr" => pure { plan with stripsReturns := true }
  | key =>
    if key == "D" || key.endsWith "-format" then
      let plan ← styled .merged
      let forms ← setForms (if key == "D" then "-D" else "--" ++ key) plan.forms (formsOf key argument)
      pure { plan with forms }
    else pure plan

/-- How files are compared if nothing is said about it. -/
def usual : Plan where
  style := .normal
  isStyled := false
  horizon := 0
  colors := false
  baresEmpty := false
  context := 0
  brief := false
  tellsSame := false
  recursive := false
  missingIsEmpty := false
  firstMissingIsEmpty := false
  ignoresCase := false
  blanks := .none
  ignoresBlankLines := false
  ignored := []
  text := false
  stripsReturns := false
  expandsTabs := false
  initialTab := false
  tab := 8
  width := 130
  leftColumn := false
  hidesSame := false
  headings := []
  labels := []
  excluded := []
  forms := {}
  followsLinks := true
  startingName := []
  arguments := []

/-- The arguments that are no operands, up to the one that ends options. -/
def withoutOperands : List Raw → List Raw → List Raw
  | [], _ => []
  | argument :: rest, operands =>
    if argument == ['-', '-'] then [argument]
    else if operands.head? == some argument then withoutOperands rest (operands.drop 1)
    else argument :: withoutOperands rest operands

/-- Read options, or complain about them. -/
def readOptions (known : List Known) (arguments : List Raw) : Act Invocation := do
  match Options.readArguments known false (arguments.length + 1) arguments with
  | .ok invocation => pure invocation
  | .error message => refuse message

/-- The count of lines that is given by digits that follow each other as options. -/
def digitsIn (invocation : Invocation) : Option Nat :=
  let read := invocation.given.foldl (fun (state : Option Nat × Bool) (given : Given) =>
    match given.key.toList with
    | [c] =>
      if !c.isDigit then (state.1, false)
      else
        let value := Numeral.valueOf 10 [c]
        (some (if state.2 then 10 * state.1.getD 0 + value else value), true)
    | _ => (state.1, false)) (none, false)
  read.1

/-- What the arguments ask for. -/
def planOf (arguments : List Raw) (invocation : Invocation) : Act Plan := do
  let mut plan := usual
  for given in invocation.given do
    plan ← apply plan given
  if invocation.has "p" && !plan.isStyled then
    plan := { plan with style := .context, context := if (digitsIn invocation).isSome then 0 else 3 }
  let isAround := plan.style == .unified || plan.style == .context
  let isExplicit := invocation.given.any fun given => given.key == "C" || given.key == "U" ||
    given.key == "context" || given.key == "unified"
  let context := match digitsIn invocation with
    | some count => if isAround && (plan.context < count || !isExplicit) then count else plan.context
    | none => plan.context
  let written := (withoutOperands arguments invocation.operands).flatMap fun word => ' ' :: wordFor word
  pure { plan with arguments := written, context }

/-- Complain that there are too few operands, naming the last one, or the last argument. -/
def refuseMissing {α : Type} (arguments : List Raw) (invocation : Invocation) : Act α := do
  let name := (← get).name
  let last := invocation.operands.getLast?.orElse fun _ => arguments.getLast?
  refuse ("missing operand after ".toList ++ quoted (last.getD name))

/-- How deep directories may lie in each other. -/
def deepest : Nat := 200

/-- Tell how files differ that arguments name. -/
def run (arguments : List Raw) : Act Unit := do
  modify fun output => { output with
    outputStatus := 2, complaint := fun reason => "standard output: ".toList ++ reason.description }
  let invocation ← readOptions known arguments
  let plan ← planOf arguments invocation
  let each := fun (pairs : List (Raw × Raw)) => do
    for (first, second) in pairs do
      let status ← comparePaths plan deepest none (some first) (some second)
      let before := (← get).status
      Act.fail (max status before)
  match invocation.argument? "from-file", invocation.argument? "to-file", invocation.operands with
  | some _, some _, _ => Act.die 2 "--from-file and --to-file both specified".toList
  | some first, none, operands => each (operands.map fun second => (first, second))
  | none, some second, operands => each (operands.map fun first => (first, second))
  | none, none, [first, second] => each [(first, second)]
  | none, none, _ :: _ :: extra :: _ => refuse ("extra operand ".toList ++ quoted extra)
  | none, none, _ => refuseMissing arguments invocation

end Difference

/-- Tell how files differ. -/
def diff : Utility := ofAct Difference.run

/-- The programs that are here. -/
def comparingTools : List (String × Utility) :=
  [("diff", diff)]

end AnswerQuery.Host.Tool
