import AnswerQuery.Host.Script.Wildcard
import AnswerQuery.Host.Tool.Amount
import AnswerQuery.Host.Tool.Mode
import AnswerQuery.Host.Tool.Order
import AnswerQuery.Host.Tool.Path
import AnswerQuery.Host.Tool.Time

/-! Listing directories, and telling what files are. -/

namespace AnswerQuery.Host.Tool

namespace Listing

/-- How names are laid out. -/
inductive Layout where
  | lines
  | long
  /-- In columns that are read downwards. -/
  | columns
  /-- In columns that are read across. -/
  | rows
  /-- With commas between them. -/
  | commas
  deriving DecidableEq, Repr

/-- What names are followed by. -/
inductive Marks where
  | none
  /-- A slash behind directories. -/
  | slash
  /-- A mark of the kind of file. -/
  | kinds
  /-- A mark of the kind of file, or of a program. -/
  | all
  deriving DecidableEq, Repr

/-- How names are written. -/
inductive Quoting where
  | literal
  /-- Characters are escaped where that is needed. -/
  | escape
  /-- In double quotes. -/
  | double
  /-- In double quotes where something is escaped. -/
  | doubleMaybe
  /-- As a word for a shell. -/
  | shell
  | shellAlways
  /-- As a word for a shell in which characters that cannot be shown are escaped. -/
  | shellEscape
  | shellEscapeAlways
  /-- In the quotes of sentences. -/
  | sentence
  deriving DecidableEq, Repr

/-- What names are put in order by. -/
inductive Sorting where
  | name
  | size
  | time
  | ending
  | version
  | width
  | none
  deriving DecidableEq, Repr

/-- When links are followed. -/
inductive Following where
  | never
  /-- Those that were named and lead to directories. -/
  | namedDirectories
  /-- Those that were named. -/
  | named
  | always
  deriving DecidableEq, Repr

/-- A time of a file. -/
inductive TimeKind where
  /-- When it was changed. -/
  | changed
  /-- When it was used. -/
  | accessed
  /-- When anything about it was changed. -/
  | altered
  deriving DecidableEq, Repr

/-- The time of a file that is meant. -/
def TimeKind.of (kind : TimeKind) (status : Status) : Calendar.Moment :=
  match kind with
  | changed => status.changed
  | accessed => status.accessed
  | altered => status.altered

/-- How times are written. -/
structure TimeForm where
  /-- The form of those that are long past or yet to come. -/
  distant : Raw
  /-- The form of the others. -/
  recent : Raw
  deriving DecidableEq, Repr

/-- The usual way of writing times. -/
def TimeForm.usual : TimeForm := ⟨"%b %e  %Y".toList, "%b %e %H:%M".toList⟩

/-- The way of writing times in full. -/
def TimeForm.full : TimeForm :=
  let form := "%Y-%m-%d %H:%M:%S.%N %z".toList
  ⟨form, form⟩

/-- What is wanted. -/
structure Wanted where
  /-- How names are laid out. -/
  layout : Layout
  /-- Which names that begin with a dot are left out: all of them, the two of each directory, or none. -/
  hidden : Nat
  /-- Whether directories are listed like other files. -/
  directoriesAsFiles : Bool
  /-- Whether the directories in directories are listed too. -/
  recursive : Bool
  /-- Whether the order is turned around. -/
  turned : Bool
  /-- Whether directories come first. -/
  directoriesFirst : Bool
  /-- What names are put in order by. -/
  sorting : Sorting
  /-- What names are followed by. -/
  marks : Marks
  /-- How names are written. -/
  quoting : Quoting
  /-- Whether characters that cannot be shown are replaced. -/
  replaces : Bool
  /-- Whether the numbers of nodes are written. -/
  numbers : Bool
  /-- Whether the sizes of files in blocks are written. -/
  blocks : Bool
  /-- How sizes are written. -/
  sizes : Scale
  /-- How sizes in blocks are written. -/
  blockSizes : Scale
  /-- Whether owners are told by their numbers. -/
  numericOwners : Bool
  /-- Whether the owner is told. -/
  owner : Bool
  /-- Whether the group is told. -/
  group : Bool
  /-- When links are followed. -/
  following : Following
  /-- The patterns of names that are left out. -/
  ignored : List Raw
  /-- The patterns of names that are left out unless names with dots are listed. -/
  hiddenPatterns : List Raw
  /-- How wide lines are; no limit if that is zero. -/
  width : Nat
  /-- How wide tabs are. -/
  tab : Nat
  /-- What lines end with. -/
  lineEnd : Char
  /-- Whether the context of files is written. -/
  context : Bool
  /-- The times that are told, or that names are put in order by. -/
  time : TimeKind
  /-- How times are written. -/
  timeForm : TimeForm
  /-- The time it is. -/
  now : Calendar.Moment
  /-- The zone that times are told in. -/
  zone : Calendar.Zone
  /-- Whether names are coloured. -/
  coloured : Bool

/-- A file that is listed. -/
structure Entry where
  /-- What it is called. -/
  name : Raw
  /-- Where it is. -/
  path : Raw
  /-- What it is, if that can be told. -/
  status : Option Status
  /-- What kind of file it is, if that is known nevertheless. -/
  kind : Kind := .file
  /-- How many names it has. -/
  links : Nat := 1
  /-- The path that it stands for. -/
  target : Option Raw := none
  /-- What that path leads to. -/
  targetStatus : Option Status := none

/-- A character in double quotes or behind a backslash. -/
def escaped (special : Raw) (c : Char) : Raw :=
  if special.contains c then ['\\', c]
  else if Quote.isPrinted c then [c]
  else '\\' :: Quote.escapeOf c

/-- A text as a word for a shell in quotes, its characters being left as they are. -/
def plainWord (text : Raw) : Raw :=
  if text.all Quote.isPrinted then quotedWord text
  else '\'' :: text.flatMap (fun c => if c == '\'' then "'\\''".toList else [c]) ++ ['\'']

/-- Whether a shell would read a text as something else than a plain word. -/
def needsQuotes (text : Raw) : Bool :=
  Quote.isSpecial (text.map fun c => if Quote.isPrinted c || Raw.isSpace c then c else 'x')

/-- A name as it is written. -/
def shown (wanted : Wanted) (name : Raw) : Raw :=
  let hide := fun (text : Raw) =>
    if wanted.replaces then text.map fun c => if Quote.isPrinted c then c else '?' else text
  match wanted.quoting with
  | .literal => hide name
  | .escape => name.flatMap (escaped [' ', '\\'])
  | .double => '"' :: name.flatMap (escaped ['"', '\\']) ++ ['"']
  | .doubleMaybe =>
    let text := name.flatMap (escaped ['"', '\\'])
    if text == name || name.contains '\\' && name.all Quote.isPrinted && !name.contains '"' then name
    else '"' :: text ++ ['"']
  | .shell => hide (if needsQuotes name then plainWord name else name)
  | .shellAlways => hide (plainWord name)
  | .shellEscape => wordFor name
  | .shellEscapeAlways => quotedWord name
  | .sentence => quoted name

/-- The name of a directory in front of what is in it. -/
def heading (wanted : Wanted) (name : Raw) : Raw :=
  match wanted.quoting with
  | .escape => name.flatMap (escaped ['\\', ':'])
  | .double => '"' :: name.flatMap (escaped ['"', '\\', ':']) ++ ['"']
  | .shell => if name.contains ':' then plainWord name else shown wanted name
  | .shellEscape => nameFor name
  | _ => shown wanted name

/-- The mark of a kind of file with a mode. -/
def mark (marks : Marks) (kind : Kind) (mode : Nat) : Raw :=
  match marks, kind with
  | .none, _ => []
  | _, .directory => ['/']
  | .slash, _ => []
  | _, .link => ['@']
  | _, .channel => ['|']
  | .all, .file => if Nat.land mode 0o111 != 0 then ['*'] else []
  | _, _ => []

/-- How many blocks of 1024 octets a file takes. -/
def blocksOf (status : Status) : Nat :=
  match status.kind with
  | .directory => 4
  | .file => (status.size + 4095) / 4096 * 4
  | _ => 0

/-- The name of the owner of a file. -/
def ownerOf (numeric : Bool) (status : Status) : Raw :=
  (if numeric then (if status.foreign then "0" else "65534") else if status.foreign then "root" else "nobody").toList

/-- The name of the group of a file. -/
def groupOf (numeric : Bool) (status : Status) : Raw :=
  (if numeric then (if status.foreign then "0" else "65534") else if status.foreign then "root" else "nogroup").toList

/-- Fill a text up on its left. -/
def onRight (width : Nat) (text : Raw) : Raw :=
  List.replicate (width - text.length) ' ' ++ text

/-- Fill a text up on its right. -/
def onLeft (width : Nat) (text : Raw) : Raw :=
  text ++ List.replicate (width - text.length) ' '

/-- The longest of some texts. -/
def widest (texts : List Raw) : Nat :=
  texts.foldl (fun width text => max width text.length) 0

/-- The size of a file as it is written. -/
def sizeText (wanted : Wanted) (entry : Entry) : Raw :=
  match entry.status with
  | none => ['?']
  | some status =>
    if let some device := status.device then
      let (first, second) := device.numbers
      decimal first ++ ", ".toList ++ decimal second
    else wanted.sizes.text status.size

/-- The blocks of a file as they are written. -/
def blockText (wanted : Wanted) (status : Option Status) : Raw :=
  match status with
  | none => ['?']
  | some status => wanted.blockSizes.text (blocksOf status * 1024)

/-- How many nanoseconds have passed at most since times that are not long past: those of half a year. -/
def recently : Int := 15778476 * Calendar.nanosecondsPerSecond

/-- A time as it is written. -/
def timeText (wanted : Wanted) (moment : Calendar.Moment) : Raw :=
  let isRecent := wanted.now - recently < moment && moment ≤ wanted.now
  (wanted.zone.shown moment).inForm (if isRecent then wanted.timeForm.recent else wanted.timeForm.distant)

/-- The columns in front of the name of a file, and whether each is filled up on its right. -/
def columns (wanted : Wanted) (entry : Entry) : List (Bool × Raw) :=
  let told : (Status → Raw) → Raw := fun text => (entry.status.map text).getD ['?']
  let mode := match entry.status with
    | some status => Mode.kindLetter status.kind :: Mode.letters status.mode
    | none => Mode.kindLetter entry.kind :: "?????????".toList
  let time := match entry.status with
    | some status => timeText wanted (wanted.time.of status)
    | none => onRight (timeText wanted wanted.now).length ['?']
  (if wanted.numbers then [(false, told fun status => decimal (status.number.getD 0))] else []) ++
    (if wanted.blocks then [(false, blockText wanted entry.status)] else []) ++
    (if wanted.layout == .long then
      [(true, mode), (false, told fun _ => decimal entry.links)] ++
        (if wanted.owner then [(true, told (ownerOf wanted.numericOwners))] else []) ++
        (if wanted.group then [(true, told (groupOf wanted.numericOwners))] else []) ++
        (if wanted.context then [(true, ['?'])] else []) ++ [(false, sizeText wanted entry), (true, time)]
    else if wanted.context then [(true, ['?'])] else [])

/-- A text that takes less room than it has characters, since some of them only set colours. -/
structure Label where
  /-- The text. -/
  text : Raw
  /-- How much room it takes. -/
  width : Nat

/-- The code of the colour of a kind of file with a mode, if it has one. -/
def colour? (kind : Kind) (mode : Nat) : Option String :=
  let has := fun (bits : Nat) => Nat.land mode bits == bits
  match kind with
  | .directory =>
    some (if has 0o1002 then "30;42" else if has 0o2 then "34;42" else if has 0o1000 then "37;44" else "01;34")
  | .link => some "01;36"
  | .channel => some "33"
  | .device => some "01;33"
  | .file =>
    if has 0o4000 then some "37;41" else if has 0o2000 then some "30;43"
    else if Nat.land mode 0o111 != 0 then some "01;32" else none

/-- A name in the colour of its kind of file. -/
def inColour (wanted : Wanted) (status : Option (Kind × Nat)) (name : Raw) : Label :=
  let text := shown wanted name
  match if wanted.coloured then status.bind fun (kind, mode) => colour? kind mode else none with
  | some code => ⟨"\x1b[".toList ++ code.toList ++ 'm' :: text ++ "\x1b[0m".toList, text.length⟩
  | none => ⟨text, text.length⟩

namespace Label

/-- A label with more text behind it. -/
def append (label : Label) (text : Raw) : Label :=
  ⟨label.text ++ text, label.width + text.length⟩

end Label

/-- The name of a file with what follows it. -/
def nameText (wanted : Wanted) (entry : Entry) : Label :=
  let (kind, mode) := ((entry.status.map fun status => (status.kind, status.mode)).getD (entry.kind, 0))
  let name := inColour wanted (some (kind, mode)) entry.name
  match wanted.layout, entry.target with
  | .long, some target =>
    let target := inColour wanted (entry.targetStatus.map fun status => (status.kind, status.mode)) target
    name.append (" -> ".toList ++ target.text ++
      ((entry.targetStatus.map fun status => mark wanted.marks status.kind status.mode).getD []))
  | _, _ => name.append (mark wanted.marks kind mode)

/-- Files as labels, with the columns in front of their names. -/
def labels (wanted : Wanted) (entries : List Entry) : List Label :=
  let rows := entries.map fun entry => (columns wanted entry, nameText wanted entry)
  let count := ((rows.head?.map fun row => row.1.length).getD 0)
  let widths := (List.range count).map fun place =>
    if wanted.layout == .commas then 0
    else widest (rows.map fun row => ((row.1[place]?).map Prod.snd).getD [])
  rows.map fun (front, name) =>
    let front := (front.zip widths).flatMap fun ((left, text), width) =>
      (if left then onLeft width text else onRight width text) ++ [' ']
    ⟨front ++ name.text, front.length + name.width⟩

/-- The way from one column of a line to another one. -/
def indent (tab : Nat) : Nat → Nat → Nat → Raw
  | 0, _, _ => []
  | steps + 1, here, there =>
    if there ≤ here then []
    else if tab != 0 && (here + 1) / tab < there / tab then
      '\t' :: indent tab steps (here + tab - here % tab) there
    else ' ' :: indent tab steps (here + 1) there

/-- How wide columns are if there are so many, and how wide the line is then. -/
def columnWidths (down : Bool) (lengths : Array Nat) (count : Nat) : Array Nat :=
  let rows := (lengths.size + count - 1) / count
  lengths.zipIdx.foldl (fun widths (length, place) =>
    let column := if down then place / rows else place % count
    let needed := length + (if column + 1 = count then 0 else 2)
    widths.modify column (max needed)) (Array.replicate count 3)

/-- The most columns for which the line is short enough, tried from a number of columns on. -/
def bestColumns (down : Bool) (width : Nat) (lengths : Array Nat) : Nat → Array Nat
  | 0 => columnWidths down lengths 1
  | count + 1 =>
    let widths := columnWidths down lengths (count + 1)
    if count = 0 || widths.foldl (· + ·) 0 < width then widths else bestColumns down width lengths count

/-- The labels of a line that are so many steps apart, laid out in columns. -/
def layLine (tab : Nat) (widths : Array Nat) : Nat → Nat → List Label → Raw
  | _, _, [] => []
  | _, _, [last] => last.text
  | column, here, label :: rest =>
    let next := here + widths.getD column 0
    label.text ++ indent tab (next + 1) (here + label.width) next ++ layLine tab widths (column + 1) next rest

/-- Labels in columns. -/
def inColumns (wanted : Wanted) (down : Bool) (labels : List Label) : List Raw :=
  let all := labels.toArray
  let lengths := all.map Label.width
  let most := min ((wanted.width + 2) / 3) all.size
  let widths := if wanted.width = 0 then lengths.map (· + 2) else bestColumns down wanted.width lengths most
  let count := max widths.size 1
  let rows := (all.size + count - 1) / count
  let tab := if wanted.width = 0 then 0 else wanted.tab
  (List.range rows).map fun row =>
    let places := (List.range count).filterMap fun column =>
      all[if down then row + column * rows else row * count + column]?
    layLine tab widths 0 0 places

/-- Labels with commas between them, given how far the line is already. -/
def withCommas (width : Nat) (lineEnd : Char) : Nat → List Label → Raw
  | _, [] => []
  | _, [last] => last.text
  | here, label :: next :: rest =>
    let here := here + label.width
    let fits := width = 0 || here + next.width + 2 < width
    label.text ++ [',', if fits then ' ' else lineEnd] ++
      withCommas width lineEnd (if fits then here + 2 else 0) (next :: rest)

/-- How far the writing of files is. -/
structure Progress where
  /-- Whether nothing has been written. -/
  isFirst : Bool := true
  /-- Whether a colour has been set. -/
  hasColour : Bool := false

/-- A text in front of whose first colour all colours are taken back. -/
def withReset (text : Raw) : Raw :=
  let front := text.takeWhile (· != '\x1b')
  front ++ "\x1b[0m".toList ++ text.drop front.length

/-- Write files. -/
def show_ (wanted : Wanted) (progress : Progress) (entries : List Entry) : Act Progress := do
  let labels := labels wanted entries
  let lines := if labels.isEmpty then [] else match wanted.layout with
    | .lines => labels.map Label.text
    | .long => labels.map Label.text
    | .columns => inColumns wanted true labels
    | .rows => inColumns wanted false labels
    | .commas => [withCommas wanted.width wanted.lineEnd 0 labels]
  let mut hasColour := progress.hasColour
  for line in lines do
    let sets := wanted.coloured && !hasColour && line.contains '\x1b'
    Act.say ((if sets then withReset line else line) ++ [wanted.lineEnd])
    hasColour := hasColour || sets
  pure { progress with hasColour }

/-- The ending of a name, with its dot. -/
def ending (name : Raw) : Raw :=
  let back := (name.reverse.takeWhile (· != '.')).reverse
  if back.length = name.length then [] else '.' :: back

/-- The order of texts by their octets. -/
def byOctets (first second : Raw) : Ordering :=
  if first == second then .eq else if Raw.inOrder first second then .lt else .gt

/-- Compare two files. -/
def compare (wanted : Wanted) (first second : Entry) : Ordering :=
  let names := byOctets first.name second.name
  let size := fun (entry : Entry) => (entry.status.map Status.size).getD 0
  let time := fun (entry : Entry) => (entry.status.map wanted.time.of).getD 0
  match wanted.sorting with
  | .none => .eq
  | .name => names
  | .size => (Ord.compare (size second) (size first)).then names
  | .time => (Ord.compare (time second) (time first)).then names
  | .ending => (byOctets (ending first.name) (ending second.name)).then names
  | .version => (Order.Version.compare first.name second.name).then names
  | .width => (Ord.compare (shown wanted first.name).length (shown wanted second.name).length).then names

/-- Whether a file is a directory. -/
def Entry.isDirectory (entry : Entry) : Bool :=
  (entry.status.map fun status => status.kind == .directory).getD false

/-- Put files in order. -/
def inOrder (wanted : Wanted) (entries : List Entry) : List Entry :=
  let isBefore := fun (first second : Entry) =>
    let ordering := compare wanted first second
    let ordering := if wanted.turned then ordering.swap else ordering
    if wanted.directoriesFirst && first.isDirectory != second.isDirectory then first.isDirectory
    else ordering != .gt
  entries.mergeSort isBefore

/-- Find out about a file that is listed. -/
def entryOf (wanted : Wanted) (named : Bool) (name path : Raw) : Act (Except OsError Entry) := do
  let plain ← Act.inspect path false
  let followed : Option (Except OsError Status) ← if wanted.following == .always || (named && wanted.following != .never) then
      some <$> Act.inspect path true
    else pure none
  let status : Except OsError Status := match followed with
    | none => plain
    | some (.ok status) =>
      if wanted.following == .namedDirectories && status.kind != .directory then plain else .ok status
    | some (.error reason) => if wanted.following == .always && plain matches .ok _ then .error reason else plain
  match status with
  | .error reason => pure (.error reason)
  | .ok status => do
    let isLink := status.kind == .link
    let target : Except OsError Raw ← if isLink then Act.linkTarget path else pure (.error .invalid)
    let targetStatus ← if isLink && wanted.layout == .long then Act.inspect path true else pure (.error .invalid)
    let links : Nat ← Act.ask (.links path (!isLink))
    pure (.ok { name, path, status := some status, links, target := target.toOption, targetStatus := targetStatus.toOption })

/-- Whether a name fits a pattern; a dot in front has to be there. -/
def fitsPattern (name pattern : Raw) : Bool :=
  let dot := name.head? == some '.'
  (!dot || pattern.head? == some '.') &&
    Script.Wildcard.fits (Script.Wildcard.ofMarked false (pattern.map fun c => (c, false))) name

/-- Whether a name in a directory is listed. -/
def isListed (wanted : Wanted) (name : Raw) : Bool :=
  let dot := name.head? == some '.'
  let own := name == ['.'] || name == ['.', '.']
  !(dot && wanted.hidden = 2) && !(own && wanted.hidden = 1) && !wanted.ignored.any (fitsPattern name) &&
    !(wanted.hidden = 2 && wanted.hiddenPatterns.any (fitsPattern name))

/-- Whether more than the kind of a file is of interest. -/
def needsStatus (wanted : Wanted) : Bool :=
  wanted.layout == .long || wanted.blocks || wanted.sorting == .size || wanted.sorting == .time ||
    wanted.marks == .all || wanted.following == .always

/-- List a directory and, to a depth, those in it; the flags tell whether it was named, and whether its name is told. -/
def listDirectory (wanted : Wanted) : Nat → Bool → Bool → Progress → Raw → Act Progress
  | 0, _, _, progress, _ => pure progress
  | depth + 1, named, headed, progress, path => do
    match ← Act.names path with
    | .error reason => do
      Act.complain ("cannot open directory ".toList ++ quotedWord path ++ ": ".toList ++ reason.description)
      let before := (← get).status
      Act.fail (if named then 2 else max 1 before)
      pure progress
    | .ok names => do
      if headed then
        if !progress.isFirst then Act.say [wanted.lineEnd]
        Act.say (heading wanted path ++ [':', wanted.lineEnd])
      let mut entries : List Entry := []
      for name in (["." , ".."].map String.toList ++ names).filter (isListed wanted) do
        let place := Path.beneath path name
        let told := if path == ['.'] then name else place
        match ← entryOf wanted false name place with
        | .ok entry => entries := entry :: entries
        | .error reason =>
          if needsStatus wanted then
            Act.complain ("cannot access ".toList ++ quotedWord told ++ ": ".toList ++ reason.description)
            let before := (← get).status
            Act.fail (max 1 before)
          let plain ← Act.inspect place false
          let kind := match plain with
            | .ok status => status.kind
            | .error _ => Kind.file
          entries := { name, path := place, status := none, kind } :: entries
      let sorted := inOrder wanted entries.reverse
      if wanted.layout == .long || wanted.blocks then
        let total := sorted.foldl (fun total entry => total + (entry.status.map blocksOf).getD 0) 0
        Act.say ("total ".toList ++ wanted.blockSizes.text (total * 1024) ++ [wanted.lineEnd])
      let progress ← show_ wanted progress sorted
      let mut progress := if headed then { progress with isFirst := false } else progress
      if wanted.recursive then
        for entry in sorted do
          if entry.isDirectory && entry.name != ['.'] && entry.name != ['.', '.'] then
            progress ← listDirectory wanted depth false true progress entry.path
      pure progress

/-- List what was named. -/
def list (wanted : Wanted) (operands : List Raw) : Act Unit := do
  let mut entries : List Entry := []
  for path in operands do
    match ← entryOf wanted true path path with
    | .ok entry => entries := entry :: entries
    | .error reason => Act.complainAbout 2 "cannot access" path reason
  let sorted := inOrder wanted entries.reverse
  let isPlain := fun (entry : Entry) => wanted.directoriesAsFiles || !entry.isDirectory
  let plain := sorted.filter isPlain
  let directories := sorted.filter fun entry => !isPlain entry
  let shownPlain ← show_ wanted {} plain
  if !plain.isEmpty && !directories.isEmpty then Act.say [wanted.lineEnd]
  let headed := wanted.recursive || !plain.isEmpty || 1 < operands.length || 1 < directories.length
  let mut progress := shownPlain
  for entry in directories do
    progress ← listDirectory wanted 500 true headed progress entry.path

/-- The options of the program that lists directories. -/
def known : List Known :=
  [⟨"a", "all", .nothing⟩, ⟨"A", "almost-all", .nothing⟩, ⟨"author", "author", .nothing⟩, ⟨"b", "escape", .nothing⟩,
    ⟨"block-size", "block-size", .always⟩, ⟨"B", "ignore-backups", .nothing⟩, ⟨"c", "", .nothing⟩, ⟨"C", "", .nothing⟩,
    ⟨"color", "color", .maybe⟩, ⟨"d", "directory", .nothing⟩, ⟨"D", "dired", .nothing⟩, ⟨"f", "", .nothing⟩,
    ⟨"F", "", .nothing⟩, ⟨"classify", "classify", .maybe⟩, ⟨"file-type", "file-type", .nothing⟩,
    ⟨"format", "format", .always⟩, ⟨"full-time", "full-time", .nothing⟩, ⟨"g", "", .nothing⟩,
    ⟨"group-directories-first", "group-directories-first", .nothing⟩, ⟨"G", "no-group", .nothing⟩,
    ⟨"h", "human-readable", .nothing⟩, ⟨"si", "si", .nothing⟩, ⟨"H", "dereference-command-line", .nothing⟩,
    ⟨"namedDirectories", "dereference-command-line-symlink-to-dir", .nothing⟩, ⟨"hide", "hide", .always⟩,
    ⟨"hyperlink", "hyperlink", .maybe⟩, ⟨"indicator-style", "indicator-style", .always⟩, ⟨"i", "inode", .nothing⟩,
    ⟨"I", "ignore", .always⟩, ⟨"k", "kibibytes", .nothing⟩, ⟨"l", "", .nothing⟩, ⟨"L", "dereference", .nothing⟩,
    ⟨"m", "", .nothing⟩, ⟨"n", "numeric-uid-gid", .nothing⟩, ⟨"N", "literal", .nothing⟩, ⟨"o", "", .nothing⟩,
    ⟨"p", "", .nothing⟩, ⟨"q", "hide-control-chars", .nothing⟩, ⟨"show", "show-control-chars", .nothing⟩,
    ⟨"Q", "quote-name", .nothing⟩, ⟨"quoting-style", "quoting-style", .always⟩, ⟨"r", "reverse", .nothing⟩,
    ⟨"R", "recursive", .nothing⟩, ⟨"s", "size", .nothing⟩, ⟨"S", "", .nothing⟩, ⟨"sort", "sort", .always⟩,
    ⟨"time", "time", .always⟩, ⟨"time-style", "time-style", .always⟩, ⟨"t", "", .nothing⟩, ⟨"T", "tabsize", .always⟩,
    ⟨"u", "", .nothing⟩, ⟨"U", "", .nothing⟩, ⟨"v", "", .nothing⟩, ⟨"w", "width", .always⟩, ⟨"x", "", .nothing⟩,
    ⟨"X", "", .nothing⟩, ⟨"Z", "context", .nothing⟩, ⟨"zero", "zero", .nothing⟩, ⟨"1", "", .nothing⟩]

/-- The layouts by their words. -/
def layouts : List (List String × Layout) :=
  [(["verbose", "long"], .long), (["commas"], .commas), (["horizontal", "across"], .rows), (["vertical"], .columns),
    (["single-column"], .lines)]

/-- The ways of putting names in order by their words. -/
def sortings : List (List String × Sorting) :=
  [(["none"], .none), (["time"], .time), (["size"], .size), (["extension"], .ending), (["version"], .version),
    (["width"], .width)]

/-- The ways of writing names by their words. -/
def quotings : List (List String × Quoting) :=
  [(["literal"], .literal), (["shell"], .shell), (["shell-always"], .shellAlways), (["shell-escape"], .shellEscape),
    (["shell-escape-always"], .shellEscapeAlways), (["c"], .double), (["c-maybe"], .doubleMaybe), (["escape"], .escape),
    (["locale"], .sentence), (["clocale"], .double)]

/-- The marks by their words. -/
def markWords : List (List String × Marks) :=
  [(["none"], .none), (["slash"], .slash), (["file-type"], .kinds), (["classify"], .all)]

/-- When something is done, by its words. -/
def whens : List (List String × Bool) :=
  [(["always", "yes", "force"], true), (["never", "no", "none"], false), (["auto", "tty", "if-tty"], false)]

/-- The times of files by their words. -/
def times : List (List String × TimeKind) :=
  [(["atime", "access", "use"], .accessed), (["ctime", "status"], .altered), (["mtime", "modification"], .changed),
    (["birth", "creation"], .altered)]

/-- The ways of writing times by their words. -/
def timeForms : List (String × TimeForm) :=
  [("full-iso", .full), ("long-iso", ⟨"%Y-%m-%d %H:%M".toList, "%Y-%m-%d %H:%M".toList⟩),
    ("iso", ⟨"%Y-%m-%d ".toList, "%m-%d %H:%M".toList⟩), ("locale", .usual)]

/-- The way of writing times that a text tells: a word, or forms behind a plus. -/
def timeForm? (text : Raw) : Option TimeForm :=
  match text with
  | '+' :: forms =>
    match Raw.split '\n' forms with
    | [form] => some ⟨form, form⟩
    | [distant, recent] => some ⟨distant, recent⟩
    | _ => none
  | text =>
    let word := if "posix-".toList.isPrefixOf text then text.drop 6 else text
    if word != text then some .usual
    else match timeForms.filter fun known => text.isPrefixOf known.1.toList with
      | [known] => some known.2
      | found => (found.find? fun known => known.1.toList == text).map Prod.snd

/-- What an option changes. -/
def apply (wanted : Wanted) (given : Given) : Act Wanted := do
  let argument := given.argument.getD []
  let long := { wanted with layout := .long }
  match given.key with
  | "a" => pure { wanted with hidden := 0 }
  | "A" => pure { wanted with hidden := 1 }
  | "b" => pure { wanted with quoting := .escape }
  | "B" => pure { wanted with ignored := wanted.ignored ++ ["*~".toList, ".*~".toList] }
  | "c" => pure { wanted with time := .altered, sorting := if wanted.sorting == .name then .time else wanted.sorting }
  | "u" => pure { wanted with time := .accessed, sorting := if wanted.sorting == .name then .time else wanted.sorting }
  | "C" => pure { wanted with layout := .columns }
  | "d" => pure { wanted with directoriesAsFiles := true }
  | "f" => pure { wanted with hidden := 0, sorting := .none, layout := if wanted.layout == .long then .lines else wanted.layout }
  | "F" => pure { wanted with marks := .all }
  | "classify" => do
    let shows ← match given.argument with
      | some text => Act.choose "--classify" whens text
      | none => pure true
    pure (if shows then { wanted with marks := .all } else wanted)
  | "color" => do
    let coloured ← match given.argument with
      | some text => Act.choose "--color" whens text
      | none => pure true
    pure { wanted with coloured }
  | "time" => do
    let time ← Act.choose "--time" times argument
    pure { wanted with time, sorting := if wanted.sorting == .name then .time else wanted.sorting }
  | "file-type" => pure { wanted with marks := .kinds }
  | "format" => do
    let layout ← Act.choose "--format" layouts argument
    pure { wanted with layout }
  | "full-time" => pure { long with timeForm := .full }
  | "g" => pure { long with owner := false }
  | "group-directories-first" => pure { wanted with directoriesFirst := true }
  | "G" => pure { wanted with group := false }
  | "h" => pure { wanted with sizes := .fitting 1024, blockSizes := .fitting 1024 }
  | "si" => pure { wanted with sizes := .fitting 1000, blockSizes := .fitting 1000 }
  | "block-size" =>
    match Scale.read argument with
    | .ok scale => pure { wanted with sizes := scale, blockSizes := scale }
    | .error flaw => Act.refuseAmount 2 given.shown argument flaw
  | "H" => pure { wanted with following := .named }
  | "namedDirectories" => pure { wanted with following := .namedDirectories }
  | "hide" => pure { wanted with hiddenPatterns := wanted.hiddenPatterns ++ [argument] }
  | "indicator-style" => do
    let marks ← Act.choose "--indicator-style" markWords argument
    pure { wanted with marks }
  | "i" => pure { wanted with numbers := true }
  | "I" => pure { wanted with ignored := wanted.ignored ++ [argument] }
  | "l" => pure long
  | "L" => pure { wanted with following := .always }
  | "m" => pure { wanted with layout := .commas }
  | "n" => pure { long with numericOwners := true }
  | "N" => pure { wanted with quoting := .literal }
  | "o" => pure { long with group := false }
  | "p" => pure { wanted with marks := .slash }
  | "q" => pure { wanted with replaces := true }
  | "show" => pure { wanted with replaces := false }
  | "Q" => pure { wanted with quoting := .double }
  | "quoting-style" => do
    let quoting ← Act.choose "--quoting-style" quotings argument
    pure { wanted with quoting }
  | "r" => pure { wanted with turned := true }
  | "R" => pure { wanted with recursive := true }
  | "s" => pure { wanted with blocks := true }
  | "S" => pure { wanted with sorting := .size }
  | "sort" => do
    let sorting ← Act.choose "--sort" sortings argument
    pure { wanted with sorting }
  | "t" => pure { wanted with sorting := .time }
  | "T" => do
    let tab ← Act.amount 2 "invalid tab size" { base := 0 } 0 Numeral.greatest argument
    pure { wanted with tab := tab.toNat }
  | "U" => pure { wanted with sorting := .none }
  | "v" => pure { wanted with sorting := .version }
  | "w" =>
    match Amount.read { base := 0 } argument with
    | .ok width => pure { wanted with width := width.toNat }
    | .error .beyond => pure { wanted with width := 0 }
    | .error _ => Act.die 2 ("invalid line width: ".toList ++ quoted argument)
  | "x" => pure { wanted with layout := .rows }
  | "X" => pure { wanted with sorting := .ending }
  | "Z" => pure { wanted with context := true }
  | "zero" => pure { wanted with
      lineEnd := '\x00', quoting := .literal, layout := if wanted.layout == .long then .long else .lines }
  | "1" => pure { wanted with layout := if wanted.layout == .long then .long else .lines }
  | _ => pure wanted

/-- What is wanted if nothing is said about it. -/
def usual : Wanted where
  layout := .lines
  hidden := 2
  directoriesAsFiles := false
  recursive := false
  turned := false
  directoriesFirst := false
  sorting := .name
  marks := .none
  quoting := .literal
  replaces := false
  numbers := false
  blocks := false
  sizes := {}
  blockSizes := { unit := 1024 }
  numericOwners := false
  owner := true
  group := true
  following := .never
  ignored := []
  hiddenPatterns := []
  width := 80
  tab := 8
  lineEnd := '\n'
  context := false
  time := .changed
  timeForm := .usual
  now := 0
  zone := .universal
  coloured := false

end Listing

/-- A program that lists directories in a layout, and writes names in some way, unless something else is said. -/
def lister (layout : Listing.Layout) (quoting : Listing.Quoting) : Utility := ofAct fun arguments => do
  modify fun output => { output with outputStatus := 2 }
  let (chosen, invocation) ← Act.foldOptions 2 Listing.known false Listing.apply { Listing.usual with quoting } arguments
  let mut wanted := chosen
  if (invocation.last? ["C", "l", "1", "m", "x", "format", "g", "n", "o", "full-time", "zero"]).isNone then
    wanted := { wanted with layout }
  let bindings : List (Raw × Raw) ← Act.ask .bindings
  let style := if invocation.last? ["full-time", "time-style"] == some "full-time" then none
    else (invocation.argument? "time-style").or (bindings.lookup "TIME_STYLE".toList)
  if let some style := style then
    match Listing.timeForm? style with
    | some timeForm => wanted := { wanted with timeForm }
    | none =>
      if wanted.layout == .long then
        Act.complain ("invalid argument ".toList ++ quoted style ++ " for 'time style'".toList)
        Act.report ("Valid arguments are:\n  - [posix-]full-iso\n  - [posix-]long-iso\n  - [posix-]iso\n" ++
          "  - [posix-]locale\n  - +FORMAT (e.g., +%H:%M) for a 'date'-style format\n").toList
        Act.report ("Try '".toList ++ (← get).name ++ " --help' for more information.\n".toList)
        Act.finish 2
  let followed := (invocation.last? ["H", "L", "namedDirectories"]).isSome
  let plain := wanted.directoriesAsFiles || wanted.marks == .all || wanted.layout == .long
  let columns := ((bindings.lookup "COLUMNS".toList).filter fun text => !text.isEmpty && text.all Char.isDigit).map
    (Numeral.valueOf 10)
  let width := if invocation.has "w" then wanted.width else columns.getD wanted.width
  let following := if followed then wanted.following else if plain then .never else .namedDirectories
  let sorting := if wanted.layout == .long && wanted.sorting == .time &&
      (invocation.last? ["t", "sort", "S", "U", "v", "X", "f"]).isNone then .name else wanted.sorting
  let (now, zone) := (← Act.now, ← Act.zone)
  Listing.list { wanted with following, sorting, width, now, zone }
    (if invocation.operands.isEmpty then [['.']] else invocation.operands)

/-- List directories line by line. -/
def ls : Utility := lister .lines .literal

/-- List directories in columns. -/
def dir : Utility := lister .columns .escape

/-- List directories with all that is known of files. -/
def vdir : Utility := lister .long .escape

end AnswerQuery.Host.Tool
