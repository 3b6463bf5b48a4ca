import AnswerQuery.Host.Conversion
import AnswerQuery.Host.Tool.Listing

/-! Telling what is known of files, and where paths lead. -/

namespace AnswerQuery.Host.Tool

/-- Tell what links stand for, or where paths lead. -/
def readlink : Utility := ofAct fun arguments => do
  let known : List Known := [⟨"f", "canonicalize", .nothing⟩, ⟨"e", "canonicalize-existing", .nothing⟩,
    ⟨"m", "canonicalize-missing", .nothing⟩, ⟨"n", "no-newline", .nothing⟩, ⟨"q", "quiet", .nothing⟩,
    ⟨"s", "silent", .nothing⟩, ⟨"v", "verbose", .nothing⟩, ⟨"z", "zero", .nothing⟩]
  let invocation ← Act.readOptions 1 known false arguments
  if invocation.operands.isEmpty then Act.refuse 1 "missing operand".toList
  let several := 1 < invocation.operands.length
  if several && invocation.has "n" then Act.complain "ignoring --no-newline with multiple arguments".toList
  let lineEnd := if invocation.has "n" && !several then [] else if invocation.has "z" then ['\x00'] else ['\n']
  let extent : Option Path.Extent := match invocation.last? ["f", "e", "m"] with
    | some "f" => some .parent
    | some "e" => some .whole
    | some _ => some .nothing
    | none => none
  for path in invocation.operands do
    let found : Except OsError Raw ← match extent with
      | none => Act.linkTarget path
      | some extent => do
        let names ← Path.resolve extent true path
        pure (names.map Path.ofNames)
    match found with
    | .ok text => Act.say (text ++ lineEnd)
    | .error reason => do
      if invocation.last? ["q", "s", "v"] == some "v" then
        Act.complain (nameFor path ++ ": ".toList ++ reason.description)
      Act.fail 1

namespace Telling

/-- A path with its dots taken away, and without a look at links. -/
def plainly (names : List Raw) : List Raw :=
  (names.foldl (fun (place : List Raw) name =>
    if name == ['.'] then place else if name == ['.', '.'] then place.drop 1 else name :: place) []).reverse

/-- The names from the root to where a path leads, in the way that is wanted. -/
def resolve (invocation : Invocation) (path : Raw) : Act (Except OsError (List Raw)) := do
  let extent : Path.Extent := match invocation.last? ["e", "m"] with
    | some "e" => .whole
    | some _ => .nothing
    | none => .parent
  let way := invocation.last? ["L", "P", "s"]
  if path.isEmpty then pure (.error .noEntry)
  else if way == some "L" || way == some "s" then do
    let here : Raw ← Act.ask .whereabouts
    let given := if path.head? == some '/' then Path.names path else Path.names here ++ Path.names path
    let bare := Path.ofNames (plainly given)
    let last := if path.getLast? == some '/' && bare != ['/'] then ['/'] else []
    Path.resolve extent (way == some "L") (bare ++ last)
  else Path.resolve extent true path

/-- The names from the root to where a directory is that paths are told from. -/
def resolveStart (invocation : Invocation) (path : Raw) : Act (List Raw) := do
  match ← resolve invocation path with
  | .error reason => Act.die 1 (nameFor path ++ ": ".toList ++ reason.description)
  | .ok names => do
    if invocation.last? ["e", "m"] == some "e" && !(← Act.isDirectory (Path.ofNames names) true) then
      Act.die 1 (nameFor path ++ ": ".toList ++ OsError.notDirectory.description)
    pure names

end Telling

/-- Tell where paths lead. -/
def realpath : Utility := ofAct fun arguments => do
  let known : List Known := [⟨"e", "canonicalize-existing", .nothing⟩, ⟨"m", "canonicalize-missing", .nothing⟩,
    ⟨"L", "logical", .nothing⟩, ⟨"P", "physical", .nothing⟩, ⟨"q", "quiet", .nothing⟩, ⟨"s", "strip", .nothing⟩,
    ⟨"s", "no-symlinks", .nothing⟩, ⟨"z", "zero", .nothing⟩, ⟨"to", "relative-to", .always⟩,
    ⟨"base", "relative-base", .always⟩]
  let invocation ← Act.readOptions 1 known false arguments
  if invocation.operands.isEmpty then Act.refuse 1 "missing operand".toList
  let base := invocation.argument? "base"
  let start ← match (invocation.argument? "to").or base with
    | some path => some <$> Telling.resolveStart invocation path
    | none => pure none
  let base ← match base with
    | some path => some <$> Telling.resolveStart invocation path
    | none => pure none
  let lineEnd := if invocation.has "z" then ['\x00'] else ['\n']
  for path in invocation.operands do
    match ← Telling.resolve invocation path with
    | .error reason => do
      if !invocation.has "q" then Act.complain (nameFor path ++ ": ".toList ++ reason.description)
      Act.fail 1
    | .ok names =>
      let isWithin := match base, start with
        | some base, some start => base.isPrefixOf names && base.isPrefixOf start
        | _, _ => true
      match start with
      | some start => Act.say ((if isWithin then Path.relative start names else Path.ofNames names) ++ lineEnd)
      | none => Act.say (Path.ofNames names ++ lineEnd)

namespace Telling

/-- What kind of file it is. -/
def kindName (status : Status) : Raw :=
  match status.kind with
  | .directory => "directory".toList
  | .file => (if status.size = 0 then "regular empty file" else "regular file").toList
  | .link => "symbolic link".toList
  | .device => "character special file".toList
  | .channel => "fifo".toList

/-- The number of a kind of file. -/
def kindCode (kind : Kind) : Nat :=
  match kind with
  | .directory => 0o040000
  | .file => 0o100000
  | .link => 0o120000
  | .device => 0o020000
  | .channel => 0o010000

/-- A file of which something is told. -/
structure Subject where
  /-- Where it is. -/
  path : Raw
  /-- What it is. -/
  status : Status
  /-- How many names it has. -/
  links : Nat
  /-- The path that it stands for. -/
  target : Option Raw
  /-- The zone that times are told in. -/
  zone : Calendar.Zone

/-- What is told of a file. -/
inductive Value where
  | text (text : Raw)
  /-- A number that may have a sign. -/
  | signed (number : Nat)
  | unsigned (number : Nat)
  | octal (number : Nat)
  | hexadecimal (number : Nat)
  /-- A moment in seconds. -/
  | seconds (moment : Calendar.Moment)

namespace Value

/-- The sign of a moment in seconds and its digits, with so many behind the point. -/
def secondsText (moment : Calendar.Moment) (precision : Option Nat) : Bool × Raw :=
  match precision with
  | none => (moment.seconds < 0, decimal moment.seconds.natAbs)
  | some digits =>
    let size := moment.natAbs
    let unit := Calendar.nanosecondsPerSecond.natAbs
    let behind := Numeral.filled 9 (size % unit) ++ List.replicate (digits - 9) '0'
    (moment < 0, decimal (size / unit) ++ (if digits = 0 then [] else '.' :: behind.take digits))

/-- A value as it is asked for. -/
def written (conversion : Conversion) : Value → Raw
  | text content => conversion.text content
  | signed number => conversion.signed number
  | unsigned number => { conversion with letter := 'u' }.unsigned number
  | octal number => { conversion with letter := 'o' }.unsigned number
  | hexadecimal number => { conversion with letter := 'x' }.unsigned number
  | seconds moment =>
    let (isNegative, digits) := secondsText moment conversion.precision
    conversion.paddedNumber true (conversion.signOf isNegative) digits

end Value

/-- What a letter in a format asks for. -/
def valueOf (subject : Subject) (letter : Char) : Option Value :=
  let ⟨path, status, links, target, zone⟩ := subject
  let timeText := fun (moment : Calendar.Moment) =>
    (zone.shown moment).inForm "%Y-%m-%d %H:%M:%S.%N %z".toList
  let (first, second) := (status.device.map Device.numbers).getD (0, 0)
  let size := if status.kind == .directory then 4096 else status.size
  match letter with
  | 'a' => some (.octal status.mode)
  | 'A' => some (.text (Mode.kindLetter status.kind :: Mode.letters status.mode))
  | 'b' => some (.unsigned (Listing.blocksOf status * 2))
  | 'B' => some (.unsigned 512)
  | 'd' => some (.unsigned 1)
  | 'D' => some (.hexadecimal 1)
  | 'f' => some (.hexadecimal (kindCode status.kind + status.mode))
  | 'F' => some (.text (kindName status))
  | 'g' => some (.unsigned (if status.foreign then 0 else 65534))
  | 'G' => some (.text (Listing.groupOf false status))
  | 'h' => some (.unsigned links)
  | 'i' => some (.unsigned (status.number.getD 0))
  | 'm' => some (.text ['/'])
  | 'n' => some (.text path)
  | 'N' => some (.text (quotedWord path ++ match target with
    | some target => " -> ".toList ++ quotedWord target
    | none => []))
  | 'o' => some (.unsigned 4096)
  | 's' => some (.signed size)
  | 't' => some (.hexadecimal first)
  | 'T' => some (.hexadecimal second)
  | 'r' => some (.unsigned (first * 256 + second))
  | 'R' => some (.hexadecimal (first * 256 + second))
  | 'u' => some (.unsigned (if status.foreign then 0 else 65534))
  | 'U' => some (.text (Listing.ownerOf false status))
  | 'C' => some (.text ['?'])
  | 'w' => some (.text ['-'])
  | 'W' => some (.seconds 0)
  | 'x' => some (.text (timeText status.accessed))
  | 'X' => some (.seconds status.accessed)
  | 'y' => some (.text (timeText status.changed))
  | 'Y' => some (.seconds status.changed)
  | 'z' => some (.text (timeText status.altered))
  | 'Z' => some (.seconds status.altered)
  | _ => none

/-- A text as a format asks for it, given whether characters behind a backslash are special. -/
def format (escapes : Bool) (value : Char → Option Value) : Nat → Raw → Raw
  | 0, _ => []
  | _ + 1, [] => []
  | steps + 1, '%' :: rest =>
    match rest with
    | [] => ['%']
    | ['\n'] => ['%', '\n']
    | '%' :: rest => '%' :: format escapes value steps rest
    | rest =>
      let flags := rest.takeWhile "'-+ #0".toList.contains
      let behind := rest.drop flags.length
      let width := behind.takeWhile Char.isDigit
      let behind := behind.drop width.length
      let (precision, behind) := match behind with
        | '.' :: behind =>
          let digits := behind.takeWhile Char.isDigit
          (some (Numeral.valueOf 10 digits), behind.drop digits.length)
        | behind => (none, behind)
      match behind with
      | [] => ['%']
      | letter :: behind =>
        let conversion : Conversion := { flags, width := Numeral.valueOf 10 width, precision }
        let text := match value letter with
          | none => ['?']
          | some value => value.written conversion
        text ++ format escapes value steps behind
  | steps + 1, '\\' :: c :: rest =>
    if !escapes then '\\' :: format escapes value steps (c :: rest)
    else
      let digits := (c :: rest).takeWhile (Numeral.isDigitIn 8)
      if !digits.isEmpty then
        let digits := digits.take 3
        Char.ofNat (Numeral.valueOf 8 digits % 256) :: format escapes value steps ((c :: rest).drop digits.length)
      else
        let letters := [('a', '\x07'), ('b', '\x08'), ('e', '\x1b'), ('f', '\x0c'), ('n', '\n'), ('r', '\r'), ('t', '\t'),
          ('v', '\x0b'), ('"', '"'), ('\\', '\\')]
        match letters.lookup c with
        | some d => d :: format escapes value steps rest
        | none => '\\' :: c :: format escapes value steps rest
  | steps + 1, c :: rest => c :: format escapes value steps rest

/-- The usual format. -/
def usualFormat : Raw :=
  ("  File: %N\n  Size: %-10s\tBlocks: %-10b IO Block: %-6o %F\nDevice: 0,1\tInode: %-11i Links: %h\n" ++
    "Access: (%04a/%10.10A)  Uid: (%5u/%8U)   Gid: (%5g/%8G)\nAccess: %x\nModify: %y\nChange: %z\n Birth: %w\n").toList

/-- The short format. -/
def shortFormat : Raw := "%n %s %b %f %u %g %D %i %h %t %T %X %Y %Z %W %o\n".toList

end Telling

/-- Tell what is known of files. -/
def stat : Utility := ofAct fun arguments => do
  let known : List Known := [⟨"L", "dereference", .nothing⟩, ⟨"f", "file-system", .nothing⟩, ⟨"c", "format", .always⟩,
    ⟨"printf", "printf", .always⟩, ⟨"t", "terse", .nothing⟩, ⟨"cached", "cached", .always⟩]
  let invocation ← Act.readOptions 1 known false arguments
  if invocation.operands.isEmpty then Act.refuse 1 "missing operand".toList
  let (escapes, format) := match invocation.last? ["c", "printf"] with
    | some "c" => (false, (invocation.argument? "c").getD [] ++ ['\n'])
    | some _ => (true, (invocation.argument? "printf").getD [])
    | none => (false, if invocation.has "t" then Telling.shortFormat else Telling.usualFormat)
  let follows := invocation.has "L" || invocation.has "f"
  let zone ← Act.zone
  for path in invocation.operands do
    match ← Act.inspect path follows with
    | .error reason =>
      Act.complainAbout 1 (if invocation.has "f" then "cannot read file system information for" else "cannot statx") path reason
    | .ok status => do
      let links : Nat ← Act.ask (.links path follows)
      let target : Except OsError Raw ← if status.kind == .link then Act.linkTarget path else pure (.error .invalid)
      let subject : Telling.Subject := { path, status, links, target := target.toOption, zone }
      Act.say (Telling.format escapes (Telling.valueOf subject) (format.length + 1) format)

/-- The programs that tell about files. -/
def tellingTools : List (String × Utility) :=
  [("dir", dir), ("ls", ls), ("vdir", vdir), ("readlink", readlink), ("realpath", realpath), ("stat", stat)]

end AnswerQuery.Host.Tool
