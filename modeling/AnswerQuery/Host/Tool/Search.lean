import AnswerQuery.Host.Script.Wildcard
import AnswerQuery.Host.Tool.Editor
import AnswerQuery.Host.Tool.Matching
import AnswerQuery.Host.Tool.Perl
import AnswerQuery.Host.Tool.Source

/-! Searching files for lines that match. -/

namespace AnswerQuery.Host.Tool

namespace Search

/-- How patterns are written. -/
inductive Kind where
  | basic
  | extended
  | fixed
  | perl
  deriving DecidableEq, Repr

/-- What is done with files that are no texts. -/
inductive BinaryWay where
  /-- It is only told that they match. -/
  | told
  /-- They are treated like texts. -/
  | text
  /-- They are passed over. -/
  | skipped
  deriving DecidableEq, Repr

/-- What is done with directories. -/
inductive DirectoryWay where
  | read
  | skip
  | descend
  deriving DecidableEq, Repr

/-- What is wanted. -/
structure Wanted where
  /-- The patterns that are looked for. -/
  matchers : List Matcher
  /-- Whether a match has to be a word. -/
  words : Bool
  /-- Whether the lines are wanted that do not match. -/
  inverted : Bool
  /-- Whether lines are only counted. -/
  counts : Bool
  /-- Whether only the names of files are wanted: of those that match, or of the others. -/
  lists : Option Bool
  /-- Whether nothing is to be written. -/
  quiet : Bool
  /-- Whether complaints about files are left out. -/
  silent : Bool
  /-- Whether only the parts that match are written. -/
  onlyMatching : Bool
  /-- Whether the name of the file, the number and the place of a line are written. -/
  names : Bool
  /-- Whether the numbers of lines are written. -/
  numbers : Bool
  /-- Whether the places of lines are written. -/
  offsets : Bool
  /-- Whether a tab is written in front of lines. -/
  tab : Bool
  /-- How wide the numbers and the places of lines are at least. -/
  width : Nat
  /-- What follows the name of a file, if that is no usual mark. -/
  nameEnd : Option Char
  /-- How many lines are wanted at most. -/
  most : Option Nat
  /-- How many lines in front of a match are written too, if that is told. -/
  before : Option Nat
  /-- How many lines behind a match are written too, if that is told. -/
  after : Option Nat
  /-- What is written between groups of lines. -/
  separator : Option Raw
  /-- The character that ends lines. -/
  mark : Char
  /-- What is done with files that are no texts. -/
  binary : BinaryWay
  /-- What is done with directories. -/
  directories : DirectoryWay
  /-- What the standard input is called. -/
  label : Raw
  /-- The number of the file that is written, if it is one. -/
  output : Option Nat
  /-- Whether a file is searched, judged by its name. -/
  includes : Raw → Bool
  /-- Whether a directory is searched, judged by its name. -/
  descends : Raw → Bool
  /-- Whether what is written is coloured. -/
  coloured : Bool

namespace Wanted

/-- The longest match within so many characters that begins at a position and has something in it. -/
def shorter? (matcher : Matcher) (text : Array Char) (position stop : Nat) : Option Nat :=
  match matcher.matchAt? (text.extract 0 stop) position with
  | some found => if position < found.stop then some found.stop else none
  | none => none

/-- Whether a part of a text has no more characters of a word around it. -/
def standsAlone (text : Array Char) (start stop : Nat) : Bool :=
  let isWord := fun (position : Nat) => (text[position]?.map Class.isWord).getD false
  !(0 < start && isWord (start - 1)) && !isWord stop

/-- The end of a match that stands alone, among those that begin where one does. -/
def alone? (matcher : Matcher) (text : Array Char) (start : Nat) : Nat → Nat → Option Nat
  | 0, _ => none
  | steps + 1, stop =>
    if standsAlone text start stop then some stop
    else if stop ≤ start then none
    else (shorter? matcher text start (stop - 1)).bind (alone? matcher text start steps)

/-- The first match of a pattern that stands alone, from a position on. -/
def findAlone? (matcher : Matcher) (text : Array Char) : Nat → Nat → Option Match
  | 0, _ => none
  | steps + 1, position =>
    match matcher.find? text position with
    | none => none
    | some found =>
      match alone? matcher text found.start (text.size + 1) found.stop with
      | some stop => some { found with stop }
      | none => if text.size ≤ found.start then none else findAlone? matcher text steps (found.start + 1)

/-- The first and longest match of any pattern from a position on. -/
def find? (wanted : Wanted) (text : Array Char) (position : Nat) : Option Match :=
  let found := wanted.matchers.filterMap fun matcher =>
    if wanted.words && !matcher.first then findAlone? matcher text (text.size + 1) position
    else matcher.find? text position
  found.foldl (fun best next =>
    match best with
    | none => some next
    | some one => if next.start < one.start || (next.start == one.start && one.stop < next.stop) then some next else best)
    none

/-- Whether a line matches. -/
def admits (wanted : Wanted) (text : Array Char) : Bool :=
  if wanted.words then (wanted.find? text 0).isSome
  else wanted.matchers.any fun matcher => (matcher.find? text 0).isSome

/-- Whether nothing is written about lines. -/
def isQuiet (wanted : Wanted) : Bool :=
  wanted.counts || wanted.lists.isSome || wanted.quiet

/-- Whether one match in a file is enough. -/
def stopsAtFirst (wanted : Wanted) : Bool :=
  wanted.lists.isSome || wanted.quiet

end Wanted

/-- A line of a file. -/
structure Entry where
  /-- The characters. -/
  text : Raw
  /-- Its number. -/
  number : Nat
  /-- Where it begins. -/
  offset : Nat

/-- How far a file has been searched. -/
structure Progress where
  /-- The number of the next line. -/
  number : Nat := 1
  /-- Where the next line begins. -/
  offset : Nat := 0
  /-- How many lines have been found. -/
  found : Nat := 0
  /-- How many more are wanted, if that is limited. -/
  left : Option Nat
  /-- The lines in front that have not been written, the last one first. -/
  before : List Entry := []
  /-- How many more lines are written behind a match. -/
  pending : Nat := 0
  /-- The number of the last line that was written in this file. -/
  last : Option Nat := none
  /-- Whether a line has been written in any file. -/
  used : Bool
  /-- Whether the file is no text. -/
  binary : Bool := false
  /-- Where what follows the last match begins. -/
  afterMatch : Nat := 0
  /-- Whether nothing more is wanted. -/
  isDone : Bool := false

/-- A text in a colour, if colours are wanted. -/
def inColour (wanted : Wanted) (code : String) (text : Raw) : Raw :=
  if wanted.coloured then "\x1b[".toList ++ code.toList ++ "m\x1b[K".toList ++ text ++ "\x1b[m\x1b[K".toList else text

/-- The colour of the names of files. -/
def nameColour : String := "35"

/-- The colour of numbers and places. -/
def numberColour : String := "32"

/-- The colour of the marks between what is told. -/
def markColour : String := "36"

/-- The colour of matches. -/
def matchColour : String := "01;31"

/-- The name of a file and the mark that follows it. -/
def nameHeading (wanted : Wanted) (name : Raw) (mark : Char) : Raw :=
  inColour wanted nameColour name ++ match wanted.nameEnd with
    | some nameEnd => [nameEnd]
    | none => inColour wanted markColour [mark]

/-- What stands in front of a line or a part of it. -/
def heading (wanted : Wanted) (name : Raw) (mark : Char) (number offset : Nat) : Raw :=
  let name := if wanted.names then nameHeading wanted name mark else []
  let padded := fun (n : Nat) =>
    let digits := decimal n
    inColour wanted numberColour (List.replicate (wanted.width - digits.length) ' ' ++ digits) ++
      inColour wanted markColour [mark]
  let number := if wanted.numbers then padded number else []
  let offset := if wanted.offsets then padded offset else []
  let all := name ++ number ++ offset
  if wanted.tab && !all.isEmpty then all ++ ['\t'] else all

/-- The parts of a line that match, with the places where they begin; the next match is looked for from a position on. -/
def partsOf (wanted : Wanted) (text : Array Char) : Nat → Nat → List (Nat × Raw)
  | 0, _ => []
  | steps + 1, position =>
    match wanted.find? text position with
    | none => []
    | some found =>
      if found.stop = found.start then
        if text.size ≤ found.start then [] else partsOf wanted text steps (found.start + 1)
      else (found.start, (text.extract found.start found.stop).toList) :: partsOf wanted text steps found.stop

/-- A line from a position on, whose parts are coloured that match. -/
def withColours (wanted : Wanted) (text : Array Char) : Nat → List (Nat × Raw) → Raw
  | position, [] => (text.extract position text.size).toList
  | position, (start, part) :: parts =>
    (text.extract position start).toList ++ inColour wanted matchColour part ++
      withColours wanted text (start + part.length) parts

/-- Write a line, with a separator in front of it if it does not follow the one before. -/
def showEntry (wanted : Wanted) (name : Raw) (mark : Char) (progress : Progress) (entry : Entry) : Act Progress := do
  let gap := progress.used && (wanted.before.isSome || wanted.after.isSome) &&
    progress.last.map (· + 1) != some entry.number && mark == ':'
  showSeparator gap
  if wanted.onlyMatching then
    if mark == ':' && !wanted.inverted then
      for (start, part) in partsOf wanted entry.text.toArray (entry.text.length + 2) 0 do
        Act.say (heading wanted name mark entry.number (entry.offset + start) ++ inColour wanted matchColour part ++
          [wanted.mark])
  else
    let text := entry.text.toArray
    let matchesHere := wanted.coloured && (mark == ':') != wanted.inverted
    let parts := if matchesHere then partsOf wanted text (text.size + 2) 0 else []
    Act.say (heading wanted name mark entry.number entry.offset ++ withColours wanted text 0 parts ++ [wanted.mark])
  pure { progress with last := some entry.number, used := true }
where
  /-- Write the separator of groups. -/
  showSeparator (gap : Bool) : Act Unit := do
    if gap then
      if let some separator := wanted.separator then Act.sayLine (inColour wanted markColour separator)

/-- Write a line that matches, and those in front of it that have not been written. -/
def showFound (wanted : Wanted) (name : Raw) (progress : Progress) (entry : Entry) : Act Progress := do
  let front := (progress.before.take (wanted.before.getD 0)).reverse
  let firstNumber := (front.head?.map Entry.number).getD entry.number
  let gap := progress.used && (wanted.before.isSome || wanted.after.isSome) &&
    progress.last.map (· + 1) != some firstNumber
  showEntry.showSeparator wanted gap
  let mut now := { progress with last := some (firstNumber - 1), before := [] }
  for one in front do
    now ← showEntry wanted name '-' now one
  showEntry wanted name ':' now entry

/-- Look at a line. -/
def takeLine (wanted : Wanted) (name : Raw) (quiet : Bool) (progress : Progress) (text : Raw) : Act Progress := do
  let entry : Entry := ⟨text, progress.number, progress.offset⟩
  let next := { progress with number := progress.number + 1, offset := progress.offset + text.length + 1 }
  if next.left == some 0 then
    -- Only lines behind the last match are still wanted.
    if next.pending = 0 then pure { next with isDone := true }
    else
      let shown ← if quiet then pure next else showEntry wanted name '-' next entry
      pure { shown with pending := next.pending - 1, isDone := next.pending ≤ 1 }
  else if wanted.admits text.toArray != wanted.inverted then
    let shown ← if quiet then pure next else showFound wanted name next entry
    let left := next.left.map (· - 1)
    let enough := left == some 0 && (quiet || wanted.after.getD 0 = 0)
    pure { shown with
      found := next.found + 1, left, pending := wanted.after.getD 0, afterMatch := next.offset
      isDone := enough || wanted.stopsAtFirst || next.binary && !wanted.counts }
  else if 0 < next.pending then
    let shown ← if quiet then pure next else showEntry wanted name '-' next entry
    pure { shown with pending := next.pending - 1 }
  else pure { next with before := entry :: next.before.take ((wanted.before.getD 0) - 1) }

/-- How many octets are read at once. -/
def blockSize : Nat := 98304

/-- Search what a descriptor gives: how far that went, whether its end has been reached, and what went wrong. -/
def searchInput (wanted : Wanted) (name : Raw) (used : Bool) (descriptor : Nat) :
    Act (Progress × Bool × Option OsError) := do
  let start : Progress := { left := wanted.most, used }
  Act.loop (start, ([] : Raw)) fun (progress, residue) => do
    let result : Except OsError Bytes ← Act.ask (.read descriptor blockSize)
    match result with
    | .error reason => pure (.inr (progress, true, some reason))
    | .ok octets => do
      let block := Raw.ofOctets octets
      let nul := wanted.mark == '\n' && wanted.binary != .text && (progress.binary || block.contains '\x00')
      if nul && wanted.binary == .skipped then pure (.inr ({ progress with found := 0 }, true, none))
      else
        let zapped := if nul then block.map fun c => if c == '\x00' then '\n' else c else block
        let progress := { progress with binary := progress.binary || nul }
        let lines := linesOf wanted.mark (residue ++ zapped)
        let isOver := octets.isEmpty
        let (whole, residue) := if isOver then (lines, []) else match lines.getLast? with
          | some ⟨text, false⟩ => (lines.dropLast, text)
          | _ => (lines, [])
        let quiet := wanted.isQuiet || progress.binary
        let mut now := progress
        for line in whole do
          if !now.isDone then
            now ← takeLine wanted name quiet now line.text
        if now.isDone then pure (.inr (now, false, none))
        else if isOver then pure (.inr (now, true, none))
        else pure (.inl (now, residue))

/-- Leave the standard input where the next program is to go on: behind the last match if no more lines are wanted, and
at its end otherwise. -/
def leaveInput (progress : Progress) (atEnd : Bool) : Act Unit := do
  let described : Except OsError Described ← Act.ask (.describe 0)
  if progress.left == some 0 then
    match described with
    | .ok { position := some position, .. } => do
      let _ ← Act.ask (.move 0 (-Int.ofNat (position - progress.afterMatch)))
    | _ => pure ()
  else if !atEnd then
    let _ : Except OsError Bytes ← StateT.lift (Job.readAll 0)
    pure ()

/-- What a search has come to so far. -/
structure Outcome where
  /-- Whether any line has been found. -/
  found : Bool := false
  /-- Whether anything went wrong. -/
  failed : Bool := false
  /-- Whether a line has been written. -/
  used : Bool := false

/-- Complain about a file. -/
def complainAbout (wanted : Wanted) (name : Raw) (reason : OsError) : Act Unit := do
  if !wanted.silent then Act.complain (name ++ ": ".toList ++ reason.description)

/-- Whether the file that is read is also written. -/
def isOutput (wanted : Wanted) (descriptor : Nat) : Act Bool := do
  if wanted.quiet || wanted.lists.isSome || wanted.counts || (wanted.most.map fun most => decide (most ≤ 1)).getD false then
    pure false
  else
    let input : Except OsError Described ← Act.ask (.describe descriptor)
    pure (match input with
      | .ok input => input.status.kind == .file && wanted.output.isSome && input.status.number == wanted.output
      | .error _ => false)

/-- How wide the numbers and the places of lines are that stand in front of a tab: as wide as the size of the file
asks for. -/
def widthFor (wanted : Wanted) (descriptor : Nat) : Act Nat := do
  if !wanted.tab then pure 0
  else
    let described : Except OsError Described ← Act.ask (.describe descriptor)
    pure (match described with
      | .ok ⟨{ kind := .file, size, .. }, _, _⟩ => (decimal (if wanted.numbers then size + 1 else size)).length
      | _ => 20)

/-- Search an open file and tell what was found. -/
def searchFile (wanted : Wanted) (outcome : Outcome) (name : Raw) (descriptor : Nat) : Act Outcome := do
  let wanted := { wanted with width := ← widthFor wanted descriptor }
  if ← isOutput wanted descriptor then
    if !wanted.silent then Act.complain (name ++ ": input file is also the output".toList)
    return { outcome with failed := true }
  let (progress, atEnd, failure) ← searchInput wanted name outcome.used descriptor
  let outcome := { outcome with used := progress.used }
  if let some reason := failure then
    complainAbout wanted name reason
    if progress.found == 0 then return { outcome with failed := true }
  let found := progress.found != 0
  if wanted.counts then
    Act.say ((if wanted.names then nameHeading wanted name ':' else []) ++ decimal progress.found ++ ['\n'])
  if wanted.lists == some found then
    Act.say (inColour wanted nameColour name ++ [if wanted.nameEnd.isSome then '\x00' else '\n'])
  if progress.binary && !wanted.isQuiet && found then
    Act.complain (name ++ ": binary file matches".toList)
  if wanted.quiet && found then Act.finish 0
  if descriptor = 0 then leaveInput progress atEnd
  pure { outcome with found := outcome.found || found, failed := outcome.failed || failure.isSome }

/-- The name of a file in a directory. -/
def beneath (directory name : Raw) : Raw :=
  if directory.getLast? == some '/' then directory ++ name else directory ++ '/' :: name

/-- The last name in a path. -/
def lastName (path : Raw) : Raw :=
  let bare := dropTrailing (· == '/') path
  ((Raw.split '/' bare).getLast?).getD bare

/-- Search what a path leads to; directories are gone through to a depth. The last flag tells whether the path was named
by the user. -/
def searchPath (wanted : Wanted) : Nat → Bool → Outcome → Raw → Raw → Act Outcome
  | 0, _, outcome, _, _ => pure outcome
  | depth + 1, named, outcome, path, name => do
    let result : Except OsError Status ← Act.ask (.inspect path named)
    match result with
    | .error reason => do
      complainAbout wanted name reason
      pure { outcome with failed := true }
    | .ok status =>
      if status.kind == .directory && wanted.directories == .skip then pure outcome
      else if status.kind == .directory && wanted.directories == .descend then
        if !wanted.descends (lastName path) && !(named && path == ['.']) then pure outcome
        else
          let entries : Except OsError (List Raw) ← Act.ask (.list path)
          match entries with
          | .error reason => do
            complainAbout wanted name reason
            pure { outcome with failed := true }
          | .ok entries => do
            let mut now := outcome
            for entry in entries do
              now ← searchPath wanted depth false now (beneath path entry) (if name.isEmpty then entry else beneath name entry)
            pure now
      else if !named && status.kind != .file then pure outcome
      else if status.kind != .directory && !wanted.includes (lastName path) then pure outcome
      else
        let opened : Except OsError Nat ← Act.ask (.openFile path .reading)
        match opened with
        | .error reason => do
          complainAbout wanted name reason
          pure { outcome with failed := true }
        | .ok descriptor => do
          let outcome ← searchFile wanted outcome name descriptor
          Act.ask (.close descriptor)
          pure outcome

/-- What the program tells about its arguments. -/
def usage (name : Raw) : Raw :=
  "Usage: ".toList ++ name ++ " [OPTION]... PATTERNS [FILE]...\nTry '".toList ++ name ++
    " --help' for more information.\n".toList

/-- End the program with what it tells about its arguments. -/
def refuse {α : Type} (status : Nat) : Act α := do
  Act.flush
  Act.report (usage (← get).name)
  Act.finish status

/-- The options. -/
def known : List Known :=
  (List.range 10).map (fun digit => ⟨String.ofList (decimal digit), "", .nothing⟩) ++
  [⟨"G", "basic-regexp", .nothing⟩, ⟨"E", "extended-regexp", .nothing⟩, ⟨"F", "fixed-regexp", .nothing⟩,
    ⟨"F", "fixed-strings", .nothing⟩, ⟨"P", "perl-regexp", .nothing⟩, ⟨"A", "after-context", .always⟩,
    ⟨"B", "before-context", .always⟩, ⟨"binary-files", "binary-files", .always⟩, ⟨"U", "binary", .nothing⟩,
    ⟨"b", "byte-offset", .nothing⟩, ⟨"C", "context", .always⟩, ⟨"color", "color", .maybe⟩,
    ⟨"color", "colour", .maybe⟩, ⟨"c", "count", .nothing⟩, ⟨"D", "devices", .always⟩,
    ⟨"d", "directories", .always⟩, ⟨"exclude", "exclude", .always⟩, ⟨"exclude-from", "exclude-from", .always⟩,
    ⟨"exclude-dir", "exclude-dir", .always⟩, ⟨"f", "file", .always⟩, ⟨"l", "files-with-matches", .nothing⟩,
    ⟨"L", "files-without-match", .nothing⟩, ⟨"group-separator", "group-separator", .always⟩,
    ⟨"include", "include", .always⟩, ⟨"i", "ignore-case", .nothing⟩,
    ⟨"no-ignore-case", "no-ignore-case", .nothing⟩, ⟨"T", "initial-tab", .nothing⟩, ⟨"label", "label", .always⟩,
    ⟨"line-buffered", "line-buffered", .nothing⟩, ⟨"n", "line-number", .nothing⟩, ⟨"x", "line-regexp", .nothing⟩,
    ⟨"m", "max-count", .always⟩, ⟨"h", "no-filename", .nothing⟩,
    ⟨"no-group-separator", "no-group-separator", .nothing⟩, ⟨"s", "no-messages", .nothing⟩,
    ⟨"Z", "null", .nothing⟩, ⟨"z", "null-data", .nothing⟩, ⟨"o", "only-matching", .nothing⟩,
    ⟨"q", "quiet", .nothing⟩, ⟨"r", "recursive", .nothing⟩, ⟨"R", "dereference-recursive", .nothing⟩,
    ⟨"e", "regexp", .always⟩, ⟨"v", "invert-match", .nothing⟩, ⟨"q", "silent", .nothing⟩, ⟨"a", "text", .nothing⟩,
    ⟨"u", "unix-byte-offsets", .nothing⟩, ⟨"H", "with-filename", .nothing⟩, ⟨"w", "word-regexp", .nothing⟩,
    ⟨"I", "", .nothing⟩, ⟨"y", "", .nothing⟩, ⟨"X", "", .always⟩]

/-- A count of lines around a match, or a complaint about it. -/
def contextOf (text : Raw) : Act Nat := do
  match Numeral.natural? text with
  | some count => pure count
  | none => Act.die 2 (text ++ ": invalid context length argument".toList)

/-- A pattern, with where it was written: a file and a line, or nowhere. -/
structure Written where
  /-- The pattern. -/
  text : Raw
  /-- The file and the line. -/
  origin : Option (Raw × Nat) := none

/-- The patterns that lines of a text are. -/
def patternsOf (file : Option Raw) (text : Raw) : List Written :=
  (Raw.split '\n' text).zipIdx.map fun (line, index) => ⟨line, file.map fun file => (file, index + 1)⟩

/-- The patterns that are given as options. -/
def givenPatterns (invocation : Invocation) : Act (Option (List Written)) := do
  let mut all : Option (List Written) := none
  for given in invocation.given do
    let text := given.argument.getD []
    if given.key == "e" then all := some (all.getD [] ++ patternsOf none text)
    else if given.key == "f" then
      match ← Act.readFile text with
      | .error reason => Act.die 2 (text ++ ": ".toList ++ reason.description)
      | .ok octets =>
        let content := Raw.ofOctets octets
        let bare := if content.getLast? == some '\n' then content.dropLast else content
        all := some (all.getD [] ++ (if content.isEmpty then [] else patternsOf (some (if text == ['-'] then "(standard input)".toList else text)) bare))
  pure all

/-- An expression for a text as it is. -/
def fixedExpression (dialect : Dialect) (text : Raw) : Expression :=
  text.foldr (fun c whole => Read.joined (Read.single dialect c) whole) .nothing

/-- An expression that has to match all of a line, if that is wanted. -/
def onLine (wholeLines : Bool) (expression : Expression) : Expression :=
  if wholeLines then .both (.place .textStart) (.both expression (.place .textEnd)) else expression

/-- The signs of repetition in an extended expression that stand where there is nothing to be repeated. -/
def strayRepetitions : Nat → Bool → Raw → List String
  | 0, _, _ => []
  | _ + 1, _, [] => []
  | steps + 1, atStart, '\\' :: c :: rest => strayRepetitions steps (atStart && "<>bB\x60'".toList.contains c) rest
  | steps + 1, atStart, c :: rest =>
    let sign := fun (name : String) => (if atStart then [name] else []) ++ strayRepetitions steps atStart rest
    match c with
    | '(' => strayRepetitions steps true rest
    | '|' => strayRepetitions steps true rest
    | '\n' => strayRepetitions steps true rest
    | '^' => strayRepetitions steps atStart rest
    | '$' => strayRepetitions steps atStart rest
    | '*' => sign "*"
    | '+' => sign "+"
    | '?' => sign "?"
    | '{' =>
      match PerlRead.count? rest with
      | some (_, _, after) => (if atStart then ["\x7b...\x7d"] else []) ++ strayRepetitions steps atStart after
      | none => strayRepetitions steps false rest
    | '[' => strayRepetitions steps false (Read.behindList rest)
    | _ => strayRepetitions steps false rest

/-- Make patterns ready in one of the usual dialects. -/
def readUsual (dialect : Dialect) (wholeLines : Bool) (patterns : List Written) : Act (List Matcher) := do
  let mut matchers : List Matcher := []
  let mut failed := false
  for pattern in patterns do
    match dialect.read pattern.text with
    | .ok expression => matchers := matchers ++ [Matcher.ofExpression dialect false (onLine wholeLines expression)]
    | .error message => do
      let place := match pattern.origin with
        | some (file, line) => file ++ ':' :: decimal line ++ ": ".toList
        | none => []
      Act.complain (place ++ message.toList)
      failed := true
  if failed then Act.finish 2
  let whole := ['\n'].intercalate (patterns.map Written.text)
  if Editor.Parse.misnamesClass (whole.length + 1) whole then Act.die 2 Editor.Parse.misnamedClass
  if dialect.extended then
    for sign in strayRepetitions (whole.length + 1) true whole do
      Act.complain ("warning: ".toList ++ sign.toList ++ " at start of expression".toList)
  pure matchers

/-- Make patterns ready. -/
def readPatterns (kind : Kind) (ignoresCase words wholeLines : Bool) (patterns : List Written) : Act (List Matcher) := do
  match kind with
  | .basic => readUsual { extended := false, lineChoice := true, ignoresCase } wholeLines patterns
  | .extended =>
    readUsual { extended := true, stray := .skipped, looseCounts := true, looseClosing := true, lineChoice := true, ignoresCase }
      wholeLines patterns
  | .fixed =>
    let dialect : Dialect := { extended := false, ignoresCase }
    pure (patterns.map fun pattern =>
      Matcher.ofExpression dialect false (onLine wholeLines (fixedExpression dialect pattern.text)))
  | .perl =>
    match patterns with
    | [pattern] =>
      match readPerl ignoresCase pattern.text with
      | .error message => Act.die 2 message.toList
      | .ok expression =>
        let word := Expression.one Class.isWord
        let expression := if words then
            .both (.behind false word) (.both expression (.ahead false word))
          else expression
        pure [Matcher.ofExpression { extended := true, ignoresCase } true (onLine wholeLines expression)]
    | [] => pure []
    | _ => Act.die 2 "the -P option only supports a single pattern".toList

/-- The kind of patterns that is asked for. -/
def kindOf (invocation : Invocation) : Act Kind := do
  let keys := (invocation.given.map Given.key).filter fun key => ["E", "F", "G", "P"].contains key
  if (keys.head?.map fun first => keys.any (· != first)).getD false then Act.die 2 "conflicting matchers specified".toList
  pure (match keys.getLast? with
    | some "E" => .extended
    | some "F" => .fixed
    | some "P" => .perl
    | _ => .basic)

/-- Whether the name of a file fits a pattern. -/
def fitsName (pattern name : Raw) : Bool :=
  Script.Wildcard.fits (Script.Wildcard.ofMarked false (pattern.map fun c => (c, false))) name

/-- What is wanted, from the options. -/
def wantedOf (invocation : Invocation) (matchers : List Matcher) (several : Bool) : Act Wanted := do
  let digits := (invocation.given.map Given.key).filter fun key => key.toList.all Char.isDigit
  let both ← match invocation.argument? "C" with
    | some text => some <$> contextOf text
    | none => pure (if digits.isEmpty then none else Numeral.natural? (digits.flatMap String.toList))
  let around := fun (key : String) => do
    match invocation.argument? key with
    | some text => some <$> contextOf text
    | none => pure both
  let after ← around "A"
  let before ← around "B"
  let most ← match invocation.argument? "m" with
    | none => pure none
    | some text =>
      match Numeral.integer? text with
      | some (.ofNat most) => pure (some most)
      | some _ => pure none
      | none => Act.die 2 "invalid max count".toList
  let descends := invocation.has "r" || invocation.has "R"
  let directories ← match (invocation.argument? "d").map String.ofList with
    | none => pure (if descends then DirectoryWay.descend else .read)
    | some "read" => pure .read
    | some "skip" => pure .skip
    | some "recurse" => pure .descend
    | some other => do
      Act.complain ("invalid argument ".toList ++ quoted other.toList ++ " for '--directories'".toList)
      Act.report "Valid arguments are:\n  - 'read'\n  - 'recurse'\n  - 'skip'\n".toList
      refuse 1
  let binary ← match (invocation.argument? "binary-files").map String.ofList with
    | none => pure (if invocation.has "a" then BinaryWay.text else if invocation.has "I" then .skipped else .told)
    | some "binary" => pure .told
    | some "text" => pure .text
    | some "without-match" => pure .skipped
    | some _ => Act.die 2 "unknown binary-files type".toList
  let coloured ← match (invocation.given.reverse.find? fun given => given.key == "color").map Given.argument with
    | none => pure false
    | some none => pure false
    | some (some text) =>
      let word := String.ofList text
      if ["always", "yes", "force"].contains word then pure true
      else if ["never", "no", "none", "auto", "tty", "if-tty"].contains word then pure false
      else refuse 2
  let output : Except OsError Described ← Act.ask (.describe 1)
  let included := invocation.arguments "include"
  let excluded := invocation.arguments "exclude"
  let closed := invocation.arguments "exclude-dir"
  pure {
    matchers, words := invocation.has "w", inverted := invocation.has "v", counts := invocation.has "c"
    lists := (invocation.last? ["l", "L"]).map (· == "l")
    quiet := invocation.has "q", silent := invocation.has "s", onlyMatching := invocation.has "o"
    names := match invocation.last? ["H", "h"] with
      | some key => key == "H"
      | none => several || directories == .descend
    numbers := invocation.has "n", offsets := invocation.has "b", tab := invocation.has "T", width := 0
    nameEnd := if invocation.has "Z" then some '\x00' else none
    most, before, after
    separator := match invocation.last? ["group-separator", "no-group-separator"] with
      | some "no-group-separator" => none
      | some _ => invocation.argument? "group-separator"
      | none => some "--".toList
    mark := if invocation.has "z" then '\x00' else '\n', binary, directories
    label := (invocation.argument? "label").getD "(standard input)".toList
    output := match output with
      | .ok described => if described.status.kind == .file then described.status.number else none
      | .error _ => none
    includes := fun name => (included.isEmpty || included.any fun pattern => fitsName pattern name) &&
      !excluded.any fun pattern => fitsName pattern name
    descends := fun name => !closed.any fun pattern => fitsName pattern name
    coloured }

end Search

/-- Search files for lines that match. -/
def grep : Utility := ofAct fun arguments => do
  modify fun output => { output with outputStatus := 2 }
  let invocation ← match Options.readArguments Search.known false (arguments.length + 1) arguments with
    | .ok invocation => pure invocation
    | .error message => do
      Act.complain message
      Search.refuse 2
  let kind ← Search.kindOf invocation
  let (patterns, paths) ← match ← Search.givenPatterns invocation, invocation.operands with
    | some patterns, paths => pure (patterns, paths)
    | none, pattern :: paths => pure (Search.patternsOf none pattern, paths)
    | none, [] => Search.refuse 2
  let ignoresCase := (invocation.last? ["i", "y", "no-ignore-case"]).any (· != "no-ignore-case")
  let descends := invocation.has "r" || invocation.has "R" || invocation.argument? "d" == some "recurse".toList
  let several := 1 < paths.length
  let wanted ← Search.wantedOf invocation [] several
  if wanted.most == some 0 then Act.finish 1
  let matchers ← Search.readPatterns kind ignoresCase wanted.words (invocation.has "x") patterns
  let wanted := { wanted with matchers }
  let targets := if !paths.isEmpty then paths.map fun path => (path, path)
    else if descends then [(['.'], [])]
    else [(['-'], [])]
  let mut outcome : Search.Outcome := {}
  for (path, name) in targets do
    outcome ← if path == ['-'] then Search.searchFile wanted outcome wanted.label 0
      else Search.searchPath wanted 200 true outcome path name
  Act.finish (if outcome.failed then 2 else if outcome.found then 0 else 1)

/-- Search with extended patterns. -/
def egrep : Utility := fun _ arguments => grep "grep".toList ("-E".toList :: arguments)

/-- Search for texts as they are. -/
def fgrep : Utility := fun _ arguments => grep "grep".toList ("-F".toList :: arguments)

/-- The programs of this kind. -/
def searchTools : List (String × Utility) :=
  [("egrep", egrep), ("fgrep", fgrep), ("grep", grep)]

end AnswerQuery.Host.Tool
