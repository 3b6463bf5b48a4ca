import AnswerQuery.Host.Tool.Environment
import AnswerQuery.Host.Tool.Making
import AnswerQuery.Host.Tool.Matching
import AnswerQuery.Host.Tool.Telling

/-! Finding files in directories by conditions, and doing something with those that are found. -/

namespace AnswerQuery.Host.Tool

namespace Finding

/-- A file that has been come across. -/
structure Entry where
  /-- Where it is. -/
  path : Raw
  /-- Where the search began. -/
  start : Raw
  /-- How many directories lie between. -/
  depth : Nat
  /-- What it is. -/
  status : Status

/-- When links are followed. -/
inductive Following where
  | never
  /-- Those that were named. -/
  | named
  | always
  deriving DecidableEq, Repr

/-- Files for which a program is run together. -/
structure Batch where
  /-- The program and its first arguments. -/
  command : List Raw
  /-- Whether it is run in the directories of the files. -/
  inPlace : Bool
  /-- The files, the last one first. -/
  paths : List Raw := []

/-- What changes while files are searched. -/
structure State where
  /-- Whether the directory at hand is not to be searched. -/
  pruned : Bool := false
  /-- Whether the search is over. -/
  stopped : Bool := false
  /-- The files for which programs are to be run later. -/
  batches : List Batch := []

/-- A step of a search. -/
abbrev Work := StateT State Act

/-- A condition on a file, which may do something. -/
abbrev Judge := Entry → Work Bool

/-- What is read from the arguments. -/
structure Parsing where
  /-- What is still to be read. -/
  arguments : List Raw
  /-- What was read last. -/
  last : Raw := []
  /-- How deep the search goes. -/
  deepest : Option Nat := none
  /-- How deep files are at least. -/
  shallowest : Nat := 0
  /-- Whether directories come behind what is in them. -/
  depthFirst : Bool := false
  /-- When links are followed. -/
  following : Following := .never
  /-- Whether something is done with files. -/
  acts : Bool := false
  /-- The programs that are run for several files. -/
  batches : List Batch := []
  /-- The files that are written, and their descriptors. -/
  outputs : List (Raw × Nat) := []
  /-- The time from which days are counted back, if it is not that of the condition. -/
  origin : Option Calendar.Moment := none
  /-- The kind of expressions. -/
  kind : Raw := "findutils-default".toList

/-- Reading the arguments. -/
abbrev Parse := StateT Parsing Act

/-- A word in the quotes of old. -/
def ticked (word : Raw) : Raw :=
  '\x60' :: word ++ ['\'']

/-- End with a complaint. -/
def refuse {α : Type} (message : Raw) : Parse α :=
  StateT.lift (Act.die 1 message)

/-- Complain about a file for a reason. -/
def complainAbout (path : Raw) (reason : OsError) : Act Unit := do
  Act.complain (quotedWord path ++ ": ".toList ++ reason.description)
  Act.fail 1

/-- The argument of a condition. -/
def operand (condition : Raw) : Parse Raw := do
  match (← get).arguments with
  | [] => refuse ("missing argument to ".toList ++ ticked condition)
  | argument :: arguments => do
    modify fun parsing => { parsing with arguments, last := condition }
    pure argument

/-- A condition that does nothing. -/
def plain (holds : Entry → Bool) : Parse Judge :=
  pure fun entry => pure (holds entry)

/-- Compare a number as a sign in front of another one tells. -/
def comparison? (text : Raw) : Option (Nat → Bool) :=
  let (sign, digits) := match text with
    | '+' :: rest => ('+', rest)
    | '-' :: rest => ('-', rest)
    | rest => ('=', rest)
  if digits.isEmpty || !digits.all Char.isDigit then none
  else
    let bound := Numeral.valueOf 10 digits
    some fun number => match sign with
      | '+' => decide (bound < number)
      | '-' => decide (number < bound)
      | _ => number == bound

/-- Read the comparison that is the argument of a condition. -/
def compared (condition : Raw) : Parse (Nat → Bool) := do
  let text ← operand condition
  match comparison? text with
  | some holds => pure holds
  | none => refuse ("invalid argument ".toList ++ ticked text ++ " to ".toList ++ ticked condition)

/-- A pattern in which another sign for the outside is understood too. -/
def withOutside : Raw → Raw
  | '\\' :: c :: rest => '\\' :: c :: withOutside rest
  | '[' :: '^' :: rest => '[' :: '!' :: withOutside rest
  | c :: rest => c :: withOutside rest
  | [] => []

/-- Whether a text fits a pattern. -/
def fits (pattern text : Raw) : Bool :=
  Script.Wildcard.fits (Script.Wildcard.ofMarked false ((withOutside pattern).map fun c => (c, false))) text

/-- Both texts without a difference between capitals and other letters. -/
def folded (holds : Raw → Raw → Bool) (pattern text : Raw) : Bool :=
  holds (pattern.map Char.toLower) (text.map Char.toLower)

/-- The kinds of expressions, and whether they are extended. -/
def expressionKinds : List (String × Option Bool) :=
  [("findutils-default", none), ("ed", some false), ("emacs", none), ("gnu-awk", some true), ("grep", some false),
    ("posix-awk", some true), ("awk", some true), ("posix-basic", some false), ("posix-egrep", some true), ("egrep", some true),
    ("posix-extended", some true), ("posix-minimal-basic", some false), ("sed", some false)]

/-- A condition on the whole path. -/
def expression (condition : Raw) (ignoresCase : Bool) : Parse Judge := do
  let text ← operand condition
  let kind := (expressionKinds.lookup (String.ofList (← get).kind)).getD none
  let dialect : Dialect := { extended := kind.getD false, ignoresCase }
  match Matcher.read dialect (if kind.isNone then Dialect.withSlashes text else text) with
  | .error message => refuse ("failed to compile regular expression ".toList ++ quoted text ++ ": ".toList ++ message.toList)
  | .ok matcher => plain fun entry =>
    match matcher.matchAt? entry.path.toArray 0 with
    | some found => found.stop == entry.path.length
    | none => false

/-- The letter of a kind of file. -/
def letterOf (kind : Kind) : Char :=
  match kind with
  | .file => 'f'
  | kind => Mode.kindLetter kind

/-- The kinds of files that letters tell. -/
def kindsOf (condition : Raw) : Parse (List Char) := do
  let text ← operand condition
  let parts := Raw.split ',' text
  parts.mapM fun part =>
    match part with
    | [c] =>
      if "bcdpflsD".toList.contains c then pure c
      else refuse ("Unknown argument to ".toList ++ condition ++ ": ".toList ++ [c])
    | [] => refuse ("Arguments to ".toList ++ condition ++ " should contain at least one letter".toList)
    | _ => refuse ("Must separate multiple arguments to ".toList ++ condition ++ " using: ','".toList)

/-- How large a file is. -/
def sizeOf (status : Status) : Nat :=
  if status.kind == .directory then 4096 else status.size

/-- The condition on the size of a file. -/
def size : Parse Judge := do
  let text ← operand "-size".toList
  let last := text.getLast?.getD ' '
  let units := [('b', 512), ('c', 1), ('w', 2), ('k', 1024), ('M', 1048576), ('G', 1073741824)]
  let (unit, digits) ← if last.isDigit then pure (512, text)
    else match units.lookup last with
      | some unit => pure (unit, text.dropLast)
      | none => refuse ("invalid -size type ".toList ++ ticked [last])
  match comparison? digits with
  | none => refuse ("Invalid argument ".toList ++ ticked text ++ " to -size".toList)
  | some holds => plain fun entry => holds ((sizeOf entry.status + unit - 1) / unit)

/-- The condition on the mode of a file. -/
def mode : Parse Judge := do
  let text ← operand "-perm".toList
  let (sign, told) := match text with
    | '-' :: rest => ('-', rest)
    | '/' :: rest => ('/', rest)
    | rest => ('=', rest)
  match Mode.read told with
  | none => refuse ("invalid mode ".toList ++ quoted text)
  | some changes =>
    let bits := Mode.adjust false 0 changes 0
    plain fun entry =>
      let mode := entry.status.mode
      match sign with
      | '-' => Nat.land mode bits == bits
      | '/' => bits == 0 || Nat.land mode bits != 0
      | _ => mode == bits

/-- What is known of a file that is named as an argument. -/
def statusOperand (condition : Raw) : Parse Status := do
  let path ← operand condition
  let follows := (← get).following != .never
  match ← Act.inspect path follows with
  | .ok status => pure status
  | .error reason => refuse (quotedWord path ++ ": ".toList ++ reason.description)

/-- A length of time in units, which may have a part behind a point. -/
def length? (unit : Int) (text : Raw) : Option Int :=
  let whole := text.takeWhile Char.isDigit
  let behind := text.drop whole.length
  let digits := behind.drop 1
  if !(behind.isEmpty || (behind.head? == some '.' && digits.all Char.isDigit)) || (whole ++ digits).isEmpty then none
  else some (Int.ofNat (Numeral.valueOf 10 (whole ++ digits)) * unit / Int.ofNat (Nat.pow 10 digits.length))

/-- The condition on how long ago a time of a file is: longer or shorter than a number of units, or just as long, parts
of units being rounded up. So many units more are taken for those that are no shorter. -/
def age (condition : Raw) (kind : Listing.TimeKind) (unit more : Int) (origin : Calendar.Moment) : Parse Judge := do
  let text ← operand condition
  let (sign, told) := match text with
    | '+' :: rest => ('+', rest)
    | '-' :: rest => ('-', rest)
    | rest => ('=', rest)
  match length? unit told with
  | none => refuse ("invalid argument ".toList ++ ticked text ++ " to ".toList ++ ticked condition)
  | some bound => plain fun entry =>
    let age := origin - kind.of entry.status
    let bound := if sign == '-' then bound else bound + more
    match sign with
    | '-' => decide (age < bound)
    | '+' => decide (bound < age)
    | _ => decide (age < bound) && decide (bound - unit ≤ age)

/-- How long a minute is. -/
def minute : Int := 60 * Calendar.nanosecondsPerSecond

/-- How long a day is. -/
def day : Int := Calendar.secondsPerDay * Calendar.nanosecondsPerSecond

/-- The condition on how many minutes ago a time of a file is. -/
def minutes (condition : Raw) (kind : Listing.TimeKind) : Parse Judge := do
  age condition kind minute 0 (← Act.now)

/-- The condition on how many days ago a time of a file is, where parts of days do not count. -/
def days (condition : Raw) (kind : Listing.TimeKind) : Parse Judge := do
  let origin ← (← get).origin.getDM Act.now
  age condition kind day day origin

/-- The condition that a time of a file is later than that of another one, or than a time that is told. -/
def newer (condition : Raw) (kind : Listing.TimeKind) (reference : Char) : Parse Judge := do
  let bound ← if reference == 't' then do
      let text ← operand condition
      match ← Act.momentOf? text with
      | some moment => pure moment
      | none =>
        refuse ("I cannot figure out how to interpret ".toList ++ quoted text ++ " as a date or time".toList)
    else do
      let status ← statusOperand condition
      let kind : Listing.TimeKind := if reference == 'a' then .accessed else if reference == 'c' then .altered else .changed
      pure (kind.of status)
  plain fun entry => bound < kind.of entry.status

/-- Whether a directory is empty, or a file. -/
def isEmpty : Judge := fun entry => do
  if entry.status.kind == .directory then
    let names ← Act.names entry.path
    pure (match names with
      | .ok names => names.isEmpty
      | .error _ => false)
  else pure (entry.status.kind == .file && entry.status.size == 0)

/-- What is written for a file. -/
abbrev Writer := Raw → Work Unit

/-- Write to the standard output. -/
def sayOut : Writer := fun text => Act.say text

/-- Write to a file that is opened now. -/
def writerTo (condition : Raw) : Parse Writer := do
  let path ← operand condition
  if path == "/dev/stdout".toList then pure sayOut
  else
    let descriptor ← match (← get).outputs.lookup path with
      | some descriptor => pure descriptor
      | none => do
        let opened : Except OsError Nat ← Act.ask (.openFile path .writing)
        match opened with
        | .error reason => refuse (quotedWord path ++ ": ".toList ++ reason.description)
        | .ok descriptor => do
          modify fun parsing => { parsing with outputs := (path, descriptor) :: parsing.outputs }
          pure descriptor
    pure fun text => do
      let _ : Except OsError Unit ← Act.ask (.write descriptor (Raw.octets text))

/-- A part of a format. -/
inductive Piece where
  | text (text : Raw)
  /-- What a letter asks for. -/
  | value (conversion : Conversion) (letter : Char)
  /-- A time of a file, in the form that a letter asks for. -/
  | time (conversion : Conversion) (kind : Listing.TimeKind) (letter : Char)
  /-- Nothing more is written. -/
  | stop

/-- The letters of times that are followed by the letter of a form. -/
def timeLetters : List (Char × Listing.TimeKind) := [('A', .accessed), ('C', .altered), ('T', .changed)]

/-- The letters of times that are told in the usual form. -/
def wholeTimeLetters : List (Char × Listing.TimeKind) := [('a', .accessed), ('c', .altered), ('t', .changed)]

/-- A time in the form that a letter asks for. -/
def timeText (zone : Calendar.Zone) (moment : Calendar.Moment) (letter : Char) : Raw :=
  let fraction := '.' :: Numeral.filled 9 moment.nanoseconds ++ ['0']
  let form := fun (text : String) => (zone.shown moment).inForm text.toList
  match letter with
  | '@' => Numeral.ofInt moment.seconds ++ fraction
  | '+' => form "%F+%T" ++ fraction
  | 'S' => form "%S" ++ fraction
  | 'T' => form "%T" ++ fraction
  | 'X' => form "%T" ++ fraction
  | 't' => form "%a %b %e %T" ++ fraction ++ form " %Y"
  | 'N' => "%N".toList
  | letter => (zone.shown moment).inForm ['%', letter]

/-- Read a format; complaints are written. -/
def readFormat : Nat → Raw → Parse (List Piece)
  | 0, _ => pure []
  | _ + 1, [] => pure []
  | steps + 1, '\\' :: rest => do
    let digits := (rest.takeWhile (Numeral.isDigitIn 8)).take 3
    if !digits.isEmpty then
      let others ← readFormat steps (rest.drop digits.length)
      pure (.text [Char.ofNat (Numeral.valueOf 8 digits % 256)] :: others)
    else
      let letters := [('a', '\x07'), ('b', '\x08'), ('f', '\x0c'), ('n', '\n'), ('r', '\r'), ('t', '\t'), ('v', '\x0b'),
        ('\\', '\\')]
      match rest with
      | [] => do
        Act.complain "warning: escape \x60\\' followed by nothing at all".toList
        pure [.text ['\\']]
      | 'c' :: _ => pure [.stop]
      | c :: rest => do
        let others ← readFormat steps rest
        match letters.lookup c with
        | some d => pure (.text [d] :: others)
        | none => do
          Act.complain ("warning: unrecognized escape ".toList ++ ticked ['\\', c])
          pure (.text ['\\', c] :: others)
  | steps + 1, '%' :: rest => do
    let flags := rest.takeWhile "-+ #0".toList.contains
    let behind := rest.drop flags.length
    let width := behind.takeWhile Char.isDigit
    let behind := behind.drop width.length
    let (precision, behind) := match behind with
      | '.' :: behind =>
        let digits := behind.takeWhile Char.isDigit
        (some (Numeral.valueOf 10 digits), behind.drop digits.length)
      | behind => (none, behind)
    match behind with
    | [] => refuse "error: % at end of format string".toList
    | '%' :: behind => do
      let others ← readFormat steps behind
      pure (.text ['%'] :: others)
    | letter :: behind => do
      let conversion : Conversion := { flags, width := Numeral.valueOf 10 width, precision }
      match timeLetters.lookup letter, behind, wholeTimeLetters.lookup letter with
      | some kind, form :: behind, _ =>
        let others ← readFormat steps behind
        pure (.time conversion kind form :: others)
      | some _, [], _ => do
        let written := '%' :: flags ++ width ++ [letter]
        Act.complain ("warning: format directive ".toList ++ ticked written ++
          " should be followed by another character".toList)
        pure [.text written]
      | none, _, some kind =>
        let others ← readFormat steps behind
        pure (.time conversion kind 't' :: others)
      | none, _, none =>
        let others ← readFormat steps behind
        if "bdDfFghGHiklmMnpPsSuUyYZ".toList.contains letter then pure (.value conversion letter :: others)
        else do
          let written := '%' :: flags ++ width ++ [letter]
          Act.complain ("warning: unrecognized format directive ".toList ++ ticked written)
          pure (.text written :: others)
  | steps + 1, c :: rest => do
    let others ← readFormat steps rest
    pure (.text [c] :: others)

/-- The name of the directory that a path lies in, as it is written. -/
def directoryName (path : Raw) : Raw :=
  let back := (path.reverse.takeWhile (· != '/')).length
  let front := path.take (path.length - back - 1)
  if back = path.length then ['.'] else if front.isEmpty then [] else front

/-- The path of a file as it is seen from where the search began. -/
def innerPath (entry : Entry) : Raw :=
  let inner := entry.path.drop entry.start.length
  if inner.head? == some '/' then inner.drop 1 else inner

/-- What a letter of a format asks for. -/
def valueOf (entry : Entry) (letter : Char) : Work Raw := do
  let status := entry.status
  match letter with
  | 'd' => pure (decimal entry.depth)
  | 'f' => pure (Path.lastName entry.path)
  | 'g' => pure (Listing.groupOf false status)
  | 'G' => pure (Listing.groupOf true status)
  | 'h' => pure (directoryName (if entry.path == ['/'] then ['/'] else dropTrailing (· == '/') entry.path))
  | 'H' => pure entry.start
  | 'i' => pure (decimal (status.number.getD 0))
  | 'k' => pure (decimal (Listing.blocksOf status))
  | 'b' => pure (decimal (Listing.blocksOf status * 2))
  | 'l' =>
    if status.kind != .link then pure []
    else
      let target ← Act.linkTarget entry.path
      pure (target.toOption.getD [])
  | 'm' => pure (Numeral.inBase 8 status.mode)
  | 'M' => pure (Mode.kindLetter status.kind :: Mode.letters status.mode)
  | 'n' => do
    let links : Nat ← Act.ask (.links entry.path (status.kind != .link))
    pure (decimal links)
  | 'p' => pure entry.path
  | 'P' => pure (innerPath entry)
  | 's' => pure (decimal (sizeOf status))
  | 'S' => pure ['1']
  | 'u' => pure (Listing.ownerOf false status)
  | 'U' => pure (Listing.ownerOf true status)
  | 'y' => pure [letterOf status.kind]
  | 'Y' =>
    if status.kind != .link then pure [letterOf status.kind]
    else match ← Act.inspect entry.path true with
      | .ok status => pure [letterOf status.kind]
      | .error .tooManyLinks => pure ['L']
      | .error .noEntry => pure ['N']
      | .error _ => pure ['?']
  | 'D' => pure ['1']
  | 'F' => pure "overlay".toList
  | _ => pure "0".toList

/-- Write what a format asks for. -/
def sayFormat (write : Writer) (entry : Entry) : List Piece → Work Unit
  | [] => pure ()
  | .text text :: rest => do
    write text
    sayFormat write entry rest
  | .value conversion letter :: rest => do
    let value ← valueOf entry letter
    write (conversion.text value)
    sayFormat write entry rest
  | .time conversion kind letter :: rest => do
    write (conversion.text (timeText (← Act.zone) (kind.of entry.status) letter))
    sayFormat write entry rest
  | .stop :: _ => Act.flush

/-- Write what is known of a file. -/
def sayLong (write : Writer) (entry : Entry) : Work Unit := do
  let status := entry.status
  let links : Nat ← Act.ask (.links entry.path (status.kind != .link))
  let target : Except OsError Raw ← if status.kind == .link then Act.linkTarget entry.path else pure (.error .invalid)
  let wanted : Listing.Wanted := { Listing.usual with now := ← Act.now, zone := ← Act.zone }
  let time := Listing.timeText wanted status.changed
  let right := fun (width : Nat) (text : Raw) => Listing.onRight width text
  let left := fun (width : Nat) (text : Raw) => Listing.onLeft width text
  write (right 9 (decimal (status.number.getD 0)) ++ ' ' :: right 6 (decimal (Listing.blocksOf status)) ++ ' ' ::
    Mode.kindLetter status.kind :: Mode.letters status.mode ++ ' ' :: right 3 (decimal links) ++ ' ' ::
    left 8 (Listing.ownerOf false status) ++ ' ' :: left 8 (Listing.groupOf false status) ++ ' ' ::
    right 8 (decimal (sizeOf status)) ++ ' ' :: time ++ ' ' :: entry.path ++
    (match target with
      | .ok target => " -> ".toList ++ target
      | .error _ => []) ++ ['\n'])

/-- Remove a file. -/
def delete : Judge := fun entry => do
  if entry.path == ['.'] then pure true
  else
    let failure ← if entry.status.kind == .directory then Act.removeDirectory entry.path else Act.remove entry.path
    match failure with
    | none => pure true
    | some reason => do
      Act.complain ("cannot delete ".toList ++ quotedWord entry.path ++ ": ".toList ++ reason.description)
      Act.fail 1
      pure false

/-- The sign for a file in a command. -/
def fileSign : Raw := "\x7b\x7d".toList

/-- Run a command in a directory, or where the program is. -/
def runIn (place : Option Raw) (command : List Raw) : Act ExitStatus := do
  Act.flush
  let bindings ← Act.bindings
  let name := (← get).name
  let child ← Act.start do
    if let some place := place then
      let _ ← Job.call (.enter place)
    let reason ← become command bindings
    let program := command.head?.getD []
    Job.complain (Raw.octets (name ++ ": ".toList ++ quotedWord program ++ ": ".toList ++ reason.description ++ ['\n']))
    pure 1
  Act.await child

/-- Run a command for some files. -/
def runBatch (batch : Batch) : Act Unit := do
  if !batch.paths.isEmpty then
    match ← runIn none (batch.command ++ batch.paths.reverse) with
    | .exited 0 => pure ()
    | _ => Act.fail 1

/-- Run all commands that are to be run later. -/
def runBatches (batches : List Batch) : Act Unit :=
  batches.forM runBatch

/-- How many octets the files have at most for which a command is run together. -/
def longestBatch : Nat := 131072

/-- Check that programs are not looked for where files lie. -/
def checkSearch (condition : Raw) : Parse Unit := do
  let bindings ← Act.bindings
  let parts := Raw.split ':' ((bindings.lookup "PATH".toList).getD [])
  let behind := " is included in the PATH environment variable, which is insecure in combination with the ".toList ++
    condition ++ " action of find.  ".toList
  for part in parts do
    if part.isEmpty || part == ['.'] then
      refuse ("The current directory".toList ++ behind ++ "Please remove the current directory from your $PATH ".toList ++
        "(that is, remove \".\", doubled colons, or leading or trailing colons)".toList)
    else if part.head? != some '/' then
      refuse ("The relative path ".toList ++ quoted part ++ behind ++ "Please remove that entry from $PATH".toList)

/-- Read a command and what it is run for. -/
def command (condition : Raw) (inPlace asks : Bool) : Parse Judge := do
  let arguments := (← get).arguments
  let missing := fun {α : Type} (_ : Unit) => (refuse ("missing argument to ".toList ++ ticked condition) : Parse α)
  if inPlace then checkSearch condition
  let holdsSign := fun (word : Raw) => (Raw.cutAt? fileSign word).isSome
  let isPlus := fun (place : Nat) =>
    arguments[place]? == some ['+'] && 0 < place && (arguments[place - 1]?.map holdsSign).getD false && !asks
  match (List.range arguments.length).find? fun place => arguments[place]? == some [';'] || isPlus place with
  | none => missing ()
  | some stop => do
    let words := arguments.take stop
    modify fun parsing => { parsing with arguments := arguments.drop (stop + 1), acts := true }
    if inPlace && (words.head?.map holdsSign).getD false then
      refuse ("You may not use ".toList ++ fileSign ++ " within the utility name for -execdir and -okdir, ".toList ++
        "because this is a potential security problem.".toList)
    if words.isEmpty then refuse ("invalid argument ".toList ++ ticked [';'] ++ " to ".toList ++ ticked condition)
    let placeFor := fun (entry : Entry) =>
      if inPlace then some (directoryName (dropTrailing (· == '/') entry.path)) else none
    let nameFor := fun (entry : Entry) =>
      if inPlace then "./".toList ++ Path.lastName entry.path else entry.path
    if arguments[stop]? == some ['+'] then
      let front := words.dropLast
      let sign := words.getLast?.getD []
      if front.any holdsSign then
        refuse ("Only one instance of ".toList ++ fileSign ++ " is supported with ".toList ++ condition ++ " ... +".toList)
      if sign != fileSign then
        refuse ("In ".toList ++ quoted (condition ++ " ... ".toList ++ fileSign ++ " +".toList) ++ " the ".toList ++
          quoted fileSign ++ " must appear by itself, but you specified ".toList ++ quoted sign)
      if front.isEmpty then missing ()
      if inPlace then
        pure fun entry => do
          match ← runIn (placeFor entry) (front ++ [nameFor entry]) with
          | .exited 0 => pure ()
          | _ => Act.fail 1
          pure true
      else
        let index := (← get).batches.length
        let batch : Batch := { command := front, inPlace }
        modify fun parsing => { parsing with batches := parsing.batches ++ [batch] }
        pure fun entry => do
          let state ← get
          let batch := (state.batches[index]?).getD batch
          let size := (batch.paths.map List.length).foldl (· + ·) 0
          let batch ← if longestBatch < size + batch.paths.length * 9 then do
              runBatch batch
              pure { batch with paths := [] }
            else pure batch
          modify fun state => { state with
            batches := state.batches.set index { batch with paths := entry.path :: batch.paths } }
          pure true
    else
      pure fun entry => do
        let name := nameFor entry
        let replaced := words.map fun word => Raw.replaced fileSign name word
        let agrees ← if asks then do
            Act.flush
            Act.report ("< ".toList ++ words.head?.getD [] ++ " ... ".toList ++ entry.path ++ " > ? ".toList)
            let answer ← Act.readAnswer
            pure (answer.head? == some 'y' || answer.head? == some 'Y')
          else pure true
        if !agrees then pure false
        else match ← runIn (placeFor entry) replaced with
          | .exited 0 => pure true
          | _ => pure false

/-- Read a number that is no smaller than zero. -/
def natural (condition : Raw) : Parse Nat := do
  let text ← operand condition
  if text.isEmpty || !text.all Char.isDigit then
    refuse ("Expected a positive decimal integer argument to ".toList ++ condition ++ ", but got ".toList ++ quoted text)
  else pure (Numeral.valueOf 10 text)

/-- A condition that holds always. -/
def always : Parse Judge := plain fun _ => true

/-- Remember that something is done with files. -/
def acting (judge : Judge) : Parse Judge := do
  modify fun parsing => { parsing with acts := true }
  pure judge

/-- Whether a file has an owner of a name. -/
def owner (condition : Raw) (names : List (String × Bool)) (what : String) : Parse Judge := do
  let text ← operand condition
  match names.lookup (String.ofList text) with
  | some foreign => plain fun entry => entry.status.foreign == foreign
  | none =>
    if !text.isEmpty && text.all Char.isDigit then plain fun _ => false
    else refuse (quoted text ++ " is not the name of ".toList ++ what.toList)

/-- Read a condition that is no operator. -/
def condition (word : Raw) : Parse Judge := do
  modify fun parsing => { parsing with last := word }
  let named := fun (holds : Raw → Raw → Bool) (text : Entry → Raw) => do
    let pattern ← operand word
    plain fun entry => holds pattern (text entry)
  let name := fun (entry : Entry) => Path.lastName entry.path
  let path := fun (entry : Entry) => entry.path
  let allows := fun (use : Use) => (pure fun entry => do
    let allowed : Bool ← Act.ask (.allows entry.path use)
    pure allowed : Parse Judge)
  match String.ofList word with
  | "-true" => always
  | "-false" => plain fun _ => false
  | "-name" => named fits name
  | "-iname" => named (folded fits) name
  | "-path" => named fits path
  | "-wholename" => named fits path
  | "-ipath" => named (folded fits) path
  | "-iwholename" => named (folded fits) path
  | "-regex" => expression word false
  | "-iregex" => expression word true
  | "-regextype" => do
    let kind ← operand word
    if expressionKinds.all fun known => known.1.toList != kind then
      let known := ", ".toList.intercalate (expressionKinds.map fun known => quoted known.1.toList)
      refuse ("Unknown regular expression type ".toList ++ quoted kind ++ "; valid types are ".toList ++ known ++ ['.'])
    modify fun parsing => { parsing with kind }
    always
  | "-lname" => do
    let pattern ← operand word
    pure fun entry => do
      let target ← Act.linkTarget entry.path
      pure (entry.status.kind == .link && fits pattern (target.toOption.getD []))
  | "-ilname" => do
    let pattern ← operand word
    pure fun entry => do
      let target ← Act.linkTarget entry.path
      pure (entry.status.kind == .link && folded fits pattern (target.toOption.getD []))
  | "-type" => do
    let kinds ← kindsOf word
    plain fun entry => kinds.contains (letterOf entry.status.kind)
  | "-xtype" => do
    let kinds ← kindsOf word
    let following := (← get).following
    pure fun entry => do
      match ← Act.inspect entry.path (following != .always) with
      | .ok status => pure (kinds.contains (letterOf status.kind))
      | .error _ => pure (kinds.contains 'l')
  | "-empty" => pure isEmpty
  | "-size" => size
  | "-perm" => mode
  | "-readable" => allows .read
  | "-writable" => allows .write
  | "-executable" => allows .execute
  | "-newer" => newer word .changed 'm'
  | "-anewer" => newer word .accessed 'm'
  | "-cnewer" => newer word .altered 'm'
  | "-mtime" => days word .changed
  | "-atime" => days word .accessed
  | "-ctime" => days word .altered
  | "-mmin" => minutes word .changed
  | "-amin" => minutes word .accessed
  | "-cmin" => minutes word .altered
  | "-daystart" => do
    let now ← Act.now
    let zone ← Act.zone
    let tomorrow := (zone.shown now).number + 1
    modify fun parsing => { parsing with origin := some (.ofSeconds (zone.secondsOf (tomorrow * Calendar.secondsPerDay))) }
    always
  | "-links" => do
    let holds ← compared word
    pure fun entry => do
      let links : Nat ← Act.ask (.links entry.path (entry.status.kind != .link))
      pure (holds links)
  | "-inum" => do
    let holds ← compared word
    plain fun entry => holds (entry.status.number.getD 0)
  | "-uid" => do
    let holds ← compared word
    plain fun entry => holds (if entry.status.foreign then 0 else 65534)
  | "-gid" => do
    let holds ← compared word
    plain fun entry => holds (if entry.status.foreign then 0 else 65534)
  | "-user" => owner word [("root", true), ("0", true), ("nobody", false), ("65534", false)] "a known user"
  | "-group" => owner word [("root", true), ("0", true), ("nogroup", false), ("65534", false)] "an existing group"
  | "-nouser" => plain fun _ => false
  | "-nogroup" => plain fun _ => false
  | "-samefile" => do
    let status ← statusOperand word
    plain fun entry => status.number.isSome && entry.status.number == status.number
  | "-print" => acting fun entry => do
    sayOut (entry.path ++ ['\n'])
    pure true
  | "-print0" => acting fun entry => do
    sayOut (entry.path ++ ['\x00'])
    pure true
  | "-printf" => do
    let text ← operand word
    let pieces ← readFormat (text.length + 1) text
    acting fun entry => do
      sayFormat sayOut entry pieces
      pure true
  | "-fprint" => do
    let write ← writerTo word
    acting fun entry => do
      write (entry.path ++ ['\n'])
      pure true
  | "-fprint0" => do
    let write ← writerTo word
    acting fun entry => do
      write (entry.path ++ ['\x00'])
      pure true
  | "-fprintf" => do
    let write ← writerTo word
    let text ← operand word
    let pieces ← readFormat (text.length + 1) text
    acting fun entry => do
      sayFormat write entry pieces
      pure true
  | "-ls" => acting fun entry => do
    sayLong sayOut entry
    pure true
  | "-fls" => do
    let write ← writerTo word
    acting fun entry => do
      sayLong write entry
      pure true
  | "-prune" => pure fun _ => do
    modify fun state => { state with pruned := true }
    pure true
  | "-quit" => pure fun _ => do
    modify fun state => { state with stopped := true }
    let state ← get
    runBatches state.batches
    Act.flush
    let output ← (getThe Output : Act Output)
    Act.abandon output.status
  | "-delete" => do
    modify fun parsing => { parsing with depthFirst := true }
    acting delete
  | "-exec" => command word false false
  | "-execdir" => command word true false
  | "-ok" => command word false true
  | "-okdir" => command word true true
  | "-maxdepth" => do
    let deepest ← natural word
    modify fun parsing => { parsing with deepest := some deepest }
    always
  | "-mindepth" => do
    let shallowest ← natural word
    modify fun parsing => { parsing with shallowest }
    always
  | "-depth" => do
    modify fun parsing => { parsing with depthFirst := true }
    always
  | "-d" => do
    modify fun parsing => { parsing with depthFirst := true }
    always
  | "-follow" => do
    modify fun parsing => { parsing with following := .always }
    always
  | "-fstype" => do
    let _ ← operand word
    plain fun _ => false
  | other =>
    if ["-xdev", "-mount", "-noleaf", "-warn", "-nowarn", "-ignore_readdir_race",
        "-noignore_readdir_race"].contains other then always
    else
      let kindOf := fun (letter : Char) => [('a', Listing.TimeKind.accessed), ('c', .altered), ('m', .changed)].lookup letter
      match other.toList with
      | ['-', 'n', 'e', 'w', 'e', 'r', first, second] =>
        match kindOf first with
        | some kind =>
          if "acmt".toList.contains second then newer word kind second
          else refuse ("invalid predicate ".toList ++ ticked word)
        | none => refuse ("invalid predicate ".toList ++ ticked word)
      | _ => refuse ("unknown predicate ".toList ++ ticked word)

/-- The words of operators between conditions. -/
def betweens : List String := ["-o", "-or", "-a", "-and", ","]

mutual

/-- Read conditions of which the last one counts. -/
def listed : Nat → Parse Judge
  | 0 => always
  | steps + 1 => do
    let first ← either steps
    match (← get).arguments with
    | [','] :: rest => do
      modify fun parsing => { parsing with arguments := rest, last := [','] }
      let second ← listed steps
      pure fun entry => do
        let _ ← first entry
        second entry
    | _ => pure first

/-- Read alternatives. -/
def either : Nat → Parse Judge
  | 0 => always
  | steps + 1 => do
    let first ← both steps
    match (← get).arguments with
    | word :: rest =>
      if word == "-o".toList || word == "-or".toList then do
        modify fun parsing => { parsing with arguments := rest, last := word }
        let second ← either steps
        pure fun entry => do
          if ← first entry then pure true else second entry
      else pure first
    | [] => pure first

/-- Read conditions that have to hold together. -/
def both : Nat → Parse Judge
  | 0 => always
  | steps + 1 => do
    let first ← negated steps
    let joined := fun (_ : Unit) => do
      let second ← both steps
      pure fun entry => do
        if ← first entry then second entry else pure false
    match (← get).arguments with
    | [] => pure first
    | word :: rest =>
      if word == "-a".toList || word == "-and".toList then do
        modify fun parsing => { parsing with arguments := rest, last := word }
        joined ()
      else if betweens.contains (String.ofList word) || word == [')'] then pure first
      else joined ()

/-- Read what may be negated. -/
def negated : Nat → Parse Judge
  | 0 => always
  | steps + 1 => do
    let last := (← get).last
    match (← get).arguments with
    | [] => refuse ("expected an expression after ".toList ++ quoted last)
    | word :: rest =>
      let text := String.ofList word
      if text == "!" || text == "-not" then do
        modify fun parsing => { parsing with arguments := rest, last := word }
        let judge ← negated steps
        pure fun entry => do
          let holds ← judge entry
          pure !holds
      else if text == "(" then do
        modify fun parsing => { parsing with arguments := rest, last := word }
        match rest with
        | [] =>
          refuse ("invalid expression; expected to find a ')' but didn't see one. ".toList ++
            "Perhaps you need an extra predicate after '('".toList)
        | [')'] :: _ => refuse "invalid expression; empty parentheses are not allowed.".toList
        | _ => do
          let judge ← listed steps
          match (← get).arguments with
          | [')'] :: rest => do
            modify fun parsing => { parsing with arguments := rest, last := [')'] }
            pure judge
          | _ => refuse "invalid expression; I was expecting to find a ')' somewhere but did not see one.".toList
      else if text == ")" then refuse "invalid expression; you have too many ')'".toList
      else if betweens.contains text then
        refuse ("invalid expression; you have used a binary operator ".toList ++ quoted word ++ " with nothing before it.".toList)
      else if word.head? != some '-' || word.length < 2 then do
        Act.complain ("paths must precede expression: ".toList ++ ticked word)
        if !last.isEmpty then
          Act.complain ("possible unquoted pattern after predicate ".toList ++ ticked last ++ ['?'])
        StateT.lift (Act.finish 1)
      else do
        modify fun parsing => { parsing with arguments := rest }
        condition word

end

/-- Read all conditions. -/
def readAll : Parse Judge := do
  if (← get).arguments.isEmpty then always
  else
    let judge ← listed (8 * (← get).arguments.length + 8)
    match (← get).arguments with
    | [')'] :: _ => refuse "you have too many ')'".toList
    | _ => pure judge

/-- How files are searched. -/
structure Plan where
  /-- The condition. -/
  judge : Judge
  /-- How deep the search goes. -/
  deepest : Option Nat
  /-- How deep files are at least. -/
  shallowest : Nat
  /-- Whether directories come behind what is in them. -/
  depthFirst : Bool
  /-- When links are followed. -/
  following : Following

/-- What a path leads to; a link is followed if that is wanted and leads somewhere. -/
def statusAt (plan : Plan) (named : Bool) (path : Raw) : Act (Except OsError Status) := do
  let follows := plan.following == .always || (named && plan.following == .named)
  if !follows then Act.inspect path false
  else match ← Act.inspect path true with
    | .ok status => pure (.ok status)
    | .error _ => Act.inspect path false

/-- Search a file and, to a depth, what is in it; told are the directories on the way and their nodes. -/
def visit (plan : Plan) : Nat → List (Nat × Raw) → Entry → Work Unit
  | 0, _, _ => pure ()
  | steps + 1, above, entry => do
    let number := entry.status.number.getD 0
    let isDirectory := entry.status.kind == .directory
    match (if isDirectory then above.lookup number else none) with
    | some path => do
      Act.complain ("File system loop detected; ".toList ++ quotedWord entry.path ++
        " is part of the same file system loop as ".toList ++ quotedWord path ++ ['.'])
      Act.fail 1
    | none => do
      let isDeep := plan.shallowest ≤ entry.depth
      modify fun state => { state with pruned := false }
      if isDeep && !plan.depthFirst then
        let _ ← plan.judge entry
      let pruned := (← get).pruned && !plan.depthFirst
      let descends := isDirectory && !pruned && match plan.deepest with
        | some deepest => decide (entry.depth < deepest)
        | none => true
      if descends then
        match ← Act.names entry.path with
        | .error reason => complainAbout entry.path reason
        | .ok names =>
          for name in names do
            let path := Path.beneath entry.path name
            match ← statusAt plan false path with
            | .error reason => complainAbout path reason
            | .ok status =>
              visit plan steps ((number, entry.path) :: above) { entry with path, depth := entry.depth + 1, status }
      if isDeep && plan.depthFirst then
        let _ ← plan.judge entry

/-- Whether an argument begins the conditions. -/
def beginsConditions (argument : Raw) : Bool :=
  match argument with
  | '-' :: _ :: _ => true
  | ['('] => true
  | ['!'] => true
  | _ => false

/-- The options in front of the paths, when links are followed by them, and what comes behind. -/
def readFront : Following → List Raw → Act (Following × List Raw)
  | following, [] => pure (following, [])
  | following, word :: rest => do
    match String.ofList word with
    | "-H" => readFront .named rest
    | "-L" => readFront .always rest
    | "-P" => readFront .never rest
    | "--" => pure (following, rest)
    | "-D" =>
      match rest with
      | [] => Act.die 1 "Missing argument after the -D option.".toList
      | flags :: rest => do
        Act.complain ("Ignoring unrecognised debug flag ".toList ++ quoted flags)
        readFront following rest
    | _ =>
      match word with
      | '-' :: 'O' :: _ => readFront following rest
      | _ => pure (following, word :: rest)

end Finding

/-- Find files. -/
def find : Utility := ofAct fun arguments => do
  modify fun output => { output with complaint := fun reason =>
    "'standard output': ".toList ++ reason.description ++ "\nfind: write error".toList ++
      if reason == .badDescriptor then ": ".toList ++ reason.description else [] }
  let (following, rest) ← Finding.readFront .never arguments
  let paths := rest.takeWhile fun argument => !Finding.beginsConditions argument
  let (judge, parsing) ← Finding.readAll.run { arguments := rest.drop paths.length, following }
  let judge : Finding.Judge := if parsing.acts then judge else fun entry => do
    if ← judge entry then
      Finding.sayOut (entry.path ++ ['\n'])
      pure true
    else pure false
  let plan : Finding.Plan := {
    judge, deepest := parsing.deepest, shallowest := parsing.shallowest, depthFirst := parsing.depthFirst
    following := parsing.following }
  let mut state : Finding.State := { batches := parsing.batches }
  for path in if paths.isEmpty then [['.']] else paths do
    match ← Finding.statusAt plan true path with
    | .error reason => Finding.complainAbout path reason
    | .ok status => do
      let (_, next) ← (Finding.visit plan 500 [] { path, start := path, depth := 0, status }).run state
      state := next
  Finding.runBatches state.batches

/-- The programs of this kind. -/
def findingTools : List (String × Utility) :=
  [("find", find)]

end AnswerQuery.Host.Tool
