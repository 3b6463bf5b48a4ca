import AnswerQuery.Host.Floating
import AnswerQuery.Host.Tool.Source

/-! Putting lines in order. -/

namespace AnswerQuery.Host.Tool

namespace Order

/-- A way of comparing texts. -/
inductive Way where
  /-- By their characters. -/
  | plain
  /-- By the numbers at their front. -/
  | numeric
  /-- By the numbers at their front, which may be written in any way. -/
  | general
  /-- By the numbers at their front and the letters of their sizes. -/
  | human
  /-- By the names of months. -/
  | month
  /-- By the numbers in them. -/
  | version
  deriving DecidableEq, Repr

/-- Which characters do not count. -/
inductive Passing where
  | nothing
  /-- Those that do not stand in dictionaries. -/
  | undictionary
  /-- Those that cannot be seen. -/
  | unprinted
  deriving DecidableEq, Repr

/-- The letters of ways of comparing. -/
structure Letters where
  /-- Whether blanks in front of the start do not count. -/
  startBlanks : Bool := false
  /-- Whether blanks in front of the end do not count. -/
  endBlanks : Bool := false
  /-- Which characters do not count. -/
  passes : Passing := .nothing
  /-- Whether capitals are the same as other letters. -/
  folds : Bool := false
  /-- The ways of comparing that are told. -/
  ways : List Way := []
  /-- Whether numbers are asked for in no order that can be told. -/
  random : Bool := false
  /-- Whether the order is turned round. -/
  reverse : Bool := false

namespace Letters

/-- Whether nothing is told but that the order may be turned round. -/
def isPlain (letters : Letters) : Bool :=
  !letters.startBlanks && !letters.endBlanks && letters.passes == .nothing && !letters.folds && letters.ways.isEmpty &&
    !letters.random

/-- Add a letter, which may be about the start or about the end of a part. -/
def add? (letters : Letters) (atStart atEnd : Bool) (c : Char) : Option Letters :=
  let way := fun (way : Way) => some { letters with ways := way :: letters.ways }
  match c with
  | 'b' => some { letters with startBlanks := letters.startBlanks || atStart, endBlanks := letters.endBlanks || atEnd }
  | 'd' => some { letters with passes := .undictionary }
  | 'f' => some { letters with folds := true }
  | 'g' => way .general
  | 'h' => way .human
  | 'i' => some { letters with passes := if letters.passes == .undictionary then .undictionary else .unprinted }
  | 'M' => way .month
  | 'n' => way .numeric
  | 'R' => some { letters with random := true }
  | 'r' => some { letters with reverse := true }
  | 'V' => way .version
  | _ => none

/-- The letters of ways that cannot be had together, if there are such. -/
def conflict? (letters : Letters) : Option Raw :=
  let has := fun (way : Way) => letters.ways.contains way
  let count := ([has .numeric, has .general, has .human, has .month,
    has .version || letters.random || letters.passes != .nothing].filter id).length
  if count < 2 then none
  else some ([('d', letters.passes == .undictionary), ('f', letters.folds), ('g', has .general), ('h', has .human),
    ('i', letters.passes == .unprinted), ('M', has .month), ('n', has .numeric), ('R', letters.random),
    ('V', has .version)].filterMap fun (letter, told) => if told then some letter else none)

/-- The way of comparing. -/
def way (letters : Letters) : Way :=
  ([Way.numeric, .general, .human, .month, .version].find? letters.ways.contains).getD .plain

end Letters

/-- A part of lines by which they are compared. -/
structure Key where
  /-- The field it starts in, counted from zero. -/
  startField : Nat := 0
  /-- How many characters into that field it starts. -/
  startCharacter : Nat := 0
  /-- The field it ends in and how many characters into that, if it does not reach to the end. -/
  stop : Option (Nat × Nat) := none
  /-- How it is compared. -/
  letters : Letters := {}
  /-- Whether it is all of the line since no part is told. -/
  isWhole : Bool := false
  /-- How it was told in the old way, and how it is told in the new one. -/
  old : Option (Raw × Raw) := none

/-- Whether a character is a blank between fields. -/
def isBlank (c : Char) : Bool :=
  c == ' ' || c == '\t' || c == '\n'

/-- What follows so many fields. -/
def skipFields (tab : Option Char) : Nat → Raw → Raw
  | 0, text => text
  | count + 1, text =>
    match tab with
    | some tab => skipFields (some tab) count ((text.dropWhile (· != tab)).drop 1)
    | none => skipFields none count ((text.dropWhile isBlank).dropWhile fun c => !isBlank c)

/-- How many characters of a line stand in front of the end of a key. -/
def stopOf (tab : Option Char) (blanks : Bool) (field character : Nat) (text : Raw) : Nat :=
  let rest := if character = 0 then
      match tab with
      | some tab => (skipFields (some tab) field text).dropWhile (· != tab)
      | none => skipFields none (field + 1) text
    else
      let rest := skipFields tab field text
      (if blanks then rest.dropWhile isBlank else rest).drop character
  text.length - rest.length

/-- Where the part of a line begins and ends that a key is about. -/
def Key.bounds (key : Key) (tab : Option Char) (text : Raw) : Nat × Nat :=
  let rest := skipFields tab key.startField text
  let rest := (if key.letters.startBlanks then rest.dropWhile isBlank else rest).drop key.startCharacter
  let start := text.length - rest.length
  match key.stop with
  | none => (start, text.length)
  | some (field, character) => (start, max start (stopOf tab key.letters.endBlanks field character text))

/-- The part of a line that a key is about. -/
def Key.part (key : Key) (tab : Option Char) (text : Raw) : Raw :=
  let (start, stop) := key.bounds tab text
  (text.drop start).take (stop - start)

/-- A number as it is written at the front of a text: its sign, and its digits in front of the point and behind it. -/
structure Numeric where
  /-- Whether it is below zero. -/
  negative : Bool
  /-- The whole part. -/
  whole : Nat
  /-- The digits behind the point, without zeros at the end. -/
  fraction : Raw
  deriving DecidableEq

namespace Numeric

/-- The number at the front of a text. -/
def read (text : Raw) : Numeric :=
  let text := text.dropWhile isBlank
  let negative := text.head? == some '-'
  let text := if negative then text.drop 1 else text
  let digits := text.takeWhile Char.isDigit
  let fraction := match text.drop digits.length with
    | '.' :: rest => dropTrailing (· == '0') (rest.takeWhile Char.isDigit)
    | _ => []
  let whole := Numeral.valueOf 10 digits
  ⟨negative && (whole != 0 || !fraction.isEmpty), whole, fraction⟩

/-- How one number compares with another. -/
def compare (first second : Numeric) : Ordering :=
  let sizes := fun (first second : Numeric) => (Ord.compare first.whole second.whole).then
    (if first.fraction == second.fraction then .eq else if Raw.inOrder first.fraction second.fraction then .lt else .gt)
  match first.negative, second.negative with
  | false, false => sizes first second
  | true, true => sizes second first
  | true, false => .lt
  | false, true => .gt

end Numeric

/-- How great the letter of a size is behind the number at the front of a text; below zero if the number is. -/
def sizeOrder (text : Raw) : Int :=
  let text := text.dropWhile isBlank
  let negative := text.head? == some '-'
  let text := if negative then text.drop 1 else text
  let digits := text.takeWhile Char.isDigit
  let rest := text.drop digits.length
  let (behind, rest) := match rest with
    | '.' :: rest => (rest.takeWhile Char.isDigit, rest.dropWhile Char.isDigit)
    | _ => ([], rest)
  if !(digits ++ behind).any (· != '0') then 0
  else
    let order := match rest.head? with
      | some 'k' => 1
      | some c => match "KMGTPEZYRQ".toList.idxOf? c with
        | some index => index + 1
        | none => 0
      | none => 0
    if negative then -(Int.ofNat order) else Int.ofNat order

/-- The names of months. -/
def months : List String :=
  ["JAN", "FEB", "MAR", "APR", "MAY", "JUN", "JUL", "AUG", "SEP", "OCT", "NOV", "DEC"]

/-- The number of the month that a text begins with, or zero. -/
def monthOf (text : Raw) : Nat :=
  let front := ((text.dropWhile isBlank).take 3).map Char.toUpper
  match months.findIdx? fun name => name.toList == front with
  | some index => index + 1
  | none => 0

namespace Version

/-- The place of a character among others that are no digits. -/
def order (text : Raw) : Int :=
  match text with
  | [] => -1
  | c :: _ =>
    if c.isDigit then 0 else if c.isAlpha then Int.ofNat c.toNat else if c == '~' then -2 else Int.ofNat c.toNat + 256

/-- Whether a text begins with something that is no digit. -/
def beginsPlain (text : Raw) : Bool :=
  (text.head?.map fun c => !c.isDigit).getD false

/-- Compare texts by the numbers in them. -/
def compareParts : Nat → Raw → Raw → Ordering
  | 0, _, _ => .eq
  | steps + 1, first, second =>
    if first.isEmpty && second.isEmpty then .eq
    else if beginsPlain first || beginsPlain second then
      (Ord.compare (order first) (order second)).then (compareParts steps (first.drop 1) (second.drop 1))
    else
      let digits := first.takeWhile Char.isDigit
      let digits' := second.takeWhile Char.isDigit
      (Ord.compare (Numeral.valueOf 10 digits) (Numeral.valueOf 10 digits')).then
        (compareParts steps (first.drop digits.length) (second.drop digits'.length))

/-- Whether a text is made of endings as names of files have them. -/
def isEnding : Nat → Raw → Bool
  | 0, _ => false
  | _ + 1, [] => true
  | steps + 1, '.' :: c :: rest =>
    (c.isAlpha || c == '~') && isEnding steps (rest.dropWhile fun c => c.isAlphanum || c == '~')
  | _ + 1, _ => false

/-- A text without the endings at its end; something has to be left. -/
def withoutEnding (text : Raw) : Raw :=
  let count := ((List.range text.length).drop 1).find? fun count => isEnding (text.length + 1) (text.drop count)
  text.take (count.getD text.length)

/-- Compare names by the numbers in them. -/
def compare (first second : Raw) : Ordering :=
  let rank := fun (text : Raw) => if text.isEmpty then 0 else if text == ['.'] then 1 else if text == ['.', '.'] then 2
    else if text.head? == some '.' then 3 else 4
  if rank first != rank second then Ord.compare (rank first) (rank second)
  else if rank first < 3 then .eq
  else
    let steps := first.length + second.length + 2
    (compareParts steps (withoutEnding first) (withoutEnding second)).then (compareParts steps first second)

end Version

/-- What a part is compared by. -/
inductive Value where
  | text (text : Raw)
  | numeric (number : Numeric)
  | general (number : Option Floating)
  | human (order : Int) (number : Numeric)
  | month (number : Nat)
  | version (text : Raw)

namespace Value

/-- What a part is compared by in a way. -/
def of (letters : Letters) (part : Raw) : Value :=
  let kept := match letters.passes with
    | .nothing => part
    | .undictionary => part.filter fun c => c.isAlphanum || isBlank c
    | .unprinted => part.filter Quote.isPrinted
  let shown := if letters.folds then kept.map Char.toUpper else kept
  match letters.way with
  | .plain => text shown
  | .numeric => numeric (.read shown)
  | .general =>
    let front := Floating.readFront .extended shown
    general (if front.found then some front.value else none)
  | .human => human (sizeOrder shown) (.read shown)
  | .month => month (monthOf shown)
  | .version => version shown

/-- How texts compare. -/
def compareTexts (first second : Raw) : Ordering :=
  if first == second then .eq else if Raw.inOrder first second then .lt else .gt

/-- The place of what may be a number among others: what is none comes first. -/
def rank : Option Floating → Nat
  | none => 0
  | some (.undefined _) => 1
  | some _ => 2

/-- How one value compares with another. -/
def compare : Value → Value → Ordering
  | text first, text second => compareTexts first second
  | numeric first, numeric second => first.compare second
  | general first, general second =>
    (Ord.compare (rank first) (rank second)).then (match first, second with
      | some first, some second => (first.compare? second).getD .eq
      | _, _ => .eq)
  | human order first, human order' second => (Ord.compare order order').then (first.compare second)
  | month first, month second => Ord.compare first second
  | version first, version second => Version.compare first second
  | _, _ => .eq

end Value

/-- A line, ready to be compared. -/
structure Line where
  /-- The characters. -/
  text : Raw
  /-- What its keys are compared by. -/
  values : List Value

/-- How lines are put in order. -/
structure Plan where
  /-- The keys. -/
  keys : List Key
  /-- What separates fields, if it is told. -/
  tab : Option Char
  /-- Whether lines whose keys are the same stay as they are. -/
  stable : Bool
  /-- Whether only one of several lines is kept whose keys are the same. -/
  unique : Bool
  /-- Whether the order is turned round. -/
  reverse : Bool

namespace Plan

/-- Make a line ready. -/
def line (plan : Plan) (text : Raw) : Line :=
  ⟨text, plan.keys.map fun key => .of key.letters (key.part plan.tab text)⟩

/-- The order the other way round. -/
def turned (turns : Bool) (ordering : Ordering) : Ordering :=
  if turns then ordering.swap else ordering

/-- How keys compare. -/
def compareKeys : List Key → List Value → List Value → Ordering
  | key :: keys, first :: firsts, second :: seconds =>
    (turned key.letters.reverse (first.compare second)).then (compareKeys keys firsts seconds)
  | _, _, _ => .eq

/-- How lines compare; those whose keys are the same are compared as a whole at last. -/
def compare (plan : Plan) (first second : Line) : Ordering :=
  let byKeys := compareKeys plan.keys first.values second.values
  if byKeys != .eq || (!plan.keys.isEmpty && (plan.unique || plan.stable)) then byKeys
  else turned plan.reverse (Value.compareTexts first.text second.text)

/-- The first of several lines that are the same. -/
def dropSame (plan : Plan) : List Line → List Line
  | first :: second :: rest =>
    if plan.compare first second == .eq then dropSame plan (first :: rest) else first :: dropSame plan (second :: rest)
  | lines => lines
termination_by lines => lines.length

/-- Put lines in order. -/
def sort (plan : Plan) (lines : List Line) : List Line :=
  let sorted := lines.mergeSort fun first second => plan.compare first second != .gt
  if plan.unique then dropSame plan sorted else sorted

/-- The place of the first of some lines that is less than all others. -/
def least? (plan : Plan) : List (List Line) → Option (Nat × Line)
  | [] => none
  | lines :: others =>
    match lines, least? plan others with
    | [], none => none
    | [], some (place, line) => some (place + 1, line)
    | first :: _, none => some (0, first)
    | first :: _, some (place, line) => if plan.compare first line != .gt then some (0, first) else some (place + 1, line)

/-- Merge lines of several files, so many at most. -/
def merge (plan : Plan) : Nat → List (List Line) → List Line
  | 0, _ => []
  | steps + 1, files =>
    match plan.least? files with
    | none => []
    | some (place, line) => line :: merge plan steps (files.modify place (List.drop 1))

/-- The first line that comes behind one it should not come behind, with its number. -/
def disorder? (plan : Plan) : Nat → List Line → Option (Nat × Line)
  | number, first :: second :: rest =>
    let ordering := plan.compare first second
    if ordering == .gt || (plan.unique && ordering == .eq) then some (number + 1, second)
    else disorder? plan (number + 1) (second :: rest)
  | _, _ => none

end Plan

/-- Read a count in the description of a key. -/
def readCount (text : Raw) (message : String) : Except Raw (Nat × Raw) :=
  let unsigned := if text.head? == some '+' then text.drop 1 else text
  let digits := unsigned.takeWhile Char.isDigit
  if digits.isEmpty then
    .error (message.toList ++ ": invalid count at start of ".toList ++ quoted text)
  else .ok (Numeral.valueOf 10 digits, unsigned.drop digits.length)

/-- Read letters in the description of a key. -/
def readLetters (atStart atEnd : Bool) : Letters → Raw → Letters × Raw
  | letters, [] => (letters, [])
  | letters, c :: rest =>
    match letters.add? atStart atEnd c with
    | some letters => readLetters atStart atEnd letters rest
    | none => (letters, c :: rest)

/-- Read the description of a key. -/
def readKey (text : Raw) : Except Raw Key := do
  let bad := fun {α : Type} (message : String) =>
    (.error (message.toList ++ ": invalid field specification ".toList ++ quoted text) : Except Raw α)
  let (startField, rest) ← readCount text "invalid number at field start"
  if startField = 0 then bad "field number is zero"
  let (startCharacter, rest) ← match rest with
    | '.' :: rest => do
      let (count, rest) ← readCount rest "invalid number after '.'"
      if count = 0 then bad "character offset is zero"
      pure (count - 1, rest)
    | _ => pure (0, rest)
  let (letters, rest) := readLetters true false {} rest
  match rest with
  | [] => pure { startField := startField - 1, startCharacter, letters }
  | ',' :: rest => do
    let (stopField, rest) ← readCount rest "invalid number after ','"
    if stopField = 0 then bad "field number is zero"
    let (stopCharacter, rest) ← match rest with
      | '.' :: rest => readCount rest "invalid number after '.'"
      | _ => pure (0, rest)
    let (letters, rest) := readLetters false true letters rest
    if !rest.isEmpty then bad "stray character in field spec"
    pure { startField := startField - 1, startCharacter, stop := some (stopField - 1, stopCharacter), letters }
  | _ => bad "stray character in field spec"

/-- Read a key that is told in the old way, with fields that are counted from zero. -/
def readOldKey? (start : Raw) (stop : Option Raw) : Option Key :=
  let position := fun (atStart : Bool) (letters : Letters) (text : Raw) =>
    let digits := text.takeWhile Char.isDigit
    let rest := text.drop digits.length
    let (character, rest) := match rest with
      | '.' :: rest => (Numeral.valueOf 10 (rest.takeWhile Char.isDigit), rest.dropWhile Char.isDigit)
      | _ => (0, rest)
    let (letters, rest) := readLetters atStart (!atStart) letters rest
    if digits.isEmpty || !rest.isEmpty then none else some (Numeral.valueOf 10 digits, character, letters)
  match position true {} start with
  | none => none
  | some (startField, startCharacter, letters) =>
    let old := '+' :: decimal startField
    let new := "-k ".toList ++ decimal (startField + 1)
    match stop with
    | none => some { startField, startCharacter, letters, old := some (old, new) }
    | some stop =>
      (position false letters stop).map fun (field, character, letters) =>
        -- The end of a field in the old way is the start of the next one in the new way.
        let stop := if character = 0 then (if field = 0 then (0, 0) else (field - 1, 0)) else (field, character)
        let field := decimal (stop.1 + 1)
        { startField, startCharacter, stop := some stop, letters
          old := some (old ++ " -".toList ++ field, new ++ ',' :: field) }

/-- Take keys that are told in the old way out of arguments. -/
def takeOldKeys : Nat → List Raw → List Key × List Raw
  | 0, arguments => ([], arguments)
  | _ + 1, [] => ([], [])
  | _ + 1, ['-', '-'] :: others => ([], ['-', '-'] :: others)
  | steps + 1, argument :: others =>
    let plain := fun (_ : Unit) =>
      let (keys, others) := takeOldKeys steps others
      (keys, argument :: others)
    match argument with
    | '-' :: letters =>
      -- The argument of an option is no key.
      if (letters.dropWhile fun c => !"koStT".toList.contains c).length = 1 then
        let (keys, rest) := takeOldKeys steps (others.drop 1)
        (keys, argument :: others.take 1 ++ rest)
      else plain ()
    | '+' :: c :: rest =>
      if !c.isDigit then plain ()
      else
        let stop := match others with
          | ('-' :: d :: more) :: _ => if d.isDigit then some (d :: more) else none
          | _ => none
        match readOldKey? (c :: rest) stop with
        | none => plain ()
        | some key =>
          let (keys, others) := takeOldKeys steps (if stop.isSome then others.drop 1 else others)
          (key :: keys, others)
    | _ => plain ()

/-- The options. -/
def known : List Known :=
  [⟨"b", "ignore-leading-blanks", .nothing⟩, ⟨"check", "check", .maybe⟩, ⟨"c", "", .nothing⟩, ⟨"C", "", .nothing⟩,
    ⟨"compress-program", "compress-program", .always⟩, ⟨"debug", "debug", .nothing⟩,
    ⟨"d", "dictionary-order", .nothing⟩, ⟨"f", "ignore-case", .nothing⟩, ⟨"files0-from", "files0-from", .always⟩,
    ⟨"g", "general-numeric-sort", .nothing⟩, ⟨"i", "ignore-nonprinting", .nothing⟩, ⟨"k", "key", .always⟩,
    ⟨"m", "merge", .nothing⟩, ⟨"M", "month-sort", .nothing⟩, ⟨"n", "numeric-sort", .nothing⟩,
    ⟨"h", "human-numeric-sort", .nothing⟩, ⟨"V", "version-sort", .nothing⟩, ⟨"R", "random-sort", .nothing⟩,
    ⟨"random-source", "random-source", .always⟩, ⟨"sort", "sort", .always⟩, ⟨"o", "output", .always⟩,
    ⟨"r", "reverse", .nothing⟩, ⟨"s", "stable", .nothing⟩, ⟨"batch-size", "batch-size", .always⟩,
    ⟨"S", "buffer-size", .always⟩, ⟨"t", "field-separator", .always⟩, ⟨"T", "temporary-directory", .always⟩,
    ⟨"u", "unique", .nothing⟩, ⟨"z", "zero-terminated", .nothing⟩, ⟨"parallel", "parallel", .always⟩,
    ⟨"y", "", .maybe⟩]

/-- The names of the ways of comparing. -/
def wayNames : List (String × Char) :=
  [("general-numeric", 'g'), ("human-numeric", 'h'), ("month", 'M'), ("numeric", 'n'), ("random", 'R'),
    ("version", 'V')]

/-- The letters that options tell. -/
def globalLetters (invocation : Invocation) : Act Letters := do
  let mut letters : Letters := {}
  for given in invocation.given do
    match given.key.toList with
    | [c] => letters := (letters.add? true true c).getD letters
    | _ =>
      if given.key == "sort" then
        let letter ← Act.choose "--sort" (wayNames.map fun pair => ([pair.1], pair.2)) (given.argument.getD [])
        letters := (letters.add? true true letter).getD letters
  pure letters

/-- What separates fields, if that is told. -/
def tabOf (invocation : Invocation) : Act (Option Char) := do
  let mut tab : Option Char := none
  for text in invocation.arguments "t" do
    let next ← match text with
      | [] => Act.die 2 "empty tab".toList
      | [c] => pure c
      | ['\\', '0'] => pure '\x00'
      | _ => Act.die 2 ("multi-character tab ".toList ++ quoted text)
    if (tab.map (· != next)).getD false then Act.die 2 "incompatible tabs".toList
    tab := some next
  pure tab

/-- How lines are checked: not at all, or quietly or not. -/
def checkOf (invocation : Invocation) : Act (Option Char) := do
  let mut check : Option Char := none
  for given in invocation.given do
    let next ← match given.key with
      | "c" => pure (some 'c')
      | "C" => pure (some 'C')
      | "check" =>
        match given.argument with
        | none => pure (some 'c')
        | some text => some <$> Act.choose "--check" [(["quiet", "silent"], 'C'), (["diagnose-first"], 'c')] text
      | _ => pure none
    if let some next := next then
      if (check.map (· != next)).getD false then Act.die 2 "options '-cC' are incompatible".toList
      check := some next
  pure check

/-- Read all lines of a file. -/
def readLines (mark : Char) (path : Raw) : Act (List Raw) := do
  let told := nameFor path
  let result : Except OsError Nat ← if path == ['-'] then pure (.ok 0) else Act.ask (.openFile path .reading)
  match result with
  | .error reason => Act.die 2 ("open failed: ".toList ++ told ++ ": ".toList ++ reason.description)
  | .ok descriptor => do
    let octets : Except OsError Bytes ← StateT.lift (Job.readAll descriptor)
    if descriptor != 0 then Act.ask (.close descriptor)
    match octets with
    | .ok octets => pure ((linesOf mark (Raw.ofOctets octets)).map Source.Line.text)
    | .error reason =>
      let verb := if reason == .badDescriptor then "stat" else "read"
      Act.die 2 (verb.toList ++ " failed: ".toList ++ told ++ ": ".toList ++ reason.description)

/-- Write lines to a descriptor. -/
def writeLines (mark : Char) (target : Raw) (descriptor : Nat) (lines : List Line) : Act Unit := do
  let octets := Raw.octets (lines.flatMap fun line => line.text ++ [mark])
  if !octets.isEmpty then
    let result : Except OsError Unit ← Act.ask (.write descriptor octets)
    if let .error reason := result then
      let verb := if octets.length ≤ Act.bufferSize then "fflush" else "write"
      Act.complain (verb.toList ++ " failed: ".toList ++ target ++ ": ".toList ++ reason.description)
      Act.complain "write error".toList
      Act.abandon 2

/-- The keys by which lines are compared, those without letters taking the ones that options tell. -/
def keysOf (invocation : Invocation) (old : List Key) (letters : Letters) : Act (List Key) := do
  let mut keys := old
  for text in invocation.arguments "k" do
    match readKey text with
    | .ok key => keys := keys ++ [key]
    | .error message => Act.die 2 message
  let told := keys.map fun key =>
    if key.letters.isPlain && !key.letters.reverse then { key with letters } else key
  let all := if told.isEmpty && !letters.isPlain then [{ letters, isWhole := true }] else told
  for key in all do
    if let some conflict := key.letters.conflict? then
      Act.die 2 ("options '-".toList ++ conflict ++ "' are incompatible".toList)
  pure all

/-- The paths of the files that are read. -/
def pathsOf (invocation : Invocation) : Act (List Raw) := do
  match invocation.argument? "files0-from" with
  | none => pure (if invocation.operands.isEmpty then [['-']] else invocation.operands)
  | some path => do
    if let some extra := invocation.operands.head? then Act.refuseBeside 2 extra
    match ← Act.readFile path with
    | .error .isDirectory => Act.die 2 ("cannot read file names from ".toList ++ quotedWord path)
    | .error reason => Act.die 2 ("open failed: ".toList ++ nameFor path ++ ": ".toList ++ reason.description)
    | .ok octets =>
      let names := (linesOf '\x00' (Raw.ofOctets octets)).map Source.Line.text
      if names.isEmpty then Act.die 2 ("no input from ".toList ++ quotedWord path)
      for (name, place) in names.zipIdx do
        if path == ['-'] && name == ['-'] then
          Act.die 2 "when reading file names from stdin, no file name of '-' allowed".toList
        if name.isEmpty then
          Act.die 2 (nameFor path ++ ':' :: decimal (place + 1) ++ ": invalid zero-length file name".toList)
      pure names

end Order

end AnswerQuery.Host.Tool
