import AnswerQuery.Host.Tool.Matching

/-! Scripts that edit lines: their commands, and how they are read. -/

namespace AnswerQuery.Host.Tool

namespace Editor

/-- The lines that a command is for. -/
inductive Address where
  | line (number : Nat)
  /-- Every so many lines from a line on. -/
  | every (first step : Nat)
  | last
  /-- The lines that match; without an expression, the one that was used last. It is shown as a text. -/
  | matching (matcher : Option Matcher) (shown : Raw)
  /-- So many lines behind the first one. -/
  | after (count : Nat)
  /-- The next line whose number can be divided. -/
  | multiple (divisor : Nat)

/-- A piece of what is put in place of a match. -/
inductive Filling where
  | text (text : Raw)
  | group (number : Nat)
  /-- What follows is written in small letters. -/
  | lower
  /-- What follows is written in capitals. -/
  | upper
  /-- What follows is written as it is. -/
  | plain
  /-- The next letter is a small one. -/
  | nextLower
  /-- The next letter is a capital. -/
  | nextUpper
  deriving DecidableEq, Repr

/-- How matches are replaced. -/
structure Substitution where
  /-- What is looked for; without an expression, the one that was used last. -/
  matcher : Option Matcher
  /-- What is put in its place. -/
  fillings : List Filling
  /-- Whether all matches are replaced. -/
  everywhere : Bool := false
  /-- The match from which on they are replaced. -/
  count : Nat := 1
  /-- How often the result is printed: before and after it is executed. -/
  prints : Bool := false
  /-- Whether the result is executed. -/
  executes : Bool := false
  /-- Where the result is written. -/
  target : Option Nat := none

/-- What a command does. -/
inductive Action where
  /-- It does nothing but begin a block, behind which the script goes on for other lines. -/
  | block (stop : Nat)
  | nothing
  | append (text : Raw)
  | insert (text : Raw)
  | change (text : Raw)
  | delete
  | deleteFront
  | execute (command : Raw)
  | name
  | recall
  | recallMore
  | hold
  | holdMore
  | spell (width : Option Nat)
  | next
  | nextMore
  | print
  | printFront
  | quit (status : Nat)
  | leave (status : Nat)
  | readFile (path : Raw)
  | readLine (source : Nat)
  | substitute (substitution : Substitution)
  /-- Go on at another command. -/
  | jump (target : Nat)
  /-- Go on at another command if something was replaced, or if nothing was. -/
  | jumpIf (changed : Bool) (target : Nat)
  | write (target : Nat)
  | writeFront (target : Nat)
  | exchange
  | translate (pairs : List (Char × Char))
  | zap
  | number

/-- A command. -/
structure Command where
  /-- The first line it is for. -/
  first : Option Address := none
  /-- The last line it is for. -/
  second : Option Address := none
  /-- Whether it is for the other lines. -/
  negated : Bool := false
  /-- What it does. -/
  action : Action := .nothing
  /-- Its letter. -/
  letter : Char := ' '
  /-- What is shown behind its letter. -/
  told : Raw := []

namespace Address

/-- An address as it is shown. -/
def shown : Address → Raw
  | line number => decimal number
  | every first step => decimal first ++ '~' :: decimal step
  | last => ['$']
  | matching _ shown => shown
  | after count => if count = 0 then nowhere else '+' :: decimal count
  | multiple divisor => if divisor = 0 then nowhere else '~' :: decimal divisor
where
  /-- How an address is shown that adds nothing to another one. -/
  nowhere : Raw := "[ADDR-NULL]".toList

end Address

namespace Filling

/-- A piece of what is put in place of a match as it is shown. -/
def shown : Filling → Raw
  | text content => content
  | group 0 => ['&']
  | group number => '\\' :: decimal number
  | lower => ['\\', 'L']
  | upper => ['\\', 'U']
  | plain => ['\\', 'E']
  | nextLower => ['\\', 'l']
  | nextUpper => ['\\', 'u']

end Filling

namespace Command

/-- A command as it is shown. -/
def shown (command : Command) : Raw :=
  let addresses := ((command.first.map Address.shown).getD []) ++
    (command.second.map fun address => ',' :: address.shown).getD []
  addresses ++ (if command.negated then ['!'] else []) ++ (if command.first.isSome then [' '] else []) ++
    command.letter :: command.told

end Command

/-- A character as it is shown. -/
def shownCharacter (c : Char) : Raw :=
  let letters := [('\x07', 'a'), ('\x0c', 'f'), ('\n', 'n'), ('\r', 'r'), ('\t', 't'), ('\x0b', 'v'), ('\\', '\\')]
  match letters.lookup c with
  | some letter => ['\\', letter]
  | none =>
    if 32 ≤ c.toNat && c.toNat < 127 then [c]
    else
      -- A character with its highest bit set is shown as a number below zero.
      let number := if c.toNat < 128 then c.toNat else c.toNat + 4294967040
      let digits := Numeral.inBase 8 number
      '\\' :: 'o' :: List.replicate (3 - digits.length) '0' ++ digits

/-- An expression as it is shown, between slashes. -/
def shownExpression (text : Raw) : Raw :=
  '/' :: (text.flatMap fun c => if c == '/' then ['\\', '/'] else shownCharacter c) ++ ['/']

/-- A part of a script. -/
structure Part where
  /-- The file it comes from. -/
  file : Option Raw := none
  /-- Which of the parts that come from arguments it is. -/
  number : Nat := 0
  /-- What it says. -/
  text : Raw

/-- What is known while a script is read. -/
structure Parsing where
  /-- The part that is read. -/
  part : Part
  /-- What is left of it. -/
  rest : Raw
  /-- The parts that follow. -/
  others : List Part
  /-- How expressions are written. -/
  dialect : Dialect
  /-- Whether commands are refused that run programs, or read or write files. -/
  isGuarded : Bool := false
  /-- Whether this is the first part. -/
  isFirst : Bool := true
  /-- Whether lines are not printed unless that is asked for. -/
  isSilent : Bool := false
  /-- The commands. -/
  commands : Array Command := #[]
  /-- The blocks that have begun and not ended, and where they are. -/
  blocks : List Nat := []
  /-- The labels and what they stand for. -/
  labels : List (Raw × Nat) := []
  /-- The commands that go on at labels. -/
  jumps : List (Nat × Raw) := []
  /-- The files that are written. -/
  targets : List Raw := []
  /-- The files that are read line by line. -/
  sources : List Raw := []

/-- What is wrong with a script. -/
inductive Fault where
  /-- A sentence, told with the place. -/
  | here (message : Raw)
  /-- A sentence, told with no place in the part. -/
  | somewhere (message : Raw)
  /-- A sentence that needs no place. -/
  | grave (message : Raw)

/-- Reading a script, which can fail. -/
abbrev Parse := ExceptT Fault (StateM Parsing)

namespace Parse

/-- Complain about what was just read. -/
def refuse {α : Type} (message : String) : Parse α :=
  throw (.here message.toList)

/-- Take a character. -/
def next : Parse (Option Char) := do
  let parsing ← get
  match parsing.rest with
  | [] => pure none
  | c :: rest => do
    set { parsing with rest }
    pure (some c)

/-- Give a character back. -/
def back (c : Option Char) : Parse Unit :=
  modify fun parsing => { parsing with rest := c.toList ++ parsing.rest }

/-- Whether a character is a blank within a line. -/
def isBlank (c : Char) : Bool :=
  c == ' ' || c == '\t'

/-- Pass over blanks and take the character behind them. -/
def nextFilled : Parse (Option Char) := do
  modify fun parsing => { parsing with rest := parsing.rest.dropWhile isBlank }
  next

/-- Take the characters at the front that are wanted. -/
def takeWhile (wanted : Char → Bool) : Parse Raw := do
  let parsing ← get
  let taken := parsing.rest.takeWhile wanted
  set { parsing with rest := parsing.rest.drop taken.length }
  pure taken

/-- A number that begins with a digit. -/
def number (digit : Char) : Parse Nat := do
  let digits ← takeWhile Char.isDigit
  pure (Numeral.valueOf 10 (digit :: digits))

/-- Take a number behind blanks; zero if there is none. -/
def nextNumber : Parse Nat := do
  match ← nextFilled with
  | some c => if c.isDigit then number c else do
      back (some c)
      pure 0
  | none => pure 0

/-- Where in an expression a character stands. -/
inductive Inside where
  | outside
  /-- At the front of a list in brackets. -/
  | front
  /-- At the front of a negated list in brackets. -/
  | negated
  | list
  /-- In a name in a list in brackets, which ends with a mark and a bracket. -/
  | named (mark : Char)

/-- What stands in front of a delimiter, if there is one in the line, and what follows it. -/
def delimited (delimiter : Char) (isExpression : Bool) : Inside → Raw → Raw → Option Raw × Raw
  | _, _, [] => (none, [])
  | .outside, front, '\\' :: c :: rest =>
    if c == 'n' && isExpression then delimited delimiter isExpression .outside ('\n' :: front) rest
    else if c == '\n' || (c == delimiter && (isExpression || c != '&')) then
      delimited delimiter isExpression .outside (c :: front) rest
    else delimited delimiter isExpression .outside (c :: '\\' :: front) rest
  | .outside, front, c :: rest =>
    if c == '\n' then (none, c :: rest)
    else if c == delimiter then (some front.reverse, rest)
    else if c == '\\' && rest.isEmpty then (none, [])
    else delimited delimiter isExpression (if isExpression && c == '[' then .front else .outside) (c :: front) rest
  | .front, front, '^' :: rest => delimited delimiter isExpression .negated ('^' :: front) rest
  | .named mark, front, c :: ']' :: rest =>
    if c == mark then delimited delimiter isExpression .list (']' :: c :: front) rest
    else if c == '\n' then (none, c :: ']' :: rest)
    else delimited delimiter isExpression (.named mark) (c :: front) (']' :: rest)
  | .named mark, front, c :: rest =>
    if c == '\n' then (none, c :: rest) else delimited delimiter isExpression (.named mark) (c :: front) rest
  | _, front, '\\' :: 'n' :: rest => delimited delimiter isExpression .list ('\n' :: front) rest
  | _, front, '[' :: mark :: rest =>
    if mark == ':' || mark == '.' || mark == '=' then
      delimited delimiter isExpression (.named mark) (mark :: '[' :: front) rest
    else delimited delimiter isExpression .list ('[' :: front) (mark :: rest)
  | .list, front, ']' :: rest => delimited delimiter isExpression .outside (']' :: front) rest
  | _, front, c :: rest =>
    if c == '\n' then (none, c :: rest) else delimited delimiter isExpression .list (c :: front) rest
termination_by _ _ text => text.length

/-- Take what stands in front of a delimiter. -/
def takeDelimited (delimiter : Char) (isExpression : Bool) (message : String) : Parse Raw := do
  let parsing ← get
  let (found, rest) := delimited delimiter isExpression .outside [] parsing.rest
  set { parsing with rest }
  match found with
  | some text => pure text
  | none => refuse message

/-- The letters behind a backslash that stand for characters. -/
def letters : List (Char × Char) :=
  [('a', '\x07'), ('f', '\x0c'), ('n', '\n'), ('r', '\r'), ('t', '\t'), ('v', '\x0b')]

/-- A text in which what stands behind backslashes for single characters is replaced; a backslash stays one where it
would change what follows. -/
def unescape (isReplacement keepsSlash : Bool) : Nat → Raw → Parse Raw
  | 0, text => pure text
  | _ + 1, [] => pure []
  | steps + 1, '\\' :: c :: rest => do
    let goOn := fun (front : Raw) (rest : Raw) => do
      let rest ← unescape isReplacement keepsSlash steps rest
      pure (front ++ rest)
    let put := fun (character : Char) (rest : Raw) =>
      goOn (if keepsSlash && (character == '\\' || (isReplacement && character == '&')) then ['\\', character] else [character])
        rest
    let digits := fun (base most : Nat) =>
      let digits := (rest.take most).takeWhile (Numeral.isDigitIn base)
      if digits.isEmpty then goOn [c] rest
      else put (Char.ofNat (Numeral.valueOf base digits % 256)) (rest.drop digits.length)
    match letters.lookup c with
    | some character => goOn [character] rest
    | none =>
      match c, rest with
      | 'd', _ => digits 10 3
      | 'o', _ => digits 8 3
      | 'x', _ => digits 16 2
      | 'c', [] => goOn ['\\', '\\'] []
      | 'c', '\\' :: '\\' :: rest => goOn ['\x1c'] rest
      | 'c', '\\' :: _ => refuse "recursive escaping after \\c not allowed"
      | 'c', d :: rest => put (Char.ofNat ((d.toUpper.toNat + 64) % 128)) rest
      | _, _ => goOn ['\\', c] rest
  | steps + 1, c :: rest => do
    let rest ← unescape isReplacement keepsSlash steps rest
    pure (c :: rest)

/-- A text in which a backslash makes the next character a plain one. -/
def withoutSlashes : Raw → Raw
  | '\\' :: c :: rest => c :: withoutSlashes rest
  | c :: rest => c :: withoutSlashes rest
  | [] => []

/-- Whether a list in brackets holds nothing but what looks like the name of a class. -/
def namesClassAlone : Raw → Bool
  | ':' :: rest =>
    let inside := rest.takeWhile (· != ']')
    inside.length < rest.length && 1 < inside.length && inside.getLast? == some ':' &&
      !inside.contains '[' && !inside.dropLast.contains '-'
  | _ => false

/-- Whether an expression names a class of characters outside of a list, among so many characters. -/
def misnamesClass : Nat → Raw → Bool
  | 0, _ => false
  | _ + 1, [] => false
  | steps + 1, '\\' :: _ :: rest => misnamesClass steps rest
  | steps + 1, '[' :: rest =>
    let inside := if rest.head? == some '^' then rest.drop 1 else rest
    namesClassAlone inside || misnamesClass steps (Read.behindList rest)
  | steps + 1, _ :: rest => misnamesClass steps rest

/-- The sentence about a class of characters that is named outside of a list. -/
def misnamedClass : Raw := "character class syntax is [[:space:]], not [:space:]".toList

/-- Make an expression ready, and tell how it is shown; an empty one stands for the one that was used last. -/
def expression (text : Raw) (ignoresCase byLine : Bool) : Parse (Option Matcher × Raw) := do
  if text.isEmpty then
    if ignoresCase || byLine then throw (.somewhere "no previous regular expression".toList)
    pure (none, shownExpression [])
  else
    let text ← unescape false true (text.length + 1) text
    let dialect := { (← get).dialect with ignoresCase, byLine }
    match Matcher.read dialect text with
    | .ok matcher =>
      if misnamesClass (text.length + 1) text then throw (.grave misnamedClass)
      pure (some matcher, shownExpression text)
    | .error message => refuse message

/-- Read the letters behind an address that tell how it is matched. -/
def addressFlags (text : Raw) : Nat → Bool → Bool → Parse Address
  | 0, _, _ => refuse "unterminated address regex"
  | steps + 1, ignoresCase, byLine => do
    match ← nextFilled with
    | some 'I' => addressFlags text steps true byLine
    | some 'M' => addressFlags text steps ignoresCase true
    | c => do
      back c
      let (matcher, shown) ← expression text ignoresCase byLine
      pure (.matching matcher (shown ++ (if ignoresCase then ['I'] else []) ++ (if byLine then ['M'] else [])))

/-- Read an address that begins with a character. -/
def address (c : Option Char) : Parse (Option Address) := do
  let matching := fun (delimiter : Char) => do
    let text ← takeDelimited delimiter true "unterminated address regex"
    let address ← addressFlags text ((← get).rest.length + 1) false false
    pure (some address)
  match c with
  | some '/' => matching '/'
  | some '\\' => do
    match ← next with
    | some delimiter => matching delimiter
    | none => refuse "unterminated address regex"
  | some '$' => pure (some .last)
  | some '+' => do
    let count ← nextNumber
    pure (some (.after count))
  | some '~' => do
    let divisor ← nextNumber
    pure (some (.multiple divisor))
  | some c =>
    if c.isDigit then do
      let first ← number c
      match ← nextFilled with
      | some '~' => do
        let step ← nextNumber
        pure (some (if step = 0 then .line first else .every first step))
      | other => do
        back other
        pure (some (.line first))
    else pure none
  | none => pure none

/-- Read what may follow a command. -/
def endCommand : Parse Unit := do
  let c ← nextFilled
  if c == some '}' || c == some '#' then back c
  else if !(c.isNone || c == some '\n' || c == some ';') then refuse "extra characters after command"

/-- Read a label. -/
def label : Parse Raw := do
  let first ← nextFilled
  back first
  takeWhile fun c => !Raw.isSpace c && c != ';' && c != '}'

/-- Refuse to run programs, or to read or write files, where that is wanted. -/
def guard : Parse Unit := do
  if (← get).isGuarded then refuse "e/r/w commands disabled in sandbox mode"

/-- Read the name of a file. -/
def fileName : Parse Raw := do
  let first ← nextFilled
  back first
  let name ← takeWhile (· != '\n')
  let _ ← next
  if name.isEmpty then refuse "missing filename in r/R/w/W commands"
  pure name

/-- The number of a name among names, which it is added to if it is not there. -/
def placeIn (names : List Raw) (name : Raw) : Nat × List Raw :=
  match names.idxOf? name with
  | some place => (place, names)
  | none => (names.length, names ++ [name])

/-- Read the name of a file that is written. -/
def target : Parse Nat := do
  let name ← fileName
  let parsing ← get
  let (place, targets) := placeIn parsing.targets name
  set { parsing with targets }
  pure place

/-- Go on with the next part, if there is one. -/
def nextPart : Parse Bool := do
  let parsing ← get
  match parsing.others with
  | [] => pure false
  | part :: others => do
    set { parsing with part, rest := part.text, others, isFirst := false }
    pure true

/-- Read the lines of a text up to one that does not end with a backslash; what stands behind backslashes is kept. -/
def textLines : Nat → Raw → Parse Raw
  | 0, front => pure front.reverse
  | steps + 1, front => do
    match ← next with
    | none => pure ('\n' :: front).reverse
    | some '\n' => pure ('\n' :: front).reverse
    | some '\\' => do
      match ← next with
      | some c => textLines steps (c :: '\\' :: front)
      | none =>
        if ← nextPart then textLines steps ('\n' :: '\\' :: front) else pure ('\n' :: front).reverse
    | some c => textLines steps (c :: front)

/-- Read the text of a command. -/
def text : Parse Raw := do
  let size := fun (parsing : Parsing) =>
    (parsing.others.map fun part => part.text.length).foldl (· + ·) parsing.rest.length + 2
  let finish := do
    let steps := size (← get)
    let raw ← textLines steps []
    let plain ← unescape false true (raw.length + 1) raw
    pure (withoutSlashes plain)
  match ← nextFilled with
  | none => refuse "expected \\ after \x60a', \x60c' or \x60i'"
  | some '\\' => do
    match ← next with
    | some '\n' => finish
    | none => if ← nextPart then finish else pure []
    | c => do
      back c
      finish
  | c => do
    back c
    finish

/-- Literal text that has been gathered backwards, if there is any. -/
def gathered (front : Raw) : List Filling :=
  if front.isEmpty then [] else [.text front.reverse]

/-- The pieces of what is put in place of a match, after the literal text that has been gathered. -/
def fillings : Raw → Raw → List Filling
  | front, [] => gathered front
  | front, '&' :: rest => gathered front ++ .group 0 :: fillings [] rest
  | front, '\\' :: c :: rest =>
    if c.isDigit then gathered front ++ .group (Numeral.digitValue c) :: fillings [] rest
    else match c with
      | 'L' => gathered front ++ .lower :: fillings [] rest
      | 'U' => gathered front ++ .upper :: fillings [] rest
      | 'E' => gathered front ++ .plain :: fillings [] rest
      | 'l' => gathered front ++ .nextLower :: fillings [] rest
      | 'u' => gathered front ++ .nextUpper :: fillings [] rest
      | _ => fillings (c :: front) rest
  | front, c :: rest => fillings (c :: front) rest

/-- The greatest group that is referred to. -/
def greatestGroup (fillings : List Filling) : Nat :=
  fillings.foldl (fun greatest filling => match filling with
    | .group number => max greatest number
    | _ => greatest) 0

/-- What is told about a substitution behind it. -/
structure Flags where
  /-- Whether capitals do not count. -/
  ignoresCase : Bool := false
  /-- Whether the ends of lines count. -/
  byLine : Bool := false
  /-- The match from which on is replaced. -/
  count : Option Nat := none
  /-- Whether all matches are replaced. -/
  everywhere : Bool := false
  /-- Whether the result is printed. -/
  prints : Bool := false
  /-- Whether the result is executed. -/
  executes : Bool := false
  /-- Where the result is written. -/
  target : Option Nat := none

/-- Read what is told about a substitution. -/
def flags : Nat → Flags → Parse Flags
  | 0, known => pure known
  | steps + 1, known => do
    match ← next with
    | none => pure known
    | some c =>
      match c with
      | 'i' => flags steps { known with ignoresCase := true }
      | 'I' => flags steps { known with ignoresCase := true }
      | 'm' => flags steps { known with byLine := true }
      | 'M' => flags steps { known with byLine := true }
      | 'e' => do
        guard
        flags steps { known with executes := true }
      | 'p' =>
        if known.prints then refuse "multiple \x60p' options to \x60s' command"
        else flags steps { known with prints := true }
      | 'g' =>
        if known.everywhere then refuse "multiple \x60g' options to \x60s' command"
        else flags steps { known with everywhere := true }
      | 'w' => do
        guard
        let place ← target
        pure { known with target := some place }
      | '\n' => pure known
      | ';' => pure known
      | ' ' => flags steps known
      | '\t' => flags steps known
      | '\r' => flags steps known
      | _ =>
        if c == '}' || c == '#' then do
          back (some c)
          pure known
        else if c.isDigit then
          if known.count.isSome then refuse "multiple number options to \x60s' command"
          else do
            let count ← number c
            if count = 0 then refuse "number option to \x60s' command may not be zero"
            flags steps { known with count := some count }
        else refuse "unknown option to \x60s'"

/-- The name of a file that is written, if there is one. -/
def targetName (place : Option Nat) : Parse Raw := do
  let targets := (← get).targets
  pure ((place.bind fun place => targets[place]?).getD [])

/-- Read a substitution, and tell how it is shown. -/
def substitution : Parse (Substitution × Raw) := do
  let message := "unterminated \x60s' command"
  match ← next with
  | none => refuse message
  | some delimiter => do
    let pattern ← takeDelimited delimiter true message
    let replacement ← takeDelimited delimiter false message
    let replacement ← unescape true true (replacement.length + 1) replacement
    let fillings := fillings [] replacement
    let known ← flags ((← get).rest.length + 1) {}
    let (matcher, shown) ← expression pattern known.ignoresCase known.byLine
    let greatest := greatestGroup fillings
    if let some matcher := matcher then
      if matcher.groupCount < greatest then
        throw (.here ("invalid reference \\".toList ++ decimal greatest ++ " on \x60s' command's RHS".toList))
    let letter := fun (isThere : Bool) (c : Char) => if isThere then [c] else []
    let name ← targetName known.target
    let told := shown ++ fillings.flatMap Filling.shown ++ '/' :: letter known.ignoresCase 'i' ++ letter known.byLine 'm' ++
      letter known.everywhere 'g' ++ letter known.executes 'e' ++ letter known.prints 'p' ++
      (known.count.map decimal).getD [] ++ letter known.target.isSome 'w' ++ name
    pure ({ matcher, fillings, everywhere := known.everywhere, count := known.count.getD 1, prints := known.prints,
            executes := known.executes, target := known.target }, told)

/-- Read a translation, and tell how it is shown. -/
def translation : Parse (List (Char × Char) × Raw) := do
  let message := "unterminated \x60y' command"
  match ← next with
  | none => refuse message
  | some delimiter => do
    let from_ ← takeDelimited delimiter false message
    let from_ ← unescape false true (from_.length + 1) from_
    let to_ ← takeDelimited delimiter false message
    let to_ ← unescape false true (to_.length + 1) to_
    let first := withoutSlashes from_
    let second := withoutSlashes to_
    if first.length != second.length then refuse "strings for \x60y' command are different lengths"
    endCommand
    let pairs := (first.zip second).reverse
    -- They are shown in order, without those that change nothing.
    let shown := (List.range 256).filterMap fun code =>
      (pairs.lookup (Char.ofNat code)).bind fun d => if d.toNat = code then none else some (Char.ofNat code, d)
    pure (pairs, '/' :: shown.map Prod.fst ++ '/' :: shown.map Prod.snd ++ ['/'])

/-- Add a command. -/
def add (command : Command) : Parse Unit :=
  modify fun parsing => { parsing with commands := parsing.commands.push command }

/-- Read a status behind a command, if there is one. -/
def status : Parse (Option Nat) := do
  match ← nextFilled with
  | some c =>
    if c.isDigit then some <$> number c
    else do
      back (some c)
      pure none
  | none => pure none

/-- The commands that stand alone. -/
def plainAction? : Char → Option Action
  | '=' => some .number
  | 'd' => some .delete
  | 'D' => some .deleteFront
  | 'F' => some .name
  | 'g' => some .recall
  | 'G' => some .recallMore
  | 'h' => some .hold
  | 'H' => some .holdMore
  | 'n' => some .next
  | 'N' => some .nextMore
  | 'p' => some .print
  | 'P' => some .printFront
  | 'z' => some .zap
  | 'x' => some .exchange
  | _ => none

/-- Note that a command goes on at a label. -/
def noteJump (name : Raw) : Parse Unit :=
  modify fun parsing => { parsing with jumps := (parsing.commands.size, name) :: parsing.jumps }

/-- Whether a version is behind this one. -/
def isNewer (version : Raw) : Bool :=
  let numbers := (Raw.split '.' version).map fun part => Numeral.valueOf 10 (part.takeWhile Char.isDigit)
  match numbers with
  | first :: second :: _ => 4 < first || (first = 4 && 9 < second)
  | [first] => 4 < first
  | [] => false

/-- Read what a command does, given its letter. -/
def action (command : Command) (letter : Option Char) : Parse Unit := do
  let finish := fun (action : Action) (told : Raw) =>
    add { command with action, told, letter := letter.getD ' ' }
  match letter with
  | none => refuse "missing command"
  | some '#' => do
    if command.first.isSome then refuse "comments don't accept any addresses"
    let parsing ← get
    let comment ← takeWhile (· != '\n')
    let isWhole := parsing.isFirst && parsing.rest.length + 1 = parsing.part.text.length
    if isWhole && comment.head? == some 'n' then modify fun parsing => { parsing with isSilent := true }
  | some 'v' => do
    let version ← label
    if isNewer version then refuse "expected newer version of sed"
  | some '{' => do
    modify fun parsing => { parsing with blocks := parsing.commands.size :: parsing.blocks }
    finish (.block 0) []
  | some '}' => do
    match (← get).blocks with
    | [] => refuse "unexpected \x60\x7d'"
    | block :: blocks => do
      if command.first.isSome then refuse "\x60\x7d' doesn't want any addresses"
      endCommand
      modify fun parsing =>
        let commands := parsing.commands.modify block fun command =>
          { command with action := .block parsing.commands.size }
        { parsing with blocks, commands }
      finish .nothing []
  | some ':' => do
    if command.first.isSome then refuse ": doesn't want any addresses"
    let name ← label
    if name.isEmpty then refuse "\":\" lacks a label"
    modify fun parsing => { parsing with labels := (name, parsing.commands.size) :: parsing.labels }
    finish .nothing name
  | some 's' => do
    let (substitution, told) ← substitution
    finish (.substitute substitution) told
  | some 'y' => do
    let (pairs, told) ← translation
    finish (.translate pairs) told
  | some 'a' => do
    let text ← text
    finish (.append text) ('\\' :: text)
  | some 'i' => do
    let text ← text
    finish (.insert text) ('\\' :: text)
  | some 'c' => do
    let text ← text
    finish (.change text) ('\\' :: text)
  | some 'e' => do
    guard
    let first ← nextFilled
    back first
    let line ← takeWhile (· != '\n')
    finish (.execute line) (' ' :: if line.isEmpty then [] else line ++ ['\n'])
  | some 'r' => do
    guard
    let path ← fileName
    finish (.readFile path) (' ' :: path)
  | some 'R' => do
    guard
    let path ← fileName
    let parsing ← get
    let (place, sources) := placeIn parsing.sources path
    set { parsing with sources }
    finish (.readLine place) (' ' :: path)
  | some 'w' => do
    guard
    let place ← target
    finish (.write place) (← targetName place)
  | some 'W' => do
    guard
    let place ← target
    finish (.writeFront place) (← targetName place)
  | some c =>
    if c == 'b' || c == 't' || c == 'T' then
      let name ← label
      noteJump name
      let action : Action := match c with
        | 'b' => .jump 0
        | 't' => .jumpIf true 0
        | _ => .jumpIf false 0
      finish action (if name.isEmpty then [] else ' ' :: name)
    else if c == 'q' || c == 'Q' then
      if command.second.isSome then refuse "command only uses one address"
      let status ← status
      endCommand
      finish (if c == 'q' then .quit (status.getD 0) else .leave (status.getD 0))
        ((status.map fun status => ' ' :: decimal status).getD [])
    else if c == 'l' then
      let width ← status
      endCommand
      finish (.spell width) ((width.map fun width => ' ' :: decimal width).getD [])
    else match plainAction? c with
      | some action => do
        endCommand
        finish action []
      | none => throw (.here ("unknown command: \x60".toList ++ [c] ++ ['\'']))

/-- Read the addresses of a command and what it does. -/
def command (first : Char) : Parse Unit := do
  let one ← address (some first)
  let mut command : Command := { first := one }
  let mut c : Option Char := some first
  if let some address := one then
    match address with
    | .after _ => refuse "invalid usage of +N or ~N as first address"
    | .multiple _ => refuse "invalid usage of +N or ~N as first address"
    | _ => pure ()
    c := ← nextFilled
    if c == some ',' then
      let start ← nextFilled
      match ← address' start with
      | some second => command := { command with second := some second }
      | none => refuse "unexpected \x60,'"
      c := ← nextFilled
    if let .line 0 := address then
      match command.second with
      | some (.matching ..) => pure ()
      | _ => refuse "invalid usage of line address 0"
  if c == some '!' then
    command := { command with negated := true }
    c := ← nextFilled
    if c == some '!' then refuse "multiple \x60!'s"
  action command c
where
  /-- Read a second address. -/
  address' (start : Option Char) : Parse (Option Address) := address start

/-- Read the commands of all parts. -/
def commands : Nat → Parse Unit
  | 0 => pure ()
  | steps + 1 => do
    modify fun parsing => { parsing with rest := parsing.rest.dropWhile fun c => c == ';' || Raw.isSpace c }
    match ← next with
    | some c => do
      command c
      commands steps
    | none => if ← nextPart then commands steps else pure ()

/-- Let commands that go on at labels go on there. -/
def resolve : Parse Unit := do
  let parsing ← get
  for (place, name) in parsing.jumps.reverse do
    let target ← if name.isEmpty then pure parsing.commands.size
      else match (parsing.labels.reverse).lookup name with
        | some target => pure target
        | none => throw (.grave ("can't find label for jump to \x60".toList ++ name ++ ['\'']))
    modify fun parsing => { parsing with commands := parsing.commands.modify place fun command =>
      { command with action := match command.action with
        | .jump _ => .jump target
        | .jumpIf changed _ => .jumpIf changed target
        | other => other } }

/-- Read a script. -/
def script : Parse Unit := do
  let parsing ← get
  commands ((parsing.others.map fun part => part.text.length + 1).foldl (· + ·) (parsing.rest.length + 2))
  if !(← get).blocks.isEmpty then throw (.somewhere "unmatched \x60\x7b'".toList)
  resolve

end Parse

/-- How a fault is told: where it is, and the status. -/
def Fault.told (parsing : Parsing) : Fault → Raw × Nat
  | .grave message => (message, 4)
  | .here message => (place parsing (parsing.part.text.length - parsing.rest.length) ++ message, 1)
  | .somewhere message => (place parsing 0 ++ message, 1)
where
  /-- The place of a fault. -/
  place (parsing : Parsing) (count : Nat) : Raw :=
    match parsing.part.file with
    | some file =>
      let read := parsing.part.text.take (parsing.part.text.length - parsing.rest.length)
      "file ".toList ++ file ++ " line ".toList ++ decimal (read.count '\n' + 1) ++ ": ".toList
    | none => "-e expression #".toList ++ decimal parsing.part.number ++ ", char ".toList ++ decimal count ++ ": ".toList

end Editor

end AnswerQuery.Host.Tool
