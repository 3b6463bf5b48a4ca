import AnswerQuery.Host.Script.Reader
import AnswerQuery.Host.Script.Wildcard
import AnswerQuery.Host.Numeral

/-! What stands behind backslashes in the texts of scripts: characters that are told by a letter or by a code. -/

namespace AnswerQuery.Host.Script

/-- Where a text with backslashes stands. -/
inductive Escaping where
  /-- In quotes behind a dollar sign. -/
  | quoted
  /-- Among texts that are written as they are. -/
  | echoed
  /-- In a format. -/
  | format
  /-- In an argument of a format. -/
  | argument
  deriving DecidableEq, Repr

/-- What was found behind a backslash. -/
structure Unescaped where
  /-- The characters that it stands for. -/
  characters : Raw
  /-- What follows. -/
  rest : Raw
  /-- Whether nothing more is to be written. -/
  ends : Bool := false
  /-- What is wrong about it, if anything is. -/
  complaint : Option String := none

namespace Escaping

/-- The letters that stand for characters. -/
def letters : List (Char × Char) :=
  [('a', '\x07'), ('b', '\x08'), ('e', '\x1b'), ('E', '\x1b'), ('f', '\x0c'), ('n', '\n'), ('r', '\r'), ('t', '\t'),
    ('v', '\x0b'), ('\\', '\\')]

/-- The digits of some base at the front of a text, so many at most, and what follows. -/
def digits (base most : Nat) (text : Raw) : Raw × Raw :=
  let found := (text.take most).takeWhile (Numeral.isDigitIn base)
  (found, text.drop found.length)

/-- A character of an octet, of whose code only the low bits count. -/
def ofCode (code : Nat) : Raw :=
  [Char.ofNat (code % 256)]

/-- A character of a code that may be beyond the simplest ones, which is told by its code then. -/
def ofPoint (point : Nat) : Raw :=
  if point ≤ 127 then [Char.ofNat point]
  else
    let digits := (Numeral.inBase 16 point).map Char.toUpper
    let width := if point ≤ 65535 then 4 else 8
    '\\' :: (if point ≤ 65535 then 'u' else 'U') :: List.replicate (width - digits.length) '0' ++ digits

/-- The character of a key that is pressed together with the control key. -/
def control (c : Char) : Char :=
  if c == '?' then '\x7f' else Char.ofNat (Nat.land c.toUpper.toNat 31)

/-- Read what stands behind a backslash; text follows it. -/
def read (escaping : Escaping) (text : Raw) : Unescaped :=
  let asIs : Unescaped := ⟨['\\'], text, false, none⟩
  let complains := escaping == .format || escaping == .argument
  match text with
  | [] => asIs
  | c :: rest =>
    match letters.lookup c with
    | some d => ⟨[d], rest, false, none⟩
    | none =>
      if Numeral.isDigitIn 8 c then
        if escaping == .echoed && c != '0' then asIs
        else
          let longer := c == '0' && (escaping == .echoed || escaping == .argument)
          let (found, after) := digits 8 (if longer then 4 else 3) text
          ⟨ofCode (Numeral.valueOf 8 found), after, false, none⟩
      else if c == 'x' then
        let (found, after) := digits 16 2 rest
        let complaint := if complains then some "missing hex digit for \\x" else none
        if found.isEmpty then { asIs with complaint }
        else ⟨ofCode (Numeral.valueOf 16 found), after, false, none⟩
      else if c == 'u' || c == 'U' then
        let (found, after) := digits 16 (if c == 'u' then 4 else 8) rest
        let message := if c == 'u' then "missing unicode digit for \\u" else "missing unicode digit for \\U"
        let complaint := if complains then some message else none
        if found.isEmpty then { asIs with complaint }
        else ⟨ofPoint (Numeral.valueOf 16 found), after, false, none⟩
      else if c == '\'' || c == '"' || c == '?' then
        if escaping == .echoed || escaping == .argument then asIs else ⟨[c], rest, false, none⟩
      else if c == 'c' then
        match escaping, rest with
        | .echoed, _ => ⟨[], [], true, none⟩
        | .argument, _ => ⟨[], [], true, none⟩
        | .quoted, '\\' :: '\\' :: after => ⟨[control '\\'], after, false, none⟩
        | .quoted, d :: after => ⟨[control d], after, false, none⟩
        | _, _ => asIs
      else asIs

/-- A text in which what stands behind backslashes is replaced, and whether it asks for nothing to follow; what is wrong
about it is told too. -/
def replace (escaping : Escaping) : Nat → Raw → Raw × Bool × List String
  | 0, _ => ([], false, [])
  | _ + 1, [] => ([], false, [])
  | steps + 1, '\\' :: rest =>
    let found := read escaping rest
    if found.ends then ([], true, [])
    else
      let (others, ends, complaints) := replace escaping steps found.rest
      (found.characters ++ others, ends, found.complaint.toList ++ complaints)
  | steps + 1, c :: rest =>
    let (others, ends, complaints) := replace escaping steps rest
    (c :: others, ends, complaints)

/-- A text in which what stands behind backslashes is replaced, and whether it asks for nothing to follow; what is wrong
about it is told too. -/
def inText (escaping : Escaping) (text : Raw) : Raw × Bool × List String :=
  replace escaping (2 * text.length + 1) text

/-- The characters in quotes behind a dollar sign, which end before the first one without a code. -/
def unquote (text : Raw) : Raw :=
  (inText .quoted text).1.takeWhile (· != '\x00')

end Escaping

end AnswerQuery.Host.Script

/-! Reading words and documents: quotes, parameters, commands and formulas in them. -/

namespace AnswerQuery.Host.Script

/-- What characters are read as. -/
inductive Setting where
  | base
  | double
  | single
  | formula
  deriving DecidableEq, Repr

/-- What a character means in a setting. -/
inductive Meaning where
  | newline
  | ordinary
  /-- It would be special if it were not quoted. -/
  | guarded
  | backslash
  | singleQuote
  | doubleQuote
  | quoteEnd
  | backquote
  | dollar
  | brace
  | left
  | right
  | special
  deriving DecidableEq, Repr

namespace Setting

/-- The characters that are special in patterns and in names of directories. -/
def guardedCharacters : Raw := "!*?[=~:/-]@+(|)".toList

/-- What a character means in a setting. -/
def meaning : Setting → Char → Meaning
  | _, '\n' => .newline
  | single, '\'' => .quoteEnd
  | single, '\\' => .guarded
  | single, c => if guardedCharacters.contains c then .guarded else .ordinary
  | _, '\\' => .backslash
  | _, '\x60' => .backquote
  | _, '$' => .dollar
  | _, '}' => .brace
  | formula, '(' => .left
  | formula, ')' => .right
  | formula, _ => .ordinary
  | double, '"' => .quoteEnd
  | double, c => if guardedCharacters.contains c then .guarded else .ordinary
  | base, '"' => .doubleQuote
  | base, '\'' => .singleQuote
  | base, c => if "<>();&| \t".toList.contains c then .special else .ordinary

end Setting

/-- What a word is in at some place: quotes, braces or a formula. -/
structure Frame where
  /-- What characters are read as. -/
  setting : Setting
  /-- Whether quotes have begun inside of braces that are in quotes. -/
  innerQuotes : Bool := false
  /-- Whether braces have begun it. -/
  ofBraces : Bool := false
  /-- Whether it is in double quotes. -/
  doubleQuoted : Bool := false
  /-- How many braces have begun. -/
  braces : Nat := 0
  /-- How many of them in double quotes. -/
  quotedBraces : Nat := 0
  /-- How many parentheses have begun. -/
  parentheses : Nat := 0
  /-- Whether it is a pattern in which parentheses and bars stand for something. -/
  ofExpression : Bool := false
  /-- How many parentheses of choices have begun. -/
  choices : Nat := 0

/-- What has been read of a word. -/
structure Spelled where
  /-- The pieces, the last one first. -/
  pieces : Word := []
  /-- What the word is in. -/
  frame : Frame
  /-- What that is in, the innermost first. -/
  outer : List Frame := []
  /-- Whether there were quotes. -/
  quoted : Bool := false
  /-- The line it begins on. -/
  line : Nat := 0

namespace Spelled

/-- Add a piece. -/
def push (spelled : Spelled) (piece : Piece) : Spelled :=
  { spelled with pieces := piece :: spelled.pieces }

/-- Go into something. -/
def enter (spelled : Spelled) (frame : Frame) : Spelled :=
  { spelled with frame, outer := spelled.frame :: spelled.outer }

/-- Leave what the word is in. -/
def leave (spelled : Spelled) : Spelled :=
  match spelled.outer with
  | frame :: outer => { spelled with frame, outer }
  | [] => spelled

/-- Quotes begin or end; they leave no trace in a document. -/
def quote (inDocument : Bool) (spelled : Spelled) : Spelled :=
  if inDocument then spelled else spelled.push .mark

/-- Double quotes begin or end. -/
def toggle (inDocument : Bool) (spelled : Spelled) : Spelled :=
  let frame := spelled.frame
  quote inDocument { spelled with
    frame := if 0 < frame.braces then { frame with innerQuotes := !frame.innerQuotes } else frame }

end Spelled

/-- How lists of commands are read. -/
inductive Listing where
  /-- The commands of one line. -/
  | line
  /-- One command at least, up to a word that ends the list. -/
  | some
  /-- Any commands, up to a word that ends the list. -/
  | any
  deriving DecidableEq, Repr

/-- How what is inside of something is read. -/
structure Inner where
  /-- A list of commands; none at the end of the script. -/
  list : Listing → Parse (Option Command)
  /-- One command. -/
  command : Parse Command
  /-- The next token. -/
  token : Parse Token
  /-- A word inside of braces, in quotes or not, up to one of some characters that does not stand between two others; that
  character is told as well. -/
  part : Bool → Char × Char → Raw → Parse (Word × Char)

namespace Parse

/-- Whether a character names a parameter that is no variable. -/
def namesSpecial (c : Char) : Bool :=
  c.isDigit || "#?$!-*@".toList.contains c

/-- Read characters as long as they are of a kind: them, and the one that follows. -/
def takeNext (kind : Char → Bool) (first : Char) : Parse (Raw × Option Char) :=
  loop [first] fun taken => do
    let c ← nextJoined
    match c with
    | some d => pure (if kind d then .inl (d :: taken) else .inr (taken.reverse, c))
    | none => pure (.inr (taken.reverse, c))

/-- What was read of the name of a parameter. -/
structure Named where
  /-- The name, unless it is none. -/
  name : Option Raw
  /-- Whether the length is wanted. -/
  length : Bool
  /-- The character that follows. -/
  following : Option Char

/-- Read the name of a parameter that begins with a character. -/
def readName (braces : Bool) (c : Option Char) : Parse Named := do
  let plainName := fun (length : Bool) (d : Char) => do
    if Raw.beginsName d then
      let (name, following) ← takeNext Raw.inName d
      pure (Named.mk (some name) length following)
    else
      let (name, following) ← takeNext (fun e => braces && e.isDigit) d
      pure ⟨some name, length, following⟩
  match c with
  | none => pure ⟨none, false, none⟩
  | some '}' => pure ⟨none, false, c⟩
  | some d =>
    if Raw.beginsName d || d.isDigit then plainName false d
    else
      let following ← nextJoined
      let special := fun (length : Bool) (d : Option Char) (following : Option Char) =>
        match d with
        | some e => Named.mk (if namesSpecial e then some [e] else none) length following
        | none => ⟨none, length, following⟩
      if braces && d == '#' then
        match following with
        | some e =>
          if Raw.inName e then plainName true e
          else
            let after ← nextJoined
            if e == '}' || after != some '}' then
              unread after
              pure (special false (some '#') following)
            else pure (special true following after)
        | none =>
          pure (special false (some '#') none)
      else pure (special false c following)

/-- Read what is done with a parameter in braces, given the character behind its name. -/
def readTreatment (c : Option Char) : Parse (Treatment × Bool) := do
  let usual := fun (d : Option Char) => match d with
    | some '}' => Treatment.value
    | some '-' => .default
    | some '+' => .instead
    | some '?' => .required
    | some '=' => .assigned
    | _ => .unknown
  let cut := fun (treatment : Bool → Treatment) => do
    let d ← nextJoined
    if d == c then pure (treatment true, false)
    else
      unread d
      pure (treatment false, false)
  match c with
  | some ':' =>
    let d ← nextJoined
    pure (usual d, true)
  | some '%' => cut .cutEnd
  | some '#' => cut .cutFront
  | _ => pure (usual c, false)

/-- Read a command in parentheses. -/
def readCommand (inner : Inner) (token : Parse Token) : Parse Command := do
  let before ← get
  set { before with announced := [] }
  let body ← inner.list .any
  let last ← token
  if last == .endOfFile && before.dialect == .rich then unmatched before.line ')' ""
  if last != .right then unexpected (some .right)
  modify fun reader => { reader with announced := before.announced }
  pure (body.getD .nothing)

/-- Read the text of a command in backquotes. -/
def readBackquoted (doubleQuoted : Bool) : Parse Raw := do
  let line := (← get).line
  let ended {α : Type} : Parse α := unmatched line '\x60' "EOF in backquote substitution"
  loop ([] : Raw) fun text => do
    let c ← nextJoined
    match c with
    | some '\x60' => pure (.inr text.reverse)
    | some '\\' =>
      let d ← next
      match d with
      | none => ended
      | some e =>
        let kept := e != '\\' && e != '\x60' && e != '$' && (!doubleQuoted || e != '"')
        pure (.inl (if kept then e :: '\\' :: text else e :: text))
    | none => ended
    | some d =>
      if d == '\n' then countLine
      pure (.inl (d :: text))

/-- Read a command in backquotes, which is a script of its own. -/
def readOldCommand (inner : Inner) (doubleQuoted : Bool) : Parse Command := do
  let text ← readBackquoted doubleQuoted
  let before ← get
  set { before with announced := [], pushed := [], text, complete := true, line := 1, again := false }
  let body ← inner.list .any
  modify fun reader => { reader with
    announced := before.announced, pushed := before.pushed, text := before.text, complete := before.complete,
    line := before.line, again := false }
  pure (body.getD .nothing)

/-- Read a closing brace. -/
def readBrace (spelled : Spelled) : Spelled :=
  let frame := spelled.frame
  if frame.innerQuotes || frame.braces = 0 then spelled.push (.plain '}')
  else if frame.braces = 1 && frame.ofBraces then
    { spelled with frame := { frame with braces := 0 } }.leave.push .close
  else
    { spelled with frame := { frame with
      braces := frame.braces - 1, quotedBraces := frame.quotedBraces - 1 } }.push .close

/-- Read what follows a backslash. -/
def readBackslash (inDocument : Bool) (spelled : Spelled) : Parse Spelled := do
  let c ← next
  match c with
  | none => pure (spelled.push (.escaped '\\'))
  | some '\n' =>
    countLine
    pure spelled
  | some d =>
    let frame := spelled.frame
    let stays := frame.doubleQuoted && d != '\\' && d != '\x60' && d != '$' &&
      (d != '"' || (inDocument && frame.braces = 0)) && (d != '}' || frame.braces = 0)
    let spelled := if stays then spelled.push (.escaped '\\') else spelled
    pure { spelled.push (.escaped d) with quoted := true }

/-- Find the line that ends a document, if a character begins it: the character to go on with. -/
def checkEnding (ending : Option Announced) (c : Option Char) : Parse (Option Char) := do
  match ending with
  | none => pure c
  | some announced =>
    let c ← if !announced.dropsTabs then pure c
      else loop c fun c => do
        if c == some '\t' then
          let d ← next
          pure (.inl d)
        else pure (.inr c)
    -- The characters that agree are read again if the line does not.
    let (agreed, c) ← loop (announced.ending, ([] : Raw), c) fun (left, agreed, c) => do
      match left, c with
      | e :: left, some d =>
        if d == e then
          let next ← next
          pure (.inl (left, d :: agreed, next))
        else pure (.inr (agreed, c))
      | _, _ => pure (.inr (agreed, c))
    if agreed.length == announced.ending.length && (c == some '\n' || c.isNone) then
      countLine
      pure none
    else match agreed.reverse with
      | [] => pure c
      | first :: others =>
        unread c
        for d in others.reverse do
          unread (some d)
        pure (some first)

/-- Read a redirection whose sign is a character. -/
def readRedirection (descriptor : Option Nat) (sign : Char) : Parse Token := do
  let c ← nextJoined
  let (way, dropsTabs) ← if sign == '>' then
      match c with
      | some '>' => pure (Way.append, false)
      | some '|' => pure (.force, false)
      | some '&' => pure (.same, false)
      | _ => do unread c; pure (.output, false)
    else match c with
      | some '<' => do
        let d ← nextJoined
        if d == some '-' then pure (.document 0 false, true)
        else if d == some '<' && (← get).dialect == .rich then pure (.line, false)
        else do unread d; pure (.document 0 false, false)
      | some '&' => pure (.same, false)
      | some '>' => pure (.update, false)
      | _ => do unread c; pure (.input, false)
  let usual := if sign == '>' then 1 else 0
  modify fun reader => { reader with redirection := (descriptor.getD usual, way), dropsTabs, redirectsBoth := false }
  found .redirection

/-- Finish a word before a character. -/
def finishWord (ending : Option Announced) (c : Option Char) (spelled : Spelled) : Parse Token := do
  let frame := spelled.frame
  if frame.setting == .formula then unmatched spelled.line ')' "Missing '))'"
  if frame.setting != .base && ending.isNone then
    unmatched spelled.line (if frame.setting == .single then '\'' else '"') "Unterminated quoted string"
  if 0 < frame.braces then unmatched spelled.line '\x7d' "Missing '\x7d'"
  let redirected := match c, spelled.pieces with
    | some '>', [] => some ('>', none)
    | some '<', [] => some ('<', none)
    | some '>', [.plain d] => if d.isDigit then some ('>', some (d.toNat - '0'.toNat)) else none
    | some '<', [.plain d] => if d.isDigit then some ('<', some (d.toNat - '0'.toNat)) else none
    | _, _ => none
  match (if ending.isNone && !spelled.quoted then redirected else none) with
  | some (sign, descriptor) => readRedirection descriptor sign
  | none =>
    if ending.isNone then unread c
    modify fun reader => { reader with word := spelled.pieces.reverse, quoted := spelled.quoted }
    found .word

/-- Read what is written in braces although it means nothing. -/
def readUnknown (inner : Inner) (front : Raw) (following : Option Char) : Parse Operation := do
  unread following
  let (word, _) ← inner.part false ('\x00', '\x00') ['\x7d']
  pure (.unknown (front ++ Word.unquoted word))

/-- Read what is replaced in a value, and by what. -/
def readReplaced (inner : Inner) : Parse Operation := do
  let c ← nextJoined
  let spot ← match c with
    | some '/' => pure Spot.everywhere
    | some '#' => pure .atFront
    | some '%' => pure .atEnd
    | _ => do
      unread c
      pure .first
  let (pattern, last) ← inner.part false ('\x00', '\x00') ['/', '\x7d']
  if last == '\x7d' then pure (.replaced spot pattern [])
  else
    let (replacement, _) ← inner.part false ('\x00', '\x00') ['\x7d']
    pure (.replaced spot pattern replacement)

/-- Read what is done with the values of a parameter, given the character behind its name; nothing if that is no more
than shells have in common. -/
def readOperation (inner : Inner) (quoted several plain : Bool) (name : Raw) (c : Option Char) :
    Parse (Option Operation) := do
  let none' := fun (operation : Parse Operation) => if plain then pure none else some <$> operation
  let word := fun (treatment : Treatment) (nullToo : Bool) => do
    let (word, _) ← inner.part quoted ('\x00', '\x00') ['\x7d']
    pure (Operation.substituted treatment nullToo word)
  let treatmentOf := fun (d : Char) => match d with
    | '-' => some Treatment.default
    | '=' => some .assigned
    | '?' => some .required
    | '+' => some .instead
    | _ => none
  let pattern := do
    let (pattern, _) ← inner.part false ('\x00', '\x00') ['\x7d']
    pure pattern
  match c with
  | some '\x7d' => none' (pure .values)
  | some '%' =>
    if plain && !several then pure none
    else
      let longest ← follows '%'
      (some ∘ Operation.cut (.cutEnd longest)) <$> pattern
  | some '#' =>
    if plain && !several then pure none
    else
      let longest ← follows '#'
      (some ∘ Operation.cut (.cutFront longest)) <$> pattern
  | some '/' => some <$> readReplaced inner
  | some '^' => do
    let everywhere ← follows '^'
    (some ∘ Operation.relettered .upper everywhere) <$> pattern
  | some ',' => do
    let everywhere ← follows ','
    (some ∘ Operation.relettered .lower everywhere) <$> pattern
  | some '~' => do
    let everywhere ← follows '~'
    (some ∘ Operation.relettered .other everywhere) <$> pattern
  | some '@' => do
    let letter ← nextJoined
    match letter with
    | some d =>
      if ← followsIf ("QEPAKakuUL".toList.contains d) '\x7d' then pure (some (.shown d))
      else some <$> readUnknown inner (name ++ ['@']) letter
    | none => some <$> readUnknown inner (name ++ ['@']) none
  | some ':' => do
    let d ← nextJoined
    match d.bind treatmentOf with
    | some treatment => none' (word treatment true)
    | none => do
      unread d
      let (start, last) ← inner.part false ('(', ')') [':', '\x7d']
      if last == '\x7d' then pure (some (.slice start none))
      else
        let (count, _) ← inner.part false ('(', ')') ['\x7d']
        pure (some (.slice start (some count)))
  | _ =>
    match c.bind treatmentOf with
    | some treatment => none' (word treatment false)
    | none => some <$> readUnknown inner name c

/-- Read a parameter in braces that is looked at more closely than shells have in common; nothing if it is not. -/
def readReference? (inner : Inner) (quoted : Bool) : Parse (Option Reference) := do
  let before ← get
  let usual : Parse (Option Reference) := do
    set before
    pure none
  let first ← nextJoined
  let second ← nextJoined
  unread second
  let isParameter := fun (c : Char) => Raw.inName c || c == '@' || c == '*'
  let marked := (second.map isParameter).getD false || (first == some '!' && (second == some '#' || second == some '?'))
  let indirect := first == some '!' && marked
  let counts := first == some '#' && marked
  let start ← if indirect || counts then nextJoined else pure first
  match start with
  | none => usual
  | some c => do
    let (name, following) ←
      if Raw.beginsName c then takeNext Raw.inName c
      else if c.isDigit then takeNext Char.isDigit c
      else do
        let following ← nextJoined
        pure ([c], following)
    let front := (if indirect then ['!'] else if counts then ['#'] else []) ++ name
    if !Raw.beginsName c && !c.isDigit && !namesSpecial c then
      let operation ← readUnknown inner [c] following
      return some (.mk name none false operation)
    let (part, following) ← if following == some '[' && Raw.beginsName c then do
        let (part, _) ← inner.part false ('[', ']') [']']
        let following ← nextJoined
        pure (some part, following)
      else pure (none, following)
    let several := c == '@' || c == '*'
    let isWhole := match part with
      | some [.plain d] => d == '@' || d == '*'
      | _ => false
    if counts then
      if following != some '\x7d' then
        let operation ← readUnknown inner front following
        return some (.mk name part false operation)
      if part.isNone && !several then usual else pure (some (.mk name part false .length))
    else if indirect && isWhole && following == some '\x7d' then pure (some (.mk name part false .places))
    else if ← followsIf (indirect && part.isNone && (following == some '@' || following == some '*')) '\x7d' then
      pure (some (.mk name (some [.plain (following.getD '*')]) false .names))
    else
      let plain := !indirect && part.isNone
      match ← readOperation inner quoted several plain front following with
      | none => usual
      | some operation => pure (some (.mk name part indirect operation))

/-- Read the text in quotes behind a dollar sign, each backslash with the character behind it. -/
def readQuotedText : Parse Raw := do
  let line := (← get).line
  loop ([] : Raw) fun text => do
    let c ← next
    match c with
    | some '\'' => pure (.inr text.reverse)
    | some '\\' => do
      let d ← next
      match d with
      | some e => do
        if e == '\n' then countLine
        pure (.inl (e :: '\\' :: text))
      | none => unmatched line '\'' ""
    | some d => do
      if d == '\n' then countLine
      pure (.inl (d :: text))
    | none => unmatched line '\'' ""

/-- Read what follows a dollar sign. -/
def readDollar (inner : Inner) (token : Parse Token) (spelled : Spelled) : Parse Spelled := do
  let c ← nextJoined
  let reader ← get
  let begins := match c with
    | some d => d == '(' || d == '{' || Raw.beginsName d || namesSpecial d
    | none => false
  let isRich := reader.dialect == .rich && !reader.watch.ending
  if isRich && spelled.frame.setting == .base && c == some '\'' then
    let text ← readQuotedText
    return { ((Escaping.unquote text).foldl (fun spelled d => spelled.push (.escaped d)) (spelled.push .mark)).push .mark with
      quoted := true }
  if isRich && spelled.frame.setting == .base && c == some '"' then
    unread c
    return spelled
  if reader.watch.ending || !begins then
    unread c
    return spelled.push (.plain '$')
  if c == some '(' then
    let d ← nextJoined
    if d == some '(' then
      return (spelled.push .formula).enter { setting := .formula, doubleQuoted := true }
    unread d
    let body ← readCommand inner token
    return spelled.push (.command body)
  let braces := c == some '{'
  let reference ← if braces && isRich then readReference? inner (spelled.frame.setting != .base) else pure none
  if let some reference := reference then return spelled.push (.reference reference)
  let c ← if braces then nextJoined else pure c
  let named ← readName braces c
  let (treatment, nullToo) ← match named.name with
    | none => do
      unread named.following
      pure (Treatment.unknown, false)
    | some _ =>
      if named.length then do
        unread named.following
        pure (if named.following == some '}' then Treatment.length else .unknown, false)
      else if braces then readTreatment named.following
      else do
        unread named.following
        pure (.value, false)
  let alone := treatment == Treatment.value && !nullToo
  let now := spelled.frame.setting
  let wanted := match treatment with
    | .cutEnd _ => Setting.base
    | .cutFront _ => .base
    | _ => if now == .formula then .double else now
  let spelled := if (wanted != now || spelled.frame.innerQuotes) && !alone then
      spelled.enter { setting := wanted, ofBraces := true, doubleQuoted := wanted != Setting.base }
    else spelled
  let spelled := spelled.push (.parameter (named.name.getD []) treatment nullToo)
  if alone then pure spelled
  else
    let frame := spelled.frame
    pure { spelled with frame := { frame with
      braces := frame.braces + 1
      quotedBraces := if frame.doubleQuoted then frame.quotedBraces + 1 else frame.quotedBraces } }

/-- Whether what has been read of a word sets a variable to what follows. -/
def setsNext (spelled : Spelled) : Bool :=
  match Word.assignment? .rich spelled.pieces.reverse with
  | some assignment => assignment.value.isEmpty
  | none => false

/-- Whether what has been read of a word ends with the sign of a choice. -/
def beginsChoice (spelled : Spelled) : Bool :=
  match spelled.pieces.head? with
  | some (.plain c) => Wildcard.choiceSigns.contains c
  | _ => false

/-- Read the elements of a list behind its opening parenthesis. -/
def readElements (inner : Inner) : Parse (List Word) := do
  let line := (← get).line
  loop ([] : List Word) fun words => do
    watchFor { newlines := true }
    match ← inner.token with
    | .word => do
      let word := (← get).word
      pure (.inl (word :: words))
    | .right => pure (.inr words.reverse)
    | .endOfFile => unmatched line ')' ""
    | _ => unexpected none

/-- Read a character that ends a word of the rich dialect unless more of the word follows behind it. -/
def readSpecial (inner : Inner) (token : Parse Token) (c : Char) (spelled : Spelled) : Parse (Option Spelled) := do
  let frame := spelled.frame
  let kept := fun (count : Nat) => some { spelled.push (.plain c) with frame := { frame with parentheses := count } }
  if frame.ofExpression then
    if c == '(' then pure (kept (frame.parentheses + 1))
    else if 0 < frame.parentheses then pure (kept (if c == ')' then frame.parentheses - 1 else frame.parentheses))
    else pure (if c == '|' then kept 0 else none)
  else if 0 < frame.choices then
    let count := if c == '(' then frame.choices + 1 else if c == ')' then frame.choices - 1 else frame.choices
    pure (some { spelled.push (.plain c) with frame := { frame with choices := count } })
  else if c == '(' && beginsChoice spelled && (← get).choices then
    pure (some { spelled.push (.plain c) with frame := { frame with choices := 1 } })
  else if c == '(' && setsNext spelled then
    let words ← readElements inner
    pure (some (spelled.push (.elements words)))
  else if c == '<' || c == '>' then
    if ← follows '(' then
      let body ← readCommand inner token
      pure (some (spelled.push (.channel (c == '<') body)))
    else pure none
  else pure none

/-- Read one character of a word: what has been read then, or nothing if the word ends before it. -/
def readCharacter (inner : Inner) (token : Parse Token) (ending : Option Announced) (c : Char) (spelled : Spelled) :
    Parse (Option Spelled) := do
  let inDocument := ending.isSome
  let frame := spelled.frame
  match frame.setting.meaning c with
  | .newline =>
    if frame.setting == .base && frame.braces = 0 then pure none
    else
      countLine
      pure (some (spelled.push (.plain c)))
  | .ordinary => pure (some (spelled.push (.plain c)))
  | .guarded => pure (some (spelled.push (if !inDocument || frame.doubleQuoted then .escaped c else .plain c)))
  | .backslash => some <$> readBackslash inDocument spelled
  | .singleQuote => pure (some ({ spelled with frame := { frame with setting := .single } }.quote inDocument))
  | .doubleQuote =>
    pure (some ({ spelled with frame := { frame with setting := .double, doubleQuoted := true } }.toggle inDocument))
  | .quoteEnd =>
    if inDocument && frame.braces = 0 then pure (some (spelled.push (.plain c)))
    else
      let frame := if frame.quotedBraces = 0 then { frame with setting := .base, doubleQuoted := false } else frame
      let spelled := { spelled with frame, quoted := true }
      pure (some (if c == '"' then spelled.toggle inDocument else spelled.quote inDocument))
  | .dollar => some <$> readDollar inner token spelled
  | .brace => pure (some (readBrace spelled))
  | .left => pure (some { spelled.push (.plain c) with frame := { frame with parentheses := frame.parentheses + 1 } })
  | .right =>
    if 0 < frame.parentheses then
      pure (some { spelled.push (.plain c) with frame := { frame with parentheses := frame.parentheses - 1 } })
    else
      let d ← nextJoined
      if d == some ')' then pure (some (spelled.push .closeFormula).leave)
      else
        unread d
        pure (some (spelled.push (.plain c)))
  | .backquote =>
    let reader ← get
    if reader.watch.ending then pure (some { spelled.push (.plain c) with quoted := true })
    else
      let body ← readOldCommand inner frame.doubleQuoted
      pure (some (spelled.push (.command body)))
  | .special =>
    if 0 < frame.braces then pure (some (spelled.push (.plain c)))
    else if (← get).dialect == .rich then readSpecial inner token c spelled
    else pure none

/-- Read a word inside of braces up to one of some characters that does not stand between two others; that character is
told as well. -/
def spellPart (inner : Inner) (token : Parse Token) (quoted : Bool) (pair : Char × Char) (ends : Raw) :
    Parse (Word × Char) := do
  let line := (← get).line
  let frame : Frame := {
    setting := if quoted then .double else .base
    doubleQuoted := quoted, braces := 1, ofBraces := true, quotedBraces := if quoted then 1 else 0 }
  loop (({ frame, line } : Spelled), 0) fun (spelled, depth) => do
    let c ← next
    match c with
    | none => unmatched line (if ends.contains ']' then ']' else '\x7d') "Missing '\x7d'"
    | some d =>
      let now := spelled.frame
      let isOutermost := spelled.outer.isEmpty && now.braces == 1 && now.setting == frame.setting && !now.innerQuotes
      if isOutermost && depth = 0 && ends.contains d then pure (.inr (spelled.pieces.reverse, d))
      else
        let inside := if !isOutermost then depth
          else if d == pair.1 then depth + 1
          else if d == pair.2 then depth - 1
          else depth
        match ← readCharacter inner token none d spelled with
        | some spelled => pure (.inl (spelled, inside))
        | none => unexpected none

/-- Read a word or a document that begins with a character. -/
def spell (inner : Inner) (token : Parse Token) (ending : Option Announced) (start : Frame) (first : Option Char) :
    Parse Token := do
  let line := (← get).line
  let c ← checkEnding ending first
  loop (c, ({ frame := start, line } : Spelled)) fun (c, spelled) => do
    let goesOn ← match c with
      | none => pure none
      | some d => readCharacter inner token ending d spelled
    match goesOn with
    | none =>
      let token ← finishWord ending c spelled
      pure (.inr token)
    | some spelled =>
      let d ← next
      let d ← if c == some '\n' then checkEnding ending d else pure d
      pure (.inl (d, spelled))

/-- Read the documents that have been announced, given how the next token is read. -/
def spellDocuments (inner : Inner) (token : Parse Token) : Parse Unit := do
  let announced := (← get).announced
  modify fun reader => { reader with announced := [] }
  for document in announced do
    let first ← if document.expands then nextJoined else next
    let frame : Frame := if document.expands then { setting := .double, doubleQuoted := true } else { setting := .single }
    let _ ← spell inner token (some document) frame first
    modify fun reader => { reader with documents := (document.number, reader.word) :: reader.documents }

/-- The next token of a command in a word, which ends the command. -/
def closingToken : Parse Token := do
  -- A list has always put back the token that ends it.
  modify fun reader => { reader with again := false }
  let reader ← get
  pure reader.last

/-- The next token. -/
def token (inner : Inner) : Parse Token :=
  tokenWith (spell inner closingToken none { setting := .base }) (spellDocuments inner closingToken)

end Parse

end AnswerQuery.Host.Script
