import AnswerQuery.Host.Numeral

/-! Regular expressions and how they are read, in several dialects. -/

namespace AnswerQuery.Host.Tool

/-- What a place between characters can be. -/
inductive Place where
  | lineStart
  | lineEnd
  | textStart
  | textEnd
  | wordStart
  | wordEnd
  | wordEdge
  | noWordEdge
  deriving DecidableEq, Repr

/-- A regular expression. -/
inductive Expression where
  /-- The empty text. -/
  | nothing
  /-- One character. -/
  | one (accepts : Char → Bool)
  /-- The empty text at some places. -/
  | place (place : Place)
  | both (first second : Expression)
  | either (first second : Expression)
  /-- At least and at most so many texts; many are tried before few if it is greedy. -/
  | many (least : Nat) (most : Option Nat) (greedy : Bool) (repeated : Expression)
  /-- What it matches can be referred to by a number. -/
  | group (number : Nat) (inside : Expression)
  /-- What a group has matched. -/
  | again (number : Nat)
  /-- The empty text in front of a match, or where there is none. -/
  | ahead (wanted : Bool) (inside : Expression)
  /-- The empty text behind a match, or where there is none. -/
  | behind (wanted : Bool) (inside : Expression)
  /-- The match is told to begin here. -/
  | restart

namespace Expression

/-- Whether an expression refers to groups, or looks around. -/
def isComplex : Expression → Bool
  | both first second => first.isComplex || second.isComplex
  | either first second => first.isComplex || second.isComplex
  | many _ _ _ repeated => repeated.isComplex
  | group _ inside => inside.isComplex
  | again _ => true
  | ahead .. => true
  | behind .. => true
  | restart => true
  | _ => false

/-- How many groups there are. -/
def groupCount : Expression → Nat
  | both first second => max first.groupCount second.groupCount
  | either first second => max first.groupCount second.groupCount
  | many _ _ _ repeated => repeated.groupCount
  | group number inside => max number inside.groupCount
  | _ => 0

end Expression

/-- What a sign of repetition is where there is nothing to be repeated. -/
inductive Stray where
  | literal
  | refused
  /-- It is passed over. -/
  | skipped
  deriving DecidableEq, Repr

/-- How expressions are written. -/
structure Dialect where
  /-- Whether parentheses, braces and bars need no backslash in order to be special. -/
  extended : Bool
  /-- What a sign of repetition is where there is nothing to be repeated. -/
  stray : Stray := .literal
  /-- Whether a count cannot be repeated, or stand where there is nothing to be repeated. -/
  strictCounts : Bool := false
  /-- Whether a brace that begins no count is a plain character. -/
  looseCounts : Bool := false
  /-- Whether a closing parenthesis without an opening one is a plain character. -/
  looseClosing : Bool := false
  /-- Whether the ends of lines separate alternatives. -/
  lineChoice : Bool := false
  /-- Whether capitals are the same as other letters. -/
  ignoresCase : Bool := false
  /-- Whether the ends of lines are matched only if they are named. -/
  byLine : Bool := false
  /-- Whether lines start and end at the ends of lines, if these are matched only if they are named. -/
  anchorsLines : Bool := true
  /-- Whether a backslash is special in brackets too. -/
  slashInBrackets : Bool := false
  deriving Repr

namespace Dialect

/-- An expression in which signs of repetition are special without a backslash, as one in which they need one. -/
def withSlashes : Raw → Raw
  | '\\' :: c :: rest =>
    (if c == '+' || c == '?' then [c] else if c == '\x7b' || c == '\x7d' then [c] else ['\\', c]) ++ withSlashes rest
  | '+' :: rest => '\\' :: '+' :: withSlashes rest
  | '?' :: rest => '\\' :: '?' :: withSlashes rest
  | '[' :: ']' :: rest => '[' :: ']' :: withSlashes rest
  | c :: rest => c :: withSlashes rest
  | [] => []

end Dialect

/-- A piece of an expression. -/
inductive Piece where
  | character (c : Char)
  | class_ (accepts : Char → Bool)
  | place (place : Place)
  | again (number : Nat)
  | opening
  | closing
  | countOpening
  | countClosing
  | star
  | plus
  | question
  | bar
  | period
  | bracket
  /-- A backslash with nothing behind it. -/
  | slash
  | finished

namespace Class

/-- Whether a character is part of a word. -/
def isWord (c : Char) : Bool :=
  c.isAlphanum || c == '_'

/-- Whether a character is printed and is no letter, digit or blank. -/
def isPunctuation (c : Char) : Bool :=
  32 < c.toNat && c.toNat < 127 && !c.isAlphanum

/-- The classes that have names. -/
def named : List (String × (Char → Bool)) :=
  [("alpha", Char.isAlpha), ("digit", Char.isDigit), ("alnum", Char.isAlphanum), ("upper", Char.isUpper),
    ("lower", Char.isLower), ("space", Raw.isSpace), ("blank", fun c => c == ' ' || c == '\t'),
    ("punct", isPunctuation), ("print", fun c => 32 ≤ c.toNat && c.toNat < 127),
    ("graph", fun c => 32 < c.toNat && c.toNat < 127), ("cntrl", fun c => c.toNat < 32 || c.toNat = 127),
    ("xdigit", Numeral.isDigitIn 16)]

end Class

namespace Dialect

/-- A character without regard to whether it is a capital, if that does not count. -/
def fold (dialect : Dialect) (c : Char) : Char :=
  if dialect.ignoresCase then c.toUpper else c

/-- The piece that a character stands for behind a backslash. -/
def escaped (dialect : Dialect) (c : Char) : Piece :=
  let basic := fun (piece : Piece) => if dialect.extended then Piece.character c else piece
  match c with
  | '|' => basic .bar
  | '(' => basic .opening
  | ')' => basic .closing
  | '{' => basic .countOpening
  | '}' => basic .countClosing
  | '+' => basic .plus
  | '?' => basic .question
  | '<' => .place .wordStart
  | '>' => .place .wordEnd
  | 'b' => .place .wordEdge
  | 'B' => .place .noWordEdge
  | '\x60' => .place .textStart
  | '\'' => .place .textEnd
  | 'w' => .class_ Class.isWord
  | 'W' => .class_ fun c => !Class.isWord c
  | 's' => .class_ Raw.isSpace
  | 'S' => .class_ fun c => !Raw.isSpace c
  | _ => if '1' ≤ c && c ≤ '9' then .again (c.toNat - '0'.toNat) else .character c

/-- Whether what follows a sign of the end of a line lets it be one. -/
def endsHere (dialect : Dialect) : Raw → Bool
  | [] => true
  | '\\' :: c :: _ => c == '|' || c == ')'
  | c :: _ => dialect.lineChoice && c == '\n'

/-- The piece at the front of an expression, given whether a sign of the start of a line is one there. -/
def piece (dialect : Dialect) (starts : Bool) : Raw → Piece × Raw
  | [] => (.finished, [])
  | ['\\'] => (.slash, [])
  | '\\' :: c :: rest => (dialect.escaped c, rest)
  | c :: rest =>
    let special := fun (piece : Piece) => if dialect.extended then piece else Piece.character c
    let found := match c with
      | '\n' => if dialect.lineChoice then .bar else .character c
      | '|' => special .bar
      | '*' => .star
      | '+' => special .plus
      | '?' => special .question
      | '{' => special .countOpening
      | '}' => special .countClosing
      | '(' => special .opening
      | ')' => special .closing
      | '[' => .bracket
      | '.' => .period
      | '^' => if dialect.extended || starts then .place .lineStart else .character c
      | '$' => if dialect.extended || dialect.endsHere rest then .place .lineEnd else .character c
      | _ => .character c
    (found, rest)

end Dialect

/-- What is known while an expression is read. -/
structure Reading where
  /-- The piece that is looked at. -/
  piece : Piece
  /-- What follows it. -/
  rest : Raw
  /-- The character in front of what follows. -/
  before : Option Char := none
  /-- How many groups have begun. -/
  groups : Nat := 0
  /-- The groups that have ended. -/
  ended : List Nat := []

/-- Reading an expression, which can fail with a sentence. -/
abbrev Read := StateT Reading (Except String)

namespace Read

/-- Go on to the next piece. -/
def advance (dialect : Dialect) (starts : Bool) : Read Unit :=
  modify fun reading =>
    let atLine := reading.before.isNone || (dialect.lineChoice && reading.before == some '\n')
    let (piece, rest) := dialect.piece (starts || atLine) reading.rest
    let taken := reading.rest.take (reading.rest.length - rest.length)
    { reading with piece, rest, before := taken.getLast?.orElse fun _ => reading.before }

/-- The number at the front of a count, up to a comma or the end of the count: none if there is no digit; the second
value tells whether it makes sense. -/
def countNumber (dialect : Dialect) : Nat → Option Nat → Bool → Read (Option Nat × Bool)
  | 0, _, _ => pure (none, false)
  | steps + 1, number, sensible => do
    advance dialect false
    match (← get).piece with
    | .finished => pure (none, false)
    | .countClosing => pure (number, sensible)
    | .character ',' => pure (number, sensible)
    | .character c =>
      if c.isDigit then countNumber dialect steps (some (min 32768 (number.getD 0 * 10 + Numeral.digitValue c))) sensible
      else countNumber dialect steps number false
    | _ => countNumber dialect steps number false

/-- Read a count: the least and the most, or nothing if the brace is a plain character. -/
def count (dialect : Dialect) : Read (Option (Nat × Option Nat)) := do
  let start ← get
  let steps := start.rest.length + 1
  let isComma := fun (piece : Piece) => match piece with
    | .character ',' => true
    | _ => false
  let (first, sensible) ← countNumber dialect steps none true
  let piece := (← get).piece
  if sensible && first.isNone && !isComma piece then throw "Invalid content of \\\x7b\\\x7d"
  let (last, sensible) ← match piece with
    | .countClosing => pure (first, sensible)
    | .character ',' => if sensible then countNumber dialect steps none true else pure (none, false)
    | _ => pure (none, false)
  if !sensible then
    if dialect.looseCounts then
      set { start with piece := .character '{' }
      return none
    else match (← get).piece with
      | .finished => throw "Unmatched \\\x7b"
      | _ => throw "Invalid content of \\\x7b\\\x7d"
  match (← get).piece with
  | .countClosing => pure ()
  | _ => throw "Invalid content of \\\x7b\\\x7d"
  let least := first.getD 0
  if (last.map fun most => decide (most < least)).getD false then throw "Invalid content of \\\x7b\\\x7d"
  if 32767 < last.getD least then throw "Regular expression too big"
  pure (some (least, last))

/-- What an element of a list in brackets is. -/
inductive Element where
  | character (c : Char)
  | class_ (accepts : Char → Bool)
  /-- A class of characters that count as the same. -/
  | same (c : Char)

/-- The sentence about a bracket that is not closed. -/
def unmatchedBracket : String := "Unmatched [, [^, [:, [., or [="

/-- The name in front of a mark and a closing bracket, and what follows them. -/
def nameInBrackets (mark : Char) : Raw → Raw → Except String (Raw × Raw)
  | name, c :: d :: rest =>
    if name.length ≥ 32 then .error unmatchedBracket
    else if c == mark && d == ']' then .ok (name.reverse, rest)
    else nameInBrackets mark (c :: name) (d :: rest)
  | _, _ => .error unmatchedBracket

/-- Read an element of a list in brackets. -/
def element (dialect : Dialect) (isFirst allowsHyphen : Bool) (text : Raw) : Except String (Element × Raw) := do
  match text with
  | '[' :: ':' :: c :: rest =>
    let (name, rest) ← nameInBrackets ':' [] (c :: rest)
    let name := if dialect.ignoresCase && (name == "upper".toList || name == "lower".toList) then "alpha".toList else name
    match Class.named.find? fun pair => pair.1.toList == name with
    | some (_, accepts) => pure (.class_ accepts, rest)
    | none => throw "Invalid character class name"
  | '[' :: '.' :: rest =>
    match ← nameInBrackets '.' [] rest with
    | ([c], rest) => pure (.character c, rest)
    | _ => throw "Invalid collation character"
  | '[' :: '=' :: rest =>
    match ← nameInBrackets '=' [] rest with
    | ([c], rest) => pure (.same c, rest)
    | _ => throw "Invalid collation character"
  | '-' :: '-' :: '-' :: rest => pure (.character '-', rest)
  | '-' :: rest =>
    if allowsHyphen || isFirst || rest.head? == some ']' then pure (.character '-', rest)
    else throw "Invalid range end"
  | '\\' :: c :: rest =>
    if dialect.slashInBrackets then pure (.character c, rest) else pure (.character '\\', c :: rest)
  | c :: rest => pure (.character c, rest)
  | [] => throw unmatchedBracket

/-- Read the elements of a list in brackets up to the one that closes it. -/
def elements (dialect : Dialect) : Nat → Bool → Raw → Except String ((Char → Bool) × Raw)
  | 0, _, _ => throw unmatchedBracket
  | steps + 1, isFirst, text => do
    let (first, rest) ← element dialect isFirst isFirst text
    let isRange := match first, rest with
      | .character _, '-' :: c :: after => c != ']' && !(c == '-' && after.head? == some '-')
      | _, _ => false
    if let (.character _, ['-']) := (first, rest) then throw unmatchedBracket
    if let (false, '-' :: c :: _) := (isRange, rest) then
      if c != ']' && !(first matches .character _) then throw "Invalid range end"
    let (accepts, rest) ← if isRange then do
        let (last, rest) ← element dialect false true (rest.drop 1)
        match first, last with
        | .character low, .character high =>
          let low := dialect.fold low
          let high := dialect.fold high
          if high < low then throw "Invalid range end"
          pure (fun c => low ≤ c && c ≤ high, rest)
        | _, _ => throw "Invalid range end"
      else
        let accepts : Char → Bool := match first with
          | .character c => (· == dialect.fold c)
          | .class_ accepts => accepts
          | .same c => (· == dialect.fold c)
        pure (accepts, rest)
    match rest with
    | [] => throw unmatchedBracket
    | ']' :: rest => pure (accepts, rest)
    | _ =>
      let (others, rest) ← elements dialect steps false rest
      pure (fun c => accepts c || others c, rest)

/-- What follows the list in brackets whose inside stands at the front of a text. -/
def behindList (text : Raw) : Raw :=
  let inside := if text.head? == some '^' then text.drop 1 else text
  let inside := if inside.head? == some ']' then inside.drop 1 else inside
  behind inside.length inside
where
  /-- What follows the bracket that closes a list. -/
  behind : Nat → Raw → Raw
    | 0, text => text
    | _ + 1, [] => []
    | _ + 1, ']' :: rest => rest
    | steps + 1, '[' :: ':' :: rest => behind steps ((rest.dropWhile (· != ']')).drop 1)
    | steps + 1, _ :: rest => behind steps rest

/-- Read a list in brackets. -/
def list (dialect : Dialect) (text : Raw) : Except String ((Char → Bool) × Raw) := do
  let (negated, inside) := match text with
    | '^' :: rest => (true, rest)
    | _ => (false, text)
  if inside.isEmpty then throw "Invalid regular expression"
  let (accepts, rest) ← elements dialect (inside.length + 1) true inside
  let folded := fun c => accepts (dialect.fold c)
  pure (if negated then fun c => !folded c && !(dialect.byLine && c == '\n') else folded, rest)

/-- An expression for one character. -/
def single (dialect : Dialect) (c : Char) : Expression :=
  let folded := dialect.fold c
  if dialect.ignoresCase then .one fun d => d.toUpper == folded else .one (· == c)

/-- What follows an expression for the sake of which it was read: both, if there is anything. -/
def joined : Expression → Expression → Expression
  | .nothing, second => second
  | first, .nothing => first
  | first, second => .both first second

/-- The character that a piece is if it is taken as it is. -/
def plainCharacter : Piece → Char
  | .star => '*'
  | .plus => '+'
  | .question => '?'
  | .countOpening => '{'
  | .countClosing => '}'
  | .closing => ')'
  | .character c => c
  | _ => '\\'

/-- Repeat an expression as the pieces that follow tell. -/
def repetitions (dialect : Dialect) : Nat → Expression → Read Expression
  | 0, expression => pure expression
  | steps + 1, expression => do
    let goOn := fun (least : Nat) (most : Option Nat) => do
      advance dialect false
      let repeated : Expression := match least, most with
        | 0, some 0 => .nothing
        | _, _ => .many least most true expression
      if dialect.strictCounts then
        match (← get).piece with
        | .star => throw "Invalid preceding regular expression"
        | .countOpening => throw "Invalid preceding regular expression"
        | _ => pure ()
      repetitions dialect steps repeated
    match (← get).piece with
    | .star => goOn 0 none
    | .plus => goOn 1 none
    | .question => goOn 0 (some 1)
    | .countOpening =>
      match ← count dialect with
      | some (least, most) => goOn least most
      | none => pure expression
    | _ => pure expression

mutual

/-- Read alternatives up to the end or, in a group, up to the parenthesis that closes it. -/
def choice (dialect : Dialect) : Nat → Nat → Read Expression
  | 0, _ => throw "Regular expression too big"
  | steps + 1, depth => do
    let first ← branch dialect steps depth
    match (← get).piece with
    | .bar => do
      advance dialect true
      let second ← choice dialect steps depth
      pure (.either first second)
    | _ => pure first

/-- Read what stands side by side. -/
def branch (dialect : Dialect) : Nat → Nat → Read Expression
  | 0, _ => throw "Regular expression too big"
  | steps + 1, depth => do
    let ends := match (← get).piece with
      | .bar => true
      | .finished => true
      | .closing => depth != 0
      | _ => false
    if ends then pure .nothing
    else
      let first ← item dialect steps depth
      let rest ← branch dialect steps depth
      pure (joined first rest)

/-- Read one item with its repetitions. -/
def item (dialect : Dialect) : Nat → Nat → Read Expression
  | 0, _ => throw "Regular expression too big"
  | steps + 1, depth => do
    let reading ← get
    let repeated := fun (expression : Expression) => do
      advance dialect false
      repetitions dialect (reading.rest.length + 2) expression
    let plain := fun () => repeated (single dialect (plainCharacter reading.piece))
    let stray := fun () => do
      match dialect.stray with
      | .literal => plain ()
      | .refused => throw "Invalid preceding regular expression"
      | .skipped =>
        advance dialect true
        branch dialect steps depth
    match reading.piece with
    | .character c => repeated (single dialect c)
    | .class_ accepts => repeated (.one accepts)
    | .period => repeated (.one fun c => !(dialect.byLine && c == '\n'))
    | .place place => do
      advance dialect true
      pure (.place place)
    | .again number =>
      if !reading.ended.contains number then throw "Invalid back reference"
      else repeated (.again number)
    | .bracket => do
      let (accepts, rest) ← StateT.lift (list dialect reading.rest)
      set { reading with rest, before := some ']' }
      repeated (.one accepts)
    | .opening => do
      let number := reading.groups + 1
      set { reading with groups := number }
      advance dialect true
      let inside ← choice dialect steps (depth + 1)
      match (← get).piece with
      | .closing => pure ()
      | _ => throw "Unmatched ( or \\("
      modify fun reading => { reading with ended := number :: reading.ended }
      repeated (.group number inside)
    | .countOpening =>
      if dialect.strictCounts then throw "Invalid preceding regular expression"
      else if dialect.stray == .skipped then
        match ← count dialect with
        | some _ => do
          advance dialect true
          branch dialect steps depth
        | none => repeated (single dialect '{')
      else stray ()
    | .star => stray ()
    | .plus => stray ()
    | .question => stray ()
    | .closing => if dialect.looseClosing then plain () else throw "Unmatched ) or \\)"
    | .countClosing => plain ()
    | .slash => throw "Trailing backslash"
    | .bar => pure .nothing
    | .finished => pure .nothing

end

end Read

namespace Dialect

/-- Read an expression. -/
def read (dialect : Dialect) (text : Raw) : Except String Expression := do
  let work : Read Expression := do
    Read.advance dialect true
    Read.choice dialect (8 * text.length + 16) 0
  let (expression, _) ← work { piece := .finished, rest := text }
  pure expression

end Dialect

end AnswerQuery.Host.Tool
