import AnswerQuery.Host.Tool.Report.Tree

/-! Tokens of the scripts of reports, and how they are read from a text. -/

namespace AnswerQuery.Host.Tool.Report

/-- A token. -/
inductive Token where
  | number (x : Float) (written : Raw)
  | text (text : Raw)
  | pattern (text : Raw)
  /-- A name of a variable. -/
  | name (name : Raw)
  /-- A name of a function of the script. -/
  | function (name : Raw)
  /-- A name of a function that all scripts have. -/
  | builtin (name : Raw)
  | word (word : String)
  | sign (sign : String)
  /-- A sign that tells where something is written. -/
  | outlet (sign : String)
  | newline
  /-- A semicolon, which may be supplied in front of a brace. -/
  | semicolon (supplied : Bool)
  | stray (c : Char)
  | badNumber (written : Raw)
  | finished

namespace Token

/-- How a token is named in a complaint. -/
def shown : Token → Raw
  | number _ written => written
  | text content => content
  | pattern content => '/' :: content ++ ['/']
  | name content => content
  | function content => content
  | builtin content => content
  | word content => content.toList
  | sign content => content.toList
  | outlet content => content.toList
  | newline => "end of line".toList
  | semicolon supplied => if supplied then ['\x7d'] else [';']
  | stray c => [c]
  | badNumber written => written
  | finished => "end of file".toList

/-- Whether a token is a sign. -/
def isSign (token : Token) (text : String) : Bool :=
  match token with
  | sign found => found == text
  | _ => false

/-- Whether a token is a word of the language. -/
def isWord (token : Token) (text : String) : Bool :=
  match token with
  | word found => found == text
  | _ => false

/-- Whether a slash behind a token divides. -/
def precedesDivision : Token → Bool
  | number .. => true
  | text _ => true
  | pattern _ => true
  | name _ => true
  | word content => content == "getline" || content == "length"
  | sign content => content == ")" || content == "]" || content == "++" || content == "--"
  | _ => false

/-- Whether a statement has ended with a token. -/
def endsStatement : Token → Bool
  | newline => true
  | semicolon _ => true
  | sign content => content == "\x7d"
  | _ => false

end Token

/-- What a name is used as. -/
inductive Usage where
  | unknown
  | variable
  | table
  | function
  deriving DecidableEq, Repr

/-- What is known while a script is read. -/
structure Reading where
  /-- What is still to be read. -/
  rest : Raw
  /-- The number of the line. -/
  line : Nat := 1
  /-- The file that is read, if it is one. -/
  file : Option Raw := none
  /-- The files that are read behind it, and what is in them. -/
  others : List (Raw × Raw) := []
  /-- The line of the token that was read last. -/
  tokenLine : Nat := 1
  /-- The token that is looked at, if it has been read. -/
  peeked : Option Token := none
  /-- The token that was read last. -/
  last : Token := .newline
  /-- How many parentheses are open. -/
  parens : Nat := 0
  /-- How many braces are open. -/
  braces : Nat := 0
  /-- Whether a sign may tell where something is written. -/
  printing : Bool := false
  /-- Whether several formulas may stand in the parentheses that come next. -/
  listAllowed : Bool := false
  /-- What is wrong, the last complaint first. -/
  complaints : List Raw := []
  /-- The shared names with their numbers and uses. -/
  names : List (Raw × Nat × Usage) := []
  /-- The functions, by their numbers. -/
  functions : Array Function := #[]
  /-- The parameters of the function that is read, and their uses. -/
  parameters : List (Raw × Usage) := []
  /-- Whether a function is read. -/
  inFunction : Bool := false
  /-- Whether what is read is done for records. -/
  inRecord : Bool := false
  /-- How many loops are around. -/
  loops : Nat := 0
  /-- How many rules there are that go from a record to another one. -/
  ranges : Nat := 0
  /-- The calls of functions: the function, how many arguments, the line. -/
  calls : List (Nat × Nat × Nat) := []

/-- Why reading does not go on. -/
inductive Failure where
  /-- A token is out of place. -/
  | token
  /-- There is no use in reading on. -/
  | final

/-- Reading a script. -/
abbrev Read := ExceptT Failure (StateM Reading)

namespace Read

/-- How many complaints there are at most. -/
def mostComplaints : Nat := 5

/-- Complain, and give up if that happens too often. -/
def note (complaint : Raw) : Read Unit := do
  modify fun reading => { reading with complaints := complaint :: reading.complaints }
  if mostComplaints ≤ (← get).complaints.length then throw .final

/-- The line of the token, as complaints name it. -/
def place (line : Nat) : Read Raw := do
  let front := match (← get).file with
    | some file => file ++ ": ".toList
    | none => []
  pure (front ++ "line ".toList ++ decimal line ++ ": ".toList)

/-- Complain about the token that was read last. -/
def complain (message : Raw) : Read Unit := do
  note ((← place (← get).tokenLine) ++ message)

/-- Complain, and read no more. -/
def giveUp {α : Type} (message : Raw) : Read α := do
  complain message
  throw .final

/-- Pass over blanks, the ends of lines and comments. -/
def passLines : Nat → Raw → Nat → Raw × Nat
  | 0, text, line => (text, line)
  | steps + 1, text, line =>
    match text with
    | '\n' :: rest => passLines steps rest (line + 1)
    | '#' :: _ => passLines steps (text.dropWhile (· != '\n')) line
    | '\\' :: rest =>
      match rest.dropWhile fun c => Raw.isSpace c && c != '\n' with
      | '\n' :: rest => passLines steps rest (line + 1)
      | _ => (text, line)
    | c :: rest => if Raw.isSpace c then passLines steps rest line else (text, line)
    | [] => ([], line)

/-- Pass over blanks, the ends of lines and comments. -/
def skipLines : Read Unit :=
  modify fun reading =>
    let (rest, line) := passLines (reading.rest.length + 1) reading.rest reading.line
    { reading with rest, line }

/-- Pass over a semicolon on the same line. -/
def skipSemicolon : Read Unit :=
  modify fun reading =>
    match reading.rest.dropWhile fun c => Raw.isSpace c && c != '\n' with
    | ';' :: rest => { reading with rest }
    | _ => reading

/-- Have read a token, and what follows it. -/
def took (token : Token) (rest : Raw) : Read Token := do
  modify fun reading => { reading with rest, last := token }
  pure token

/-- The signs that are longest first. -/
def signs : List String :=
  ["&&", "||", "==", "!=", "<=", ">=", "++", "--", "+=", "-=", "*=", "/=", "%=", "^=", "!~", "(", ")", "[", "]", "\x7b",
    ",", "<", ">", "=", "!", "~", "?", ":", "+", "-", "*", "/", "%", "^", "$", "|"]

/-- The words of the language. -/
def words : List String :=
  ["BEGIN", "END", "next", "nextfile", "getline", "exit", "return", "break", "continue", "delete", "do", "else", "for",
    "function", "if", "in", "print", "printf", "while"]

/-- The functions that all scripts have. -/
def builtins : List String :=
  ["index", "substr", "split", "sin", "cos", "atan2", "exp", "log", "int", "sqrt", "rand", "srand", "close", "system",
    "toupper", "tolower", "fflush", "sprintf", "match", "sub", "gsub", "mktime", "strftime", "systime", "length"]

/-- The characters of a text up to the quote, and what follows it; ends of lines count only behind backslashes. -/
def quotedText : Nat → Raw → Option (Raw × Raw × Nat)
  | 0, _ => none
  | _ + 1, [] => none
  | _ + 1, '"' :: rest => some ([], rest, 0)
  | _ + 1, '\n' :: _ => none
  | steps + 1, '\\' :: '\n' :: rest =>
    (quotedText steps rest).map fun (text, rest, lines) => (text, rest, lines + 1)
  | steps + 1, '\\' :: c :: rest =>
    (quotedText steps rest).map fun (text, rest, lines) => ('\\' :: c :: text, rest, lines)
  | steps + 1, c :: rest =>
    (quotedText steps rest).map fun (text, rest, lines) => (c :: text, rest, lines)

/-- The characters of a pattern up to the slash, and what follows it; a slash in brackets does not end it. -/
def slashedText : Nat → Option Nat → Raw → Option (Raw × Raw)
  | 0, _, _ => none
  | _ + 1, _, [] => none
  | _ + 1, _, '\n' :: _ => none
  | steps + 1, inside, '\\' :: '/' :: rest =>
    (slashedText steps (inside.map (· + 1)) rest).map fun (text, rest) => ('/' :: text, rest)
  | steps + 1, inside, '\\' :: c :: rest =>
    if c == '\n' then none
    else (slashedText steps (inside.map (· + 1)) rest).map fun (text, rest) => ('\\' :: c :: text, rest)
  | steps + 1, inside, c :: rest =>
    match inside with
    | none =>
      if c == '/' then some ([], rest)
      else (slashedText steps (if c == '[' then some 0 else none) rest).map fun (text, rest) => (c :: text, rest)
    | some count =>
      let inside := if c == ']' && 0 < count then none else if c == '^' && count = 0 then some 0 else some (count + 1)
      (slashedText steps inside rest).map fun (text, rest) => (c :: text, rest)

/-- The number at the front of a text, how it is written, and what follows. -/
def numeral (text : Raw) : Option (Float × Raw × Raw) :=
  let whole := text.takeWhile Char.isDigit
  let behind := text.drop whole.length
  let (part, behind) := match behind with
    | '.' :: rest =>
      let digits := rest.takeWhile Char.isDigit
      ('.' :: digits, rest.drop digits.length)
    | _ => ([], behind)
  if whole.isEmpty && part.length < 2 then none
  else
    let (power, behind) := match behind with
      | c :: rest =>
        if c == 'e' || c == 'E' then
          let (sign, digits) := match rest with
            | '+' :: digits => (['+'], digits)
            | '-' :: digits => (['-'], digits)
            | digits => ([], digits)
          let taken := digits.takeWhile Char.isDigit
          if taken.isEmpty then ([], behind) else (c :: sign ++ taken, digits.drop taken.length)
        else ([], behind)
      | [] => ([], behind)
    let written := whole ++ part ++ power
    some (Number.front written, written, behind)

/-- Whether a name is the name of a function. -/
def isFunction (reading : Reading) (name : Raw) : Bool :=
  reading.functions.any fun function => function.name == name

/-- The token that a name is. -/
def nameToken (name rest : Raw) : Read Token := do
  let reading ← get
  let text := String.ofList name
  if text == "else" || text == "do" then
    let token ← took (.word text) rest
    skipLines
    pure token
  else if text == "print" || text == "printf" then
    modify fun reading => { reading with printing := true }
    took (.word text) rest
  else if words.contains text then took (.word text) rest
  else if text == "length" then
    let follows := (rest.dropWhile fun c => Raw.isSpace c && c != '\n').head?
    took (if follows == some '(' then .builtin name else .word text) rest
  else if builtins.contains text then took (.builtin name) rest
  else if (reading.parameters.lookup name).isSome then took (.name name) rest
  else if isFunction reading name then took (.function name) rest
  else if (reading.names.lookup name).isNone && rest.head? == some '(' then took (.function name) rest
  else took (.name name) rest

/-- The token at a sign. -/
def signToken (text : Raw) : Read Token := do
  let reading ← get
  match signs.find? fun sign => sign.toList.isPrefixOf text with
  | none => took (.stray (text.head?.getD ' ')) (text.drop 1)
  | some sign =>
    let rest := text.drop sign.length
    match sign with
    | "(" => do
      modify fun reading => { reading with parens := reading.parens + 1 }
      took (.sign sign) rest
    | ">" =>
      if reading.printing && reading.parens = 0 then
        modify fun reading => { reading with printing := false }
        match rest with
        | '>' :: rest => took (.outlet ">>") rest
        | _ => took (.outlet ">") rest
      else took (.sign sign) rest
    | ">=" =>
      if reading.printing && reading.parens = 0 then
        modify fun reading => { reading with printing := false }
        took (.outlet ">") (text.drop 1)
      else took (.sign sign) rest
    | "|" =>
      if reading.printing && reading.parens = 0 then
        modify fun reading => { reading with printing := false }
        took (.outlet "|") rest
      else took (.sign sign) rest
    | "\x7b" => do
      modify fun reading => { reading with braces := reading.braces + 1 }
      let token ← took (.sign sign) rest
      skipLines
      pure token
    | _ => do
      let token ← took (.sign sign) rest
      if sign == "," || sign == "&&" || sign == "||" then skipLines
      pure token

/-- Read a token. -/
def scan : Nat → Read Token
  | 0 => throw .final
  | steps + 1 => do
    modify fun reading =>
      { reading with rest := reading.rest.dropWhile (fun c => Raw.isSpace c && c != '\n'), tokenLine := reading.line }
    let reading ← get
    match reading.rest with
    | [] =>
      match reading.others with
      | [] => took .finished []
      | (file, rest) :: others => do
        set { reading with rest, line := 1, file := some file, others }
        skipLines
        scan steps
    | '\n' :: rest => do
      modify fun reading => { reading with line := reading.line + 1 }
      let token ← took .newline rest
      skipLines
      pure token
    | '#' :: _ => do
      modify fun reading => { reading with rest := reading.rest.dropWhile (· != '\n') }
      scan steps
    | ';' :: rest => do
      let token ← took (.semicolon false) rest
      skipLines
      pure token
    | '}' :: rest => do
      if reading.braces = 0 then
        complain "extra '\x7d'".toList
        modify fun reading => { reading with rest }
        skipSemicolon
        scan steps
      else if !reading.last.endsStatement then
        modify fun reading => { reading with last := .semicolon true }
        pure (.semicolon true)
      else
        modify fun reading => { reading with braces := reading.braces - 1 }
        let token ← took (.sign "\x7d") rest
        if reading.braces = 1 then skipSemicolon
        skipLines
        pure token
    | ')' :: rest => do
      if reading.parens = 0 then
        complain "extra ')'".toList
        modify fun reading => { reading with rest }
        scan steps
      else
        modify fun reading => { reading with parens := reading.parens - 1 }
        took (.sign ")") rest
    | '\\' :: rest =>
      match rest.dropWhile fun c => Raw.isSpace c && c != '\n' with
      | '\n' :: rest => do
        modify fun reading => { reading with rest, line := reading.line + 1 }
        scan steps
      | rest => took (.stray '\\') rest
    | '"' :: rest =>
      match quotedText (rest.length + 1) rest with
      | some (text, rest, lines) => do
        modify fun reading => { reading with line := reading.line + lines }
        took (.text (Escaped.replaced text)) rest
      | none => giveUp ("runaway string constant \"".toList ++ (rest.takeWhile (· != '\n')).take 10 ++ " ...".toList)
    | c :: rest =>
      if c == '/' && !reading.last.precedesDivision then
        match slashedText (rest.length + 1) none rest with
        | some (text, rest) => took (.pattern text) rest
        | none =>
          giveUp ("runaway regular expression /".toList ++ (rest.takeWhile (· != '\n')).take 10 ++ " ...".toList)
      else if Raw.beginsName c then
        let name := reading.rest.takeWhile Raw.inName
        nameToken name (reading.rest.drop name.length)
      else
        match numeral reading.rest with
        | some (x, written, rest) => took (.number x written) rest
        | none =>
          if c == '.' then took (.badNumber ['.']) rest
          else signToken reading.rest

/-- The token that comes next. -/
def peek : Read Token := do
  match (← get).peeked with
  | some token => pure token
  | none =>
    let reading ← get
    let token ← scan (reading.rest.length + (reading.others.map fun other => other.2.length + 1).foldl (· + ·) 0 + 1)
    modify fun reading => { reading with peeked := some token }
    pure token

/-- Go on behind the token that comes next. -/
def advance : Read Unit := do
  let _ ← peek
  modify fun reading => { reading with peeked := none }

/-- Take the next token if it is a sign. -/
def accept (sign : String) : Read Bool := do
  if (← peek).isSign sign then
    advance
    pure true
  else pure false

/-- Complain about the token that comes next, which is out of place. -/
def refuse {α : Type} : Read α := do
  let token ← peek
  let reading ← get
  let line := reading.tokenLine
  let closesParen := token.endsStatement || match token with
    | .finished => true
    | _ => false
  let closesBrace := token.isWord "BEGIN" || token.isWord "END" || match token with
    | .finished => true
    | _ => false
  match token with
  | .stray c =>
    note (decimal line ++ ": unexpected character '".toList ++ [c] ++ ['\''])
    throw .token
  | .badNumber written => complain ("syntax error in decimal constant ".toList ++ written)
  | _ =>
    if 0 < reading.parens && closesParen then
      note ((← place line) ++ "missing ) near ".toList ++ token.shown)
      modify fun reading => { reading with parens := 0 }
    else if 0 < reading.braces && closesBrace then
      note ((← place line) ++ "missing \x7d near ".toList ++ token.shown)
      modify fun reading => { reading with braces := 0 }
    else complain ("syntax error at or near ".toList ++ token.shown)
  throw .token

/-- Take a sign that has to come next. -/
def expect (sign : String) : Read Unit := do
  if !(← accept sign) then refuse

/-- Take the end of a statement, which has to come next. -/
def expectEnd : Read Unit := do
  let token ← peek
  match token with
  | .newline => advance
  | .semicolon _ => advance
  | _ => refuse
  modify fun reading => { reading with printing := false }

end Read

end AnswerQuery.Host.Tool.Report
