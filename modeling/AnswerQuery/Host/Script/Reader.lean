import AnswerQuery.Host.Script.Command

/-! Reading scripts character by character: where the characters come from, and what the smallest parts are. -/

namespace AnswerQuery.Host.Script

/-- A word that has a meaning of its own where a command begins. -/
inductive Keyword where
  | negation
  | choice
  | choiceEnd
  | each
  | among
  | condition
  | consequence
  | otherCondition
  | otherwise
  | conditionEnd
  | whileTest
  | untilTest
  | body
  | bodyEnd
  | group
  | groupEnd
  | decision
  | function
  deriving DecidableEq, Repr

namespace Keyword

/-- The keywords that all shells have in common, and how they are written. -/
def usual : List (Raw × Keyword) :=
  [(['!'], negation), ("case".toList, choice), ("esac".toList, choiceEnd), ("for".toList, each),
    ("in".toList, among), ("if".toList, condition), ("then".toList, consequence), ("elif".toList, otherCondition),
    ("else".toList, otherwise), ("fi".toList, conditionEnd), ("while".toList, whileTest), ("until".toList, untilTest),
    ("do".toList, body), ("done".toList, bodyEnd), (['{'], group), (['}'], groupEnd)]

/-- The keywords of a dialect and how they are written. -/
def spellings : Dialect → List (Raw × Keyword)
  | .plain => usual
  | .rich => usual ++ [("[[".toList, decision), ("function".toList, function)]

/-- How a keyword is written. -/
def spelling (keyword : Keyword) : Raw :=
  (((spellings .rich).find? fun pair => pair.2 == keyword).map Prod.fst).getD []

/-- The keyword that a text is. -/
def ofText? (dialect : Dialect) (text : Raw) : Option Keyword :=
  (spellings dialect).lookup text

end Keyword

/-- A smallest part of a script. -/
inductive Token where
  | endOfFile
  | newline
  | semicolon
  | ampersand
  | and
  | or
  | bar
  /-- A bar behind which errors are read as well. -/
  | barBoth
  | left
  | right
  | doubleSemicolon
  /-- The next arm follows. -/
  | semicolonFalls
  /-- The next arm that fits follows. -/
  | semicolonGoesOn
  | redirection
  | word
  | keyword (keyword : Keyword)
  deriving DecidableEq, Repr

namespace Token

/-- What a token is called in a complaint. -/
def title : Token → Raw
  | endOfFile => "end of file".toList
  | newline => "newline".toList
  | semicolon => "\";\"".toList
  | ampersand => "\"&\"".toList
  | and => "\"&&\"".toList
  | or => "\"||\"".toList
  | bar => "\"|\"".toList
  | barBoth => "\"|&\"".toList
  | left => "\"(\"".toList
  | right => "\")\"".toList
  | doubleSemicolon => "\";;\"".toList
  | semicolonFalls => "\";&\"".toList
  | semicolonGoesOn => "\";;&\"".toList
  | redirection => "redirection".toList
  | word => "word".toList
  | keyword k => '"' :: k.spelling ++ ['"']

/-- Whether a list of commands ends before a token. -/
def endsList : Token → Bool
  | endOfFile => true
  | right => true
  | doubleSemicolon => true
  | semicolonFalls => true
  | semicolonGoesOn => true
  | keyword k => [Keyword.body, .bodyEnd, .otherCondition, .otherwise, .choiceEnd, .conditionEnd, .consequence, .groupEnd].contains k
  | _ => false

end Token

/-- What is looked out for when the next token is read. -/
structure Watch where
  /-- Ends of lines are skipped. -/
  newlines : Bool := false
  /-- Keywords are recognized. -/
  keywords : Bool := false
  /-- Words that stand for other texts are replaced. -/
  aliases : Bool := false
  /-- The next word ends a document. -/
  ending : Bool := false
  deriving DecidableEq, Repr

namespace Watch

/-- For a command after the ends of lines. -/
def command : Watch := { newlines := true, keywords := true, aliases := true }

/-- For a command on the same line. -/
def sameLine : Watch := { keywords := true, aliases := true }

/-- For all that two look out for. -/
def union (first second : Watch) : Watch where
  newlines := first.newlines || second.newlines
  keywords := first.keywords || second.keywords
  aliases := first.aliases || second.aliases
  ending := first.ending || second.ending

end Watch

/-- A text that is read before what follows. -/
structure Pushed where
  /-- What is left of it. -/
  text : Raw
  /-- The word that it stands for, if it stands for one. -/
  name : Option Raw
  /-- Whether it ended with a blank, so that the next word may stand for another text too. -/
  endsBlank : Bool
  /-- The words that were still being read when this was put in front. -/
  lingering : List Raw := []

/-- A document that has been announced. -/
structure Announced where
  /-- Its number. -/
  number : Nat
  /-- The line that ends it. -/
  ending : Raw
  /-- Whether tabs at the start of its lines are dropped. -/
  dropsTabs : Bool
  /-- Whether it is expanded. -/
  expands : Bool

/-- A reader of a script. -/
structure Reader where
  /-- The dialect of the script. -/
  dialect : Dialect := .plain
  /-- The texts that are read first. -/
  pushed : List Pushed := []
  /-- The words whose texts have just come to their end; they stand for nothing until the next character is read. -/
  lingering : List Raw := []
  /-- What is left of the script as far as it is known. -/
  text : Raw
  /-- Whether nothing follows. -/
  complete : Bool
  /-- The line. -/
  line : Nat
  /-- The words that stand for texts. -/
  aliases : List (Raw × Raw)
  /-- The last token. -/
  last : Token := .newline
  /-- Whether the last token is to be read again. -/
  again : Bool := false
  /-- What is looked out for. -/
  watch : Watch := {}
  /-- The last word. -/
  word : Word := []
  /-- Whether there were quotes in it. -/
  quoted : Bool := false
  /-- The descriptor of the last redirection and how it is redirected; the number of a document is not yet known. -/
  redirection : Nat × Way := (0, .input)
  /-- Whether the document of the last redirection drops tabs. -/
  dropsTabs : Bool := false
  /-- Whether the last redirection is one of the errors as well. -/
  redirectsBoth : Bool := false
  /-- The documents that have been announced, in order. -/
  announced : List Announced := []
  /-- How many documents have been announced in all. -/
  documentCount : Nat
  /-- Whether there are choices in words. -/
  choices : Bool := false
  /-- The documents that have been read, each with its number. -/
  documents : List (Nat × Word) := []

/-- Why a script cannot be read. -/
inductive Fault where
  /-- More of it has to be known. -/
  | starved
  /-- It makes no sense: on which line, and whether that line is shown. -/
  | wrong (line : Nat) (message : Raw) (shown : Bool)

/-- A part of the reading of a script. -/
abbrev Parse := StateT Reader (Except Fault)

namespace Parse

/-- How often something is repeated at most. -/
def patience : Nat := 1000000000

/-- Refuse the script. -/
def wrong {α : Type} (message : String) : Parse α := do
  let reader ← get
  let front := if reader.dialect == .rich then "syntax error: " else "Syntax error: "
  throw (.wrong reader.line (front.toList ++ message.toList) (reader.dialect == .rich))

/-- Refuse the script because it ends before a character that has to follow what began on a line. -/
def unmatched {α : Type} (line : Nat) (c : Char) (message : String) : Parse α := do
  let reader ← get
  if reader.dialect == .rich then
    throw (.wrong line ("unexpected EOF while looking for matching \x60".toList ++ [c, '\'']) false)
  wrong message

/-- Repeat a step on a state until it leads to a result. -/
def iterate {σ α : Type} (step : σ → Parse (σ ⊕ α)) : Nat → σ → Parse α
  | 0, _ => wrong "endless"
  | times + 1, state => do
    match ← step state with
    | .inl state => iterate step times state
    | .inr result => pure result

/-- Repeat a step on a state until it leads to a result, with patience. -/
def loop {σ α : Type} (state : σ) (step : σ → Parse (σ ⊕ α)) : Parse α :=
  iterate step patience state

/-- How the last token is written. -/
def lastText (reader : Reader) : Raw :=
  match reader.last with
  | .newline => "newline".toList
  | .word => Word.unquoted reader.word
  | .redirection =>
    match reader.redirection.2 with
    | .append => ">>".toList
    | .output => ['>']
    | .same => if reader.redirection.1 = 0 then "<&".toList else ">&".toList
    | .document .. => "<<".toList
    | .line => "<<<".toList
    | _ => ['<']
  | .keyword keyword => keyword.spelling
  | token => (token.title.drop 1).dropLast

/-- Refuse a token in the rich dialect. -/
def unexpectedRichly {α : Type} (reader : Reader) : Parse α :=
  match reader.last with
  | .endOfFile => throw (.wrong (reader.line + 1) "syntax error: unexpected end of file".toList false)
  | last =>
    let line := if last == .newline then reader.line - 1 else reader.line
    throw (.wrong line ("syntax error near unexpected token \x60".toList ++ lastText reader ++ ['\'']) true)

/-- Refuse a token; another one may be expected. -/
def unexpected {α : Type} (expected : Option Token) : Parse α := do
  let reader ← get
  if reader.dialect == .rich then unexpectedRichly reader
  let wanted := match expected with
    | some token => " (expecting ".toList ++ token.title ++ [')']
    | none => []
  throw (.wrong reader.line ("Syntax error: ".toList ++ reader.last.title ++ " unexpected".toList ++ wanted) false)

/-- Take the next character of the texts that are read first; those that are used up are dropped. -/
def takePushed (reader : Reader) : List Pushed → Option Char × Reader
  | [] => (none, { reader with pushed := [] })
  | first :: others =>
    match first.text with
    | c :: rest => (some c, { reader with pushed := { first with text := rest } :: others })
    | [] =>
      let aliases := reader.watch.aliases || (first.name.isSome && first.endsBlank)
      takePushed { reader with
        watch := { reader.watch with aliases }, lingering := first.name.toList ++ first.lingering } others

/-- The next character; none at the end. -/
def next : Parse (Option Char) := do
  let before ← get
  match takePushed { before with lingering := [] } before.pushed with
  | (some c, reader) =>
    set reader
    pure (some c)
  | (none, reader) =>
    match reader.text with
    | c :: rest =>
      set { reader with text := rest }
      pure (some c)
    | [] =>
      if reader.complete then
        set reader
        pure none
      else throw .starved

/-- Let a character be read again. -/
def unread : Option Char → Parse Unit
  | none => pure ()
  | some c => modify fun reader =>
    match reader.pushed with
    | first :: others => { reader with pushed := { first with text := c :: first.text } :: others }
    | [] => { reader with text := c :: reader.text }

/-- Count a line. -/
def countLine : Parse Unit :=
  modify fun reader => { reader with line := reader.line + 1 }

/-- The next character behind lines that are continued. -/
def nextJoined : Parse (Option Char) :=
  loop () fun () => do
    let c ← next
    if c != some '\\' then return .inr c
    let d ← next
    if d != some '\n' then
      unread d
      return .inr c
    countLine
    pure (.inl ())

/-- Look out for something when the next token is read. -/
def watchFor (watch : Watch) : Parse Unit :=
  modify fun reader => { reader with watch }

/-- Let the last token be read again. -/
def putBack : Parse Unit :=
  modify fun reader => { reader with again := true }

/-- Make a token the last one. -/
def found (last : Token) : Parse Token := do
  modify fun reader => { reader with last }
  pure last

/-- One token if a character follows again, and another one if not. -/
def doubled (c : Char) (twice once : Token) : Parse Token := do
  let d ← nextJoined
  if d == some c then found twice
  else
    unread d
    found once

/-- Whether a character follows, which is passed over then. -/
def follows (c : Char) : Parse Bool := do
  let d ← nextJoined
  if d == some c then pure true
  else
    unread d
    pure false

/-- Whether a character follows where that matters, which is passed over then. -/
def followsIf (matters : Bool) (c : Char) : Parse Bool :=
  if matters then follows c else pure false

/-- Read what follows an ampersand. -/
def readAmpersand (rich : Bool) : Parse Token := do
  if ← followsIf rich '>' then
    let appends ← follows '>'
    modify fun reader => { reader with
      redirection := (1, if appends then .append else .output), dropsTabs := false, redirectsBoth := true }
    found .redirection
  else doubled '&' .and .ampersand

/-- Read what follows a bar. -/
def readBar (rich : Bool) : Parse Token := do
  if ← followsIf rich '&' then found .barBoth else doubled '|' .or .bar

/-- Read what follows a semicolon. -/
def readSemicolon (rich : Bool) : Parse Token := do
  if ← followsIf rich '&' then found .semicolonFalls
  else
    let token ← doubled ';' .doubleSemicolon .semicolon
    if ← followsIf (rich && token == .doubleSemicolon) '&' then found .semicolonGoesOn else pure token

/-- The next token, whatever is looked out for; words are read by another reader. -/
def rawToken (readWord : Option Char → Parse Token) : Parse Token := do
  let reader ← get
  if reader.again then
    set { reader with again := false }
    return reader.last
  loop () fun () => do
    let c ← nextJoined
    match c with
    | some ' ' => pure (.inl ())
    | some '\t' => pure (.inl ())
    | some '#' =>
      let after ← loop () fun () => do
        let d ← next
        pure (if d == some '\n' || d.isNone then .inr d else .inl ())
      unread after
      pure (.inl ())
    | some '\n' =>
      countLine
      let token ← found .newline
      pure (.inr token)
    | none =>
      let token ← found .endOfFile
      pure (.inr token)
    | some '&' =>
      let token ← readAmpersand (reader.dialect == .rich)
      pure (.inr token)
    | some '|' =>
      let token ← readBar (reader.dialect == .rich)
      pure (.inr token)
    | some ';' =>
      let token ← readSemicolon (reader.dialect == .rich)
      pure (.inr token)
    | some '(' =>
      let token ← found .left
      pure (.inr token)
    | some ')' =>
      let token ← found .right
      pure (.inr token)
    | some d =>
      let token ← readWord (some d)
      pure (.inr token)

/-- The text that a word stands for, unless it is just being read. -/
def alias? (reader : Reader) (name : Raw) : Option Raw :=
  let isRead := reader.lingering.contains name ||
    reader.pushed.any fun pushed => pushed.name == some name || pushed.lingering.contains name
  if isRead then none else reader.aliases.lookup name

/-- The next token, given how words and documents are read. -/
def tokenWith (readWord : Option Char → Parse Token) (readDocuments : Parse Unit) : Parse Token := do
  let watch := (← get).watch
  loop watch fun watch => do
    let token ← rawToken readWord
    let token ← if !watch.newlines then pure token
      else loop token fun token => do
        if token != Token.newline then return .inr token
        readDocuments
        watchFor {}
        let token ← rawToken readWord
        pure (.inl token)
    let reader ← get
    let watch := watch.union reader.watch
    set { reader with watch := {} }
    if token != Token.word || reader.quoted then return .inr token
    match Word.plainText? reader.word with
    | none => pure (.inr token)
    | some text =>
      match (if watch.keywords then Keyword.ofText? reader.dialect text else none) with
      | some keyword =>
        let token ← found (.keyword keyword)
        pure (.inr token)
      | none =>
        match (if watch.aliases then alias? reader text else none) with
        | none => pure (.inr token)
        | some value =>
          if !value.isEmpty then
            let endsBlank := value.getLast? == some ' ' || value.getLast? == some '\t'
            modify fun reader => { reader with
              pushed := ⟨value, some text, endsBlank, reader.lingering⟩ :: reader.pushed, lingering := [] }
          pure (.inl watch)

end Parse

end AnswerQuery.Host.Script
