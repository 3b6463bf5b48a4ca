import AnswerQuery.Host.Script.Spelling

/-! Reading commands from tokens. -/

namespace AnswerQuery.Host.Script

namespace Parse

/-- The names of the commands that set the shell itself; no function has such a name. -/
def specialNames : List Raw :=
  [":", ".", "break", "continue", "eval", "exec", "exit", "export", "local", "readonly", "return", "set", "shift",
    "times", "trap", "unset"].map String.toList

/-- Read a token that has to be a certain one. -/
def expect (inner : Inner) (expected : Token) : Parse Unit := do
  if (← token inner) != expected then unexpected (some expected)

/-- Whether a word behind a sign that copies a descriptor names a file. -/
def namesFile (word : Word) : Bool :=
  match word with
  | .plain c :: _ => !c.isDigit && c != '-'
  | .escaped _ :: _ => true
  | _ => false

/-- Read where a redirection leads to; the errors may be redirected as well. -/
def readTarget (inner : Inner) : Parse (List Redirection) := do
  let (descriptor, way) := (← get).redirection
  let isDocument := way matches .document ..
  if isDocument then watchFor { ending := true }
  if (← token inner) != .word then unexpected none
  let reader ← get
  match way with
  | .document .. =>
    let number := reader.documentCount
    let expands := !reader.quoted
    set { reader with
      documentCount := number + 1
      announced := reader.announced ++ [Announced.mk number (Word.unquoted reader.word) reader.dropsTabs expands] }
    pure [.mk descriptor (.document number expands) []]
  | _ =>
    let errors : Redirection := .mk 2 .same [.plain '1']
    if reader.redirectsBoth then pure [.mk descriptor way reader.word, errors]
    else if reader.dialect == .rich && way == .same && descriptor = 1 && namesFile reader.word then
      pure [.mk 1 .output reader.word, errors]
    else pure [.mk descriptor way reader.word]

/-- Read redirections as long as there are any. -/
def readTargets (inner : Inner) : Parse (List Redirection) := do
  watchFor .sameLine
  let targets ← loop ([] : List Redirection) fun targets => do
    if (← token inner) == .redirection then
      let target ← readTarget inner
      pure (.inl (targets ++ target))
    else
      putBack
      pure (.inr targets)
  pure targets

/-- The words that a command is read from. -/
structure Gathered where
  /-- The variables that are set, the last one first. -/
  settings : List Word := []
  /-- The words, the last one first. -/
  words : List Word := []
  /-- The redirections. -/
  redirections : List Redirection := []

/-- Read a function whose name and whose opening parenthesis have been read. -/
def readDefinition (inner : Inner) (name : Word) : Parse Command := do
  expect inner .right
  let rich := (← get).dialect == .rich
  match Word.plainText? name with
  | some text =>
    if !rich && (!Raw.isName text || specialNames.contains text) then wrong "Bad function name"
    watchFor .command
    let line := (← get).line
    let body ← inner.command
    pure (.definition line text body)
  | none => wrong "Bad function name"

/-- Read a command that is made up of words. -/
def readSimple (inner : Inner) : Parse Command := do
  let line := (← get).line
  let dialect := (← get).dialect
  loop ({} : Gathered) fun gathered => do
    watchFor { aliases := gathered.words.isEmpty }
    let finished : Command :=
      .simple line gathered.settings.reverse gathered.words.reverse gathered.redirections
    match ← token inner with
    | .word => do
      let word := (← get).word
      if gathered.words.isEmpty && Word.isSetting dialect word then
        pure (.inl { gathered with settings := word :: gathered.settings })
      else pure (.inl { gathered with words := word :: gathered.words })
    | .redirection => do
      let target ← readTarget inner
      pure (.inl { gathered with redirections := gathered.redirections ++ target })
    | .left =>
      match gathered.settings, gathered.words, gathered.redirections with
      | [], [name], [] => do
        let definition ← readDefinition inner name
        pure (.inr definition)
      | _, _, _ => do
        putBack
        pure (.inr finished)
    | _ => do
      putBack
      pure (.inr finished)

/-- Read the rest of a condition: what follows its test, and what if it does not hold. -/
def readCondition (inner : Inner) : Nat → Parse Command
  | 0 => unexpected none
  | depth + 1 => do
    let test ← inner.list .some
    expect inner (.keyword .consequence)
    let body ← inner.list .some
    let otherwise ← match ← token inner with
      | .keyword .otherCondition => some <$> readCondition inner depth
      | .keyword .otherwise => inner.list .some
      | _ => do putBack; pure none
    pure (.conditional (test.getD .nothing) (body.getD .nothing) otherwise)

/-- Read the words that a loop goes through. -/
def readValues (inner : Inner) : Parse (List Word) := do
  watchFor .command
  if (← token inner) == .keyword .among then
    let words ← loop ([] : List Word) fun words => do
      if (← token inner) == .word then
        let word := (← get).word
        pure (.inl (word :: words))
      else pure (.inr words.reverse)
    let last := (← get).last
    if last != .newline && last != .semicolon then unexpected none
    pure words
  else
    if (← get).last != .semicolon then putBack
    pure [Word.allArguments]

/-- Read the patterns of an arm of a choice. -/
def readPatterns (inner : Inner) : Parse (List Word) := do
  if (← get).last == .left then
    let _ ← token inner
  loop ([] : List Word) fun patterns => do
    let patterns := (← get).word :: patterns
    if (← token inner) == .bar then
      let _ ← token inner
      pure (.inl patterns)
    else
      if (← get).last != .right then unexpected (some .right)
      pure (.inr patterns.reverse)

/-- Read the arms of a choice. -/
def readArms (inner : Inner) : Parse (List Arm) := do
  let watch : Watch := { newlines := true, keywords := true }
  loop ([] : List Arm) fun arms => do
    watchFor watch
    if (← token inner) == .keyword .choiceEnd then return .inr arms.reverse
    let patterns ← readPatterns inner
    let body ← inner.list .any
    let arm := fun (sequel : Sequel) => Arm.mk patterns (body.getD .nothing) sequel
    watchFor watch
    match ← token inner with
    | .keyword .choiceEnd => pure (.inr (arm .leaves :: arms).reverse)
    | .doubleSemicolon => pure (.inl (arm .leaves :: arms))
    | .semicolonFalls => pure (.inl (arm .falls :: arms))
    | .semicolonGoesOn => pure (.inl (arm .goesOn :: arms))
    | _ => unexpected (some .doubleSemicolon)

/-- A command for which redirections hold. -/
def withTargets (line : Nat) (command : Command) (targets : List Redirection) : Command :=
  match targets, command with
  | [], _ => command
  | _, .subshell line body _ => .subshell line body targets
  | _, _ => .redirected line command targets

/-- Pass over blanks. -/
def skipBlanks : Parse Unit :=
  loop () fun () => do
    let c ← nextJoined
    if c == some ' ' || c == some '\t' then pure (.inl ())
    else
      unread c
      pure (.inr ())

/-- Read a formula behind its two opening parentheses up to the two that close it; nothing if there are no such. -/
def readFormula (inner : Inner) : Parse (Option Word) := do
  let frame : Frame := { setting := .formula, doubleQuoted := true }
  loop ({ frame, outer := [{ setting := .base }] } : Spelled) fun spelled => do
    let c ← next
    match c with
    | none => pure (.inr none)
    | some d =>
      let isOutermost := spelled.outer.length = 1 && spelled.frame.setting == .formula
      if d == ')' && isOutermost && spelled.frame.parentheses = 0 then
        pure (.inr (if ← follows ')' then some spelled.pieces.reverse else none))
      else match ← readCharacter inner closingToken none d spelled with
        | some spelled => pure (.inl spelled)
        | none => pure (.inr none)

/-- Cut a formula at its semicolons. -/
def cutFormula : Word → List Word
  | [] => [[]]
  | .plain ';' :: rest => [] :: cutFormula rest
  | piece :: rest =>
    match cutFormula rest with
    | first :: others => (piece :: first) :: others
    | [] => [[piece]]

/-- Read the next token of a condition. -/
def decisionToken (inner : Inner) : Parse Token := do
  watchFor { newlines := true }
  token inner

/-- Whether the last token is a word that is written so. -/
def isWritten (text : String) : Parse Bool := do
  let reader ← get
  pure (reader.last == .word && !reader.quoted && Word.plainText? reader.word == some text.toList)

/-- The operators of conditions that test what follows. -/
def singleOperators : List Raw :=
  "abcdefghknoprstuvwxzGLNORS".toList.map fun letter => ['-', letter]

/-- The operators of conditions that test what they stand between. -/
def doubleOperators : List Raw :=
  ["=", "==", "!=", "=~", "-eq", "-ne", "-ge", "-gt", "-le", "-lt", "-nt", "-ot", "-ef"].map String.toList

/-- The operator that the last token is, if it is one that tests what it stands between. -/
def doubleOperator? : Parse (Option Raw) := do
  let reader ← get
  match reader.last, reader.redirection with
  | .redirection, (0, .input) => pure (some ['<'])
  | .redirection, (1, .output) => pure (some ['>'])
  | .word, _ => pure ((Word.plainText? reader.word).filter fun text => !reader.quoted && doubleOperators.contains text)
  | _, _ => pure none

/-- Refuse the last token of a condition, for a reason if there is more to say. -/
def refuseDecision {α : Type} (reason : String) : Parse α := do
  let reader ← get
  let last := lastText reader
  let front := if reason.isEmpty then [] else reason.toList.flatMap (fun c => if c == '_' then last else [c]) ++ ['\n']
  throw (.wrong reader.line (front ++ "syntax error near \x60".toList ++ last ++ ['\'']) true)

/-- Read the word behind an operator of a condition. -/
def readOperand (inner : Inner) (operator : Raw) : Parse Word := do
  if operator == "=~".toList then
    skipBlanks
    let first ← nextJoined
    let _ ← spell inner closingToken none { setting := .base, ofExpression := true } first
  else
    let choices := (← get).choices
    modify fun reader => { reader with choices := choices || ["=", "==", "!="].contains (String.ofList operator) }
    let _ ← decisionToken inner
    modify fun reader => { reader with choices }
  if (← get).last != .word || (← isWritten "]]") then
    if (← get).last == .endOfFile then unexpected none
    refuseDecision (if singleOperators.contains operator then
      "unexpected argument \x60_' to conditional unary operator"
      else "unexpected argument \x60_' to conditional binary operator")
  pure (← get).word

/-- Read a test of a condition that begins with a word. -/
def readTest (inner : Inner) : Parse Decision := do
  let reader ← get
  let word := reader.word
  match (Word.plainText? word).filter fun text => !reader.quoted && singleOperators.contains text with
  | some operator => do
    let operand ← readOperand inner operator
    pure (.single operator operand)
  | none => do
    let _ ← token inner
    match ← doubleOperator? with
    | some operator => do
      let second ← readOperand inner operator
      pure (.double operator word second)
    | none => do
      let last := (← get).last
      if last == .and || last == .or || last == .right || (← isWritten "]]") then
        putBack
        pure (.single "-n".toList word)
      else if last == .newline then
        let _ ← decisionToken inner
        putBack
        pure (.single "-n".toList word)
      else if last == .word then refuseDecision "conditional binary operator expected"
      else if last == .endOfFile then unexpected none
      else refuseDecision "unexpected token \x60_', conditional binary operator expected"

/-- What a condition is made of, for reading it to a depth. -/
structure DecisionReader where
  /-- Read what one of has to hold. -/
  either : Parse Decision

/-- Read a part of a condition that has no operators around it. -/
def readFactor (inner : Inner) (below : DecisionReader) : Nat → Parse Decision
  | 0 => unexpected none
  | steps + 1 => do
    let first ← decisionToken inner
    if first == .left then
      let body ← below.either
      if (← decisionToken inner) != .right then
        if (← get).last == .endOfFile then unexpected none
        refuseDecision "unexpected token \x60_', expected \x60)'"
      pure body
    else if first != .word || (← isWritten "]]") then
      if (← get).last == .endOfFile then unexpected none
      refuseDecision (if first == .word then "" else "unexpected token \x60_' in conditional command")
    else if ← isWritten "!" then .negated <$> readFactor inner below steps
    else readTest inner

/-- Read parts of a condition that are joined by a token. -/
def readJoined (inner : Inner) (joint : Token) (join : Decision → Decision → Decision) (part : Parse Decision) :
    Parse Decision := do
  let first ← part
  loop [first] fun parts => do
    if (← decisionToken inner) == joint then
      let next ← part
      pure (.inl (next :: parts))
    else
      putBack
      pure (.inr (match parts with
        | [] => first
        | last :: before => before.foldl (fun after part => join part after) last))

/-- How conditions are read, to a depth of parentheses. -/
def decisionTo (inner : Inner) : Nat → DecisionReader
  | 0 => ⟨unexpected none⟩
  | depth + 1 =>
    let below := decisionTo inner depth
    ⟨readJoined inner .or .either (readJoined inner .and .both (readFactor inner below patience))⟩

/-- Read a condition in double brackets. -/
def readDecision (inner : Inner) : Parse Decision := do
  let condition ← (decisionTo inner 1000).either
  let _ ← decisionToken inner
  if ← isWritten "]]" then pure condition
  else
    if (← get).last == .endOfFile then unexpected none
    let isWord := (← get).last == .word
    refuseDecision ("syntax error in conditional expression" ++ (if isWord then "" else ": unexpected token \x60_'"))

/-- Read the body of a loop. -/
def readBody (inner : Inner) : Parse Command := do
  watchFor .command
  let rich := (← get).dialect == .rich
  let isGroup := (← token inner) == .keyword .group && rich
  if !isGroup && (← get).last != .keyword .body then unexpected (some (.keyword .body))
  let body ← inner.list .some
  expect inner (.keyword (if isGroup then .groupEnd else .bodyEnd))
  pure (body.getD .nothing)

/-- Read a loop that formulas govern, behind their opening parentheses. -/
def readCounted (inner : Inner) (line : Nat) : Parse Command := do
  match ← readFormula inner with
  | none => unexpected none
  | some formula =>
    match cutFormula formula with
    | [start, test, step] => do
      watchFor .sameLine
      if (← token inner) != .semicolon then putBack
      let body ← readBody inner
      pure (.counted line start test step body)
    | _ => do
      let reader ← get
      throw (.wrong reader.line "syntax error: arithmetic expression required".toList false)

/-- Read a function whose keyword has been read. -/
def readNamedDefinition (inner : Inner) : Parse Command := do
  expect inner .word
  let name := (← get).word
  watchFor {}
  if (← token inner) == .left then expect inner .right else putBack
  watchFor .command
  let line := (← get).line
  let body ← inner.command
  pure (.definition line (Word.unquoted name) body)

/-- Read one command. -/
def commandWith (inner : Inner) : Parse Command := do
  let line := (← get).line
  let rich := (← get).dialect == .rich
  let closed := fun (command : Command) (last : Token) => do
    expect inner last
    let targets ← readTargets inner
    pure (withTargets line command targets)
  match ← token inner with
  | .keyword .condition => do
    let command ← readCondition inner patience
    closed command (.keyword .conditionEnd)
  | .keyword .whileTest => do
    let test ← inner.list .some
    expect inner (.keyword .body)
    let body ← inner.list .some
    closed (.repeated false (test.getD .nothing) (body.getD .nothing)) (.keyword .bodyEnd)
  | .keyword .untilTest => do
    let test ← inner.list .some
    expect inner (.keyword .body)
    let body ← inner.list .some
    closed (.repeated true (test.getD .nothing) (body.getD .nothing)) (.keyword .bodyEnd)
  | .keyword .each => do
    if rich then
      skipBlanks
      let before ← get
      if (← follows '(') && (← follows '(') then
        let command ← readCounted inner line
        let targets ← readTargets inner
        return withTargets line command targets
      set before
    let first ← token inner
    let reader ← get
    match (if first == .word && !reader.quoted then Word.plainText? reader.word else none) with
    | none => wrong "Bad for loop variable"
    | some name =>
      if !Raw.isName name then wrong "Bad for loop variable"
      let words ← readValues inner
      let body ← readBody inner
      let targets ← readTargets inner
      pure (withTargets line (.each line name words body) targets)
  | .keyword .choice => do
    expect inner .word
    let word := (← get).word
    watchFor .command
    expect inner (.keyword .among)
    let arms ← readArms inner
    let targets ← readTargets inner
    pure (withTargets line (.choice line word arms) targets)
  | .left => do
    let before ← get
    let formula ← if ← followsIf rich '(' then readFormula inner else pure none
    match formula with
    | some formula => do
      let targets ← readTargets inner
      pure (withTargets line (.calculation line formula) targets)
    | none => do
      set before
      let body ← inner.list .some
      closed (.subshell line (body.getD .nothing) []) .right
  | .keyword .decision => do
    let condition ← readDecision inner
    let targets ← readTargets inner
    pure (withTargets line (.decision line condition) targets)
  | .keyword .function => readNamedDefinition inner
  | .keyword .group => do
    let body ← inner.list .some
    closed (body.getD .nothing) (.keyword .groupEnd)
  | .word => do
    putBack
    readSimple inner
  | .redirection => do
    putBack
    readSimple inner
  | _ => unexpected none

/-- A command whose errors go where its output goes. -/
def withErrors : Command → Command
  | .simple line settings words redirections =>
    .simple line settings words (redirections ++ [.mk 2 .same [.plain '1']])
  | .redirected line body redirections => .redirected line body (redirections ++ [.mk 2 .same [.plain '1']])
  | .subshell line body redirections => .subshell line body (redirections ++ [.mk 2 .same [.plain '1']])
  | command => .redirected 0 command [.mk 2 .same [.plain '1']]

/-- Read commands that are joined by pipes. -/
def readPipeline (inner : Inner) : Parse Command := do
  let negated := (← token inner) == .keyword .negation
  if negated then watchFor .sameLine else putBack
  let first ← commandWith inner
  let commands ← loop [first] fun commands => do
    let last ← token inner
    if last == .bar || last == .barBoth then
      watchFor .command
      let command ← commandWith inner
      let before := if last == .bar then commands else commands.take 1 |>.map withErrors |>.append (commands.drop 1)
      pure (.inl (command :: before))
    else
      putBack
      pure (.inr commands.reverse)
  let command := if commands.length = 1 then first else .pipeline true commands
  pure (if negated then .negated command else command)

/-- Read pipelines of which the next one depends on the last one. -/
def readAndOr (inner : Inner) : Parse Command := do
  let first ← readPipeline inner
  loop first fun first => do
    match ← token inner with
    | .and => do
      watchFor .command
      let second ← readPipeline inner
      pure (.inl (.both first second))
    | .or => do
      watchFor .command
      let second ← readPipeline inner
      pure (.inl (.either first second))
    | _ => do
      putBack
      pure (.inr first)

/-- A command that is not waited for. -/
def inBackground (line : Nat) : Command → Command
  | .pipeline _ commands => .pipeline false commands
  | .redirected line body targets => .background line body targets
  | .subshell line body targets => .background line (.subshell line body targets) []
  | command => .background line command []

/-- A command after those that were read before, if there are any. -/
def after (before : Option Command) (command : Command) : Command :=
  match before with
  | none => command
  | some first => .sequence first command

/-- Read a list of commands; none at the end of the script. -/
def listWith (inner : Inner) (listing : Listing) : Parse (Option Command) := do
  let newlines := listing != .line
  let ended := fun (before : Option Command) => do
    spellDocuments inner closingToken
    putBack
    let _ ← found .endOfFile
    pure (if before.isNone && newlines then some .nothing else before)
  loop ((none : Option Command), listing == .any) fun (before, mayEnd) => do
    watchFor { Watch.sameLine with newlines }
    let first ← token inner
    match first with
    | .newline => do
      spellDocuments inner closingToken
      pure (.inr (some (before.getD .nothing)))
    | .endOfFile => .inr <$> ended before
    | _ => do
      putBack
      if newlines && mayEnd && first.endsList then
        pure (.inr (some (before.getD .nothing)))
      else
        let line := (← get).line
        let command ← readAndOr inner
        let last ← token inner
        let list := after before (if last == .ampersand then inBackground line command else command)
        match last with
        | .endOfFile => .inr <$> ended (some list)
        | .newline => do
          putBack
          pure (.inl (some list, true))
        | .ampersand => pure (.inl (some list, true))
        | .semicolon => pure (.inl (some list, true))
        | _ => do
          if !newlines then unexpected none
          putBack
          pure (.inr (some list))

/-- How deep commands may be inside of others. -/
def deepest : Nat := 2000

/-- How what is inside of something is read, to a depth. -/
def innerTo : Nat → Inner
  | 0 => ⟨fun _ => wrong "too deep", wrong "too deep", wrong "too deep", fun _ _ _ => wrong "too deep"⟩
  | depth + 1 => {
      list := fun listing => listWith (innerTo depth) listing
      command := commandWith (innerTo depth)
      token := token (innerTo depth)
      part := fun quoted pair ends => spellPart (innerTo depth) closingToken quoted pair ends }

/-- Read the commands of a line; none at the end of the script. -/
def readLine : Parse (Option Command) := do
  modify fun reader => { reader with again := false, watch := {}, announced := [] }
  listWith (innerTo deepest) .line

end Parse

end AnswerQuery.Host.Script
