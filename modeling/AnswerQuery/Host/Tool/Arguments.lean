import AnswerQuery.Host.Tool.Options

/-! Arguments put into an order in which a script can go through them: first the options of a grammar, each with its
argument, and then the operands. -/

namespace AnswerQuery.Host.Tool

namespace Arguments

/-- Where operands may stand. -/
inductive Operands where
  /-- They may stand between options, behind which they are put. -/
  | anywhere
  /-- The first one ends the options. -/
  | last
  /-- They may stand between options, and stay there. -/
  | inPlace
  deriving DecidableEq

/-- The options that there are. -/
structure Grammar where
  /-- The letters; one colon behind a letter tells that it has an argument, two that it may have one. -/
  letters : Raw
  /-- The words. -/
  words : List (Raw × Takes)
  /-- Whether words may follow a single minus. -/
  single : Bool
  /-- Where operands may stand. -/
  operands : Operands

/-- What is found among arguments. -/
inductive Event where
  | letter (letter : Char) (takes : Takes) (argument : Option Raw)
  | word (word : Raw) (takes : Takes) (argument : Option Raw)
  | operand (text : Raw)
  /-- Something that makes no sense. -/
  | flaw (message : Raw)

namespace Grammar

/-- Whether a letter has an argument; none if there is no such letter. -/
def takes? (grammar : Grammar) (letter : Char) : Option Takes :=
  if letter == ':' || letter == ';' then none
  else match grammar.letters.dropWhile (· != letter) with
    | [] => none
    | _ :: ':' :: ':' :: _ => some .maybe
    | _ :: ':' :: _ => some .always
    | _ => some .nothing

/-- The words that a text stands for, which may cut them short. -/
def meant (grammar : Grammar) (text : Raw) : List (Raw × Takes) :=
  match grammar.words.find? fun word => word.1 == text with
  | some exact => [exact]
  | none => grammar.words.filter fun word => text.isPrefixOf word.1

/-- Read a word behind one minus or two; none if it is no word. -/
def readWord (grammar : Grammar) (dashes written : Raw) (others : List Raw) : Option (Event × List Raw) :=
  let name := written.takeWhile (· != '=')
  let value := if name.length < written.length then some (written.drop (name.length + 1)) else none
  let flaw := fun (before : String) (text : Raw) (behind : Raw) =>
    some (Event.flaw (before.toList ++ dashes ++ text ++ '\'' :: behind), others)
  match grammar.meant name with
  | [] =>
    if dashes == ['-'] && (written.head?.map fun letter => grammar.letters.contains letter).getD false then none
    else flaw "unrecognized option '" written []
  | [(word, takes)] =>
    match takes, value, others with
    | .nothing, some _, _ => flaw "option '" word " doesn't allow an argument".toList
    | .always, none, value :: others => some (.word word takes (some value), others)
    | .always, none, [] => flaw "option '" word " requires an argument".toList
    | _, value, _ => some (.word word takes value, others)
  | several =>
    flaw "option '" written (" is ambiguous; possibilities:".toList ++
      several.flatMap fun word => " '".toList ++ dashes ++ word.1 ++ ['\''])

/-- Read letters behind a minus. -/
def readLetters (grammar : Grammar) : Raw → List Raw → List Event × List Raw
  | [], others => ([], others)
  | letter :: rest, others =>
    match grammar.takes? letter with
    | none =>
      let (events, others) := grammar.readLetters rest others
      (.flaw ("invalid option -- '".toList ++ [letter, '\'']) :: events, others)
    | some .nothing =>
      let (events, others) := grammar.readLetters rest others
      (.letter letter .nothing none :: events, others)
    | some .maybe => ([.letter letter .maybe (if rest.isEmpty then none else some rest)], others)
    | some .always =>
      match rest, others with
      | [], value :: others => ([.letter letter .always (some value)], others)
      | [], [] => ([.flaw ("option requires an argument -- '".toList ++ [letter, '\''])], [])
      | rest, others => ([.letter letter .always (some rest)], others)

/-- Read an argument that begins with a minus. -/
def readOption (grammar : Grammar) (written : Raw) (others : List Raw) : List Event × List Raw :=
  match written with
  | '-' :: word => match grammar.readWord ['-', '-'] word others with
    | some (event, others) => ([event], others)
    | none => ([], others)
  | letters =>
    let isWord := grammar.single && (1 < letters.length || !(letters.head?.map grammar.letters.contains).getD false)
    match if isWord then grammar.readWord ['-'] letters others else none with
    | some (event, others) => ([event], others)
    | none => grammar.readLetters letters others

/-- Read arguments in so many steps: what is found, and the operands behind it. -/
def read (grammar : Grammar) : Nat → List Raw → List Event × List Raw
  | 0, arguments => ([], arguments)
  | steps + 1, arguments =>
    match arguments with
    | [] => ([], [])
    | ['-', '-'] :: others => ([], others)
    | ('-' :: c :: written) :: others =>
      let (events, others) := grammar.readOption (c :: written) others
      let (more, operands) := grammar.read steps others
      (events ++ more, operands)
    | operand :: others =>
      match grammar.operands with
      | .last => ([], arguments)
      | .anywhere =>
        let (events, operands) := grammar.read steps others
        (events, operand :: operands)
      | .inPlace =>
        let (events, operands) := grammar.read steps others
        (.operand operand :: events, operands)

end Grammar

/-- How arguments are written so that a shell reads them as they are. -/
inductive Quotes where
  | none
  | usual
  /-- For shells to which exclamation marks and blanks are special in quotes. -/
  | strict

/-- A text as it is written. -/
def Quotes.write (quotes : Quotes) (text : Raw) : Raw :=
  let plain := fun (c : Char) => if c == '\'' then "'\\''".toList else [c]
  match quotes with
  | none => text
  | usual => ['\''] ++ text.flatMap plain ++ ['\'']
  | strict =>
    ['\''] ++ text.flatMap (fun c =>
      if c == '\\' then "\\\\".toList
      else if c == '!' then "'\\!'".toList
      else if c == '\n' then "\\n".toList
      else if Raw.isSpace c then "'\\".toList ++ [c, '\'']
      else plain c) ++ ['\'']

/-- What is written for what was found. -/
def Event.write (quotes : Quotes) : Event → Raw
  | letter c takes argument =>
    [' ', '-', c] ++ if takes == .nothing then [] else ' ' :: quotes.write (argument.getD [])
  | word name takes argument =>
    " --".toList ++ name ++ if takes == .nothing then [] else ' ' :: quotes.write (argument.getD [])
  | operand text => ' ' :: quotes.write text
  | flaw _ => []

/-- What is to be done. -/
structure Plan where
  /-- The options. -/
  grammar : Grammar
  /-- How arguments are written. -/
  quotes : Quotes
  /-- What complaints begin with. -/
  name : Raw
  /-- Whether nothing is complained of. -/
  silent : Bool
  /-- Whether nothing is written. -/
  idle : Bool

/-- Write arguments in order. -/
def Plan.run (plan : Plan) (arguments : List Raw) : Act Unit := do
  let (events, operands) := plan.grammar.read (arguments.length + 1) arguments
  for event in events do
    match event with
    | .flaw message => do
      Act.fail 1
      if !plan.silent then Act.report (plan.name ++ ": ".toList ++ message ++ ['\n'])
    | event => if !plan.idle then Act.say (event.write plan.quotes)
  if !plan.idle then
    Act.say " --".toList
    for operand in operands do
      Act.say (' ' :: plan.quotes.write operand)
    Act.say ['\n']

/-- The grammar of letters, which may be led by a sign for where operands may stand. -/
def grammarOf (letters : Raw) (words : List (Raw × Takes)) (single plain : Bool) : Grammar × Bool :=
  let (operands, letters) := match letters with
    | '+' :: rest => (Operands.last, rest)
    | '-' :: rest => (.inPlace, rest)
    | rest => (if plain then .last else .anywhere, rest)
  ({ letters, words, single, operands }, letters.head? == some ':')

/-- Refuse the arguments of the program itself. -/
def refuse {α : Type} (message : String) : Act α := Act.refuse 2 message.toList

/-- Read words for options. -/
def wordsOf (text : Raw) : Act (List (Raw × Takes)) := do
  let mut words : List (Raw × Takes) := []
  for word in (text.splitOnP fun c => c == ',' || c == ' ' || c == '\t' || c == '\n').filter (!List.isEmpty ·) do
    let (name, takes) := match word.reverse with
      | ':' :: ':' :: rest => (rest.reverse, Takes.maybe)
      | ':' :: rest => (rest.reverse, .always)
      | _ => (word, .nothing)
    if name.isEmpty then refuse "empty long option after -l or --long argument"
    words := words ++ [(name, takes)]
  pure words

/-- The shells and how arguments are written for them. -/
def shells : List (String × Quotes) :=
  [("bash", .usual), ("sh", .usual), ("tcsh", .strict), ("csh", .strict)]

/-- The options of the program itself. -/
def known : List Known :=
  [⟨"o", "options", .always⟩, ⟨"l", "longoptions", .always⟩, ⟨"q", "quiet", .nothing⟩, ⟨"Q", "quiet-output", .nothing⟩,
    ⟨"s", "shell", .always⟩, ⟨"T", "test", .nothing⟩, ⟨"u", "unquoted", .nothing⟩, ⟨"h", "help", .nothing⟩,
    ⟨"a", "alternative", .nothing⟩, ⟨"n", "name", .always⟩, ⟨"V", "version", .nothing⟩]

end Arguments

open Arguments in
/-- Put arguments into order. -/
def getopt : Utility := ofAct fun arguments => do
  let bindings : List (Raw × Raw) ← Act.ask .bindings
  let isOld := (bindings.lookup "GETOPT_COMPATIBLE".toList).isSome
  let plain := (bindings.lookup "POSIXLY_CORRECT".toList).isSome
  let name := (← get).name
  match arguments with
  | [] => if isOld then Act.sayLine " --".toList else refuse "missing optstring argument"
  | first :: others =>
    if first.head? != some '-' || isOld then
      let (grammar, silent) := grammarOf (first.dropWhile fun c => c == '-' || c == '+') [] false plain
      { grammar, quotes := .none, name, silent, idle := false : Plan }.run others
    else do
      let invocation ← Act.readOptions 2 known true arguments
      let mut words : List (Raw × Takes) := []
      let mut quotes : Quotes := .usual
      for given in invocation.given do
        let text := given.argument.getD []
        match given.key with
        | "l" => words := words ++ (← wordsOf text)
        | "s" => match shells.find? fun shell => shell.1.toList == text with
          | some (_, shell) => quotes := shell
          | none => refuse "unknown shell after -s or --shell argument"
        | "T" => Act.finish 4
        | _ => pure ()
      let (letters, operands) ← match invocation.argument? "o", invocation.operands with
        | some letters, operands => pure (letters, operands)
        | none, letters :: operands => pure (letters, operands)
        | none, [] => refuse "missing optstring argument"
      let (grammar, silent) := grammarOf letters words (invocation.has "a") plain
      { grammar, quotes := if invocation.has "u" then .none else quotes
        name := (invocation.argument? "n").getD name
        silent := silent || invocation.has "q", idle := invocation.has "Q" : Plan }.run operands

/-- The programs of this kind. -/
def argumentTools : List (String × Utility) :=
  [("getopt", getopt)]

end AnswerQuery.Host.Tool
