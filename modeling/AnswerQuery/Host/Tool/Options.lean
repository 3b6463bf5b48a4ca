import AnswerQuery.Host.Numeral
import AnswerQuery.Host.Tool.Basic

/-! Quotes around texts in complaints. -/

namespace AnswerQuery.Host.Tool

namespace Quote

/-- Whether a character can be shown as it is. -/
def isPrinted (c : Char) : Bool :=
  32 ≤ c.toNat && c.toNat < 127

/-- The letters that stand behind a backslash for characters that cannot be shown. -/
def letters : List (Char × Char) :=
  [('\x07', 'a'), ('\x08', 'b'), ('\x0c', 'f'), ('\n', 'n'), ('\r', 'r'), ('\t', 't'), ('\x0b', 'v')]

/-- The three octal digits of a character. -/
def octal (c : Char) : Raw :=
  let digits := Numeral.inBase 8 c.toNat
  List.replicate (3 - digits.length) '0' ++ digits

/-- What stands behind a backslash for a character that cannot be shown. -/
def escapeOf (c : Char) : Raw :=
  match letters.lookup c with
  | some letter => [letter]
  | none => octal c

/-- The characters that are special to a shell wherever they stand. -/
def specials : Raw := " !\"$&()*;<=>[^\x60|?\\'\n\r\t".toList

/-- The characters that make a shell see more than a plain word in double quotes. -/
def unsuited : Raw := "!\"$&()*;<=>[^\x60|?\\".toList

/-- Whether a shell would not read a text as a plain word. -/
def isSpecial (text : Raw) : Bool :=
  text.isEmpty || text.any (fun c => specials.contains c || !isPrinted c) ||
    text == ['{'] || text == ['}'] || text.head? == some '#' || text.head? == some '~'

/-- The inside of a text in single quotes, where what cannot be shown is escaped; the flag tells whether escapes have
begun. -/
def inside : Bool → Raw → Raw
  | _, [] => []
  | escaping, c :: rest =>
    if !isPrinted c then (if escaping then [] else ['\'', '$', '\'']) ++ ['\\'] ++ escapeOf c ++ inside true rest
    else if c == '\'' then ['\'', '\\', '\'', '\''] ++ inside false rest
    else (if escaping then ['\'', '\''] else []) ++ [c] ++ inside false rest

end Quote

/-- A text as a word for a shell in quotes. -/
def quotedWord (text : Raw) : Raw :=
  let brace := text.length == 1
  let suits := fun (place : Nat) (c : Char) =>
    Quote.isPrinted c && !Quote.unsuited.contains c &&
      !((c == '#' || c == '~') && place != 0) && !((c == '{' || c == '}') && !brace)
  if text.contains '\'' && text.zipIdx.all fun pair => suits pair.2 pair.1 then
    ['"'] ++ text ++ ['"']
  else ['\''] ++ Quote.inside false text ++ ['\'']

/-- A text as a word for a shell, in quotes where they are needed. -/
def wordFor (text : Raw) : Raw :=
  if Quote.isSpecial text then quotedWord text else text

/-- The name of a file in front of a colon, in quotes where they are needed. -/
def nameFor (text : Raw) : Raw :=
  if Quote.isSpecial text || text.contains ':' then quotedWord text else text

/-- A text in the quotes of sentences. -/
def quoted (text : Raw) : Raw :=
  ['\''] ++ text.flatMap (fun c =>
    if c == '\'' || c == '\\' then ['\\', c]
    else if Quote.isPrinted c then [c]
    else '\\' :: Quote.escapeOf c) ++ ['\'']

end AnswerQuery.Host.Tool

/-! Options of programs, with letters and words. -/

namespace AnswerQuery.Host.Tool

/-- Whether an option has an argument. -/
inductive Takes where
  | nothing
  | always
  | maybe
  deriving DecidableEq, Repr

/-- An option that a program knows. -/
structure Known where
  /-- What the option is called here: its letter, or its word if it has none. -/
  key : String
  /-- Its word, if it has one. -/
  word : String
  /-- Whether it has an argument. -/
  takes : Takes := .nothing

/-- An option that was given, and its argument. -/
structure Given where
  /-- What the option is called. -/
  key : String
  /-- Its argument, if it has one. -/
  argument : Option Raw := none
  /-- What complaints call it. -/
  shown : Raw := []
  /-- Whether its argument stands directly behind its letter. -/
  isJoined : Bool := false
  deriving Repr

/-- What was given to a program. -/
structure Invocation where
  /-- The options, in order. -/
  given : List Given
  /-- The operands. -/
  operands : List Raw

namespace Invocation

/-- Whether an option was given. -/
def has (invocation : Invocation) (key : String) : Bool :=
  invocation.given.any fun given => given.key == key

/-- The last argument of an option. -/
def argument? (invocation : Invocation) (key : String) : Option Raw :=
  (invocation.given.reverse.find? fun given => given.key == key).bind Given.argument

/-- All arguments of an option. -/
def arguments (invocation : Invocation) (key : String) : List Raw :=
  invocation.given.filterMap fun given => if given.key == key then given.argument else none

/-- Which of some options was given last. -/
def last? (invocation : Invocation) (keys : List String) : Option String :=
  (invocation.given.reverse.find? fun given => keys.contains given.key).map Given.key

end Invocation

namespace Options

/-- What is wrong with arguments. -/
abbrev Reading := Except Raw

/-- The options that all programs have. -/
def common : List Known :=
  [⟨"help", "help", .nothing⟩, ⟨"version", "version", .nothing⟩]

/-- The option that a word, which may be cut short, stands for; complaints name all that was written. -/
def ofWord (known : List Known) (written word : Raw) : Reading Known :=
  let known := known ++ common.filter fun option => !known.any fun own => own.word == option.word
  match known.find? fun option => option.word.toList == word with
  | some option => pure option
  | none =>
    match known.filter fun option => word.isPrefixOf option.word.toList with
    | [option] => pure option
    | [] => throw ("unrecognized option '--".toList ++ written ++ ['\''])
    | first :: others =>
      if others.all fun option => option.key == first.key then pure first
      else throw ("option '--".toList ++ written ++ "' is ambiguous; possibilities:".toList ++
        (first :: others).flatMap fun option => " '--".toList ++ option.word.toList ++ ['\''])

/-- Read an option that is given by its word. -/
def readWord (known : List Known) (written : Raw) (others : List Raw) : Reading (Given × List Raw) := do
  let word := written.takeWhile (· != '=')
  let value := if word.length < written.length then some (written.drop (word.length + 1)) else none
  let option ← ofWord known written word
  let with_ := fun (argument : Option Raw) => ({ key := option.key, argument, shown := "--".toList ++ option.word.toList } : Given)
  match option.takes, value, others with
  | .nothing, some _, _ => throw ("option '--".toList ++ option.word.toList ++ "' doesn't allow an argument".toList)
  | .nothing, none, _ => pure (with_ none, others)
  | .maybe, _, _ => pure (with_ value, others)
  | .always, some value, _ => pure (with_ (some value), others)
  | .always, none, value :: others => pure (with_ (some value), others)
  | .always, none, [] => throw ("option '--".toList ++ option.word.toList ++ "' requires an argument".toList)

/-- The options that are given by letters, and the arguments after them or what is wrong. -/
def ofLetters (known : List Known) : Raw → List Raw → List Given × Reading (List Raw)
  | [], others => ([], pure others)
  | letter :: rest, others =>
    match known.find? fun option => option.key.toList == [letter] with
    | none => ([], throw ("invalid option -- '".toList ++ [letter] ++ ['\'']))
    | some option =>
      let with_ := fun (argument : Option Raw) => ({ key := option.key, argument, shown := ['-', letter] } : Given)
      match option.takes with
      | .nothing =>
        let (given, others) := ofLetters known rest others
        (with_ none :: given, others)
      | .maybe => ([with_ (if rest.isEmpty then none else some rest)], pure others)
      | .always =>
        match rest, others with
        | [], [] => ([], throw ("option requires an argument -- '".toList ++ [letter] ++ ['\'']))
        | [], value :: others => ([with_ (some value)], pure others)
        | value, _ => ([{ with_ (some value) with isJoined := true }], pure others)

/-- Read options that are given by their letters. -/
def readLetters (known : List Known) (letters : Raw) (others : List Raw) : Reading (List Given × List Raw) :=
  let (given, others) := ofLetters known letters others
  others.map fun others => (given, others)

/-- What is found in arguments up to the place where something is wrong. -/
structure Parsing extends Invocation where
  /-- What is wrong. -/
  fault : Option Raw := none

/-- What was given with options before it. -/
def Parsing.after (given : List Given) (parsing : Parsing) : Parsing :=
  { parsing with given := given ++ parsing.given }

/-- Go through arguments; operands may stand between options unless the first one ends them. -/
def parse (known : List Known) (stops : Bool) : Nat → List Raw → Parsing
  | 0, arguments => { given := [], operands := arguments }
  | steps + 1, arguments =>
    match arguments with
    | [] => { given := [], operands := [] }
    | ['-', '-'] :: others => { given := [], operands := others }
    | ('-' :: '-' :: written) :: others =>
      match readWord known written others with
      | .error fault => { given := [], operands := [], fault := some fault }
      | .ok (given, others) => (parse known stops steps others).after [given]
    | ('-' :: letter :: letters) :: others =>
      match ofLetters known (letter :: letters) others with
      | (given, .error fault) => { given, operands := [], fault := some fault }
      | (given, .ok others) => (parse known stops steps others).after given
    | operand :: others =>
      if stops then { given := [], operands := arguments }
      else
        let rest := parse known stops steps others
        { rest with operands := operand :: rest.operands }

/-- Go through arguments one by one: options and operands in the order they stand in, and what is wrong behind them. An
operand has no key, and is shown as the mark that ends options if it stands behind that. -/
def events (known : List Known) : Nat → List Raw → List Given × Option Raw
  | 0, _ => ([], none)
  | steps + 1, arguments =>
    let operand := fun (shown text : Raw) => ({ key := "", argument := some text, shown } : Given)
    let front := fun (given : List Given) (rest : List Given × Option Raw) => (given ++ rest.1, rest.2)
    match arguments with
    | [] => ([], none)
    | ['-', '-'] :: others => (others.map (operand ['-', '-']), none)
    | ('-' :: '-' :: written) :: others =>
      match readWord known written others with
      | .error fault => ([], some fault)
      | .ok (given, others) => front [given] (events known steps others)
    | ('-' :: letter :: letters) :: others =>
      match ofLetters known (letter :: letters) others with
      | (given, .error fault) => (given, some fault)
      | (given, .ok others) => front given (events known steps others)
    | text :: others => front [operand [] text] (events known steps others)

/-- Read arguments, in which nothing may be wrong. -/
def readArguments (known : List Known) (stops : Bool) (steps : Nat) (arguments : List Raw) : Reading Invocation :=
  let parsing := parse known stops steps arguments
  match parsing.fault with
  | some fault => throw fault
  | none => pure parsing.toInvocation

end Options

namespace Act

/-- Read the arguments of a program, which makes up its mind about each option before the next one is read, and ends
with a status if the arguments make no sense. -/
def foldOptions {σ : Type} (status : Nat) (known : List Known) (stops : Bool) (step : σ → Given → Act σ) (start : σ)
    (arguments : List Raw) : Act (σ × Invocation) := do
  let parsing := Options.parse known stops (arguments.length + 1) arguments
  let found ← parsing.given.foldlM step start
  match parsing.fault with
  | none => pure (found, parsing.toInvocation)
  | some message => refuse status message

/-- Read the arguments of a program, which makes up its mind about each option and each operand in turn. -/
def foldEvents {σ : Type} (status : Nat) (known : List Known) (step : σ → Given → Act σ) (start : σ)
    (arguments : List Raw) : Act σ := do
  let (events, fault) := Options.events known (arguments.length + 1) arguments
  let found ← events.foldlM step start
  match fault with
  | none => pure found
  | some message => refuse status message

/-- Read the arguments of a program, which looks at each option before the next one is read. -/
def readEach (status : Nat) (known : List Known) (stops : Bool) (look : Given → Act Unit) (arguments : List Raw) :
    Act Invocation :=
  Prod.snd <$> foldOptions status known stops (fun () given => look given) () arguments

/-- Read the arguments of a program, which looks at what has been given so far after each option. -/
def readChecked (status : Nat) (known : List Known) (stops : Bool) (check : Invocation → Act Unit)
    (arguments : List Raw) : Act Invocation :=
  Prod.snd <$> foldOptions status known stops (fun (before : List Given) given => do
    let now := before ++ [given]
    check ⟨now, []⟩
    pure now) [] arguments

/-- Read the arguments of a program, which ends with a status if they make no sense. -/
def readOptions (status : Nat) (known : List Known) (stops : Bool) (arguments : List Raw) : Act Invocation :=
  readEach status known stops (fun _ => pure ()) arguments

/-- Complain about an operand that is one too many. -/
def refuseExtra {α : Type} (status : Nat) (operand : Raw) : Act α :=
  refuse status ("extra operand ".toList ++ quoted operand)

/-- End the program because of a word that stands for no choice, or for more than one. -/
def refuseChoice {α β : Type} (kind what : String) (choices : List (List String × β)) (text : Raw) : Act α := do
  complain (kind.toList ++ " argument ".toList ++ quoted text ++ " for ".toList ++ quoted what.toList)
  let lines := choices.flatMap fun choice =>
    "  - ".toList ++ ", ".toList.intercalate (choice.1.map fun word => quoted word.toList) ++ ['\n']
  report ("Valid arguments are:\n".toList ++ lines)
  report ("Try '".toList ++ (← get).name ++ " --help' for more information.\n".toList)
  finish 1

/-- What a word means that is given for something: one of some words, in groups that mean the same. -/
def chooseWhole {α : Type} (what : String) (choices : List (List String × α)) (text : Raw) : Act α :=
  match choices.find? fun choice => choice.1.any fun word => word.toList == text with
  | some choice => pure choice.2
  | none => refuseChoice "invalid" what choices text

/-- What a word means that is given for something: one of some words, in groups that mean the same, which may be cut
short. -/
def choose {α : Type} (what : String) (choices : List (List String × α)) (text : Raw) : Act α :=
  let exact := choices.find? fun choice => choice.1.any fun word => word.toList == text
  let begun := choices.filter fun choice => choice.1.any fun word => text.isPrefixOf word.toList
  match exact, begun with
  | some choice, _ => pure choice.2
  | none, [choice] => pure choice.2
  | none, [] => refuseChoice "invalid" what choices text
  | none, _ => refuseChoice "ambiguous" what choices text

/-- Read all of a file; a minus stands for the standard input. -/
def readFile (path : Raw) : Act (Except OsError Bytes) := do
  if path == ['-'] then StateT.lift (Job.readAll 0)
  else
    let result : Except OsError Nat ← ask (.openFile path .reading)
    match result with
    | .error reason => pure (.error reason)
    | .ok descriptor => do
      let octets : Except OsError Bytes ← StateT.lift (Job.readAll descriptor)
      ask (.close descriptor)
      pure octets

/-- Complain about a file that cannot be read. -/
def complainFile (path : Raw) (reason : OsError) : Act Unit :=
  complain (nameFor path ++ ": ".toList ++ reason.description)

end Act

end AnswerQuery.Host.Tool
