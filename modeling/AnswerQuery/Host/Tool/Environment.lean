import AnswerQuery.Host.Floating
import AnswerQuery.Host.Script.Signal
import AnswerQuery.Host.Tool.Child
import AnswerQuery.Host.Tool.Options
import AnswerQuery.Host.Tool.Source

/-! Programs that are about processes: what they know of their surroundings, and how they run other programs. -/

namespace AnswerQuery.Host.Tool

/-- Whether a text has a part. -/
def hasPart (part : Raw) : Raw → Bool
  | [] => part.isEmpty
  | c :: rest => part.isPrefixOf (c :: rest) || hasPart part rest

namespace Variables

/-- Variables without one of them. -/
def without (bindings : List (Raw × Raw)) (name : Raw) : List (Raw × Raw) :=
  bindings.filter fun pair => pair.1 != name

/-- Variables with a value for one of them, which stays where it is if it is there. -/
def with_ (bindings : List (Raw × Raw)) (name value : Raw) : List (Raw × Raw) :=
  if bindings.any fun pair => pair.1 == name then
    bindings.map fun pair => if pair.1 == name then (name, value) else pair
  else bindings ++ [(name, value)]

/-- The name and the value that a text with an equals sign tells. -/
def assignment? (text : Raw) : Option (Raw × Raw) :=
  let name := text.takeWhile (· != '=')
  if name.length < text.length then some (name, text.drop (name.length + 1)) else none

end Variables

namespace Splitting

/-- The name of a variable in braces at the front of a text, and what follows it. -/
def reference? : Raw → Option (Raw × Raw)
  | '$' :: '{' :: rest =>
    let name := rest.takeWhile Raw.inName
    match rest.drop name.length with
    | '}' :: after => if Raw.isName name then some (name, after) else none
    | _ => none
  | _ => none

/-- The characters that letters behind a backslash stand for. -/
def letters : List (Char × Char) :=
  [('f', '\x0c'), ('n', '\n'), ('r', '\r'), ('t', '\t'), ('v', '\x0b')]

/-- A text as words: those that are done, the last one first, and the one that has begun. -/
structure Words where
  /-- The words that are done. -/
  done : List Raw := []
  /-- The word that has begun, its last character first. -/
  word : Option Raw := none

namespace Words

/-- Add a character. -/
def add (words : Words) (c : Char) : Words :=
  { words with word := some (c :: words.word.getD []) }

/-- Begin a word if none has begun. -/
def start (words : Words) : Words :=
  { words with word := some (words.word.getD []) }

/-- End the word that has begun. -/
def finish (words : Words) : Words :=
  match words.word with
  | some word => { done := word.reverse :: words.done }
  | none => words

end Words

/-- Split a text into words, given the variables and the quote that is open. -/
def split (bindings : List (Raw × Raw)) : Nat → Option Char → Words → Raw → Except Raw (List Raw)
  | 0, _, words, _ => .ok words.finish.done.reverse
  | _ + 1, quote, words, [] =>
    if quote.isSome then .error "no terminating quote in -S string".toList else .ok words.finish.done.reverse
  | steps + 1, quote, words, c :: rest =>
    let put := fun (character : Char) (rest : Raw) => split bindings steps quote (words.add character) rest
    let isQuote := c == '\'' || c == '"'
    if isQuote && quote == some c then split bindings steps none words rest
    else if isQuote && quote.isNone then split bindings steps (some c) words.start rest
    else if Raw.isSpace c && quote.isNone then split bindings steps quote words.finish rest
    else if c == '#' && quote.isNone && words.word.isNone then .ok words.finish.done.reverse
    else if c == '\\' then
      match rest with
      | [] => .error "invalid backslash at end of string in -S".toList
      | d :: after =>
        if quote == some '\'' && d != '\\' && d != '\'' then put c rest
        else if "\"#$'\\".toList.contains d then put d after
        else if d == '_' then
          if quote.isSome then put ' ' after else split bindings steps quote words.finish after
        else if d == 'c' then
          if quote.isSome then .error "'\\c' must not appear in double-quoted -S string".toList
          else .ok words.finish.done.reverse
        else match letters.lookup d with
          | some character => put character after
          | none => .error ("invalid sequence '\\".toList ++ [d] ++ "' in -S".toList)
    else if c == '$' && quote != some '\'' then
      match reference? (c :: rest) with
      | none => .error ("only $\x7bVARNAME\x7d expansion is supported, error at: ".toList ++ c :: rest)
      | some (name, after) =>
        let words := match bindings.lookup name with
          | some value => value.foldl Words.add words.start
          | none => words
        split bindings steps quote words after
    else put c rest

end Splitting

namespace Surroundings

/-- The options of the program that changes the surroundings of another one. -/
def options : List Known :=
  [⟨"C", "chdir", .always⟩, ⟨"i", "ignore-environment", .nothing⟩, ⟨"S", "split-string", .always⟩,
    ⟨"u", "unset", .always⟩, ⟨"v", "debug", .nothing⟩, ⟨"0", "null", .nothing⟩,
    ⟨"default-signal", "default-signal", .maybe⟩, ⟨"ignore-signal", "ignore-signal", .maybe⟩,
    ⟨"block-signal", "block-signal", .maybe⟩, ⟨"list-signal-handling", "list-signal-handling", .nothing⟩]

/-- What is asked for signals: the last wish for each counts. -/
structure Signals where
  /-- Whether they are ignored, or do what they usually do, and whether that may fail. -/
  ignored : List (Nat × Bool × Bool) := []
  /-- Whether they are held back. -/
  blocked : List (Nat × Bool) := []

/-- The signals that have names. -/
def allSignals : List Nat :=
  (List.range Signal.count).filter fun signal => !([0, 32, 33].contains signal)

/-- The signals for which nothing can be asked. -/
def fixedSignals : List Nat := [9, 19]

/-- The signals that a text names, with commas in between. -/
def signalsOf (text : Raw) : Act (List Nat) :=
  ((Raw.split ',' text).filter (!List.isEmpty ·)).mapM fun word => do
    match Signal.ofOperand? word with
    | some signal => if signal = 0 then Act.refuse 125 (quoted word ++ ": invalid signal".toList) else pure signal
    | none => Act.refuse 125 (quoted word ++ ": invalid signal".toList)

/-- Take up an option about signals; without a text it is about all of them. -/
def Signals.given (signals : Signals) (given : Given) : Act Signals := do
  if !(["ignore-signal", "default-signal", "block-signal"].contains given.key) then pure signals
  else
    let some_ ← match given.argument with
      | some text => signalsOf text
      | none => pure allSignals
    let ignored := if given.key == "block-signal" then [] else
      some_.map fun signal => (signal, given.key == "ignore-signal", given.argument.isNone)
    let blocked := if given.key == "ignore-signal" then [] else
      some_.map fun signal => (signal, given.key == "block-signal")
    pure { ignored := ignored.reverse ++ signals.ignored, blocked := blocked.reverse ++ signals.blocked }

/-- Let become of signals what is asked for, and tell about it. -/
def Signals.settle (signals : Signals) (tells : Bool) (lists : Bool) : Act Unit := do
  let shown := fun (signal : Nat) => Signal.fullName signal ++ " (".toList ++ decimal signal ++ ")".toList
  let tell := fun (text : Raw) => if tells then Act.report (text ++ ['\n']) else pure ()
  for signal in allSignals do
    if let some (ignored, mayFail) := signals.ignored.lookup signal then
      let fails := fixedSignals.contains signal
      if fails && !mayFail then
        Act.die 125 ("failed to set signal action for signal ".toList ++ decimal signal ++ ": Invalid argument".toList)
      if !fails then Act.ask (.react signal (if ignored then .ignored else .usual))
      tell ("Reset signal ".toList ++ shown signal ++ (if ignored then " to IGNORE" else " to DEFAULT").toList ++
        (if fails then " (failure ignored)" else "").toList)
  for signal in allSignals do
    if let some blocked := signals.blocked.lookup signal then
      tell ("signal ".toList ++ shown signal ++ (if blocked then " mask set to BLOCK" else " mask set to UNBLOCK").toList)
  if lists then
    let ignored : List Nat ← Act.ask .ignored
    for signal in allSignals do
      let isBlocked := signals.blocked.lookup signal == some true && !fixedSignals.contains signal
      let words := (if isBlocked then ["BLOCK".toList] else []) ++
        (if ignored.contains signal then ["IGNORE".toList] else [])
      if !words.isEmpty then
        let (name, number) := (Signal.fullName signal, decimal signal)
        Act.report (name ++ List.replicate (10 - name.length) ' ' ++ " (".toList ++
          List.replicate (2 - number.length) ' ' ++ number ++ "): ".toList ++ [','].intercalate words ++ ['\n'])

/-- Whether options hold a blank that should not be there. -/
def hasBlank : Raw → Bool
  | '-' :: letters => (letters.takeWhile fun c => !"CSu".toList.contains c).any Raw.isSpace && letters.head? != some '-'
  | _ => false

/-- Read options, one of which stands for more of them: the options, and what follows them. -/
def read : Nat → List Given → List Raw → Act (List Given × List Raw)
  | 0, given, arguments => pure (given, arguments)
  | steps + 1, given, arguments => do
    let goOn := fun (result : Options.Reading (List Given × List Raw)) => do
      match result with
      | .error message => do
        if message == "invalid option -- ' '".toList then
          Act.complain message
          Act.refuse 125 "use -[v]S to pass options in shebang lines".toList
        else Act.refuse 125 message
      | .ok (more, others) => do
        let all := given ++ more
        match more.getLast? with
        | some { key := "S", argument := some text, .. } => do
          let bindings ← Act.bindings
          match Splitting.split bindings (2 * text.length + 2) none {} text with
          | .error message => Act.die 125 message
          | .ok words => do
            if all.any fun option => option.key == "v" then
              Act.report ("split -S:  ".toList ++ quoted text ++ ['\n'])
              for (word, place) in words.zipIdx do
                Act.report ((if place = 0 then " into:    " else "     &    ").toList ++ quoted word ++ ['\n'])
            read steps all (words ++ others)
        | _ => read steps all others
    match arguments with
    | ['-', '-'] :: others => pure (given, others)
    | ('-' :: '-' :: written) :: others => goOn ((Options.readWord options written others).map fun (one, rest) => ([one], rest))
    | ('-' :: letter :: letters) :: others => goOn (Options.readLetters options (letter :: letters) others)
    | _ => pure (given, arguments)

end Surroundings

open Surroundings in
/-- Run a program in changed surroundings, or show them. -/
def env : Utility := ofAct fun arguments => do
  modify fun output => { output with outputStatus := 125 }
  let size := (arguments.map List.length).foldl (· + ·) (arguments.length + 4)
  let (given, arguments) ← Surroundings.read (2 * size) [] arguments
  let has := fun (key : String) => given.any fun option => option.key == key
  let debug := fun (text : Raw) => if has "v" then Act.report (text ++ ['\n']) else pure ()
  let mut signals : Signals := {}
  for option in given do
    signals ← signals.given option
  let (clears, arguments) := match arguments with
    | ['-'] :: others => (true, others)
    | _ => (has "i", arguments)
  let mut bindings ← Act.bindings
  if clears then
    debug "cleaning environ".toList
    bindings := []
  else
    for option in given do
      if option.key == "u" then
        let name := option.argument.getD []
        debug ("unset:    ".toList ++ name)
        if name.isEmpty || name.contains '=' then
          Act.die 125 ("cannot unset ".toList ++ quoted name ++ ": Invalid argument".toList)
        bindings := Variables.without bindings name
  let assignments := arguments.takeWhile fun argument => argument.contains '='
  for assignment in assignments do
    if let some (name, value) := Variables.assignment? assignment then
      debug ("setenv:   ".toList ++ assignment)
      bindings := Variables.with_ bindings name value
  let command := arguments.drop assignments.length
  let place := (given.reverse.find? fun option => option.key == "C").bind Given.argument
  if has "0" && !command.isEmpty then Act.refuse 125 "cannot specify --null (-0) with command".toList
  if place.isSome && command.isEmpty then Act.refuse 125 "must specify command with --chdir (-C)".toList
  match command with
  | [] =>
    for (name, value) in bindings do
      Act.say (name ++ '=' :: value ++ [if has "0" then '\x00' else '\n'])
  | program :: _ => do
    signals.settle (has "v") (has "list-signal-handling")
    if let some path := place then
      debug ("chdir:    ".toList ++ quotedWord path)
      let result : Except OsError Unit ← Act.ask (.enter path)
      if let .error reason := result then
        Act.die 125 ("cannot change directory to ".toList ++ quotedWord path ++ ": ".toList ++ reason.description)
    debug ("executing: ".toList ++ program)
    for (word, place) in command.zipIdx do
      debug ("   arg[".toList ++ decimal place ++ "]= ".toList ++ quoted word)
    let reason ← StateT.lift (become command bindings)
    Act.complain (quoted program ++ ": ".toList ++ reason.description)
    if reason == OsError.noEntry && program.any Raw.isSpace then
      Act.complain "use -[v]S to pass options in shebang lines".toList
    Act.finish (statusOfRefusal reason)

/-- Show environment variables. -/
def printenv : Utility := ofAct fun arguments => do
  modify fun output => { output with outputStatus := 2 }
  let invocation ← Act.readOptions 2 [⟨"0", "null", .nothing⟩] true arguments
  let bindings ← Act.bindings
  let mark := if invocation.has "0" then '\x00' else '\n'
  if invocation.operands.isEmpty then
    for (name, value) in bindings do Act.say (name ++ '=' :: value ++ [mark])
  for name in invocation.operands do
    match (if name.contains '=' then none else bindings.lookup name) with
    | some value => Act.say (value ++ [mark])
    | none => Act.fail 1

/-- The letters of units of time and how many seconds they have. -/
def timeUnits : List (Char × Nat) := [('s', 1), ('m', 60), ('h', 3600), ('d', 86400)]

/-- The longest time, in milliseconds. -/
def longestTime : Nat := 1000000000000000

/-- The time that a text tells, in milliseconds. -/
def milliseconds? (text : Raw) : Option Nat :=
  let front := Floating.readFront .double text
  let unit := match front.rest with
    | [] => some 1
    | [letter] => timeUnits.lookup letter
    | _ => none
  match front.found, front.value, unit with
  | true, .finite false whole power, some seconds =>
    let time := Floating.roundScaled (whole * seconds) power 3
    some (min longestTime (if time = 0 && whole != 0 then 1 else time))
  | true, .finite true 0 _, some _ => some 0
  | true, .infinite false, some _ => some longestTime
  | _, _, _ => none

/-- Wait for a time. -/
def sleep : Utility := ofAct fun arguments => do
  let invocation ← Act.readOptions 1 [] false arguments
  if invocation.operands.isEmpty then Act.refuse 1 "missing operand".toList
  let times := invocation.operands.map fun text => (text, milliseconds? text)
  let wrong := times.filterMap fun (text, time) => if time.isNone then some text else none
  match wrong.reverse with
  | [] => Act.ask (.pause ((times.filterMap Prod.snd).foldl (· + ·) 0))
  | last :: others => do
    for text in others.reverse do Act.complain ("invalid time interval ".toList ++ quoted text)
    Act.refuse 1 ("invalid time interval ".toList ++ quoted last)

/-- Show the working directory. -/
def pwd : Utility := ofAct fun arguments => do
  let invocation ← Act.readOptions 1 [⟨"L", "logical", .nothing⟩, ⟨"P", "physical", .nothing⟩] false arguments
  if !invocation.operands.isEmpty then Act.complain "ignoring non-option arguments".toList
  let place : Raw ← Act.ask .whereabouts
  let bindings ← Act.bindings
  let told := (bindings.lookup "PWD".toList).getD []
  let isPlain := told.head? == some '/' && !(Raw.split '/' told).any fun name => name == ['.'] || name == ['.', '.']
  if invocation.last? ["L", "P"] == some "L" && isPlain then
    let here : Except OsError Status ← Act.ask (.inspect ['.'] true)
    let there : Except OsError Status ← Act.ask (.inspect told true)
    let same := (here.toOption.bind Status.number) == (there.toOption.bind Status.number)
    Act.sayLine (if same then told else place)
  else Act.sayLine place

/-- The programs of this kind. -/
def environmentTools : List (String × Utility) :=
  [("env", env), ("printenv", printenv), ("pwd", pwd), ("sleep", sleep)]

end AnswerQuery.Host.Tool
