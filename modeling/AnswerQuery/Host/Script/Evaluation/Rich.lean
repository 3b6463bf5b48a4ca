import AnswerQuery.Host.Script.Builtin.Deciding
import AnswerQuery.Host.Script.Builtin.Declaring
import AnswerQuery.Host.Script.Builtin.Reading
import AnswerQuery.Host.Script.Builtin.Signalling
import AnswerQuery.Host.Script.Builtin.Switching
import AnswerQuery.Host.Script.Builtin.Telling
import AnswerQuery.Host.Script.Builtin.Walking
import AnswerQuery.Host.Script.Builtin.Writing
import AnswerQuery.Host.Script.Evaluation.Running

/-! Commands that consist of words, conditions, and formulas, in the rich dialect. -/

namespace AnswerQuery.Host.Script

namespace Sh

/-- Show what is about to be done, on the standard error as it was before redirections. -/
def showRichly (run : Run) (text : Raw) : Sh Unit := do
  let shell ← get
  if shell.has 'x' && !shell.showing then
    set { shell with showing := true }
    let document ← readDocument ((shell.value? "PS4".toList).getD [])
    let front ← documentText (capture run) document
    modify fun shell => { shell with showing := false }
    let repeated := List.replicate (shell.readings - 1) (front.take 1)
    sayError (repeated.flatten ++ front ++ text ++ ['\n'])

/-- Words as they are shown. -/
def shownWords (words : List Raw) : Raw :=
  [' '].intercalate (words.map fun word => if word.isEmpty then "''".toList else quotedIfNeeded word)

/-- Run a condition in double brackets. -/
def runDecision (run : Run) (line : Nat) (condition : Decision) : Sh Unit := do
  reach line
  let status ← decide_ (capture run) (showRichly run) false condition
  conclude status

/-- The value of a formula that is a command, or of a part of one. -/
def formulaValue (run : Run) (formula : Word) : Sh (Option Int) := do
  let text ← wholeText (capture run) formula
  showRichly run ("(( ".toList ++ text ++ " ))".toList)
  match ← attempt (withCommand (some "((".toList) (reckon text)) with
  | .ok value => pure (some value)
  | .error .error => pure none
  | .error leaving => throw leaving

/-- Run a formula. -/
def runCalculation (run : Run) (line : Nat) (formula : Word) : Sh Unit := do
  reach line
  let value ← formulaValue run formula
  conclude (if value.getD 0 = 0 then 1 else 0)

/-- The path of a script that is to be read: at a path, among the programs, or here. -/
def richScriptPath (name : Raw) : Sh Raw := do
  if name.contains '/' then pure name
  else
    let shell ← get
    let mut place : Option Raw := none
    for path in searchPaths shell.search name do
      if place.isNone then
        let found : Except OsError Status ← ask (.inspect path true)
        if let .ok status := found then
          if status.kind == Kind.file then place := some path
    pure (place.getD name)

/-- Read a script as if it stood here. -/
def sourceRichly (run : Run) (arguments : List Raw) : Sh Nat := do
  match ← attempt (withoutOptions arguments) with
  | .error _ => pure 2
  | .ok [] => do
    protest "filename argument required".toList
    match ← attempt (showUsage : Sh Unit) with
    | _ => pure 2
  | .ok (name :: operands) => do
    let path ← richScriptPath name
    let status : Except OsError Status ← ask (.inspect path true)
    let isDirectory := match status with
      | .ok status => status.kind == Kind.directory
      | .error _ => false
    let opened : Except OsError Nat ← if isDirectory then pure (.error .isDirectory) else ask (.openFile path .reading)
    match opened with
    | .error .isDirectory => do
      protest (path ++ ": is a directory".toList)
      pure 1
    | .error reason => do
      modify fun shell => { shell with command := none }
      protest (path ++ ": ".toList ++ reason.description)
      pure 1
    | .ok descriptor => do
      let text ← lift (Job.readAll descriptor)
      ask (.close descriptor)
      modify fun shell => { shell with
        command := none, sources := path :: shell.sources, readings := shell.readings + 1, status := 0 }
      let shell ← get
      let body := withInput { text := (Raw.ofOctets (text.toOption.getD [])).filter (· != '\x00'), complete := true }
        (runInput run false)
      let result ← attempt (if operands.isEmpty then body
        else withArguments { values := operands } body)
      modify fun now => { now with sources := shell.sources.drop 1, readings := shell.readings - 1 }
      match result with
      | .error (.function _) => pure (← get).status
      | other => resume other

/-- Run a text that arguments make up. -/
def evaluateRichly (run : Run) (purpose : Purpose) (arguments : List Raw) : Sh Nat := do
  match ← attempt (withoutOptions arguments) with
  | .error _ => pure 2
  | .ok words => do
    let shell ← get
    set { shell with command := none, readings := shell.readings + 1, status := 0 }
    let inner : Run := fun inside command => run { inside with isTested := inside.isTested || purpose.isTested } command
    let result ← attempt (withInput
      { text := [' '].intercalate words, complete := true, line := shell.line, title := "eval: ".toList }
      (runInput inner false))
    modify fun now => { now with readings := shell.readings }
    resume result

/-- The interpreter that the first line of a file names, if it does. -/
def interpreterOf (path : Raw) : Sh (Option Raw) := do
  let opened : Except OsError Nat ← ask (.openFile path .reading)
  match opened with
  | .error _ => pure none
  | .ok descriptor => do
    let start : Except OsError Bytes ← ask (.read descriptor sampleSize)
    ask (.close descriptor)
    match Raw.ofOctets (start.toOption.getD []) with
    | '#' :: '!' :: rest =>
      pure (some ((rest.dropWhile fun c => c == ' ' || c == '\t').takeWhile fun c => !Raw.isSpace c))
    | _ => pure none

/-- Why a program at a path could not be run, and the status that tells so. -/
def refusalOf (path : Raw) (reason : OsError) : Sh (Raw × Nat) := do
  let status : Except OsError Status ← ask (.inspect path true)
  let plain := fun (code : Nat) => (path ++ ": ".toList ++ reason.description, code)
  match status, reason with
  | .error _, .noEntry => pure (plain 127)
  | .error _, .notDirectory => pure (plain 126)
  | .ok status, _ =>
    if status.kind == Kind.directory then pure (path ++ ": Is a directory".toList, 126)
    else match reason with
      | .noEntry => pure (path ++ ": cannot execute: required file not found".toList, 127)
      | .badExecutable => pure (path ++ ": cannot execute binary file: Exec format error".toList, 126)
      | _ => do
        let allowed : Bool ← ask (.allows path .execute)
        let interpreter ← if allowed then interpreterOf path else pure none
        match interpreter with
        | some interpreter =>
          pure (path ++ ": ".toList ++ interpreter ++ ": bad interpreter: ".toList ++ reason.description, 126)
        | none => pure (plain 126)
  | _, _ => pure (plain 126)

/-- The first file at some paths that is no directory. -/
def fileAmong : List Raw → Sh (Option Raw)
  | [] => pure none
  | path :: paths => do
    let status : Except OsError Status ← ask (.inspect path true)
    match status with
    | .ok status => if status.kind == Kind.directory then fileAmong paths else pure (some path)
    | .error _ => fileAmong paths

/-- The environment of a program at a path, in the order of the rows of a table. -/
def environmentOf (path : Raw) (bindings : List (Raw × Raw)) : List (Raw × Raw) :=
  let others := bindings.filter fun binding => binding.1 != ['_']
  others.mergeSort (fun first second => Items.rowOf first.1 ≤ Items.rowOf second.1) ++ [(['_'], path)]

/-- An environment in which a shell is one less than before. -/
def withoutLevel (bindings : List (Raw × Raw)) : List (Raw × Raw) :=
  bindings.map fun (name, value) =>
    (name, if name == "SHLVL".toList then decimal ((Numeral.natural? value).getD 1 - 1) else value)

/-- Become the program at a path, or a shell that runs the script there: why that is not possible, and the status. -/
def becomeAt (path : Raw) (arguments : List Raw) (bindings : List (Raw × Raw)) : Sh (Raw × Nat) := do
  flush
  let bindings := environmentOf path bindings
  let reason : OsError ← ask (.execute path arguments bindings)
  let reason : OsError ← match reason with
    | .badExecutable => do
      let shell := "/bin/bash".toList
      if ← maybeScript path then ask (.execute shell ("bash".toList :: path :: arguments.drop 1) bindings)
      else pure reason
    | other => pure other
  refusalOf path reason

/-- How a program is to be started in place of the shell. -/
structure Replacing where
  /-- Whether it gets no environment. -/
  cleared : Bool := false
  /-- The name it is told. -/
  title : Option Raw := none
  /-- Whether it is told that somebody logs in. -/
  logsIn : Bool := false

/-- Become a program. -/
def executeRichly (arguments : List Raw) : Sh Nat := do
  let (chosen, words) ← readOptions "a:cl" arguments
  let replacing := chosen.foldl (fun replacing option => match option.letter with
    | 'a' => { replacing with title := some option.argument }
    | 'c' => { replacing with cleared := true }
    | _ => { replacing with logsIn := true }) ({} : Replacing)
  match words with
  | [] => pure 0
  | name :: operands => do
    let shell ← get
    let paths ← programPaths shell.search name
    let path := if name.contains '/' then some name else paths.head?
    match path with
    | none => do
      let status : Except OsError Status ← ask (.inspect name true)
      let isDirectory := match status with
        | .ok status => status.kind == Kind.directory
        | .error _ => false
      protest (name ++ (if isDirectory then ": cannot execute: Is a directory" else ": not found").toList)
      conclude (if isDirectory then 126 else 127)
      throw .exit
    | some path => do
      let title := replacing.title.getD name
      let title := if replacing.logsIn then '-' :: title else title
      let (message, status) ← becomeAt path (title :: operands) (if replacing.cleared then [] else withoutLevel shell.environment)
      withCommand none (protest message)
      if status != 127 then protest (path ++ ": cannot execute: ".toList ++
        (message.reverse.takeWhile (· != ':')).reverse.drop 1)
      conclude status
      throw .exit

/-- What a command does that a shell carries out itself. -/
def carryOutRichly (run : Run) (purpose : Purpose) : Nat → Raw → List Raw → Sh Nat
  | 0, _, _ => pure 0
  | steps + 1, name, arguments =>
    match String.ofList name with
    | "." => sourceRichly run arguments
    | "source" => sourceRichly run arguments
    | "alias" => nameTexts arguments
    | "bg" => giveUp "no job control".toList
    | "break" => leaveLoopsRichly false arguments
    | "builtin" =>
      match (if arguments.head? == some "--".toList then arguments.drop 1 else arguments) with
      | [] => pure 0
      | inner :: operands =>
        if (Builtin.ofName? .rich inner).isSome then do
          modify fun shell => { shell with command := some inner }
          carryOutRichly run purpose steps inner operands
        else giveUp (inner ++ ": not a shell builtin".toList)
    | "caller" => tellCaller arguments
    | "cd" => walk arguments
    | "command" => tellCommand arguments
    | "continue" => leaveLoopsRichly true arguments
    | "declare" => declareVariables false arguments
    | "dirs" => listPlaces arguments
    | "echo" => writeTexts arguments
    | "eval" => evaluateRichly run purpose arguments
    | "exec" => executeRichly arguments
    | "exit" => leaveShellRichly arguments
    | "export" => exportNamed arguments
    | "false" => pure 1
    | "fg" => giveUp "no job control".toList
    | "getopts" => getOptions arguments
    | "hash" => rememberPrograms arguments
    | "jobs" => showGroups arguments
    | "kill" => signalAll arguments
    | "let" => calculateEach arguments
    | "local" => declareVariables true arguments
    | "logout" => leaveLogin
    | "mapfile" => readLines arguments
    | "popd" => popPlace arguments
    | "printf" => writeFormat arguments
    | "pushd" => pushPlace arguments
    | "pwd" => showDirectory arguments
    | "read" => readFields arguments
    | "readarray" => readLines arguments
    | "readonly" => fixNamed arguments
    | "return" => leaveFunctionRichly arguments
    | "set" => setRichly arguments
    | "shift" => shiftRichly arguments
    | "shopt" => switch arguments
    | "test" => judge false arguments
    | "suspend" => giveUp "cannot suspend: no job control".toList
    | "times" => times
    | "trap" => planAll arguments
    | "type" => tellNames arguments
    | "typeset" => declareVariables false arguments
    | "ulimit" => setLimit arguments
    | "umask" => setMask arguments
    | "unalias" => unnameTexts arguments
    | "unset" => unsetNamed arguments
    | "wait" => awaitAsked arguments
    | "[" => judge true arguments
    | _ => pure 0

/-- The commands that pass on what leaves the commands they run, or that leave everything if they are used wrongly. -/
def passing : List Raw :=
  [".", "source", "eval", "exit", "return", "break", "continue"].map String.toList

/-- Carry out a command that a shell carries out itself. -/
def callBuiltinRichly (run : Run) (purpose : Purpose) (name : Raw) (arguments : List Raw) : Sh Unit := do
  let before := (← get).command
  modify fun shell => { shell with command := some name }
  let result ← attempt (carryOutRichly run purpose (arguments.length + 2) name arguments)
  flush
  match result with
  | .ok status => do
    let shell ← get
    if shell.outputFailed then
      modify fun shell => { shell with command := some name }
      protest "write error: Bad file descriptor".toList
      conclude (if status = 0 then 1 else status)
    else conclude status
  | .error _ => pure ()
  modify fun shell => { shell with command := before, outputFailed := false }
  match result with
  | .ok _ => pure ()
  | .error .error => if passing.contains name then throw .error
  | .error leaving => throw leaving

/-- The text that an argument becomes which sets a variable; a list is kept beside the arguments. -/
def declaredText (capture : Capture) (assignment : Assignment) : Sh Raw := do
  let assigned ← assignedOf capture assignment
  let value ← match assigned.given with
    | .text value => pure value
    | .list elements => do
      let shell ← get
      set { shell with lists := shell.lists ++ [elements] }
      pure (listMark :: decimal shell.lists.length)
  let part := match assigned.part with
    | some part => '[' :: part ++ [']']
    | none => []
  pure (assigned.name ++ part ++ (if assigned.appends then ['+'] else []) ++ '=' :: value)

/-- Whether words are a command that declares variables. -/
def areDeclaring : List Word → Bool
  | [] => false
  | word :: words =>
    match (Word.plainText? word).map String.ofList with
    | some "command" => areDeclaring words
    | some "builtin" => areDeclaring words
    | some name => Builtin.declaring.contains name
    | none => false

/-- The fields that the words of a command stand for. -/
def richFields (capture : Capture) (words : List Word) : Sh (List Raw) := do
  modify fun shell => { shell with lists := [] }
  let declares := areDeclaring words
  let fields ← words.mapM fun word => do
    match (if declares then Word.assignment? .rich word else none) with
    | some assignment => do
      let text ← declaredText capture assignment
      pure [text]
    | none => wordFields capture word
  pure fields.flatten

/-- What is to be run, and how it is looked for. -/
structure Invoked where
  /-- The name and the arguments. -/
  fields : List Raw
  /-- Whether functions are passed over. -/
  passFunctions : Bool := false
  /-- Where programs are looked for, if not at the usual places. -/
  search : Option Raw := none

/-- What the command that passes functions over is to run, if it does not only tell about it. -/
def passedOver (invoked : Invoked) : List Raw → Option Invoked
  | ['-', '-'] :: fields => if fields.isEmpty then none else some { invoked with fields }
  | ('-' :: letter :: letters) :: fields =>
    if (letter :: letters).all fun c => c == 'p' then passedOver { invoked with search := some usualPlaces } fields
    else none
  | [] => none
  | fields => some { invoked with fields }

/-- What is to be run, behind commands that only pass functions over. -/
def invokedBy : Nat → Invoked → Sh Invoked
  | 0, invoked => pure invoked
  | steps + 1, invoked => do
    let shell ← get
    let name := invoked.fields.head?.getD []
    if name != "command".toList || (!invoked.passFunctions && (shell.functions.lookup name).isSome) then pure invoked
    else match passedOver { invoked with passFunctions := true } (invoked.fields.drop 1) with
      | some inner => invokedBy steps inner
      | none => pure { invoked with passFunctions := true }

/-- How many functions can be run, one inside of another. -/
def deepestRichCall : Nat := 5000

/-- Call a function with arguments. -/
def callFunctionRichly (run : Run) (purpose : Purpose) (name : Raw) (body : Command) (arguments : List Raw) :
    Sh Unit := do
  let shell ← get
  if deepestRichCall ≤ shell.depth then giveUp "maximum function nesting level exceeded".toList
  let main := if shell.isArgument then "environment".toList else shell.name
  let origin := (shell.origins.lookup name).getD main
  set { shell with callers := name :: shell.callers, sources := origin :: shell.sources }
  let result ← attempt (withArguments { values := arguments } (run { isTested := purpose.isTested } body))
  modify fun now => { now with callers := shell.callers, sources := shell.sources }
  match result with
  | .error (.function _) => pure ()
  | other => resume other

/-- Run what a name stands for with arguments. -/
def runInvoked (run : Run) (purpose : Purpose) (invoked : Invoked) : Sh Unit := do
  let shell ← get
  let name := invoked.fields.head?.getD []
  let arguments := invoked.fields.drop 1
  let start := fun (path : Raw) => do
    let bindings := if purpose.isLast && shell.layers = 0 then withoutLevel shell.environment else shell.environment
    let body : Sh Unit := do
      let (message, status) ← becomeAt path invoked.fields bindings
      protest message
      conclude status
      throw .done
    if purpose.isLast && !(← hasTraps) then body
    else
      let child ← branch do
        enterBranch
        let _ ← attempt body
      concludeWith [child]
  if name.isEmpty then
    protest ": command not found".toList
    conclude 127
  else match ← lookUp name invoked.passFunctions invoked.search with
    | .missing reason => do
      match ← fileAmong (searchPaths (invoked.search.getD shell.search) name) with
      | none => do
        protest (name ++ ": command not found".toList)
        conclude 127
      | some path => do
        protest (path ++ ": ".toList ++ reason.description)
        conclude 126
    | .path => start name
    | .program index => start (foundPath (invoked.search.getD shell.search) name index)
    | .builtin _ => callBuiltinRichly run purpose name arguments
    | .function _ body => callFunctionRichly run purpose name body arguments

/-- Set variables, one after the other. -/
def carrySettings (run : Run) (settings : List Word) : Sh Unit := do
  for word in settings do
    if let some assignment := Word.assignment? .rich word then
      let assigned ← assignedOf (capture run) assignment
      showRichly run (assigned.shown quotedIfNeeded)
      carryAssigned assigned false

/-- Set a variable for one command, which finds it in its environment. -/
def lend (assigned : Assigned) : Sh Unit := do
  let shell ← get
  let name := assigned.name
  let before := shell.variables_.lookup name
  match ← attempt (carryAssigned assigned true) with
  | .ok () => modify fun shell => { shell with shadowed := match shell.shadowed with
      | [] => []
      | first :: others => (.variable_ name before :: first) :: others }
  | .error .error => pure ()
  | .error leaving => throw leaving

/-- Do something while redirections hold; it is told whether it has been done. -/
def whileRedirected (run : Run) (forgets : Bool) (redirections : List Redirection) (body : Sh Unit) : Sh Unit := do
  let capture := capture run
  let targets ← redirections.mapM (targetOf capture)
  let (kept, result) ← redirectEach capture true targets []
  match result with
  | .ok () => do
    let result ← attempt body
    restoreDescriptors forgets kept
    resume result
  | .error .error => restoreDescriptors false kept
  | .error leaving => do
    restoreDescriptors false kept
    throw leaving

/-- Run a command that sets variables or consists of words. -/
def runSimpleRichly (run : Run) (purpose : Purpose) (line : Nat) (settings words : List Word)
    (redirections : List Redirection) : Sh Unit := do
  reach line
  modify fun shell => { shell with answered := 0 }
  let capture := capture run
  let fields ← richFields capture words
  if fields.isEmpty then
    carrySettings run settings
    whileRedirected run false redirections (do conclude (← get).answered)
    modify fun shell => { shell with lastWord := [] }
  else
    let lent ← settings.filterMapM fun word => (Word.assignment? .rich word).mapM (assignedOf capture)
    for assigned in lent do
      showRichly run (assigned.shown quotedIfNeeded)
    showRichly run (shownWords fields)
    let invoked ← invokedBy (fields.length + 1) { fields }
    let isExecute := invoked.fields.head? == some "exec".toList
    let depth := (← get).shadowed.length
    let result ← attempt do
      whileRedirected run isExecute redirections do
        let shell ← get
        let isFunction := !invoked.passFunctions &&
          (shell.functions.lookup (invoked.fields.head?.getD [])).isSome
        if !lent.isEmpty || isFunction then
          modify fun shell => { shell with shadowed := [] :: shell.shadowed }
          for assigned in lent do
            lend assigned
        runInvoked run purpose invoked
    unshadowTo depth
    modify fun shell => { shell with lastWord := fields.getLast?.getD [] }
    resume result

end Sh

end AnswerQuery.Host.Script
