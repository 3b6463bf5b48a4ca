import AnswerQuery.Host.Script.Builtin.Condition
import AnswerQuery.Host.Script.Builtin.Output
import AnswerQuery.Host.Script.Builtin.Places
import AnswerQuery.Host.Script.Builtin.Processes
import AnswerQuery.Host.Script.Evaluation.Running
import AnswerQuery.Host.Script.Lookup

/-! Commands that consist of words, in the plain dialect. -/

namespace AnswerQuery.Host.Script

namespace Sh

/-- Become a program that is looked for at paths: the reason why that is not possible. A file that is neither a program
nor names an interpreter is a script for a shell. -/
def becomeFirst (arguments : List Raw) (bindings : List (Raw × Raw)) : OsError → List Raw → Sh OsError
  | reason, [] => pure reason
  | reason, path :: paths => do
    let refusal : OsError ← ask (.execute path arguments bindings)
    let refusal : OsError ← match refusal with
      | .badExecutable => do
        let shell := "/bin/sh".toList
        if ← maybeScript path then ask (.execute shell (shell :: path :: arguments.drop 1) bindings)
        else pure refusal
      | other => pure other
    match refusal with
    | .noEntry => becomeFirst arguments bindings reason paths
    | .notDirectory => becomeFirst arguments bindings reason paths
    | other => becomeFirst arguments bindings other paths

/-- Become a program that is looked for from the directory of a number on; the shell ends if that is not possible. -/
def become {α : Type} (arguments : List Raw) (search : Raw) (index : Nat) : Sh α := do
  flush
  let shell ← get
  let name := arguments.head?.getD []
  let paths := if name.contains '/' then [name] else (searchPaths search name).drop index
  let reason ← becomeFirst arguments shell.environment .noEntry paths
  conclude (if [OsError.tooManyLinks, .nameTooLong, .noEntry, .notDirectory].contains reason then 127 else 126)
  protest (name ++ ": ".toList ++ runReason reason)
  throw .done

/-- Show a command before it is run. -/
def showCommand (run : Run) (kept : List Kept) (settings fields : List Raw) : Sh Unit := do
  let shell ← get
  if shell.has 'x' && !shell.showing then
    set { shell with showing := true }
    let prompt := (shell.value? "PS4".toList).getD []
    let front ← if prompt.any fun c => c == '$' || c == '\x60' || c == '\\' then do
        let word ← readDocument prompt
        documentText (capture run) word
      else pure prompt
    modify fun shell => { shell with showing := false }
    let errors := ((kept.find? fun before => before.descriptor == 2).bind Kept.copy).getD 2
    let line := front ++ [' '].intercalate (settings ++ fields) ++ ['\n']
    let _ ← ask (.write errors (Raw.octets line))

/-- How many functions can be run, one inside of another. -/
def deepestCall : Nat := 1000

/-- Call a function with arguments. -/
def callFunction (run : Run) (purpose : Purpose) (body : Command) (arguments : List Raw) : Sh Unit := do
  let shell ← get
  if deepestCall ≤ shell.depth then
    giveUp ("Maximum function recursion depth (".toList ++ decimal deepestCall ++ ") reached".toList)
  let result ← attempt (withArguments { values := arguments } (run { isTested := purpose.isTested } body))
  match result with
  | .error (.function _) => pure ()
  | other => resume other

/-- Leave loops, the last of which may go on. -/
def leaveLoops (again : Bool) (arguments : List Raw) : Sh Nat := do
  let count ← match arguments with
    | [] => pure 1
    | text :: _ => do
      let count ← numberOf text
      if count = 0 then refuseNumber text
      pure count
  let shell ← get
  if shell.loops = 0 then pure 0
  else
    conclude 0
    throw (.loops (min count shell.loops) again)

/-- Leave a function, or a script that is read by another one. -/
def leaveFunction (arguments : List Raw) : Sh Nat := do
  match arguments with
  | [] => throw (.function false)
  | text :: _ => do
    let status ← numberOf text
    conclude status
    throw (.function true)

/-- Leave the shell. -/
def leaveShell (arguments : List Raw) : Sh Nat := do
  if let text :: _ := arguments then
    let status ← numberOf text
    modify fun shell => { shell with kept := some status }
  throw .exit

/-- Run a text that arguments make up. -/
def evaluateText (run : Run) (purpose : Purpose) (arguments : List Raw) : Sh Nat :=
  if arguments.isEmpty then pure 0
  else runText (fun inner command => run { inner with isTested := inner.isTested || purpose.isTested } command)
    ([' '].intercalate arguments)

/-- The path of a script that is to be read. -/
def scriptPath (name : Raw) : Sh Raw := do
  if name.contains '/' then pure name
  else
    let shell ← get
    let mut place : Option Raw := none
    for path in searchPaths shell.search name do
      if place.isNone then
        let found : Except OsError Status ← ask (.inspect path true)
        if let .ok status := found then
          if status.kind == Kind.file then place := some path
    match place with
    | some path => pure path
    | none => giveUp (name ++ ": not found".toList)

/-- Read a script as if it stood here. -/
def source (run : Run) (arguments : List Raw) : Sh Nat := do
  match ← withoutOptions arguments with
  | [] => pure 0
  | name :: _ => do
    let path ← scriptPath name
    let descriptor ← openScript path
    modify fun shell => { shell with command := some path }
    let result ← attempt (withInput { text := [], descriptor := some descriptor, complete := false }
      (runInput run false))
    ask (.close descriptor)
    modify fun shell => { shell with keptDescriptors := shell.keptDescriptors - 1 }
    match result with
    | .error (.function _) => pure (← get).status
    | other => resume other

/-- Become a program. -/
def execute (arguments : List Raw) : Sh Nat := do
  match arguments with
  | [] => pure 0
  | program => do become program (← get).search 0

/-- What a command does that a shell carries out itself. -/
def carryOut (run : Run) (purpose : Purpose) (name : Raw) (arguments : List Raw) : Sh Nat :=
  match String.ofList name with
  | "." => source run arguments
  | "alias" => setAliases arguments
  | "bg" => controlGroups arguments
  | "break" => leaveLoops false arguments
  | "cd" => changeDirectory arguments
  | "chdir" => changeDirectory arguments
  | "command" => describe arguments
  | "continue" => leaveLoops true arguments
  | "echo" => echo arguments
  | "eval" => evaluateText run purpose arguments
  | "exec" => execute arguments
  | "exit" => leaveShell arguments
  | "export" => exportVariables arguments
  | "false" => pure 1
  | "fg" => controlGroups arguments
  | "getopts" => getOptions arguments
  | "hash" => hash arguments
  | "jobs" => showGroups arguments
  | "kill" => kill arguments
  | "local" => localVariables arguments
  | "printf" => printf arguments
  | "pwd" => showDirectory arguments
  | "read" => readLine arguments
  | "readonly" => fixVariables arguments
  | "return" => leaveFunction arguments
  | "set" => setShell arguments
  | "shift" => shift arguments
  | "test" => test false arguments
  | "times" => times
  | "trap" => trap arguments
  | "type" => type arguments
  | "ulimit" => setLimit arguments
  | "umask" => setMask arguments
  | "unalias" => removeAliases arguments
  | "unset" => unsetAll arguments
  | "wait" => wait arguments
  | "[" => test true arguments
  | _ => pure 0

/-- Carry out a command that a shell carries out itself. -/
def callBuiltin (run : Run) (purpose : Purpose) (name : Raw) (arguments : List Raw) : Sh Unit := do
  let before := (← get).command
  modify fun shell => { shell with command := some name }
  let result ← attempt (carryOut run purpose name arguments)
  flush
  match result with
  | .ok status => do
    let shell ← get
    if shell.outputFailed then
      modify fun shell => { shell with command := some name, outputFailed := false }
      protest (name ++ ": I/O error".toList)
      conclude (Nat.lor status 1)
    else conclude status
  | .error _ => modify fun shell => { shell with outputFailed := false }
  modify fun shell => { shell with command := before }
  match result with
  | .ok _ => pure ()
  | .error leaving => throw leaving

/-- What is known of a command before it is run. -/
structure Prepared where
  /-- Its name and its arguments as far as they are known. -/
  fields : List Raw
  /-- The words that stand for the other arguments. -/
  words : List Word
  /-- The fields in front that only pass functions over. -/
  passed : List Raw := []
  /-- Whether functions are passed over. -/
  passFunctions : Bool := false
  /-- Where programs are looked for, if not at the usual places. -/
  search : Option Raw := none
  /-- What the shell carries out itself, as far as that is known. -/
  builtin : Option Builtin := none
  /-- Whether failures are those of the shell. -/
  special : Bool := false
  /-- Whether variables that are set for the command are restored behind it. -/
  restores : Bool := true

/-- Read the options of the command that passes functions over: whether a name follows, and what is known then. -/
def passOptions (capture : Capture) : Nat → List Raw → List Raw → Prepared → Sh (Bool × Prepared)
  | 0, _, _, prepared => pure (false, prepared)
  | steps + 1, taken, [], prepared => do
    let (fields, words) ← fillFields capture prepared.words
    let prepared := { prepared with words }
    if fields.isEmpty then pure (false, { prepared with fields := taken })
    else passOptions capture steps taken fields prepared
  | steps + 1, taken, field :: rest, prepared => do
    match field with
    | ['-', '-'] => do
      let (rest, words) ← if rest.isEmpty then fillFields capture prepared.words else pure (rest, prepared.words)
      if rest.isEmpty then pure (false, { prepared with fields := taken ++ [field], words })
      else pure (true, { prepared with fields := rest, words, passed := prepared.passed ++ taken ++ [field] })
    | '-' :: letter :: letters =>
      if (letter :: letters).all fun c => c == 'p' then
        passOptions capture steps (taken ++ [field]) rest { prepared with search := some usualPlaces }
      else pure (false, { prepared with fields := taken ++ field :: rest })
    | _ => pure (true, { prepared with fields := field :: rest, passed := prepared.passed ++ taken })

/-- Find out what the shell carries out itself, through commands that only pass functions over. -/
def prepare (capture : Capture) : Nat → Bool → Prepared → Sh Prepared
  | 0, _, prepared => pure prepared
  | steps + 1, isFirst, prepared => do
    let shell ← get
    let name := prepared.fields.head?.getD []
    let isFunction := !prepared.passFunctions && (shell.functions.lookup name).isSome
    match (if isFunction then none else Builtin.ofName? shell.dialect name) with
    | none => pure { prepared with builtin := none }
    | some builtin => do
      let prepared := if isFirst then
          { prepared with builtin := some builtin, special := builtin.special, restores := !builtin.special }
        else { prepared with builtin := some builtin }
      if name != "command".toList then pure prepared
      else
        let count := prepared.words.length + prepared.fields.length
        let (passes, prepared) ← passOptions capture (2 * count + 2) [name] (prepared.fields.drop 1) prepared
        if passes then prepare capture steps false { prepared with passFunctions := true } else pure prepared

/-- The fields that words stand for; those that set variables may be taken as they are. -/
def moreFields (capture : Capture) (assigns : Bool) (words : List Word) : Sh (List Raw) := do
  let dialect := (← get).dialect
  let fields ← words.mapM fun word => do
    if assigns && Word.isSetting dialect word then
      let text ← settingText capture word
      pure [text]
    else wordFields capture word
  pure fields.flatten

/-- Set the variables in front of a command: what was set. -/
def setVariables (capture : Capture) (restores exported : Bool) : List Word → Sh (List Raw)
  | [] => pure []
  | word :: words => do
    let written ← settingText capture word
    if restores then shadow written true
    else
      let (name, value) := splitSetting written
      setVariable name value exported false
    let others ← setVariables capture restores exported words
    pure (written :: others)

/-- Run what a name stands for with arguments. -/
def runFound (run : Run) (purpose : Purpose) (prepared : Prepared) (fields : List Raw) : Sh Unit := do
  let shell ← get
  let name := fields.head?.getD []
  let arguments := fields.drop 1
  let found ← match prepared.builtin with
    | some builtin => if builtin.regular then pure (Found.builtin builtin) else
        lookUp name prepared.passFunctions prepared.search
    | none => lookUp name prepared.passFunctions prepared.search
  let start := fun (index : Nat) => do
    let search := prepared.search.getD shell.search
    if purpose.isLast && !(← hasTraps) then become fields search index
    else
      let child ← branch do
        enterBranch
        let _ ← attempt (become fields search index : Sh Unit)
      concludeWith [child]
  match found with
  | .missing reason => do
    protest (name ++ ": ".toList ++ runReason reason)
    conclude 127
  | .path => start 0
  | .program index => start index
  | .builtin _ => do
    match ← attempt (callBuiltin run purpose name arguments) with
    | .error .error => if prepared.special then throw .error
    | other => resume other
  | .function _ body => callFunction run purpose body arguments

/-- Run a command that sets variables or consists of words. -/
def runSimple (run : Run) (purpose : Purpose) (line : Nat) (settings words : List Word)
    (redirections : List Redirection) : Sh Unit := do
  reach line
  modify fun shell => { shell with answered := 0 }
  let capture := capture run
  let (first, rest) ← fillFields capture words
  let prepared : Prepared := { fields := first, words := rest, restores := !first.isEmpty }
  let prepared ← if first.isEmpty then pure prepared else prepare capture (words.length + 1) true prepared
  let assigns := (prepared.builtin.map Builtin.assigns).getD false
  let more ← moreFields capture assigns prepared.words
  let fields := prepared.fields ++ more
  let isExecute := prepared.builtin.map Builtin.name == some "exec".toList
  let depth := (← get).shadowed.length
  let targets ← redirections.mapM (targetOf capture)
  let (kept, result) ← redirectEach capture true targets []
  if prepared.restores then modify fun shell => { shell with shadowed := [] :: shell.shadowed }
  let finish := do
    restoreDescriptors isExecute kept
  match result with
  | .error .error => do
    finish
    unshadowTo depth
    if prepared.special && !first.isEmpty then throw .error
  | .error other => do
    finish
    throw other
  | .ok () => do
    let result ← attempt do
      let set_ ← setVariables capture prepared.restores (isExecute && 1 < fields.length) settings
      showCommand run kept set_ (prepared.passed ++ fields)
      if first.isEmpty then conclude (← get).answered
      else runFound run purpose prepared fields
    finish
    match result with
    | .ok () => unshadowTo depth
    | .error leaving => do
      if staysInside leaving then unshadowTo depth
      throw leaving

end Sh

end AnswerQuery.Host.Script
