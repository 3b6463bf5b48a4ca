import AnswerQuery.Host.Numeral
import AnswerQuery.Host.Program
import AnswerQuery.Host.Script.Grammar
import AnswerQuery.Host.Octets

/-! The elements of variables that have several values: lists, whose places are numbers, and tables, whose places are
texts. -/

namespace AnswerQuery.Host.Script

/-- The elements of a variable. -/
inductive Items where
  /-- The elements of a list with their places, in order. -/
  | list (elements : List (Nat × Raw))
  /-- The entries of a table, in the order of its rows. -/
  | table (entries : List (Raw × Raw))
  deriving DecidableEq, Repr

/-- An element that is put among others, and its place if that is told. -/
structure Element where
  /-- Its place. -/
  place : Option Raw := none
  /-- Whether the value is added to the one before. -/
  appends : Bool := false
  /-- Its value. -/
  value : Raw

namespace Items

/-- How many rows a table has. -/
def rows : Nat := 1024

/-- The row of a table that a text belongs to. -/
def rowOf (key : Raw) : Nat :=
  key.foldl (fun hash c => Nat.xor (hash * 16777619 % 4294967296) c.toNat) 2166136261 % rows

/-- Put an element at a place of a list. -/
def putAt (place : Nat) (value : Raw) : List (Nat × Raw) → List (Nat × Raw)
  | [] => [(place, value)]
  | (other, before) :: rest =>
    if other < place then (other, before) :: putAt place value rest
    else if other = place then (place, value) :: rest
    else (place, value) :: (other, before) :: rest

/-- Put an entry into a table; a new one comes first in its row. -/
def putUnder (key value : Raw) (entries : List (Raw × Raw)) : List (Raw × Raw) :=
  if (entries.lookup key).isSome then
    entries.map fun (other, before) => if other == key then (key, value) else (other, before)
  else
    let row := rowOf key
    entries.takeWhile (fun entry => rowOf entry.1 < row) ++ (key, value) ::
      entries.dropWhile (fun entry => rowOf entry.1 < row)

/-- The values. -/
def values : Items → List Raw
  | list elements => elements.map Prod.snd
  | table entries => entries.map Prod.snd

/-- The places. -/
def places : Items → List Raw
  | list elements => elements.map fun element => decimal element.1
  | table entries => entries.map Prod.fst

/-- Values at the places from zero on. -/
def ofValues (values : List Raw) : Items :=
  list (values.zipIdx.map fun (value, place) => (place, value))

/-- The place behind the last one of a list. -/
def nextPlace : Items → Nat
  | list elements => (elements.getLast?.map fun element => element.1 + 1).getD 0
  | table _ => 0

/-- The value that stands for all of them. -/
def first? : Items → Option Raw
  | list elements => elements.lookup 0
  | table entries => entries.lookup ['0']

end Items

end AnswerQuery.Host.Script

/-! A shell: what it keeps in mind while it runs a script, and the ways out of what it is doing. -/

namespace AnswerQuery.Host.Script

/-- What is left before its end. -/
inductive Leaving where
  /-- So many loops, the last of which may go on with its next round. -/
  | loops (count : Nat) (again : Bool)
  /-- A function, or a script that is read by another one; whether its status was told. -/
  | function (told : Bool)
  /-- The shell itself. -/
  | exit
  /-- A process of a shell that has done what it was started for. -/
  | done
  /-- Everything up to a command that can fail. -/
  | error
  deriving DecidableEq, Repr

/-- A variable. -/
structure Variable where
  /-- Its value, if it has one. -/
  value : Option Raw
  /-- Whether it is passed on to programs. -/
  exported : Bool := false
  /-- Whether it keeps its value. -/
  fixed : Bool := false
  /-- Its elements, if it has several. -/
  items : Option Items := none
  /-- The letters of what else is particular about it. -/
  traits : Raw := []
  deriving DecidableEq, Repr

namespace Variable

/-- The value of a variable, which is that of one of its elements if it has several. -/
def text (variable_ : Variable) : Option Raw :=
  match variable_.items with
  | some items => items.first?
  | none => variable_.value

/-- Whether something is particular about a variable. -/
def has (variable_ : Variable) (trait : Char) : Bool :=
  variable_.traits.contains trait

/-- A value as a variable takes it, which may change its letters. -/
def shaped (variable_ : Variable) (value : Raw) : Raw :=
  if variable_.has 'u' then value.map Char.toUpper
  else if variable_.has 'l' then value.map Char.toLower
  else match variable_.has 'c', value with
    | true, c :: rest => c.toUpper :: rest.map Char.toLower
    | _, _ => value

end Variable

/-- What was so before a function or a command changed it. -/
inductive Shadowed where
  /-- A variable, if there was one. -/
  | variable_ (name : Raw) (before : Option Variable)
  /-- The options. -/
  | options (before : Raw)

/-- A program that has been found. -/
structure Remembered where
  /-- Its name. -/
  name : Raw
  /-- The number of the directory it is in among those that were looked through. -/
  index : Nat
  /-- Whether the working directory has changed since. -/
  doubtful : Bool := false

/-- Processes that were started together. -/
structure Group where
  /-- Its number. -/
  number : Nat
  /-- The processes. -/
  processes : List Nat
  /-- How they have ended, as far as that is known. -/
  ended : List (Nat × ExitStatus) := []
  /-- Whether somebody has waited for it. -/
  waited : Bool := false

namespace Group

/-- Whether all processes have ended. -/
def isOver (group : Group) : Bool :=
  group.processes.all fun process => (group.ended.lookup process).isSome

/-- How the last process has ended. -/
def status (group : Group) : ExitStatus :=
  (group.processes.getLast?.bind fun process => group.ended.lookup process).getD (.exited 0)

end Group

/-- Where a script is read from. -/
structure Input where
  /-- What has been read of it and not been used. -/
  text : Raw
  /-- The texts that are read first. -/
  pushed : List Pushed := []
  /-- The descriptor that the rest is read from, if there is a rest. -/
  descriptor : Option Nat := none
  /-- Whether nothing follows. -/
  complete : Bool
  /-- The line. -/
  line : Nat := 1
  /-- What it is called in complaints, with what follows that. -/
  title : Raw := []

/-- The arguments of a shell or a function, and how far their options have been read. -/
structure Arguments where
  /-- The arguments, from the first on. -/
  values : List Raw
  /-- The number of the next argument to be read for options. -/
  index : Nat := 1
  /-- Where in the argument before it the next option is, if it is there. -/
  offset : Option Nat := none

/-- A shell. -/
structure Shell where
  /-- The dialect of its scripts. -/
  dialect : Dialect := .plain
  /-- The name it is called by. -/
  name : Raw
  /-- The names of the functions that are being run, the innermost first. -/
  callers : List Raw := []
  /-- The paths of the scripts that are being read by others, the innermost first. -/
  sources : List Raw := []
  /-- How many scripts and texts are being read, one inside of another. -/
  readings : Nat := 1
  /-- How many processes it is in that were started to run parts of the script. -/
  layers : Nat := 0
  /-- How the commands of the last pipeline ended. -/
  statuses : List Nat := []
  /-- The switches that are on. -/
  switches : List Raw := []
  /-- The lists among the arguments of the command that declares variables. -/
  lists : List (List Element) := []
  /-- The directories to go back to. -/
  places : List Raw := []
  /-- The last word of the last command. -/
  lastWord : Raw := []
  /-- Whether the script is an argument. -/
  isArgument : Bool := false
  /-- The arguments. -/
  arguments : Arguments
  /-- The variables. -/
  variables_ : List (Raw × Variable)
  /-- The letters of the options that are set. -/
  options : Raw := []
  /-- The functions that are not defined in the script itself, and where they are. -/
  origins : List (Raw × Raw) := []
  /-- The functions: the line and the body of each. -/
  functions : List (Raw × Nat × Command) := []
  /-- The words that stand for texts. -/
  aliases : List (Raw × Raw) := []
  /-- The programs that have been found. -/
  found : List Remembered := []
  /-- The documents of the scripts, by their numbers. -/
  documents : List (Nat × Word) := []
  /-- How many documents there have been. -/
  documentCount : Nat := 0
  /-- How the last command ended. -/
  status : Nat := 0
  /-- The status when something began that has to end with it. -/
  kept : Option Nat := none
  /-- The number of the process of the shell, not of those it has started to run parts of the script. -/
  identity : Nat
  /-- The last process that was not waited for. -/
  latest : Option Nat := none
  /-- The processes that have been started and not been forgotten. -/
  groups : List Group := []
  /-- Where the script is read from. -/
  input : Input
  /-- The line that is told in complaints. -/
  line : Nat := 0
  /-- How many functions are being run, one inside of another. -/
  depth : Nat := 0
  /-- The name of the command that the shell itself is carrying out. -/
  command : Option Raw := none
  /-- How many loops the command is in. -/
  loops : Nat := 0
  /-- The variables to be restored, those of the innermost command first. -/
  shadowed : List (List Shadowed) := []
  /-- What is done when signals arrive; zero stands for the end. -/
  traps : List (Nat × Raw) := []
  /-- The signals that have arrived and for which nothing has been done yet. -/
  pending : List Nat := []
  /-- The signals that were ignored from the start. -/
  ignoredBefore : List Nat := []
  /-- How the last command in a word ended. -/
  answered : Nat := 0
  /-- How many values of words have been marked for splitting. -/
  regions : Nat := 0
  /-- How many descriptors are kept for later. -/
  keptDescriptors : Nat := 0
  /-- The descriptors of pipes that have paths in the commands that are being run. -/
  channels : List Nat := []
  /-- Whether the text in front of shown commands is just being found. -/
  showing : Bool := false
  /-- Whether writing to the standard output has failed. -/
  outputFailed : Bool := false
  /-- What has been written to the standard output and not yet been passed on, the last piece first. -/
  output : List Bytes := []
  /-- The limits that have been set. -/
  limits : List (Char × Raw) := []
  /-- The working directory as it was entered. -/
  directory : Raw := []

/-- What a shell does, which may lead out of what it is in. -/
abbrev Sh := ExceptT Leaving (StateT Shell Job)

namespace Sh

/-- Do something that has nothing to do with the shell itself. -/
def lift {α : Type} (job : Job α) : Sh α := ExceptT.lift (StateT.lift job)

/-- Make a call. -/
def ask (request : Request) : Sh request.Reply := lift (Job.call request)

/-- Do something and find out how it was left. -/
def attempt {α : Type} (body : Sh α) : Sh (Except Leaving α) := ExceptT.lift body

/-- Go on as something was left. -/
def resume {α : Type} : Except Leaving α → Sh α
  | .ok value => pure value
  | .error leaving => throw leaving

/-- Repeat a step on a value until it leads to a result. -/
def loop {σ α : Type} (start : σ) (step : σ → Sh (σ ⊕ α)) : Sh α := fun shell =>
  Job.loop (start, shell) fun (value, shell) => do
    match ← step value shell with
    | (.ok (.inl value), shell) => pure (.inl (value, shell))
    | (.ok (.inr result), shell) => pure (.inr (.ok result, shell))
    | (.error leaving, shell) => pure (.inr (.error leaving, shell))

/-- Set the status. -/
def conclude (status : Nat) : Sh Unit :=
  modify fun shell => { shell with status }

/-- Pass on what has been written to the standard output. -/
def flush : Sh Unit := do
  let shell ← get
  if !shell.output.isEmpty then
    set { shell with output := [] }
    let result : Except OsError Unit ← ask (.write 1 shell.output.reverse.flatten)
    if let .error _ := result then modify fun shell => { shell with outputFailed := true }

/-- Write to the standard output. -/
def say (text : Raw) : Sh Unit := do
  if !text.isEmpty then modify fun shell => { shell with output := Raw.octets text :: shell.output }

/-- Write to the standard error. -/
def sayError (text : Raw) : Sh Unit := do
  lift (Job.complain (Raw.octets text))

/-- Complain with the name of the shell, the line, and the name of the command it is carrying out. -/
def protest (message : Raw) : Sh Unit := do
  let shell ← get
  let command := match shell.command with
    | some name => name ++ ": ".toList
    | none => []
  let place := (if shell.dialect == .rich then "line ".toList else []) ++ decimal shell.line
  sayError (shell.sources.head?.getD shell.name ++ ": ".toList ++ place ++ ": ".toList ++ command ++ message ++ ['\n'])

/-- Complain and leave everything up to a command that can fail. -/
def giveUp {α : Type} (message : Raw) : Sh α := do
  protest message
  conclude (if (← get).dialect == .rich then 1 else 2)
  throw .error

/-- Complain and leave a command with a status. -/
def failWith {α : Type} (status : Nat) (message : Raw) : Sh α := do
  protest message
  conclude status
  throw .error

/-- Complain without the name of the command that the shell is carrying out, and leave everything up to a command that
can fail. -/
def giveUpPlainly {α : Type} (message : Raw) : Sh α := do
  modify fun shell => { shell with command := none }
  giveUp message

/-- Complain and leave the shell. -/
def giveUpShell {α : Type} (message : Raw) : Sh α := do
  modify fun shell => { shell with command := none }
  protest message
  conclude (if (← get).isArgument then 127 else 1)
  throw .exit

end Sh

namespace Shell

/-- Whether an option is set. -/
def has (shell : Shell) (letter : Char) : Bool :=
  shell.options.contains letter

/-- Whether a switch is on. -/
def isSwitched (shell : Shell) (name : String) : Bool :=
  shell.switches.contains name.toList

/-- Whether there are choices in patterns. -/
def hasChoices (shell : Shell) : Bool :=
  shell.isSwitched "extglob"

/-- Set or clear an option. -/
def setOption (shell : Shell) (letter : Char) (value : Bool) : Shell :=
  let others := shell.options.filter (· != letter)
  { shell with options := if value then letter :: others else others }

/-- The options in the order they are told, a letter for each. -/
def optionLetters : Dialect → Raw
  | .plain => "pubaCEVvxsnmiIfe".toList
  | .rich => "abefhikmnprtuvxBCEHPTcs".toList

/-- The names of the options. -/
def optionNames : Dialect → List (String × Char)
  | .plain =>
    [("errexit", 'e'), ("noglob", 'f'), ("ignoreeof", 'I'), ("interactive", 'i'), ("monitor", 'm'), ("noexec", 'n'),
      ("stdin", 's'), ("xtrace", 'x'), ("verbose", 'v'), ("vi", 'V'), ("emacs", 'E'), ("noclobber", 'C'),
      ("allexport", 'a'), ("notify", 'b'), ("nounset", 'u'), ("privileged", 'p'), ("nolog", '1'), ("debug", '2')]
  | .rich =>
    [("allexport", 'a'), ("braceexpand", 'B'), ("emacs", '1'), ("errexit", 'e'), ("errtrace", 'E'), ("functrace", 'T'),
      ("hashall", 'h'), ("histexpand", 'H'), ("history", '2'), ("ignoreeof", '3'), ("interactive-comments", '4'),
      ("keyword", 'k'), ("monitor", 'm'), ("noclobber", 'C'), ("noexec", 'n'), ("noglob", 'f'), ("nolog", '5'),
      ("notify", 'b'), ("nounset", 'u'), ("onecmd", 't'), ("physical", 'P'), ("pipefail", '6'), ("posix", '7'),
      ("privileged", 'p'), ("verbose", 'v'), ("vi", '8'), ("xtrace", 'x')]

/-- Whether the scripts are in the rich dialect. -/
def isRich (shell : Shell) : Bool :=
  shell.dialect == .rich

/-- The elements of a variable that the shell itself keeps. -/
def ownItems? (shell : Shell) (name : Raw) : Option Items :=
  match String.ofList name with
  | "PIPESTATUS" => some (.ofValues (shell.statuses.map decimal))
  | "FUNCNAME" =>
    if shell.callers.isEmpty then none
    else some (.ofValues (shell.callers ++ (if shell.isArgument then [] else ["main".toList])))
  | "BASH_SOURCE" =>
    let sources := shell.sources ++ (if shell.isArgument then [] else [shell.name])
    if sources.isEmpty then none else some (.ofValues sources)
  | "DIRSTACK" => some (.ofValues (shell.directory :: shell.places))
  | "GROUPS" => some (.ofValues ["65534".toList])
  | _ => none

/-- The value of a variable that the shell itself keeps. -/
def ownValue? (shell : Shell) (name : Raw) : Option Raw :=
  match String.ofList name with
  | "BASH_SUBSHELL" => some (decimal shell.layers)
  | "LINENO" => some (decimal shell.line)
  | "SECONDS" => some ['0']
  | "_" => some shell.lastWord
  | "BASHPID" => some (decimal shell.identity)
  | "BASHOPTS" => some ([':'].intercalate (shell.switches.mergeSort Raw.inOrder))
  | "SHELLOPTS" =>
    let set_ := (optionNames .rich).filter fun option => shell.has option.2
    some ([':'].intercalate (set_.map fun option => option.1.toList))
  | _ => (shell.ownItems? name).bind Items.first?

/-- The name of the variable that a name stands for, which may only tell the name of another one. -/
def realName (shell : Shell) : Nat → Raw → Raw
  | 0, name => name
  | steps + 1, name =>
    match shell.variables_.lookup name with
    | some ⟨some other, _, _, _, traits⟩ =>
      if traits.contains 'n' && !other.isEmpty then realName shell steps other else name
    | _ => name

/-- How many variables can stand for each other, one after the other. -/
def longestNaming : Nat := 8

/-- The value of a variable. -/
def value? (shell : Shell) (name : Raw) : Option Raw :=
  let name := if shell.isRich then shell.realName longestNaming name else name
  let own := if shell.isRich then shell.ownValue? name else none
  match own with
  | some value => some value
  | none => (shell.variables_.lookup name).bind Variable.text

/-- Put a variable in place of another one of its name. -/
def put (shell : Shell) (name : Raw) (variable_ : Variable) : Shell :=
  if (shell.variables_.lookup name).isSome then
    { shell with variables_ := shell.variables_.map fun pair => if pair.1 == name then (name, variable_) else pair }
  else { shell with variables_ := shell.variables_ ++ [(name, variable_)] }

/-- Let there be no variable of a name. -/
def drop (shell : Shell) (name : Raw) : Shell :=
  { shell with variables_ := shell.variables_.filter fun pair => pair.1 != name }

/-- The variables that are passed on to programs. -/
def environment (shell : Shell) : List (Raw × Raw) :=
  shell.variables_.filterMap fun (name, variable_) =>
    if variable_.exported && variable_.items.isNone then variable_.value.map fun value => (name, value) else none

/-- The characters that separate the fields of a value if nothing is said about them. -/
def usualSeparators : Raw := " \t\n".toList

/-- The characters that separate the fields of a value. -/
def separators (shell : Shell) : Raw :=
  (shell.value? "IFS".toList).getD usualSeparators

/-- Where programs are looked for. -/
def search (shell : Shell) : Raw :=
  (shell.value? "PATH".toList).getD []

end Shell

namespace Sh

/-- Do something under the name of a command. -/
def withCommand {α : Type} (command : Option Raw) (body : Sh α) : Sh α := do
  let before := (← get).command
  modify fun shell => { shell with command }
  let result ← attempt body
  modify fun shell => { shell with command := before }
  resume result

/-- Forget what depends on a variable that has been changed. -/
def noteChange (name : Raw) (value : Option Raw) : Sh Unit := do
  if name == "PATH".toList then modify fun shell => { shell with found := [] }
  if name == "OPTIND".toList then
    let value := value.getD []
    let front := Numeral.readFront 10 value
    if !front.found || front.value < 0 || 2147483647 < front.value || !front.rest.all Raw.isSpace then
      giveUp ("Illegal number: ".toList ++ value)
    modify fun shell => { shell with
      arguments := { shell.arguments with index := max front.value.toNat 1, offset := none } }

/-- A variable with a value; of one that has elements, one of them is set. -/
def withValue (variable_ : Variable) (value : Option Raw) : Variable :=
  let shaped := value.map variable_.shaped
  match variable_.items, shaped with
  | some (.list elements), some text => { variable_ with items := some (.list (Items.putAt 0 text elements)) }
  | some (.table entries), some text => { variable_ with items := some (.table (Items.putUnder ['0'] text entries)) }
  | some _, none => variable_
  | none, _ => { variable_ with value := shaped }

/-- Complain that a variable keeps its value. -/
def refuseChange {α : Type} (name : Raw) : Sh α := do
  if (← get).isRich then giveUpPlainly (name ++ ": readonly variable".toList)
  giveUp (name ++ ": is read only".toList)

/-- Set a variable, or leave it without a value; one that keeps its value cannot be changed. -/
def setVariable (name : Raw) (value : Option Raw) (exported fixed : Bool) : Sh Unit := do
  let shell ← get
  if !Raw.isName name then
    giveUp (if shell.isRich then "\x60".toList ++ name ++ "': not a valid identifier".toList
      else name ++ ": bad variable name".toList)
  let before := shell.variables_.lookup name
  if (before.map Variable.fixed).getD false then refuseChange name
  let exported := exported || shell.has 'a' || (before.map Variable.exported).getD false
  set (shell.put name { withValue (before.getD ⟨none, false, false, none, []⟩) value with exported, fixed })
  noteChange name value

/-- Set a variable. -/
def assign (name value : Raw) : Sh Unit :=
  setVariable name (some value) false false

/-- The name and the value of a setting; without a sign between them there is no value. -/
def splitSetting (written : Raw) : Raw × Option Raw :=
  let name := written.takeWhile (· != '=')
  (name, if name.length < written.length then some (written.drop (name.length + 1)) else none)

/-- The variables that are still known when they have been removed. -/
def lasting : List Raw :=
  ["IFS", "MAIL", "MAILPATH", "OPTIND", "PATH", "PS1", "PS2", "PS4"].map String.toList

/-- Remove a variable. -/
def unset (name : Raw) : Sh Unit := do
  let shell ← get
  match shell.variables_.lookup name with
  | none => if !Raw.isName name then giveUp (name ++ ": bad variable name".toList)
  | some variable_ =>
    if variable_.fixed then
      giveUp (name ++ (if shell.isRich then ": cannot unset: readonly variable" else ": is read only").toList)
    set (if lasting.contains name then shell.put name { variable_ with value := none } else shell.drop name)
    if name == "PATH".toList then noteChange name none

/-- Keep what a variable is, to restore it after the command that is run, and set it if a value is given. -/
def shadow (written : Raw) (exported : Bool) : Sh Unit := do
  let shell ← get
  let keep := fun (kept : Shadowed) => modify fun shell => { shell with
    shadowed := match shell.shadowed with
      | [] => []
      | first :: others => (kept :: first) :: others }
  if written == ['-'] then keep (.options shell.options)
  else
    let (name, value) := splitSetting written
    let before := shell.variables_.lookup name
    match before with
    | none => setVariable name value exported false
    | some variable_ =>
      if value.isSome then setVariable name value (exported || variable_.exported) false
    keep (.variable_ name before)

/-- Restore the variables of the innermost command. -/
def unshadow : Sh Unit := do
  let shell ← get
  match shell.shadowed with
  | [] => pure ()
  | first :: others =>
    set { shell with shadowed := others }
    for kept in first do
      match kept with
      | .options before => modify fun shell => { shell with options := before }
      | .variable_ name before => do
        modify fun shell => match before with
          | some variable_ => shell.put name variable_
          | none => shell.drop name
        noteChange name (before.bind Variable.text)

/-- Start a process that runs beside the shell, with the shell as it is; the answer is its number. -/
def branch (body : Sh Unit) : Sh Nat := do
  flush
  let shell ← get
  let child : Job Nat := do
    let (_, shell) ← (do body; flush) shell
    pure shell.status
  lift (Job.fork child.toProgram)

/-- The line of a command becomes the one that is told in complaints. -/
def reach (line : Nat) : Sh Unit :=
  modify fun shell => { shell with line }

end Sh

end AnswerQuery.Host.Script
