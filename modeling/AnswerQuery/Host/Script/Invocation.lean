import AnswerQuery.Host.Script.Evaluation

/-! Shells of the plain dialect as programs: what they run, and with which arguments. -/

namespace AnswerQuery.Host.Script

namespace Sh

/-- What the arguments of a shell ask for. -/
structure Called where
  /-- Whether the script is an argument. -/
  inArgument : Bool := false
  /-- The arguments behind the options. -/
  operands : List Raw

/-- Read the letters of an argument with options: whether the script is an argument, and the arguments that follow. -/
def readCallLetters (value : Bool) (inArgument : Bool) : Raw → List Raw → Sh (Bool × List Raw)
  | [], others => pure (inArgument, others)
  | 'c' :: rest, others => readCallLetters value true rest others
  | 'l' :: rest, others => readCallLetters value inArgument rest others
  | 'o' :: rest, others => do
    match others with
    | name :: others => do
      setNamed name value
      readCallLetters value inArgument rest others
    | [] => do
      -- No option has been decided on so far, which counts as if all were set.
      let options := (← get).options
      modify fun shell => { shell with options := (Shell.optionNames .plain).map Prod.snd }
      showOptions (!value)
      modify fun shell => { shell with options }
      flush
      readCallLetters value inArgument rest []
  | letter :: rest, others => do
    setLetter letter value
    readCallLetters value inArgument rest others

/-- Read the options of a shell. -/
def readCall : Nat → Bool → List Raw → Sh Called
  | 0, inArgument, operands => pure ⟨inArgument, operands⟩
  | steps + 1, inArgument, arguments => do
    match arguments with
    | ['-'] :: operands => pure ⟨inArgument, operands⟩
    | ['-', '-'] :: operands => pure ⟨inArgument, operands⟩
    | ('-' :: letters) :: others => do
      let (inArgument, others) ← readCallLetters true inArgument letters others
      readCall steps inArgument others
    | ('+' :: letters) :: others => do
      let (inArgument, others) ← readCallLetters false inArgument letters others
      readCall steps inArgument others
    | operands => pure ⟨inArgument, operands⟩

/-- Take over the environment variables, and set those that every shell has. -/
def takeEnvironment : Sh Unit := do
  let bindings : List (Raw × Raw) ← ask .bindings
  let parent : Nat ← ask .parent
  let usual : List (String × Raw) :=
    [("PATH", usualPlaces), ("PS1", "$ ".toList), ("PS2", "> ".toList), ("PS4", "+ ".toList)]
  modify fun shell =>
    let shell := usual.foldl (fun shell (name, value) => shell.put name.toList ⟨some value, false, false, none, []⟩) shell
    let shell := bindings.foldl (fun shell (name, value) =>
      if Raw.isName name then shell.put name ⟨some value, true, false, none, []⟩ else shell) shell
    let kept := fun (name : Raw) => ((shell.variables_.lookup name).map Variable.exported).getD false
    [("IFS", Shell.usualSeparators), ("OPTIND", ['1']), ("PPID", decimal parent)].foldl (fun shell (name, value) =>
      shell.put name.toList ⟨some value, kept name.toList, false, none, []⟩) shell

/-- Run a shell with arguments. -/
def start (arguments : List Raw) : Sh Unit := do
  takeEnvironment
  let ignored : List Nat ← ask .ignored
  modify fun shell => { shell with ignoredBefore := ignored }
  takePlace
  let called ← readCall (arguments.length + 1) false arguments
  if (← get).has 'i' then modify fun shell => shell.setOption 'm' true
  checkControl
  match called.inArgument, called.operands with
  | true, [] => giveUp "-c requires an argument".toList
  | true, script :: operands => do
    let shell ← get
    set { shell with
      name := operands.head?.getD shell.name
      arguments := { values := operands.drop 1 } }
    let lastMayEnd := !shell.has 's'
    let _ ← withInput { text := script.filter (· != '\x00'), complete := true } (runInput run lastMayEnd)
    if shell.has 's' then
      let _ ← runInput run false
  | false, operands => do
    let shell ← get
    match (if shell.has 's' then none else operands.head?) with
    | none => do
      set { shell.setOption 's' true with arguments := { values := operands } }
      let _ ← runInput run false
    | some path => do
      let descriptor ← openScript path
      modify fun shell => { shell with
        name := path
        arguments := { values := operands.drop 1 }
        input := { text := [], descriptor := some descriptor, complete := false } }
      let _ ← runInput run false

end Sh

end AnswerQuery.Host.Script

/-! Shells of the rich dialect as programs: what they run, and with which arguments. -/

namespace AnswerQuery.Host.Script

/-- What the arguments of a shell of the rich dialect ask for. -/
structure Asked where
  /-- Whether the script is an argument. -/
  inArgument : Bool := false
  /-- Whether the script is read from the standard input. -/
  fromInput : Bool := false
  /-- The arguments behind the options. -/
  operands : List Raw := []

namespace Sh

/-- The options of a shell that have long names; some of them take arguments. -/
def longNames : List (String × Bool) :=
  [("debug", false), ("debugger", false), ("dump-po-strings", false), ("dump-strings", false), ("help", false),
    ("init-file", true), ("login", false), ("noediting", false), ("noprofile", false), ("norc", false),
    ("posix", false), ("pretty-print", false), ("rcfile", true), ("restricted", false), ("verbose", false),
    ("version", false)]

/-- How a shell is to be used. -/
def invocationUsage (name : Raw) : Raw :=
  "Usage:\t".toList ++ name ++ " [GNU long option] [option] ...\n\t".toList ++ name ++
    " [GNU long option] [option] script-file ...\nGNU long options:\n".toList ++
    longNames.flatMap (fun (long, _) => "\t--".toList ++ long.toList ++ ['\n']) ++
    ("Shell options:\n\t-ilrsD or -c command or -O shopt_option\t\t(invocation only)\n" ++
      "\t-abefhkmnptuvxBCEHPT or -o option\n").toList

/-- Complain about the arguments of a shell, and leave it. -/
def refuseCall {α : Type} (showsUsage : Bool) (status : Nat) (message : Raw) : Sh α := do
  let shell ← get
  sayError (shell.name ++ ": ".toList ++ message ++ ['\n'])
  if showsUsage then sayError (invocationUsage shell.name)
  conclude status
  throw .exit

/-- Read the options with long names; the arguments that follow them. -/
def readLongNames : Nat → List Raw → Sh (List Raw)
  | 0, arguments => pure arguments
  | _, [] => pure []
  | steps + 1, argument :: others => do
    let isLong := "--".toList.isPrefixOf argument
    let name := argument.drop (if isLong then 2 else 1)
    match (if argument.head? == some '-' then longNames.find? fun known => known.1.toList == name else none) with
    | some (known, takes) => do
      if known == "posix" then modify fun shell => shell.setOption '7' true
      if known == "verbose" then modify fun shell => shell.setOption 'v' true
      match takes, others with
      | false, _ => readLongNames steps others
      | true, _ :: rest => readLongNames steps rest
      | true, [] => refuseCall false 2 (argument ++ ": option requires an argument".toList)
    | none =>
      if isLong && !name.isEmpty then refuseCall true 2 (argument ++ ": invalid option".toList)
      else pure (argument :: others)

/-- Turn a switch on or off that an argument names. -/
def callSwitch (value : Bool) (name : Raw) : Sh Unit := do
  if !(Switch.names.map String.toList).contains name then
    protest (name ++ ": invalid shell option name".toList)
    conclude 2
    throw .exit
  modify fun shell =>
    let others := shell.switches.filter (· != name)
    { shell with switches := if value then name :: others else others }

/-- Read the letters of an argument with options; what is asked for then, and the arguments that follow. -/
def readAskedLetters (value : Bool) : Asked → Raw → List Raw → Sh (Asked × List Raw)
  | asked, [], others => pure (asked, others)
  | asked, letter :: rest, others => do
    match letter, others with
    | 'c', _ => readAskedLetters value { asked with inArgument := true } rest others
    | 's', _ => readAskedLetters value { asked with fromInput := true } rest others
    | 'l', _ => readAskedLetters value asked rest others
    | 'r', _ => readAskedLetters value asked rest others
    | 'i', _ => readAskedLetters value asked rest others
    | 'D', _ => readAskedLetters value asked rest others
    | 'o', name :: others => do
      match ← attempt (setNamed name value) with
      | .ok () => readAskedLetters value asked rest others
      | .error _ => throw .exit
    | 'o', [] => do
      showOptions (!value)
      flush
      readAskedLetters value asked rest []
    | 'O', name :: others => do
      callSwitch value name
      readAskedLetters value asked rest others
    | 'O', [] => do
      let shell ← get
      for name in Switch.names do
        showSwitch (!value) false name.toList (shell.switches.contains name.toList)
      flush
      readAskedLetters value asked rest []
    | _, _ =>
      if (Shell.optionNames .rich).any fun option => option.2 == letter && !letter.isDigit then
        setLetter letter value
        readAskedLetters value asked rest others
      else refuseCall true 2 ([if value then '-' else '+', letter] ++ ": invalid option".toList)

/-- Read the options of a shell. -/
def readAsked : Nat → Asked → List Raw → Sh Asked
  | 0, asked, operands => pure { asked with operands }
  | steps + 1, asked, arguments => do
    match arguments with
    | ['-'] :: operands => pure { asked with operands }
    | ['-', '-'] :: operands => pure { asked with operands }
    | ('-' :: letters) :: others => do
      let (asked, others) ← readAskedLetters true asked letters others
      readAsked steps asked others
    | ('+' :: letters) :: others => do
      let (asked, others) ← readAskedLetters false asked letters others
      readAsked steps asked others
    | operands => pure { asked with operands }

/-- The version of the dialect. -/
def richVersion : List String :=
  ["5", "2", "15", "1", "release", "x86_64-pc-linux-gnu"]

/-- Set the variables that every shell of the rich dialect has, and take over the environment variables. -/
def takeSurroundings : Sh Unit := do
  let bindings : List (Raw × Raw) ← ask .bindings
  let parent : Nat ← ask .parent
  let shell ← get
  let found ← programPaths ((bindings.lookup "PATH".toList).getD usualPlaces) shell.name
  let own : List (String × Raw) :=
    [("BASH", if shell.name.contains '/' then shell.name else found.head?.getD shell.name), ("BASH_VERSION", "5.2.15(1)-release".toList), ("HOSTNAME", "host".toList),
      ("HOSTTYPE", "x86_64".toList), ("IFS", Shell.usualSeparators), ("MACHTYPE", "x86_64-pc-linux-gnu".toList),
      ("OPTERR", ['1']), ("OPTIND", ['1']), ("OSTYPE", "linux-gnu".toList), ("PATH", usualPlaces),
      ("PS4", "+ ".toList), ("TERM", "dumb".toList)]
  let given : List (String × Raw) := [("EUID", "65534".toList), ("PPID", decimal parent), ("UID", "65534".toList)]
  let level := ((bindings.lookup "SHLVL".toList).bind Numeral.natural?).getD 0 + 1
  let exported := (bindings.filter fun binding => Raw.isName binding.1) ++ [("SHLVL".toList, decimal level)]
  let shell := own.foldl (fun shell (name, value) => shell.put name.toList { value := some value }) shell
  let shell := exported.foldl (fun (shell : Shell) (name, value) =>
    shell.put name { value := some value, exported := true }) shell
  let shell := given.foldl (fun shell (name, value) =>
    shell.put name.toList { value := some value, fixed := true, traits := ['i'] }) shell
  let shell := shell.put "BASH_VERSINFO".toList
    { value := none, fixed := true, items := some (.ofValues (richVersion.map String.toList)) }
  let shell := if (shell.value? "OLDPWD".toList).isNone then
    shell.put "OLDPWD".toList { value := none, exported := true } else shell
  set { shell with switches := Switch.usual.map String.toList, options := "hB4".toList, lastWord := shell.name }

/-- Open a script that is the operand of a shell. -/
def openOperand (path : Raw) : Sh Nat := do
  let shell ← get
  let here : Except OsError Status ← ask (.inspect path true)
  let path ← if here.toOption.isSome || path.contains '/' then pure path else richScriptPath path
  let status : Except OsError Status ← ask (.inspect path true)
  if let .ok status := status then
    if status.kind == Kind.directory then
      modify fun shell => { shell with name := path }
      refuseCall false 126 (path ++ ": Is a directory".toList)
  let opened : Except OsError Nat ← ask (.openFile path .reading)
  match opened with
  | .error reason =>
    refuseCall false (if reason == .noEntry then 127 else 126) (path ++ ": ".toList ++ reason.description)
  | .ok source => do
    let place := firstPrivate + shell.keptDescriptors
    modify fun shell => { shell with keptDescriptors := shell.keptDescriptors + 1 }
    moveDescriptor source place
    if !(← maybeScript path) then
      modify fun shell => { shell with name := path }
      refuseCall false 126 (path ++ ": cannot execute binary file".toList)
    pure place

/-- Run a shell with arguments. -/
def startRichly (arguments : List Raw) : Sh Unit := do
  takeSurroundings
  let ignored : List Nat ← ask .ignored
  modify fun shell => { shell with ignoredBefore := ignored, command := some shell.name }
  takePlace
  let arguments ← readLongNames (arguments.length + 1) arguments
  let asked ← readAsked (arguments.length + 1) {} arguments
  modify fun shell => { shell with command := none }
  match asked.inArgument, asked.operands with
  | true, [] => refuseCall false 2 "-c: option requires an argument".toList
  | true, script :: operands => do
    modify fun shell => { (shell.setOption 'c' true).put "BASH_EXECUTION_STRING".toList { value := some script } with
      isArgument := true
      name := operands.head?.getD shell.name
      arguments := { values := operands.drop 1 } }
    let _ ← withInput { text := script.filter (· != '\x00'), complete := true, title := "-c: ".toList }
      (runInput run true)
  | false, operands => do
    match (if asked.fromInput then none else operands.head?) with
    | none => do
      modify fun shell => { shell.setOption 's' true with arguments := { values := operands } }
      let _ ← runInput run false
    | some path => do
      let descriptor ← openOperand path
      modify fun shell => { shell with
        name := path
        arguments := { values := operands.drop 1 }
        input := { text := [], descriptor := some descriptor, complete := false } }
      let _ ← runInput run false

end Sh

end AnswerQuery.Host.Script

/-! Shells as programs. -/

namespace AnswerQuery.Host.Script

/-- Run a shell of a dialect, the first argument being the name it is called by. -/
def shell (dialect : Dialect) (arguments : List Raw) : Job Nat := do
  let identity : Nat ← Job.call .identity
  let first : Shell := {
    dialect
    name := arguments.head?.getD "sh".toList
    arguments := { values := [] }
    variables_ := []
    identity
    input := { text := [], descriptor := some 0, complete := false } }
  let work : Sh Unit := do
    let operands := arguments.drop 1
    let result ← Sh.attempt (if dialect == .rich then Sh.startRichly operands else Sh.start operands)
    Sh.settle Sh.run result
  let (_, shell) ← work first
  pure shell.status

end AnswerQuery.Host.Script
