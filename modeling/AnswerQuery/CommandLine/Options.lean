import AnswerQuery.Trace

/-! Options of command lines: what may be given, and how the arguments are read. -/

namespace AnswerQuery.CommandLine

/-- What follows an option. -/
inductive Taking where
  /-- Nothing. -/
  | nothing
  /-- A text. -/
  | text
  /-- A path, which is not empty. -/
  | path
  /-- A level of traces; such an option may be given more than once. -/
  | level
  deriving DecidableEq, Repr

/-- An option that may be given. -/
structure Declared where
  /-- The name behind two dashes. -/
  name : Text
  /-- The letter behind one dash, if it has one. -/
  letter : Option Char
  /-- What follows. -/
  taking : Taking
  /-- What it is for. -/
  purpose : Text
  /-- The value it has if it is not given, as far as that is worth telling. -/
  usual : Option Text := none
  /-- Whether it has to be given. -/
  required : Bool := false
  deriving DecidableEq, Repr

/-- A command as it is called. -/
structure Command where
  /-- Its name. -/
  name : Text
  /-- What it does. -/
  purpose : Text
  /-- The options that may be given. -/
  options : List Declared

/-- Why a command does nothing. -/
inductive Refusal where
  /-- Help was asked for. -/
  | help
  /-- An argument that nothing is known about. -/
  | unexpected (argument : Text)
  /-- A name behind two dashes that no option has, and the options given so far. -/
  | unknown (name : Text) (given : List Text)
  /-- An option that may be given once is given again. -/
  | repeated (option : Declared)
  /-- An option has no value. -/
  | valueless (option : Declared)
  /-- A value that cannot be taken, and why. -/
  | unsuited (option : Declared) (value reason : Text)
  /-- An option that takes no value has one; the options given so far. -/
  | superfluous (option : Declared) (value : Text) (given : List Text)
  /-- An option that has to be given is not; the options given. -/
  | missing (option : Declared) (given : List Text)
  deriving DecidableEq, Repr

/-- The options that are given, by name, each with its value. -/
abbrev Given := List (Text × Text)

namespace Given

/-- The value of an option, if it is given. -/
def value? (given : Given) (name : String) : Option Text :=
  given.lookup name.toList

/-- Whether an option is given. -/
def has (given : Given) (name : String) : Bool :=
  (given.value? name).isSome

/-- The values of an option, in order. -/
def values (given : Given) (name : String) : List Text :=
  (given.filter (fun pair => pair.1 == name.toList)).map Prod.snd

/-- The names of the options that are given, each once. -/
def names (given : Given) : List Text :=
  (given.map Prod.fst).eraseDups

end Given

/-- Why a value cannot be taken by an option, if it cannot. -/
def Declared.objection? (declared : Declared) (value : Text) : Option Refusal :=
  match declared.taking with
  | .nothing => none
  | .text => none
  | .path => if value.isEmpty then some (.valueless declared) else none
  | .level =>
    if (Trace.ofLevel? value).isSome then none else some (.unsuited declared value (Trace.unknownLevel value))

/-- Give an option; all but traces may be given once. -/
def give (given : Given) (declared : Declared) (value : Text) : Except Refusal Given :=
  if declared.taking != .level && (given.lookup declared.name).isSome then .error (.repeated declared)
  else match declared.objection? value with
    | some refusal => .error refusal
    | none => .ok (given ++ [(declared.name, value)])

/-- How far arguments have been read. -/
structure Reading where
  /-- The options given. -/
  given : Given := []
  /-- The last option, if it is not among these yet, with its value if that has been read. -/
  pending : Option (Declared × Option Text) := none

namespace Reading

/-- The options given, with the last one. -/
def settle (reading : Reading) : Except Refusal Given :=
  match reading.pending with
  | none => .ok reading.given
  | some (declared, none) => .error (.valueless declared)
  | some (declared, some value) => give reading.given declared value

/-- The names of the options that have been met, whether they make sense or not. -/
def met (reading : Reading) : List Text :=
  match reading.settle, reading.pending with
  | .ok given, _ => given.names
  | .error (.unsuited ..), some (declared, _) => (reading.given ++ [(declared.name, [])]).names
  | .error (.repeated declared), _ => reading.given.names.filter (· != declared.name)
  | .error _, _ => reading.given.names

/-- Give one more option, with its value. -/
def add (reading : Reading) (declared : Declared) (value : Text) : Except Refusal Reading := do
  let given ← give (← reading.settle) declared value
  pure { given }

/-- Leave the value of one more option to the next argument. -/
def expect (reading : Reading) (declared : Declared) : Except Refusal Reading := do
  let given ← reading.settle
  pure { given, pending := some (declared, none) }

/-- Stop because help is asked for, if all is well so far. -/
def help (reading : Reading) : Except Refusal Reading := do
  let _ ← reading.settle
  .error .help

end Reading

/-- Read the letters behind one dash. -/
def readLetters (options : List Declared) : Reading → Text → Except Refusal Reading
  | reading, [] => .ok reading
  | reading, letter :: rest =>
    match options.find? (fun declared => declared.letter == some letter) with
    | none => if letter == 'h' then reading.help else .error (.unexpected ['-', letter])
    | some declared =>
      if declared.taking == .nothing then do
        let reading ← reading.add declared []
        readLetters options reading rest
      else match rest with
        | [] => reading.expect declared
        | '=' :: value => reading.add declared value
        | value => reading.add declared value

/-- The name of the option that prints help. -/
def helpName : Text := "help".toList

/-- Read what stands behind two dashes. -/
def readName (options : List Declared) (reading : Reading) (written : Text) : Except Refusal Reading :=
  let name := written.takeWhile (· != '=')
  let value := if name.length < written.length then some (written.drop (name.length + 1)) else none
  match options.find? (fun declared => declared.name == name), value with
  | none, none => if name == helpName then reading.help else .error (.unknown name reading.met)
  | none, some value =>
    if name == helpName then .error (.superfluous ⟨name, some 'h', .nothing, [], none, false⟩ value reading.met)
    else .error (.unknown name reading.met)
  | some declared, some value =>
    if declared.taking == .nothing then .error (.superfluous declared value reading.met)
    else reading.add declared value
  | some declared, none =>
    if declared.taking == .nothing then reading.add declared [] else reading.expect declared

/-- Read arguments. There are no arguments but options, and two dashes alone end them. -/
def readArguments (options : List Declared) : Reading → List Text → Except Refusal Given
  | reading, [] => reading.settle
  | reading, argument :: rest =>
    match argument, reading.pending with
    | ['-', '-'], _ =>
      match rest with
      | [] => reading.settle
      | argument :: _ => .error (.unexpected argument)
    | '-' :: '-' :: written, _ => do
      let reading ← readName options reading written
      readArguments options reading rest
    | '-' :: letter :: letters, _ => do
      let reading ← readLetters options reading (letter :: letters)
      readArguments options reading rest
    | value, some (declared, none) => readArguments options { reading with pending := some (declared, some value) } rest
    | argument, _ => .error (.unexpected argument)

/-- Read the arguments of a command; what has to be given must be among them. -/
def read (command : Command) (arguments : List Text) : Except Refusal Given := do
  let given ← readArguments command.options {} arguments
  match command.options.find? (fun declared => declared.required && (given.lookup declared.name).isNone) with
  | some declared => .error (.missing declared given.names)
  | none => pure given

/-- The option that adds traces, which every command has. -/
def traceOption : Declared :=
  ⟨"trace".toList, some 't', .level, "Report progress on stderr (extract, normalize, pipeline, or all)".toList, none,
    false⟩

/-- The solver that is taken if none is named. -/
def usualSolver : Text := "dlv".toList

/-- The option that names a solver. -/
def solverOption (purpose : Text) : Declared :=
  ⟨"solver".toList, some 's', .text, purpose, some usualSolver, false⟩

/-- The name of the solver in the options given. -/
def Given.solver (given : Given) : Text :=
  (given.value? "solver").getD usualSolver

/-- The traces in the options given. -/
def Given.trace (given : Given) : Trace :=
  -- Only levels are taken as values, so that none is left out.
  ((given.values "trace").filterMap Trace.ofLevel?).foldl Trace.union .none

/-- The exit code of a command whose arguments make no sense. -/
def usageCode : Nat := 2

/-- The exit code of a command that does nothing. -/
def Refusal.exitCode : Refusal → Nat
  | help => 0
  | _ => usageCode

end AnswerQuery.CommandLine
