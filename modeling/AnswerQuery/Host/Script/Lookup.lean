import AnswerQuery.Host.Script.Builtin.Variables

/-! What the names of commands stand for: functions, commands that a shell carries out itself, and programs. -/

namespace AnswerQuery.Host.Script

/-- A command that a shell carries out itself. -/
structure Builtin where
  /-- Its name. -/
  name : Raw
  /-- Whether its failures are those of the shell. -/
  special : Bool
  /-- Whether it is taken before any program. -/
  regular : Bool
  /-- Whether it sets the variables that its arguments name. -/
  assigns : Bool
  deriving DecidableEq, Repr

namespace Builtin

/-- The commands whose failures are those of the shell. -/
def specials : List String :=
  ["break", "continue", ".", "eval", "exec", "exit", "export", "readonly", "local", "return", "set", "shift", "times",
    "trap", ":", "unset"]

/-- The other commands that are taken before any program. -/
def regulars : List String :=
  ["alias", "bg", "cd", "chdir", "command", "false", "fg", "getopts", "jobs", "kill", "read", "true", "ulimit", "umask",
    "unalias", "wait"]

/-- All other commands. -/
def others : List String :=
  ["echo", "hash", "printf", "pwd", "test", "type", "["]

/-- The commands that set the variables that their arguments name. -/
def assigning : List String :=
  ["alias", "export", "local", "readonly"]

/-- The commands that only shells of the rich dialect carry out. -/
def richer : List String :=
  ["builtin", "caller", "declare", "dirs", "disown", "enable", "history", "let", "logout", "mapfile", "popd", "pushd",
    "readarray", "shopt", "source", "suspend", "typeset"]

/-- The commands of the rich dialect that declare variables. -/
def declaring : List String :=
  ["declare", "typeset", "local", "export", "readonly"]

/-- The command of a name, if a shell carries it out itself. -/
def ofName? (dialect : Dialect) (name : Raw) : Option Builtin :=
  let text := String.ofList name
  if dialect == .rich then
    if text != "chdir" && (specials ++ regulars ++ others ++ richer).contains text then
      some ⟨name, false, true, declaring.contains text⟩
    else none
  else if specials.contains text then some ⟨name, true, true, assigning.contains text⟩
  else if regulars.contains text then some ⟨name, false, true, assigning.contains text⟩
  else if others.contains text then some ⟨name, false, false, false⟩
  else none

end Builtin

/-- What a name stands for. -/
inductive Found where
  /-- A function: its line and its body. -/
  | function (line : Nat) (body : Command)
  | builtin (command : Builtin)
  /-- A program in the directory of a number among those that are looked through. -/
  | program (index : Nat)
  /-- What is at a path. -/
  | path
  /-- Nothing, and why. -/
  | missing (reason : OsError)

namespace Sh

/-- Where programs are looked for if the usual places are asked for. -/
def usualPlaces : Raw := "/usr/local/sbin:/usr/local/bin:/usr/sbin:/usr/bin:/sbin:/bin".toList

/-- Look for a program at paths with their numbers; one that was found before is still there if it is at a full path. -/
def searchProgram (before : Option Nat) : OsError → List (Raw × Nat) → Sh Found
  | reason, [] => pure (.missing reason)
  | reason, (path, index) :: others => do
    let isKept := fun (number : Nat) => path.head? == some '/' && index ≤ number
    match before.filter isKept with
    | some number => if index == number then pure (.program index) else searchProgram before reason others
    | none => do
      let found : Except OsError Status ← ask (.inspect path true)
      match found with
      | .error .noEntry => searchProgram before reason others
      | .error .notDirectory => searchProgram before reason others
      | .error other => searchProgram before other others
      | .ok status =>
        if status.kind == Kind.file && (← ask (.allows path .execute)) then pure (.program index)
        else searchProgram before .noAccess others

/-- Find out what a name stands for; functions may be passed over, and programs may be looked for at other places. -/
def lookUp (name : Raw) (passFunctions : Bool) (search : Option Raw) : Sh Found := do
  if name.contains '/' then return .path
  let shell ← get
  let function := (shell.functions.lookup name).filter fun _ => !passFunctions
  if let some (line, body) := function then return .function line body
  let known := (shell.found.find? fun known => known.name == name).filter fun _ => search.isNone
  let isShadowed := (shell.functions.lookup name).isSome
  match (if isShadowed then none else known), Builtin.ofName? shell.dialect name with
  | some ⟨_, index, false⟩, _ => pure (.program index)
  | _, some command => pure (.builtin command)
  | before, none => do
    let paths := (searchPaths (search.getD shell.search) name).zipIdx
    let found ← searchProgram (before.map Remembered.index) .noEntry paths
    if search.isNone && !isShadowed then
      let others := shell.found.filter fun known => known.name != name
      modify fun shell => { shell with found := match found with
        | .program index => others ++ [⟨name, index, false⟩]
        | _ => others }
    pure found

/-- Why a program cannot be run, in words. -/
def runReason : OsError → Raw
  | .noEntry => "not found".toList
  | .notDirectory => "not found".toList
  | reason => reason.description

/-- The path of a program that was found. -/
def foundPath (search name : Raw) (index : Nat) : Raw :=
  ((searchPaths search name)[index]?).getD name

/-- Say what a name stands for: the status. -/
def describeName (verbose : Bool) (search : Option Raw) (name : Raw) : Sh Nat := do
  let shell ← get
  let tell := fun (long : Raw) (short : Raw) => do
    sayLine (if verbose then name ++ long else short)
    pure 0
  if (Keyword.ofText? shell.dialect name).isSome then tell " is a shell keyword".toList name
  else match shell.aliases.lookup name with
    | some value =>
      tell (" is an alias for ".toList ++ value) ("alias ".toList ++ name ++ '=' :: quote value)
    | none => do
      let places := search.getD shell.search
      let known := (shell.found.find? fun known => known.name == name).filter fun _ => search.isNone
      let isProgram := known.isSome && (shell.functions.lookup name).isNone
      let found ← match (if isProgram then known else none) with
        | some known => pure (Found.program known.index)
        | none => lookUp name false search
      let absent := do
        if verbose then sayLine (name ++ ": not found".toList)
        pure 127
      match found with
      | .function .. => tell " is a shell function".toList name
      | .builtin command =>
        tell (if command.special then " is a special shell builtin" else " is a shell builtin").toList name
      | .program index =>
        let path := foundPath places name index
        tell ((if isProgram then " is a tracked alias for " else " is ").toList ++ path) path
      | .path => do
        let status : Except OsError Status ← ask (.inspect name true)
        match status with
        | .ok _ => tell (" is ".toList ++ name) name
        | .error _ => absent
      | .missing _ => absent

/-- Say what names stand for. -/
def describeEach (status : Nat) : List Raw → Sh Nat
  | [] => pure status
  | name :: others => do
    let next ← describeName true none name
    describeEach (Nat.lor status next) others

/-- Say what names stand for. -/
def type (names : List Raw) : Sh Nat :=
  describeEach 0 names

/-- Say what a name stands for, as options ask for. -/
def describe (arguments : List Raw) : Sh Nat := do
  let (chosen, names) ← readOptions "pvV" arguments
  let asks := fun (letter : Char) => chosen.any fun option => option.letter == letter
  match names with
  | name :: _ =>
    if asks 'v' || asks 'V' then
      describeName (asks 'V') (if asks 'p' then some usualPlaces else none) name
    else pure 0
  | [] => pure 0

/-- How many rows the table of programs has. -/
def programRows : Nat := 31

/-- Remember where programs are, or show what is remembered. -/
def hash (arguments : List Raw) : Sh Nat := do
  let (chosen, names) ← readOptions "r" arguments
  let shell ← get
  if !chosen.isEmpty then
    set { shell with found := [] }
    pure 0
  else if names.isEmpty then
    for known in inTable programRows Remembered.name shell.found do
      sayLine (foundPath shell.search known.name known.index ++ (if known.doubtful then ['*'] else []))
    pure 0
  else
    let mut status := 0
    for name in names do
      modify fun shell => { shell with found := shell.found.filter fun known => known.name != name }
      match ← lookUp name false none with
      | .missing reason => do
        protest (name ++ ": ".toList ++ runReason reason)
        status := 1
      | _ => pure ()
    pure status

end Sh

end AnswerQuery.Host.Script
