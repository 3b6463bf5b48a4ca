import AnswerQuery.Host.Script.Lookup
import AnswerQuery.Host.Script.Reference

/-! Commands of the rich dialect that tell what names stand for. -/

namespace AnswerQuery.Host.Script

/-- What is told about names. -/
inductive Telling where
  /-- A sentence. -/
  | sentence
  /-- What could be written instead. -/
  | brief
  /-- The kind of thing. -/
  | kind
  /-- The path of a program. -/
  | path
  deriving DecidableEq, Repr

/-- How names are looked up. -/
structure Asking where
  /-- What is told. -/
  telling : Telling := .sentence
  /-- Whether all meanings are told. -/
  all : Bool := false
  /-- Whether functions are passed over. -/
  noFunctions : Bool := false
  /-- Whether only programs count. -/
  onlyPrograms : Bool := false
  /-- Where programs are looked for, if not at the usual places. -/
  search : Option Raw := none

namespace Sh

/-- The paths of the programs that a name stands for. -/
def programPaths (search name : Raw) : Sh (List Raw) := do
  if name.contains '/' then
    let allowed : Bool ← ask (.allows name .execute)
    pure (if allowed then [name] else [])
  else
    let found ← (searchPaths search name).mapM fun path => do
      let status : Except OsError Status ← ask (.inspect path true)
      match status with
      | .ok status => if status.kind == Kind.file && (← ask (.allows path .execute)) then pure [path] else pure []
      | .error _ => pure []
    pure found.flatten

/-- One meaning of a name: its kind, the sentence behind the name, and what could be written instead. -/
structure Meaning where
  kind : Raw
  sentence : Raw
  brief : Raw
  isProgram : Bool := false

/-- The meanings of a name, those that come first before the others. -/
def meaningsOf (asking : Asking) (name : Raw) : Sh (List Meaning) := do
  let shell ← get
  let aliasMeaning := match (if shell.switches.contains "expand_aliases".toList then shell.aliases.lookup name else none) with
    | some value => [Meaning.mk "alias".toList (" is aliased to \x60".toList ++ value ++ "'".toList)
        ("alias ".toList ++ name ++ '=' :: quotedText value) false]
    | none => []
  let keyword := if (Keyword.ofText? .rich name).isSome || ["time", "select", "coproc", "]]"].contains (String.ofList name)
    then [Meaning.mk "keyword".toList " is a shell keyword".toList name false] else []
  let function := if (shell.functions.lookup name).isSome && !asking.noFunctions
    then [Meaning.mk "function".toList " is a function".toList name false] else []
  let builtin := if (Builtin.ofName? .rich name).isSome
    then [Meaning.mk "builtin".toList " is a shell builtin".toList name false] else []
  let known := (shell.found.find? fun known => known.name == name).filter fun _ => asking.search.isNone && !asking.all
  let paths ← programPaths (asking.search.getD shell.search) name
  let programs := match known with
    | some remembered =>
      let path := foundPath shell.search name remembered.index
      [Meaning.mk "file".toList (" is hashed (".toList ++ path ++ [')']) path true]
    | none => paths.map fun path => Meaning.mk "file".toList (" is ".toList ++ path) path true
  if asking.onlyPrograms then pure programs
  else pure (aliasMeaning ++ keyword ++ function ++ builtin ++ programs)

/-- Tell what a name stands for: whether it stands for anything. -/
def tellName (asking : Asking) (name : Raw) : Sh Bool := do
  let meanings ← meaningsOf asking name
  for meaning in (if asking.all then meanings else meanings.take 1) do
    match asking.telling with
    | .sentence => sayLine (name ++ meaning.sentence)
    | .brief => sayLine meaning.brief
    | .kind => sayLine meaning.kind
    | .path => if meaning.isProgram then sayLine meaning.brief
  pure !meanings.isEmpty

/-- Tell what names stand for, one after the other: the status. -/
def tellEach (asking : Asking) (complains : Bool) : Nat → List Raw → Sh Nat
  | status, [] => pure status
  | status, name :: others => do
    if ← tellName asking name then tellEach asking complains status others
    else
      if complains then protest (name ++ ": not found".toList)
      tellEach asking complains 1 others

/-- Tell what names stand for. -/
def tellNames (arguments : List Raw) : Sh Nat := do
  let (chosen, names) ← readOptions "afptP" arguments
  let asks := fun (letter : Char) => chosen.any fun option => option.letter == letter
  let telling := if asks 't' then Telling.kind else if asks 'p' || asks 'P' then .path else .sentence
  tellEach { telling, all := asks 'a', noFunctions := asks 'f', onlyPrograms := asks 'P' } (telling == .sentence) 0 names

/-- Tell what a name stands for, as options ask for. -/
def tellCommand (arguments : List Raw) : Sh Nat := do
  let (chosen, names) ← readOptions "pvV" arguments
  let asks := fun (letter : Char) => chosen.any fun option => option.letter == letter
  if names.isEmpty || !(asks 'v' || asks 'V') then pure 0
  else
    let search := if asks 'p' then some usualPlaces else none
    tellEach { telling := if asks 'V' then .sentence else .brief, search } (asks 'V') 0 names

/-- Remember where programs are, or show what is remembered. -/
def rememberPrograms (arguments : List Raw) : Sh Nat := do
  let (chosen, names) ← readOptions "dlp:rt" arguments
  let asks := fun (letter : Char) => chosen.any fun option => option.letter == letter
  if asks 'r' then modify fun shell => { shell with found := [] }
  let shell ← get
  if names.isEmpty then
    if !asks 'r' then
      if shell.found.isEmpty then sayLine "hash: hash table empty".toList
      else
        sayLine "hits\tcommand".toList
        for known in shell.found do
          sayLine ("   1\t".toList ++ foundPath shell.search known.name known.index)
    pure 0
  else
    let mut status := 0
    for name in names do
      if asks 't' then
        match shell.found.find? fun known => known.name == name with
        | some known => sayLine (foundPath shell.search name known.index)
        | none => do
          protest (name ++ ": not found".toList)
          status := 1
      else if asks 'd' then
        modify fun shell => { shell with found := shell.found.filter fun known => known.name != name }
      else if (Builtin.ofName? .rich name).isNone && !name.contains '/' then
        modify fun shell => { shell with found := shell.found.filter fun known => known.name != name }
        match ← lookUp name true none with
        | .missing _ => do
          protest (name ++ ": not found".toList)
          status := 1
        | _ => pure ()
    pure status

/-- Let words stand for texts, or show what they stand for. -/
def nameTexts (arguments : List Raw) : Sh Nat := do
  let (chosen, names) ← readOptions "p" arguments
  let shown := fun (known : Raw × Raw) => sayLine ("alias ".toList ++ known.1 ++ '=' :: quotedText known.2)
  if names.isEmpty || !chosen.isEmpty then
    let shell ← get
    for known in shell.aliases.mergeSort fun first second => Raw.inOrder first.1 second.1 do
      shown known
  let mut status := 0
  for written in names do
    let name := written.takeWhile (· != '=')
    let shell ← get
    if 0 < name.length && name.length < written.length then
      let value := written.drop (name.length + 1)
      set { shell with aliases := (shell.aliases.filter fun (known : Raw × Raw) => known.1 != name) ++ [(name, value)] }
    else match shell.aliases.lookup written with
      | some value => shown (written, value)
      | none => do
        protest (written ++ ": not found".toList)
        status := 1
  pure status

/-- Let words stand for themselves again. -/
def unnameTexts (arguments : List Raw) : Sh Nat := do
  let (chosen, names) ← readOptions "a" arguments
  if !chosen.isEmpty then
    modify fun shell => { shell with aliases := [] }
    pure 0
  else
    if names.isEmpty then showUsage
    let mut status := 0
    for name in names do
      let shell ← get
      if (shell.aliases.lookup name).isSome then
        set { shell with aliases := shell.aliases.filter fun (known : Raw × Raw) => known.1 != name }
      else
        protest (name ++ ": not found".toList)
        status := 1
    pure status

end Sh

end AnswerQuery.Host.Script
