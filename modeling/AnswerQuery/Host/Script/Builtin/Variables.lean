import AnswerQuery.Host.Script.Builtin.Basic

/-! Commands of a shell that are about variables, options and arguments. -/

namespace AnswerQuery.Host.Script

namespace Sh

/-- Show variables as commands that set them, each behind a word. -/
def showVariables (word : Raw) (wanted : Variable → Bool) : Sh Unit := do
  let shell ← get
  let front := if word.isEmpty then [] else word ++ [' ']
  let shown := shell.variables_.filter fun pair => wanted pair.2
  for (name, variable_) in shown.mergeSort fun first second => Raw.inOrder first.1 second.1 do
    sayLine (front ++ name ++ match variable_.value with
      | some value => '=' :: quote value
      | none => [])

/-- Mark variables, which may be set as well, or show those that are marked. -/
def markVariables (word : String) (marked : Variable → Bool) (mark : Variable → Variable) (arguments : List Raw) :
    Sh Nat := do
  let (chosen, names) ← readOptions "p" arguments
  if !chosen.isEmpty || names.isEmpty then showVariables word.toList marked
  else
    for written in names do
      let (name, value) := splitSetting written
      let shell ← get
      match shell.variables_.lookup name, value with
      | some variable_, none => set (shell.put name (mark variable_))
      | _, _ => do
        setVariable name value false false
        modify fun shell => match shell.variables_.lookup name with
          | some variable_ => shell.put name (mark variable_)
          | none => shell
  pure 0

/-- Pass variables on to programs. -/
def exportVariables : List Raw → Sh Nat :=
  markVariables "export" Variable.exported fun variable_ => { variable_ with exported := true }

/-- Let variables keep their values. -/
def fixVariables : List Raw → Sh Nat :=
  markVariables "readonly" Variable.fixed fun variable_ => { variable_ with fixed := true }

/-- Restore variables when the function that is run has ended. -/
def localVariables (names : List Raw) : Sh Nat := do
  let shell ← get
  if shell.shadowed.isEmpty then giveUp "not in a function".toList
  for written in names do
    shadow written false
  pure 0

/-- Remove variables or functions. -/
def unsetAll (arguments : List Raw) : Sh Nat := do
  let (chosen, names) ← readOptions "vf" arguments
  let functions := (chosen.getLast?.map Chosen.letter) == some 'f'
  for name in names do
    if functions then
      modify fun shell => { shell with functions := shell.functions.filter fun known => known.1 != name }
    else unset name
  pure 0

/-- Drop arguments. -/
def shift (arguments : List Raw) : Sh Nat := do
  let count ← match arguments with
    | text :: _ => numberOf text
    | [] => pure 1
  let shell ← get
  if shell.arguments.values.length < count then giveUp "can't shift that many".toList
  set { shell with arguments := { values := shell.arguments.values.drop count } }
  pure 0

/-- Show the options. -/
def showOptions (asCommands : Bool) : Sh Unit := do
  let shell ← get
  if !asCommands && !shell.isRich then sayLine "Current option settings".toList
  for (name, letter) in Shell.optionNames shell.dialect do
    let isSet := shell.has letter
    if asCommands then sayLine ((if isSet then "set -o " else "set +o ").toList ++ name.toList)
    else if shell.isRich then
      sayLine (name.toList ++ List.replicate (15 - name.length) ' ' ++ '\t' :: (if isSet then "on" else "off").toList)
    else sayLine (name.toList ++ List.replicate (16 - name.length) ' ' ++ (if isSet then "on" else "off").toList)

/-- Set or clear an option by its letter. -/
def setLetter (letter : Char) (value : Bool) : Sh Unit := do
  let dialect := (← get).dialect
  if (Shell.optionNames dialect).any (fun option => option.2 == letter && !letter.isDigit) then
    modify fun (shell : Shell) =>
      let shell := shell.setOption letter value
      if value && letter == 'V' && dialect == .plain then shell.setOption 'E' false
      else if value && letter == 'E' && dialect == .plain then shell.setOption 'V' false
      else shell
  else if dialect == .rich then refuseUse ([if value then '-' else '+', letter] ++ ": invalid option".toList)
  else giveUp ("Illegal option -".toList ++ [letter])

/-- Set or clear an option by its name. -/
def setNamed (name : Raw) (value : Bool) : Sh Unit := do
  let dialect := (← get).dialect
  match (Shell.optionNames dialect).find? fun option => option.1.toList == name with
  | some (_, letter) => modify fun shell => shell.setOption letter value
  | none =>
    if dialect == .rich then failWith 2 (name ++ ": invalid option name".toList)
    giveUp ("Illegal option -o ".toList ++ name)

/-- Set or clear options by their letters; the letter `o` takes a name. What follows of the arguments is given back. -/
def setLetters (value : Bool) : Raw → List Raw → Sh (List Raw)
  | [], others => pure others
  | 'o' :: rest, others => do
    match others with
    | name :: others => do
      setNamed name value
      setLetters value rest others
    | [] => do
      showOptions (!value)
      setLetters value rest []
  | letter :: rest, others => do
    setLetter letter value
    setLetters value rest others

/-- Become an interactive shell that controls its processes, which is not possible. -/
def checkControl : Sh Unit := do
  let shell ← get
  if shell.has 'm' then
    protest "can't access tty; job control turned off".toList
    modify fun shell => shell.setOption 'm' false

/-- Set options; the arguments that are given behind them, if they are to be replaced. -/
def setOptions : Nat → List Raw → Sh (Option (List Raw))
  | 0, _ => pure none
  | steps + 1, arguments => do
    match arguments with
    | [] => pure none
    | ['-'] :: others => do
      modify fun shell => (shell.setOption 'x' false).setOption 'v' false
      pure (if others.isEmpty then none else some others)
    | ['-', '-'] :: others => pure (some others)
    | ('-' :: letters) :: others => do
      let others ← setLetters true letters others
      setOptions steps others
    | ('+' :: letters) :: others => do
      let others ← setLetters false letters others
      setOptions steps others
    | _ => pure (some arguments)

/-- Set options and arguments, or show the variables. -/
def setShell (arguments : List Raw) : Sh Nat := do
  if arguments.isEmpty then showVariables [] fun variable_ => variable_.value.isSome
  else
    let given ← setOptions (arguments.length + 1) arguments
    checkControl
    if let some values := given then modify fun shell => { shell with arguments := { values } }
  pure 0

/-- Set a variable without any consequence. -/
def setQuietly (name value : Raw) : Sh Unit :=
  modify fun shell => shell.put name { (shell.variables_.lookup name).getD ⟨none, false, false, none, []⟩ with value := some value }

/-- What was found out about the next option. -/
structure NextOption where
  /-- The letter that is told. -/
  letter : Char
  /-- The number of the next argument. -/
  index : Nat
  /-- Where in the argument before it the next option is, if it is there. -/
  offset : Option Nat
  /-- Whether there is none any more. -/
  isOver : Bool := false

/-- Read the letter of an option, given what follows it in its argument, and the number of the next argument. -/
def readLetter (allowed : Raw) (values : List Raw) (letter : Char) (rest : Raw) (index : Nat) : Sh NextOption := do
  let silent := allowed.head? == some ':'
  let offset := fun (rest : Raw) => some ((((values[index - 2]?).getD []).length) - rest.length)
  let refuse := fun (message richMessage : String) (told : Char) (offset : Option Nat) => do
    let shell ← get
    if silent then assign "OPTARG".toList [letter]
    else
      let isQuiet := shell.isRich && shell.value? "OPTERR".toList == some ['0']
      let front := if shell.isRich then shell.name ++ ": ".toList else []
      let written := (if shell.isRich then richMessage else message).toList
      if !isQuiet then sayError (front ++ written.flatMap (fun c => if c == '_' then [letter] else [c]) ++ ['\n'])
      unset "OPTARG".toList
    pure ({ letter := told, index, offset } : NextOption)
  match find allowed with
  | none => refuse "Illegal option -_" "illegal option -- _" '?' (offset rest)
  | some true =>
    match rest, values[index - 1]? with
    | [], none => refuse "No arg for -_ option" "option requires an argument -- _" (if silent then ':' else '?') (offset rest)
    | [], some argument => do
      assign "OPTARG".toList argument
      pure { letter, index := index + 1, offset := none }
    | _, _ => do
      assign "OPTARG".toList rest
      pure { letter, index, offset := none }
  | some false => do
    let shell ← get
    if shell.isRich then unset "OPTARG".toList else assign "OPTARG".toList []
    pure { letter, index, offset := offset rest }
where
  /-- Whether a letter has an argument, if it is allowed. -/
  find : Raw → Option Bool
    | [] => none
    | c :: ':' :: rest => if c == letter then some true else find rest
    | c :: rest => if c == letter then some false else find rest

/-- Find out about the next option of some arguments. -/
def nextOption (allowed : Raw) (values : List Raw) (index : Nat) (offset : Option Nat) : Sh NextOption := do
  let current := match offset with
    | some place => if index ≤ 1 then [] else ((values[index - 2]?).getD []).drop place
    | none => []
  match current with
  | letter :: rest => readLetter allowed values letter rest index
  | [] =>
    match values[index - 1]? with
    | some ['-', '-'] => pure { letter := '?', index := index + 1, offset := none, isOver := true }
    | some ('-' :: letter :: rest) => readLetter allowed values letter rest (index + 1)
    | _ => pure { letter := '?', index, offset := none, isOver := true }

/-- Let a variable be the next option of the arguments. -/
def getOptions (arguments : List Raw) : Sh Nat := do
  match arguments with
  | allowed :: name :: given =>
    let shell ← get
    let values := if given.isEmpty then shell.arguments.values else given
    let (index, offset) := if values.length + 1 < shell.arguments.index then (1, none)
      else (shell.arguments.index, shell.arguments.offset)
    let next ← nextOption allowed values index offset
    setQuietly "OPTIND".toList (decimal next.index)
    modify fun shell => { shell with
      arguments := { shell.arguments with index := next.index, offset := next.offset } }
    assign name [next.letter]
    pure (if next.isOver then 1 else 0)
  | _ => do
    if (← get).isRich then showUsage
    giveUp "Usage: getopts optstring var [arg...]".toList

/-- What has been read of a line. -/
structure LineRead where
  /-- The characters, the last one first. -/
  glyphs : List Glyph := []
  /-- The number of the part between characters that stand for themselves. -/
  region : Nat := 1
  /-- Whether a backslash came just before. -/
  escaped : Bool := false

/-- Read a line from the standard input; the status, and its characters. -/
def readGlyphs (plain : Bool) : Sh (Nat × List Glyph) := do
  let finish := fun (status : Nat) (line : LineRead) => (status, line.glyphs.reverse)
  loop ({} : LineRead) fun line => do
    let result : Except OsError Bytes ← ask (.read 0 1)
    match result with
    | .ok [octet] =>
      let c := Char.ofNat octet.toNat
      if c == '\x00' then pure (.inl line)
      else if line.escaped then
        let glyphs := if c == '\n' then line.glyphs else ⟨c, .escaped, 0, false⟩ :: line.glyphs
        pure (.inl { glyphs, region := line.region + 1, escaped := false })
      else if c == '\\' && !plain then pure (.inl { line with escaped := true })
      else if c == '\n' then pure (.inr (finish 0 line))
      else pure (.inl { line with glyphs := ⟨c, .character, line.region, false⟩ :: line.glyphs })
    | _ => pure (.inr (finish 1 line))

/-- Set variables to fields as far as there are any. -/
def assignFields : List Raw → List Raw → Sh Unit
  | [], _ => pure ()
  | name :: names, fields => do
    assign name (fields.head?.getD [])
    assignFields names (fields.drop 1)

/-- Read a line into variables. -/
def readLine (arguments : List Raw) : Sh Nat := do
  let (chosen, names) ← readOptions "p:r" arguments
  if names.isEmpty then giveUp "arg count".toList
  let (status, glyphs) ← readGlyphs (chosen.any fun option => option.letter == 'r')
  let shell ← get
  let fields := fieldsOf shell.separators (some names.length) glyphs
  assignFields names (fields.map Glyph.text)
  pure status

/-- The place of a name in a table of so many rows. -/
def rowOf (rows : Nat) (name : Raw) : Nat :=
  let first := ((name.head?.map Char.toNat).getD 0) * 16
  (name.foldl (fun total c => total + c.toNat) first) % rows

/-- Names in the order of a table of so many rows. -/
def inTable {α : Type} (rows : Nat) (nameOf : α → Raw) (entries : List α) : List α :=
  entries.mergeSort fun first second => rowOf rows (nameOf first) ≤ rowOf rows (nameOf second)

/-- How many rows the table of words that stand for texts has. -/
def aliasRows : Nat := 39

/-- Let words stand for texts, or show what they stand for. -/
def setAliases (arguments : List Raw) : Sh Nat := do
  let shown := fun (known : Raw × Raw) => sayLine (known.1 ++ '=' :: quote known.2)
  if arguments.isEmpty then
    for known in inTable aliasRows Prod.fst (← get).aliases do
      shown known
    pure 0
  else
    let mut status := 0
    for written in arguments do
      -- A sign at the front does not end the name.
      let name := written.take 1 ++ (written.drop 1).takeWhile (· != '=')
      let shell ← get
      if name.length < written.length then
        let value := written.drop (name.length + 1)
        let aliases := if (shell.aliases.lookup name).isSome then
            shell.aliases.map fun known => if known.1 == name then (name, value) else known
          else shell.aliases ++ [(name, value)]
        set { shell with aliases }
      else match shell.aliases.lookup name with
        | some value => shown (name, value)
        | none => do
          sayError ("alias: ".toList ++ name ++ " not found\n".toList)
          status := 1
    pure status

/-- Let words stand for themselves again. -/
def removeAliases (arguments : List Raw) : Sh Nat := do
  let (chosen, names) ← readOptions "a" arguments
  if !chosen.isEmpty then
    modify fun shell => { shell with aliases := [] }
    pure 0
  else
    let mut status := 0
    for name in names do
      let shell ← get
      if (shell.aliases.lookup name).isSome then
        set { shell with aliases := shell.aliases.filter fun known => known.1 != name }
      else
        sayError ("unalias: ".toList ++ name ++ " not found\n".toList)
        status := 1
    pure status

end Sh

end AnswerQuery.Host.Script
