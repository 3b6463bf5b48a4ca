import AnswerQuery.Host.Tool.Child
import AnswerQuery.Host.Tool.Editor
import AnswerQuery.Host.Tool.Source

/-! Editing lines as a script tells. -/

namespace AnswerQuery.Host.Tool

namespace Editor

/-- Where a range of lines stands. -/
inductive Range where
  | idle
  /-- It has begun; it ends with a line whose number may be known. -/
  | active (stop : Option Nat)
  | over
  deriving DecidableEq, Repr

/-- What is written behind a line. -/
inductive Queued where
  | text (text : Raw)
  | file (path : Raw)

/-- What is to be written to a file. -/
structure Outflow where
  /-- The descriptor of the file. -/
  descriptor : Nat
  /-- The pieces, the last one first. -/
  pieces : List Raw := []
  /-- How long they are together. -/
  size : Nat := 0

/-- A text that may lack the character that ends lines. -/
structure Space where
  /-- The text. -/
  text : Raw
  /-- Whether it is ended. -/
  ended : Bool := true

/-- What does not change while lines are edited. -/
structure Settings where
  /-- The commands. -/
  commands : Array Command
  /-- Whether lines are not printed unless that is asked for. -/
  silent : Bool
  /-- Whether every file is edited on its own. -/
  separate : Bool
  /-- The ending of copies if files are edited in place; it may be empty. -/
  inPlace : Option Raw
  /-- The character that ends lines. -/
  mark : Char
  /-- How wide lines are that are spelt. -/
  width : Nat
  /-- How many octets are read at once. -/
  block : Nat
  /-- The descriptors that are written. -/
  targets : Array Nat
  /-- What the files are called that are written. -/
  targetNames : List Raw
  /-- Whether it is told what is done. -/
  explains : Bool

/-- What is known while lines are edited. -/
structure Editing where
  /-- The line. -/
  space : Space := { text := [] }
  /-- What is kept. -/
  held : Space := { text := [] }
  /-- The number of the line. -/
  number : Nat := 0
  /-- What is read. -/
  source : Option Source := none
  /-- What is read behind it. -/
  files : List Raw
  /-- What is written behind the line. -/
  queue : List Queued := []
  /-- Whether something was replaced. -/
  replaced : Bool := false
  /-- Where the ranges of the commands stand. -/
  ranges : Array Range
  /-- The expression that was used last. -/
  last : Option Matcher := none
  /-- The descriptors to which something was written that is not ended. -/
  unended : List Nat := []
  /-- What was written in place of a file, the last piece first. -/
  collected : List Raw := []
  /-- Whether some file could not be read. -/
  failed : Bool := false
  /-- The files that are read line by line. -/
  sources : Array (Option Source)
  /-- What is to be written to files. -/
  outflows : List Outflow := []
  /-- How many blocks the command stands in that is told. -/
  depth : Int := 1

/-- Editing lines. -/
abbrev Edit := StateT Editing Act

/-- Say why nothing can go on, and end. -/
def giveUp {α : Type} (message : Raw) : Act α := do
  Act.flush
  Act.report ((← get).name ++ ": ".toList ++ message ++ ['\n'])
  Act.finish 4

/-- Pass on what is to be written to a file, or say what could not be done. -/
def Outflow.pass (outflow : Outflow) (complaint : Raw) : Act Unit := do
  let result : Except OsError Unit ← Act.ask (.write outflow.descriptor (Raw.octets outflow.pieces.reverse.flatten))
  if let .error reason := result then giveUp (complaint ++ ": ".toList ++ reason.description)

namespace Edit

/-- Write to a descriptor; the standard output may stand for a file that is edited in place. -/
def put (settings : Settings) (descriptor : Nat) (text : Raw) : Edit Unit := do
  if descriptor = 1 then
    if settings.inPlace.isSome then modify fun editing => { editing with collected := text :: editing.collected }
    else StateT.lift (Act.say text)
  else if descriptor = 2 then StateT.lift (Act.report text)
  else
    let outflows := (← get).outflows
    let outflow := (outflows.find? fun outflow => outflow.descriptor = descriptor).getD { descriptor }
    let outflow := { outflow with pieces := text :: outflow.pieces, size := outflow.size + text.length }
    let others := outflows.filter fun outflow => outflow.descriptor != descriptor
    let name := (((settings.targets.toList.zip settings.targetNames).lookup descriptor).getD [])
    if settings.block = 1 then
      StateT.lift (outflow.pass ("couldn't flush ".toList ++ name))
      modify fun editing => { editing with outflows := others }
    else if Act.bufferSize ≤ outflow.size then
      let count := (text.filter (· != settings.mark)).length
      StateT.lift (outflow.pass ("couldn't write ".toList ++ decimal count ++ " items to ".toList ++ name))
      modify fun editing => { editing with outflows := others }
    else modify fun editing => { editing with outflows := outflow :: others }

/-- End what is not ended. -/
def endLine (settings : Settings) (descriptor : Nat) : Edit Unit := do
  if (← get).unended.contains descriptor then
    modify fun editing => { editing with unended := editing.unended.filter (· != descriptor) }
    put settings descriptor [settings.mark]

/-- Write a text that may lack its end. -/
def putSpace (settings : Settings) (descriptor : Nat) (space : Space) : Edit Unit := do
  endLine settings descriptor
  put settings descriptor (if space.ended then space.text ++ [settings.mark] else space.text)
  if !space.ended then modify fun editing => { editing with unended := descriptor :: editing.unended }

/-- Write a text as it is. -/
def putText (settings : Settings) (descriptor : Nat) (text : Raw) : Edit Unit := do
  endLine settings descriptor
  put settings descriptor text

/-- Write what is to be written behind the line. -/
def putQueue (settings : Settings) : Edit Unit := do
  let editing ← get
  if !editing.queue.isEmpty then
    set { editing with queue := [] }
    endLine settings 1
    for queued in editing.queue.reverse do
      match queued with
      | .text text => put settings 1 text
      | .file path => do
        let result ← StateT.lift (Act.readFile path)
        if let .ok octets := result then put settings 1 (Raw.ofOctets octets)

/-- The name that is put in place of the star in the ending of copies, or in front of it. -/
def copyName (path ending : Raw) : Raw :=
  let name := (path.reverse.takeWhile (· != '/')).reverse
  let place := path.take (path.length - name.length)
  let copy := if ending.contains '*' then ending.flatMap fun c => if c == '*' then name else [c] else name ++ ending
  if copy.contains '/' then copy else place ++ copy

/-- Put what was written in place of a file. -/
def replaceFile (settings : Settings) (path : Raw) : Edit Unit := do
  if let some ending := settings.inPlace then
    let editing ← get
    let found : Except OsError Status ← StateT.lift (Act.ask (.inspect path true))
    let mode := (found.toOption.map Status.mode).getD 0o644
    if ending.isEmpty then
      let _ ← StateT.lift (Act.ask (.remove path))
    else
      let _ ← StateT.lift (Act.ask (.rename path (copyName path ending)))
    let result : Except OsError Nat ← StateT.lift (Act.ask (.openFile path .writing))
    if let .ok descriptor := result then
      let _ ← StateT.lift (Act.ask (.write descriptor (Raw.octets editing.collected.reverse.flatten)))
      StateT.lift (Act.ask (.close descriptor))
      let _ ← StateT.lift (Act.ask (.setMode path mode))
    set { editing with collected := [], unended := editing.unended.filter (· != 1) }

/-- Close what is read. -/
def closeSource (settings : Settings) : Edit Unit := do
  let editing ← get
  if let some source := editing.source then
    StateT.lift source.close
    set { editing with source := none }
    replaceFile settings source.path

/-- Open the next file, if there is one: whether it can be read. -/
def openNext (settings : Settings) (path : Raw) : Edit Unit := do
  let result ← StateT.lift (Source.openAt path settings.block)
  match result with
  | .error reason => do
    StateT.lift (Act.report ((← getThe Output).name ++ ": can't read ".toList ++ path ++ ": ".toList ++
      reason.description ++ ['\n']))
    modify fun editing => { editing with failed := true }
  | .ok source => do
    if settings.inPlace.isSome then
      let described : Except OsError Described ← StateT.lift (Act.ask (.describe source.descriptor))
      if (described.toOption.map fun described => described.status.kind) != some Kind.file then
        StateT.lift (giveUp ("couldn't edit ".toList ++ path ++ ": not a regular file".toList))
    modify fun editing => { editing with source := some source }

/-- Whether there is something left to be read from a file. -/
def hasMore (source : Source) : Act (Bool × Source) :=
  Act.loop source fun source => do
    if !source.rest.isEmpty then pure (.inr (true, source))
    else if source.isOver then pure (.inr (false, source))
    else do
      let source ← source.feed
      if let some reason := source.failure then
        giveUp ("read error on ".toList ++ (if source.path == ['-'] then "stdin".toList else source.path) ++ ": ".toList ++
          reason.description)
      pure (.inl source)

/-- Go on to a file with something left to be read, if there is one. Files that are edited on their own are left only
when a line is wanted. -/
def advance (settings : Settings) (leaves : Bool) : Nat → Edit Bool
  | 0 => pure false
  | steps + 1 => do
    let editing ← get
    match editing.source, editing.files with
    | none, [] => pure false
    | none, path :: files => do
      if settings.separate && !leaves then return false
      set { editing with files, number := if settings.separate then 0 else editing.number }
      if settings.separate then endLine settings 1
      openNext settings path
      advance settings leaves steps
    | some source, _ => do
      let (more, source) ← StateT.lift (hasMore source)
      modify fun editing => { editing with source := some source }
      if more then pure true
      else if settings.separate && !leaves then pure false
      else do
        closeSource settings
        advance settings leaves steps

/-- Whether there is no other line. -/
def isLast (settings : Settings) : Edit Bool := do
  let more ← advance settings false ((← get).files.length * 2 + 2)
  pure !more

/-- Read the next line, if there is one; it may be added to the one that is there. -/
def readLine (settings : Settings) (adds : Bool) : Edit Bool := do
  putQueue settings
  modify fun editing => { editing with replaced := false }
  if !(← advance settings true ((← get).files.length * 2 + 2)) then pure false
  else
    let editing ← get
    match editing.source with
    | none => pure false
    | some source => do
      let (line, source) ← StateT.lift (source.nextLine settings.mark)
      match line with
      | none => pure false
      | some line => do
        let front := if adds then editing.space.text ++ [settings.mark] else []
        set { editing with
          source := some source, number := editing.number + 1, space := ⟨front ++ line.text, line.ended⟩ }
        pure true

/-- The expression that is meant, which is remembered. -/
def matcherOf (matcher : Option Matcher) : Edit Matcher := do
  match matcher with
  | some matcher => do
    modify fun editing => { editing with last := some matcher }
    pure matcher
  | none =>
    match (← get).last with
    | some matcher => pure matcher
    | none => do
      StateT.lift (Act.report ((← getThe Output).name ++
        ": -e expression #1, char 0: no previous regular expression\n".toList))
      StateT.lift (Act.finish 1)

/-- Whether an address is the one of the line. -/
def isAt (settings : Settings) : Address → Edit Bool
  | .line number => do pure ((← get).number = number)
  | .every first step => do
    let number := (← get).number
    pure (first ≤ number && (number - first) % step = 0)
  | .last => isLast settings
  | .matching matcher _ => do
    let matcher ← matcherOf matcher
    pure (matcher.find? (← get).space.text.toArray 0).isSome
  | _ => pure false

/-- Let a range stand somewhere. -/
def setRange (place : Nat) (range : Range) : Edit Unit :=
  modify fun editing => { editing with ranges := editing.ranges.setIfInBounds place range }

/-- Whether a command is for the line, its negation aside. -/
def isFor (settings : Settings) (place : Nat) (command : Command) : Edit Bool := do
  match command.first, command.second with
  | none, _ => pure true
  | some first, none => isAt settings first
  | some first, some second => do
    let editing ← get
    let number := editing.number
    match (editing.ranges[place]?).getD .idle with
    | .over =>
      match first with
      | .line _ => pure false
      | _ => begins first second number
    | .idle => begins first second number
    | .active (some stop) => do
      if stop ≤ number then setRange place .over
      pure (number ≤ stop)
    | .active none => do
      if ← isAt settings second then setRange place .over
      pure true
where
  /-- Whether a range begins with the line. -/
  begins (first second : Address) (number : Nat) : Edit Bool := do
    let isBehind := match first, second with
      | .line start, .line stop => decide (start < number) && decide (stop < number)
      | _, _ => false
    let isMet ← match first with
      | .line start => pure (decide (start ≤ number))
      | _ => isAt settings first
    if isBehind then
      setRange place .over
      pure false
    else if !isMet then pure false
    else
      let until_ := fun (stop : Nat) => if number < stop then setRange place (.active (some stop)) else setRange place .over
      match second with
      | .line stop => until_ stop
      | .after count => until_ (number + count)
      | .multiple divisor => until_ (if divisor = 0 then number else number + divisor - number % divisor)
      | _ => setRange place (.active none)
      pure true

/-- How letters are written. -/
inductive Letters where
  | plain
  | lower
  | upper

namespace Letters

/-- A character as it is written. -/
def apply : Letters → Char → Char
  | plain, c => c
  | lower, c => c.toLower
  | upper, c => c.toUpper

end Letters

/-- What is put in place of a match. -/
def fill (text : Array Char) (found : Match) : Letters → Option Letters → List Filling → Raw
  | _, _, [] => []
  | letters, first, filling :: rest =>
    let put := fun (part : Raw) =>
      match part, first with
      | [], _ => fill text found letters first rest
      | c :: part, some once => once.apply c :: part.map letters.apply ++ fill text found letters none rest
      | part, none => part.map letters.apply ++ fill text found letters none rest
    match filling with
    | .text part => put part
    | .group 0 => put (text.extract found.start found.stop).toList
    | .group number =>
      match found.groups.lookup number with
      | some (start, stop) => put (text.extract start stop).toList
      | none => put []
    | .lower => fill text found .lower none rest
    | .upper => fill text found .upper none rest
    | .plain => fill text found .plain none rest
    | .nextLower => fill text found letters (some .lower) rest
    | .nextUpper => fill text found letters (some .upper) rest

/-- A text with matches replaced from a position on, the matches counted; the pieces are gathered, the last one first.
Nothing that is empty is replaced right behind a match. -/
def replaceFrom (matcher : Matcher) (substitution : Substitution) (text : Array Char) :
    Nat → Nat → Nat → Option Nat → List Raw → Bool → List Raw × Bool
  | 0, position, _, _, pieces, changed => ((text.extract position text.size).toList :: pieces, changed)
  | steps + 1, position, count, behind, pieces, changed =>
    let rest := fun (position : Nat) => (text.extract position text.size).toList
    if text.size < position then (pieces, changed)
    else match matcher.find? text position with
      | none => (rest position :: pieces, changed)
      | some found =>
        let pieces := (text.extract position found.start).toList :: pieces
        let isEmpty := found.start = found.stop
        let one := (text.extract found.stop (found.stop + 1)).toList
        if isEmpty && behind == some found.start then
          replaceFrom matcher substitution text steps (found.stop + 1) count none (one :: pieces) changed
        else
          let after := if isEmpty then found.stop + 1 else found.stop
          if count < substitution.count then
            let kept := (text.extract found.start found.stop).toList ++ (if isEmpty then one else [])
            replaceFrom matcher substitution text steps after (count + 1) (some found.stop) (kept :: pieces) changed
          else
            let pieces := fill text found .plain none substitution.fillings :: pieces
            if substitution.everywhere then
              replaceFrom matcher substitution text steps after (count + 1) (some found.stop)
                ((if isEmpty then one else []) :: pieces) true
            else (rest found.stop :: pieces, true)

/-- The output of a command, without the end of its last line. -/
def captured (command : Raw) : Edit Raw := do
  let (octets, _) ← StateT.lift (Act.outputOf command)
  let output := Raw.ofOctets octets
  pure (if output.getLast? == some '\n' then output.dropLast else output)

/-- Tell something. -/
def tell (settings : Settings) (text : Raw) : Edit Unit := do
  if settings.explains then StateT.lift (Act.say (text ++ ['\n']))

/-- Tell what the line is. -/
def tellLine (settings : Settings) : Edit Unit := do
  tell settings ("PATTERN: ".toList ++ (← get).space.text.flatMap shownCharacter)

/-- Tell what is kept. -/
def tellHeld (settings : Settings) : Edit Unit := do
  tell settings ("HOLD:    ".toList ++ (← get).held.text.flatMap shownCharacter)

/-- Tell what was found in a text. -/
def tellMatch (settings : Settings) (text : Array Char) (found : Match) : Edit Unit := do
  let place := fun (number start stop : Nat) => "\n  regex[".toList ++ decimal number ++ "] = ".toList ++ decimal start ++
    '-' :: decimal stop ++ " '".toList ++ (text.extract start stop).toList ++ ['\'']
  let groups := (List.range (found.groups.length + 1)).flatMap fun number =>
    ((found.groups.lookup number).map fun (start, stop) => place number start stop).getD []
  tell settings ("MATCHED REGEX REGISTERS".toList ++ place 0 found.start found.stop ++ groups)

/-- A command in its blocks, whose ends stand further out, and how many blocks there are behind it. -/
def indented (depth : Int) (command : Command) : Raw × Int :=
  let depth := if command.letter == '\x7d' then depth - 1 else depth
  ((List.replicate depth.toNat [' ', ' ']).flatten ++ command.shown, if command.letter == '\x7b' then depth + 1 else depth)

/-- Tell which command is carried out. -/
def tellCommand (settings : Settings) (command : Command) : Edit Unit := do
  let (text, depth) := indented (← get).depth command
  modify fun editing => { editing with depth }
  tell settings ("COMMAND: ".toList ++ text)

/-- Tell all commands. -/
def tellScript (settings : Settings) : Edit Unit := do
  tell settings "SED PROGRAM:".toList
  let mut depth : Int := 1
  for command in settings.commands do
    let (text, next) := indented depth command
    tell settings text
    depth := next
  modify fun editing => { editing with depth := 0 }

/-- Tell which line is read. -/
def tellInput (settings : Settings) : Edit Unit := do
  let editing ← get
  let name := match editing.source with
    | some source => if source.descriptor = 0 then "STDIN".toList else source.path
    | none => ['-']
  tell settings ("INPUT:   '".toList ++ name ++ "' line ".toList ++ decimal editing.number)
  tellLine settings

/-- Carry out a substitution. -/
def substitute (settings : Settings) (substitution : Substitution) : Edit Unit := do
  let matcher ← matcherOf substitution.matcher
  let text := (← get).space.text.toArray
  if settings.explains then
    if let some found := matcher.find? text 0 then tellMatch settings text found
  let (pieces, changed) := replaceFrom matcher substitution text (text.size + 2) 0 1 none [] false
  if changed then
    modify fun editing => { editing with
      replaced := true, space := { editing.space with text := pieces.reverse.flatten } }
    if substitution.executes then
      let output ← captured (← get).space.text
      modify fun editing => { editing with space := { editing.space with text := output } }
    if substitution.prints then putSpace settings 1 (← get).space
    if let some target := substitution.target then
      putSpace settings ((settings.targets[target]?).getD 1) (← get).space

/-- A character as it is spelt. -/
def spelt (c : Char) : Raw :=
  if c == '\\' then ['\\', '\\']
  else if 32 ≤ c.toNat && c.toNat < 127 then [c]
  else match [('\x07', 'a'), ('\x08', 'b'), ('\x0c', 'f'), ('\n', 'n'), ('\r', 'r'), ('\t', 't'), ('\x0b', 'v')].lookup c with
    | some letter => ['\\', letter]
    | none =>
      let digits := Numeral.inBase 8 c.toNat
      '\\' :: List.replicate (3 - digits.length) '0' ++ digits

/-- Characters as they are spelt, in lines of a width. -/
def speltLines (width : Nat) : Nat → Raw → List Raw → Raw
  | _, [], pieces => pieces.reverse.flatten
  | column, c :: rest, pieces =>
    let shown := spelt c
    if width != 0 && width - 1 < column + shown.length then
      speltLines width shown.length rest (shown :: ['\\', '\n'] :: pieces)
    else speltLines width (column + shown.length) rest (shown :: pieces)

/-- What happens behind a command. -/
inductive Outcome where
  | goOn
  | goTo (place : Nat)
  /-- The line is dealt with. -/
  | finish
  /-- The line is dealt with, and is not printed. -/
  | drop
  /-- The line is dealt with, and the next one is there already. -/
  | again
  | quit (status : Nat)

/-- The front of a text up to the end of its first line, and what follows that, if there is one. -/
def splitLine (mark : Char) (text : Raw) : Raw × Option Raw :=
  let front := text.takeWhile (· != mark)
  (front, if front.length < text.length then some (text.drop (front.length + 1)) else none)

/-- Write the first line of the text. -/
def putFront (settings : Settings) (descriptor : Nat) : Edit Unit := do
  let space := (← get).space
  let (front, rest) := splitLine settings.mark space.text
  putSpace settings descriptor ⟨front, rest.isSome || space.ended⟩

/-- Carry out what a command does. -/
def act (settings : Settings) (place : Nat) : Action → Edit Outcome
  | .block _ => pure .goOn
  | .nothing => pure .goOn
  | .append text => do
    modify fun editing => { editing with queue := .text text :: editing.queue }
    pure .goOn
  | .insert text => do
    putText settings 1 text
    pure .goOn
  | .change text => do
    match ((← get).ranges[place]?).getD .idle with
    | .active _ => pure ()
    | _ => putText settings 1 text
    pure .drop
  | .delete => pure .drop
  | .deleteFront => do
    let editing ← get
    match (splitLine settings.mark editing.space.text).2 with
    | none => pure .drop
    | some text => do
      set { editing with space := { editing.space with text } }
      pure .again
  | .execute command => do
    if command.isEmpty then
      let output ← captured (← get).space.text
      modify fun editing => { editing with space := { text := output } }
    else
      let (octets, _) ← StateT.lift (Act.outputOf command)
      putText settings 1 (Raw.ofOctets octets)
    pure .goOn
  | .name => do
    let path := ((← get).source.map Source.path).getD ['-']
    putText settings 1 (path ++ ['\n'])
    pure .goOn
  | .recall => do
    modify fun editing => { editing with space := editing.held }
    pure .goOn
  | .recallMore => do
    modify fun editing =>
      { editing with space := { editing.held with text := editing.space.text ++ settings.mark :: editing.held.text } }
    pure .goOn
  | .hold => do
    modify fun editing => { editing with held := editing.space }
    pure .goOn
  | .holdMore => do
    modify fun editing =>
      { editing with held := { editing.space with text := editing.held.text ++ settings.mark :: editing.space.text } }
    pure .goOn
  | .spell width => do
    putText settings 1 (speltLines (width.getD settings.width) 0 (← get).space.text [] ++ ['$', settings.mark])
    pure .goOn
  | .next => do
    if ← isLast settings then return .finish
    if !settings.silent then putSpace settings 1 (← get).space
    if ← readLine settings false then pure .goOn else pure .drop
  | .nextMore => do
    if ← isLast settings then return .finish
    if ← readLine settings true then pure .goOn else pure .drop
  | .print => do
    putSpace settings 1 (← get).space
    pure .goOn
  | .printFront => do
    putFront settings 1
    pure .goOn
  | .quit status => do
    if !settings.silent then putSpace settings 1 (← get).space
    endLine settings 1
    putQueue settings
    pure (.quit status)
  | .leave status => pure (.quit status)
  | .readFile path => do
    modify fun editing => { editing with queue := .file path :: editing.queue }
    pure .goOn
  | .readLine number => do
    match ((← get).sources[number]?).getD none with
    | none => pure ()
    | some source => do
      let (line, source) ← StateT.lift (source.nextLine settings.mark)
      modify fun editing => { editing with sources := editing.sources.setIfInBounds number (some source) }
      if let some line := line then
        let text := line.text ++ if line.ended then [settings.mark] else []
        modify fun editing => { editing with queue := .text text :: editing.queue }
    pure .goOn
  | .substitute substitution => do
    substitute settings substitution
    pure .goOn
  | .jump target => pure (.goTo target)
  | .jumpIf changed target => do
    let replaced := (← get).replaced
    modify fun editing => { editing with replaced := false }
    pure (if replaced == changed then .goTo target else .goOn)
  | .write target => do
    putSpace settings ((settings.targets[target]?).getD 1) (← get).space
    pure .goOn
  | .writeFront target => do
    putFront settings ((settings.targets[target]?).getD 1)
    pure .goOn
  | .exchange => do
    modify fun editing => { editing with space := editing.held, held := editing.space }
    pure .goOn
  | .translate pairs => do
    modify fun editing =>
      let text := editing.space.text.map fun c => (pairs.lookup c).getD c
      { editing with space := { editing.space with text } }
    pure .goOn
  | .zap => do
    modify fun editing => { editing with space := { editing.space with text := [] } }
    pure .goOn
  | .number => do
    putText settings 1 (decimal (← get).number ++ ['\n'])
    pure .goOn

/-- Tell what a command has changed. -/
def tellChange (settings : Settings) (action : Action) : Edit Unit := do
  match action with
  | .substitute _ => tellLine settings
  | .translate _ => tellLine settings
  | .zap => tellLine settings
  | .recallMore => tellLine settings
  | .next => tellLine settings
  | .nextMore => tellLine settings
  | .recall => tellHeld settings
  | .hold => tellHeld settings
  | .holdMore => tellHeld settings
  | .exchange => do
    tellLine settings
    tellHeld settings
  | _ => pure ()

/-- Carry out a command, unless it is for other lines. -/
def carryOut (settings : Settings) (place : Nat) (command : Command) : Edit Outcome := do
  tellCommand settings command
  if (← isFor settings place command) != command.negated then
    let outcome ← act settings place command.action
    if outcome matches .goOn then tellChange settings command.action
    pure outcome
  else match command.action with
    | .block stop => pure (.goTo stop)
    | _ => pure .goOn

/-- Repeat a step on a value until it leads to a result. -/
def loop {σ α : Type} (start : σ) (step : σ → Edit (σ ⊕ α)) : Edit α := fun editing =>
  Act.loop (start, editing) fun (value, editing) => do
    match ← step value editing with
    | (.inl value, editing) => pure (.inl (value, editing))
    | (.inr result, editing) => pure (.inr (result, editing))

/-- Carry out the commands for a line. -/
def cycle (settings : Settings) : Edit Outcome :=
  loop 0 fun place => do
    match settings.commands[place]? with
    | none => pure (.inr .finish)
    | some command =>
      match ← carryOut settings place command with
      | .goOn => pure (.inl (place + 1))
      | .goTo place => pure (.inl place)
      | outcome => pure (.inr outcome)

/-- Edit all lines: the status. -/
def all (settings : Settings) : Edit Nat := do
  tellScript settings
  if !(← readLine settings false) then
    closeSource settings
    pure 0
  else
    tellInput settings
    loop () fun () => do
      let outcome ← cycle settings
      let goOn : Edit (Unit ⊕ Nat) := do
        if ← readLine settings false then
          tellInput settings
          pure (.inl ())
        else
          closeSource settings
          pure (.inr 0)
      match outcome with
      | .drop => do
        tell settings "END-OF-CYCLE:".toList
        goOn
      | .again => do
        tellLine settings
        pure (.inl ())
      | .quit status => do
        if let some source := (← get).source then
          if source.descriptor = 0 then StateT.lift source.giveBack
        closeSource settings
        pure (.inr status)
      | _ => do
        tell settings "END-OF-CYCLE:".toList
        if !settings.silent then putSpace settings 1 (← get).space
        goOn

end Edit

/-- The options of the program that edits lines. -/
def options : List Known :=
  [⟨"n", "quiet", .nothing⟩, ⟨"n", "silent", .nothing⟩, ⟨"e", "expression", .always⟩, ⟨"f", "file", .always⟩,
    ⟨"E", "regexp-extended", .nothing⟩, ⟨"r", "", .nothing⟩, ⟨"i", "in-place", .maybe⟩, ⟨"l", "line-length", .always⟩,
    ⟨"s", "separate", .nothing⟩, ⟨"u", "unbuffered", .nothing⟩, ⟨"z", "null-data", .nothing⟩,
    ⟨"z", "zero-terminated", .nothing⟩, ⟨"posix", "posix", .nothing⟩, ⟨"debug", "debug", .nothing⟩,
    ⟨"b", "binary", .nothing⟩, ⟨"follow-symlinks", "follow-symlinks", .nothing⟩, ⟨"sandbox", "sandbox", .nothing⟩]

/-- Where a machine keeps the page that tells how the program is used. -/
def usagePage : Raw := "/usr/share/doc/sed/usage".toList

/-- How the program is used: as its page tells, or in one line where there is no page. -/
def usage : Act Raw := do
  match ← Act.readFile usagePage with
  | .ok octets => pure (Raw.ofOctets octets)
  | .error _ =>
    pure "Usage: sed [OPTION]... \x7bscript-only-if-no-other-script\x7d [input-file]...\n".toList

/-- Tell how the program is used, and end. -/
def explain {α : Type} : Act α := do
  Act.report (← usage)
  Act.finish 1

/-- The parts of a script that options tell. -/
def partsOf (given : List Given) : Act (List Part) := do
  let mut parts : List Part := []
  let mut count := 0
  for option in given do
    let argument := option.argument.getD []
    if option.key == "e" then
      count := count + 1
      parts := parts ++ [{ number := count, text := argument }]
    else if option.key == "f" then
      match ← Act.readFile argument with
      | .ok octets => parts := parts ++ [{ file := some argument, text := Raw.ofOctets octets }]
      | .error reason => giveUp ("couldn't open file ".toList ++ argument ++ ": ".toList ++ reason.description)
  pure parts

/-- Open the files that are written. -/
def openTargets (paths : List Raw) : Act (Array Nat) := do
  let mut targets : Array Nat := #[]
  for path in paths do
    if path == "/dev/stdout".toList then targets := targets.push 1
    else if path == "/dev/stderr".toList then targets := targets.push 2
    else
      let result : Except OsError Nat ← Act.ask (.openFile path .writing)
      match result with
      | .ok descriptor => targets := targets.push descriptor
      | .error reason => giveUp ("couldn't open file ".toList ++ path ++ ": ".toList ++ reason.description)
  pure targets

/-- Open the files that are read line by line. -/
def openSources (paths : List Raw) : Act (Array (Option Source)) := do
  let mut sources : Array (Option Source) := #[]
  for path in paths do
    let opened ← Source.openAt (if path == "/dev/stdin".toList then ['-'] else path) 4096
    sources := sources.push opened.toOption
  pure sources

end Editor

open Editor in
/-- Edit lines as a script tells. -/
def sed : Utility := ofAct fun arguments => do
  modify fun output => { output with
    outputStatus := 4
    complaint := fun reason =>
      "couldn't ".toList ++ (if reason == OsError.badDescriptor then "close" else "flush").toList ++ " stdout: ".toList ++
        reason.description }
  match Options.readArguments Editor.options false (arguments.length + 1) arguments with
  | .error message => do
    Act.complain message
    explain
  | .ok invocation => do
    if invocation.has "help" then
      Act.say (← usage)
      Act.finish 0
    let given ← partsOf invocation.given
    let (parts, files) ← if !given.isEmpty || invocation.has "e" || invocation.has "f" then
        pure (given, invocation.operands)
      else match invocation.operands with
        | [] => explain
        | script :: files => pure ([({ number := 1, text := script } : Part)], files)
    let extended := invocation.has "E" || invocation.has "r"
    let anchorsLines := !invocation.has "z"
    let dialect : Dialect :=
      if extended then { extended, anchorsLines, stray := .refused } else { extended, anchorsLines, strictCounts := true }
    let first : Part := parts.head?.getD { text := [] }
    let (result, parsing) := Parse.script.run {
      part := first, rest := first.text, others := parts.drop 1, dialect
      isGuarded := invocation.has "sandbox" }
    if let .error fault := result then
      let (message, status) := fault.told parsing
      Act.report ((← get).name ++ ": ".toList ++ message ++ ['\n'])
      Act.finish status
    let targets ← openTargets parsing.targets
    let sources ← openSources parsing.sources
    let inPlace := if invocation.has "i" then some ((invocation.argument? "i").getD []) else none
    let settings : Settings := {
      commands := parsing.commands, silent := parsing.isSilent || invocation.has "n"
      separate := invocation.has "s" || inPlace.isSome, inPlace
      mark := if invocation.has "z" then '\x00' else '\n'
      width := ((invocation.argument? "l").map fun text => Numeral.valueOf 10 (text.takeWhile Char.isDigit)).getD 70
      block := if invocation.has "u" then 1 else 4096, targets, targetNames := parsing.targets
      explains := invocation.has "debug" }
    if inPlace.isSome && files.isEmpty then giveUp "no input files".toList
    let ranges := parsing.commands.map fun command => match command.first, command.second with
      | some (.line 0), some _ => Range.active none
      | _, _ => Range.idle
    let (status, editing) ← Edit.all settings { files := if files.isEmpty then [['-']] else files, ranges, sources }
    for outflow in editing.outflows do
      outflow.pass "couldn't flush <unknown>".toList
    Act.fail (if editing.failed then 2 else status)

/-- The programs of this kind. -/
def editTools : List (String × Utility) :=
  [("sed", sed)]

end AnswerQuery.Host.Tool
