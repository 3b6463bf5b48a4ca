import AnswerQuery.Host.Script.Expansion
import AnswerQuery.Host.Script.Redirect
import AnswerQuery.Host.Script.Builtin.Processes
import AnswerQuery.Host.Script.Children

/-! Where a shell reads its commands from. -/

namespace AnswerQuery.Host.Script

namespace Parse

/-- Read a text as a document without an end of its own. -/
def readText : Parse Word := do
  let first ← nextJoined
  let document : Announced := ⟨0, ['\x00'], false, true⟩
  let _ ← spell (innerTo deepest) closingToken (some document) { setting := .double, doubleQuoted := true } first
  let reader ← get
  pure reader.word

end Parse

namespace Sh

/-- How many octets of a script are read at once. -/
def scriptBlock : Nat := 8192

/-- Read a line octet by octet, so that nothing behind it is taken. -/
def readLineAlone (descriptor : Nat) : Sh Bytes :=
  loop ([] : Bytes) fun line => do
    let result : Except OsError Bytes ← ask (.read descriptor 1)
    match result with
    | .ok [octet] => pure (if octet == 10 then .inr (octet :: line).reverse else .inl (octet :: line))
    | _ => pure (.inr line.reverse)

/-- Read more of the script. -/
def feed : Sh Unit := do
  let shell ← get
  let octets ← match shell.input.descriptor with
    | none => pure []
    | some descriptor =>
      if shell.isRich && descriptor = 0 then readLineAlone descriptor
      else
        let result : Except OsError Bytes ← ask (.read descriptor scriptBlock)
        pure (result.toOption.getD [])
  modify fun shell =>
    let text := (Raw.ofOctets octets).filter (· != '\x00')
    { shell with input := { shell.input with
        text := shell.input.text ++ text, complete := octets.isEmpty || shell.input.descriptor.isNone } }

/-- A reader of the script that a shell reads. -/
def readerOf (shell : Shell) : Reader where
  dialect := shell.dialect
  pushed := shell.input.pushed
  text := shell.input.text
  complete := shell.input.complete
  line := shell.input.line
  aliases := if !shell.isRich || shell.switches.contains "expand_aliases".toList then shell.aliases else []
  documentCount := shell.documentCount
  choices := shell.hasChoices

/-- A command that was read, and whether nothing follows it. -/
structure Next where
  /-- The command. -/
  command : Command
  /-- Whether it ended where the script ends. -/
  isLast : Bool

/-- The text that has been used of a script. -/
def usedText (before after : Raw) : Raw :=
  before.take (before.length - after.length)

/-- Complain about the script, which ends there; the line that is wrong may be shown. -/
def refuseScript {α : Type} (line : Nat) (message : Raw) (shown : Bool) : Sh α := do
  let shell ← get
  let front := shell.name ++ ": ".toList ++ shell.input.title ++ "line ".toList ++ decimal line ++ ": ".toList
  for part in Raw.split '\n' message do
    sayError (front ++ part ++ ['\n'])
  if shown then
    let text := ((Raw.split '\n' shell.input.text)[line - shell.input.line]?).getD []
    sayError (front ++ '\x60' :: text ++ "'\n".toList)
  modify fun shell => { shell with input := { shell.input with text := [], pushed := [], complete := true } }
  conclude 2
  throw .error

/-- Read the next commands; none at the end of the script. -/
def readNext : Sh (Option Next) := do
  loop () fun () => do
    let shell ← get
    match Parse.readLine (readerOf shell) with
    | .error .starved => do
      feed
      pure (.inl ())
    | .error (.wrong line message shown) => do
      reach line
      if shell.isRich then refuseScript line message shown
      modify fun shell => { shell with input := { shell.input with text := [], pushed := [], complete := true } }
      giveUp message
    | .ok (command, reader) => do
      if shell.has 'v' && shell.input.descriptor.isSome then sayError (usedText shell.input.text reader.text)
      set { shell with
        input := { shell.input with
          text := reader.text, pushed := reader.pushed, complete := reader.complete, line := reader.line }
        documents := reader.documents ++ shell.documents
        documentCount := reader.documentCount }
      pure (.inr (command.map fun command => ⟨command, reader.again && reader.last == .endOfFile⟩))

/-- Read a text as a document. -/
def readDocument (text : Raw) : Sh Word := do
  let shell ← get
  let reader := { readerOf shell with pushed := [], text, complete := true, line := 1 }
  match Parse.readText reader with
  | .ok (word, _) => pure word
  | .error _ => pure (Word.ofPlain text)

/-- Run a script from some input and go back to the one before. -/
def withInput {α : Type} (input : Input) (body : Sh α) : Sh α := do
  let before := (← get).input
  modify fun shell => { shell with input }
  let result ← attempt body
  modify fun shell => { shell with input := before }
  resume result

end Sh

end AnswerQuery.Host.Script

/-! How commands of scripts are run: from scripts that are read, in processes of their own, and for what they write. -/

namespace AnswerQuery.Host.Script

/-- What a command is run for. -/
structure Purpose where
  /-- Whether the shell ends with it, so that its process may become the program. -/
  isLast : Bool := false
  /-- Whether something depends on how it ends, so that its failure is none of the shell. -/
  isTested : Bool := false

/-- How commands are run. -/
abbrev Run := Purpose → Command → Sh Unit

namespace Sh

/-- Go on behind commands that were left because of an error, in the rich dialect and outside of processes that run
parts of the script. -/
def passErrors (result : Except Leaving Unit) : Sh Unit := do
  let shell ← get
  match result with
  | .error .error => do
    if !shell.isRich then throw .error
    if shell.status = 0 then conclude 1
    if 0 < shell.layers then throw .error
  | other => resume other

/-- Run the commands of the script that is read, up to its end; in the rich dialect it also ends where it cannot be
read. -/
def runInput (run : Run) (lastMayEnd : Bool) : Sh Nat :=
  loop 0 fun status => do
    match ← attempt readNext with
    | .ok none => pure (.inr status)
    | .ok (some ⟨.nothing, _⟩) => do
      run {} .nothing
      pure (.inl status)
    | .ok (some next) => do
      let result ← attempt (run { isLast := lastMayEnd && next.isLast } next.command)
      passErrors result
      let shell ← get
      pure (.inl shell.status)
    | .error leaving => do
      let shell ← get
      if shell.isRich && leaving == .error then pure (.inr shell.status) else throw leaving

/-- Run a text as a script: the status of the last command. -/
def runText (run : Run) (text : Raw) : Sh Nat :=
  withInput { text, complete := true } (runInput run false)

/-- Do what is to be done about a signal that has arrived. -/
def reactTo (run : Run) (signal : Nat) (status : Nat) : Sh Unit := do
  match (← get).traps.lookup signal with
  | none => pure ()
  | some action => do
    match ← attempt (runText run action) with
    | .ok _ => conclude status
    | .error (.function true) => throw (.function true)
    | .error (.function false) => do
      conclude status
      throw (.function false)
    | .error (.loops count again) => do
      conclude status
      throw (.loops count again)
    | .error leaving => throw leaving

/-- Do what is to be done about the signals that have arrived. -/
def reactToAll (run : Run) : Sh Unit := do
  let shell ← get
  if shell.traps.any fun trap => trap.1 != 0 && !trap.2.isEmpty then
    let caught : List Nat ← ask .caught
    let pending := (shell.pending ++ caught).mergeSort
    if !pending.isEmpty then
      let status := shell.kept.getD shell.status
      set { shell with kept := some status, pending := [] }
      let rec each : List Nat → Sh Unit
        | [] => pure ()
        | signal :: others => do
          match ← attempt (reactTo run signal status) with
          | .ok () => each others
          | .error leaving => do
            modify fun shell => { shell with pending := others }
            let isMilder := match leaving with
              | .loops _ _ => true
              | .function _ => true
              | _ => false
            if isMilder then modify fun now => { now with kept := shell.kept }
            throw leaving
      each pending
      modify fun now => { now with kept := shell.kept }

/-- Take the status that was kept when something began, if what it was kept for has ended. -/
def takeKept (isWanted : Bool) : Sh Unit :=
  modify fun shell => match shell.kept with
    | some status => { shell with status := if isWanted then status else shell.status, kept := none }
    | none => shell

/-- End a shell that was left in some way: what is to be done at the end is done. -/
def settle (run : Run) (result : Except Leaving Unit) : Sh Unit := do
  takeKept (match result with
    | .error .exit => true
    | _ => false)
  let shell ← get
  match shell.traps.lookup 0 with
  | none => pure ()
  | some action => do
    set { shell with
      traps := shell.traps.filter fun trap => trap.1 != 0
      kept := some shell.status, loops := 0, command := none }
    match ← attempt (runText run action) with
    | .error .error => takeKept false
    | .error .done => takeKept false
    | _ => takeKept true
  flush

/-- Start a process that runs a part of the script. -/
def branchOff (run : Run) (body : Sh Unit) : Sh Nat :=
  branch do
    enterBranch
    let result ← attempt body
    settle run result

/-- Close the pipes that have paths, except those that were there before. -/
def closeChannels (before : List Nat) : Sh Unit := do
  for channel in (← get).channels do
    if !before.contains channel then ask (.close channel)
  modify fun shell => { shell with channels := before }

/-- The octets that a process writes. -/
def octetsOf (run : Run) (body : Sh Unit) : Sh Bytes := do
  let (reading, writing) : Nat × Nat ← ask .makePipe
  let child ← branchOff run do
    ask (.close reading)
    moveDescriptor writing 1
    body
  ask (.close writing)
  let octets ← lift (Job.readAll reading)
  ask (.close reading)
  let answered ← await [child]
  modify fun shell => { shell with answered }
  pure (octets.toOption.getD [])

/-- Write what can be read from the standard input. -/
def copyInput : Sh Unit := do
  let octets ← lift (Job.readAll 0)
  let _ ← ask (.write 1 (octets.toOption.getD []))
  throw .done

/-- The octets that a command writes; one that only reads a file writes what is in it. -/
def captureOctets (run : Run) (body : Command) : Sh Bytes := do
  let shell ← get
  match body, shell.dialect with
  | .nothing, _ => pure []
  | .simple line [] [] [.mk 0 .input word], .rich =>
    octetsOf run do
      run {} (.simple line [] [Word.ofPlain "exec".toList] [.mk 0 .input word])
      if (← get).status == 0 then copyInput
  | _, dialect =>
    octetsOf run do
      if dialect == .rich then modify fun shell =>
        { shell with readings := shell.readings + 1, options := shell.options.filter (· != 'e') }
      run { isLast := true } body

/-- The greatest descriptor of a pipe that has a path. -/
def lastChannel : Nat := 63

/-- The path of a pipe that a command writes to, if it is to be read here, or reads from. -/
def capturePath (run : Run) (reads : Bool) (body : Command) : Sh Raw := do
  let (reading, writing) : Nat × Nat ← ask .makePipe
  let (mine, its) := if reads then (reading, writing) else (writing, reading)
  let child ← branchOff run do
    ask (.close mine)
    closeChannels []
    moveDescriptor its (if reads then 1 else 0)
    run { isLast := true } body
  ask (.close its)
  let shell ← get
  let place := lastChannel - shell.channels.length
  moveDescriptor mine place
  modify fun shell => { shell with channels := place :: shell.channels, latest := some child }
  pure ("/dev/fd/".toList ++ decimal place)

/-- How commands in words are run. -/
def capture (run : Run) : Capture where
  octets := captureOctets run
  path := capturePath run

/-- How much of a file is looked at to tell whether it may be a script. -/
def sampleSize : Nat := 128

/-- Whether an octet is never found in a script. -/
def isForeign (octet : UInt8) : Bool :=
  octet < 9 || (16 ≤ octet && octet < 32 && octet != 27) || octet == 127

/-- Whether a file may be a script, as far as the start of its first line shows. -/
def maybeScript (path : Raw) : Sh Bool := do
  let opened : Except OsError Nat ← ask (.openFile path .reading)
  match opened with
  | .error _ => pure true
  | .ok descriptor => do
    let start : Except OsError Bytes ← ask (.read descriptor sampleSize)
    ask (.close descriptor)
    pure (!((start.toOption.getD []).takeWhile (· != 10)).any isForeign)

/-- Go on with the arguments of a function or its caller after something has been done. -/
def withArguments {α : Type} (arguments : Arguments) (body : Sh α) : Sh α := do
  let before ← get
  set { before with arguments, loops := 0, depth := before.depth + 1 }
  let result ← attempt body
  modify fun shell => { shell with arguments := before.arguments, loops := before.loops, depth := before.depth }
  resume result

/-- Wait for processes that were just started, and take their status. -/
def concludeWith (processes : List Nat) : Sh Unit := do
  let status ← await processes
  conclude status

/-- Open a script, and put its descriptor where programs do not see it. -/
def openScript (path : Raw) : Sh Nat := do
  let result : Except OsError Nat ← ask (.openFile path .reading)
  match result with
  | .error reason => refuseOpen path reason
  | .ok source => do
    let shell ← get
    let place := firstPrivate + shell.keptDescriptors
    set { shell with keptDescriptors := shell.keptDescriptors + 1 }
    moveDescriptor source place
    pure place

/-- Whether what was left goes on in the same shell. -/
def staysInside : Leaving → Bool
  | .loops _ _ => true
  | .function _ => true
  | _ => false

/-- Restore variables until so many commands have some to be restored. -/
def unshadowTo (count : Nat) : Sh Unit := do
  for _ in List.range ((← get).shadowed.length - count) do
    unshadow

/-- The fields of the first word that has any, and the words that follow it. -/
def fillFields (capture : Capture) : List Word → Sh (List Raw × List Word)
  | [] => pure ([], [])
  | word :: words => do
    let fields ← wordFields capture word
    if fields.isEmpty then fillFields capture words else pure (fields, words)

end Sh

end AnswerQuery.Host.Script
