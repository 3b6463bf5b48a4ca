import AnswerQuery.Host.Script.Expansion

/-! Redirections: descriptors that stand for something else while a command is run. -/

namespace AnswerQuery.Host.Script

/-- What a descriptor is to stand for. -/
inductive Target where
  /-- A file at a path. -/
  | file (way : Way) (path : Raw)
  /-- What another descriptor stands for. -/
  | descriptor (source : Nat)
  /-- Nothing. -/
  | nothing
  /-- A document. -/
  | document (number : Nat) (expands : Bool)
  /-- A text that can be read. -/
  | text (text : Raw)

/-- A descriptor that was changed, and the descriptor that stands for what it stood for, if it stood for anything. -/
structure Kept where
  /-- The descriptor. -/
  descriptor : Nat
  /-- What stands for it now. -/
  copy : Option Nat

namespace Sh

/-- The path that a word tells, which has to be one. -/
def pathText (capture : Capture) (word : Word) : Sh Raw := do
  if (← get).isRich then
    match ← wordFields capture word with
    | [path] => pure path
    | _ => giveUpPlainly (Word.written word ++ ": ambiguous redirect".toList)
  else wordText capture word

/-- What a descriptor is to stand for, after the word that says so has been replaced. -/
def targetOf (capture : Capture) : Redirection → Sh (Nat × Target)
  | .mk descriptor (.document number expands) _ => pure (descriptor, .document number expands)
  | .mk descriptor .line word => do
    let text ← wordText capture word
    pure (descriptor, .text (text ++ ['\n']))
  | .mk descriptor .same word => do
    let text ← wordText capture word
    match text with
    | ['-'] => pure (descriptor, .nothing)
    | [c] =>
      if c.isDigit then pure (descriptor, .descriptor (Numeral.digitValue c))
      else refuseNumber word
    | _ =>
      match (if (← get).isRich then Numeral.natural? text else none) with
      | some number => pure (descriptor, .descriptor number)
      | none => refuseNumber word
  | .mk descriptor way word => do
    let path ← pathText capture word
    pure (descriptor, .file way path)
where
  /-- Complain about what is no number of a descriptor. -/
  refuseNumber {α : Type} (word : Word) : Sh α := do
    if (← get).isRich then giveUpPlainly (Word.written word ++ ": ambiguous redirect".toList)
    modify fun shell => { shell with line := shell.input.line }
    giveUp "Syntax error: Bad fd number".toList

/-- Why a file cannot be opened, in words. -/
def openReason (missing : String) : OsError → Raw
  | .noEntry => missing.toList
  | .notDirectory => missing.toList
  | reason => reason.description

/-- Complain about a file that cannot be opened for reading. -/
def refuseOpen {α : Type} (path : Raw) (reason : OsError) : Sh α := do
  if (← get).isRich then giveUpPlainly (path ++ ": ".toList ++ reason.description)
  giveUp ("cannot open ".toList ++ path ++ ": ".toList ++ openReason "No such file" reason)

/-- Complain about a file that cannot be opened for writing. -/
def refuseCreate {α : Type} (path : Raw) (reason : OsError) : Sh α := do
  if (← get).isRich then
    giveUpPlainly (path ++ ": ".toList ++
      (if reason == .alreadyThere then "cannot overwrite existing file".toList else reason.description))
  giveUp ("cannot create ".toList ++ path ++ ": ".toList ++ openReason "Directory nonexistent" reason)

/-- Open a file for writing. -/
def openCreating (path : Raw) (opening : Files.Opening) : Sh Nat := do
  let result : Except OsError Nat ← ask (.openFile path opening)
  match result with
  | .ok descriptor => pure descriptor
  | .error reason => refuseCreate path reason

/-- Open a file that must not be a usual file yet. -/
def openFresh (path : Raw) : Sh Nat := do
  let found : Except OsError Status ← ask (.inspect path true)
  match found with
  | .error _ => openCreating path { Files.Opening.writing with exclusive := true }
  | .ok status =>
    if status.kind == .file then refuseCreate path .alreadyThere
    else openCreating path { writes := true }

/-- Open a file in some way. -/
def openPath (way : Way) (path : Raw) : Sh Nat := do
  match way with
  | .output => do
    let shell ← get
    if shell.has 'C' then openFresh path else openCreating path .writing
  | .force => openCreating path .writing
  | .append => openCreating path .appending
  | .update => openCreating path .updating
  | _ => do
    let result : Except OsError Nat ← ask (.openFile path .reading)
    match result with
    | .ok descriptor => pure descriptor
    | .error reason => refuseOpen path reason

/-- How many octets of a document are put into a pipe at once. -/
def documentRoom : Nat := 4096

/-- Open a text for reading; one that is long is written by a process of its own. -/
def openText (textOf : Sh Raw) : Sh Nat := do
  let (reading, writing) : Nat × Nat ← ask .makePipe
  let text ← textOf
  let octets := Raw.octets text
  let write : Sh Unit := do let _ ← ask (.write writing octets)
  if octets.length ≤ documentRoom then write
  else
    let _ ← branch do
      ask (.close reading)
      for signal in [1, 2, 3] do
        ask (.react signal .ignored)
      ask (.react 13 .usual)
      write
  ask (.close writing)
  pure reading

/-- Open a document for reading. -/
def openDocument (capture : Capture) (number : Nat) (expands : Bool) : Sh Nat := do
  let shell ← get
  let document := (shell.documents.lookup number).getD []
  openText (if expands then documentText capture document else pure (Word.unquoted document))

/-- Keep what a descriptor stands for, and close it. -/
def keepDescriptor (descriptor : Nat) : Sh Kept := do
  let shell ← get
  let copy := firstPrivate + shell.keptDescriptors
  let result : Except OsError Unit ← ask (.duplicate descriptor copy)
  match result with
  | .ok () => do
    set { shell with keptDescriptors := shell.keptDescriptors + 1 }
    ask (.close descriptor)
    pure ⟨descriptor, some copy⟩
  | .error _ => pure ⟨descriptor, none⟩

/-- Let a descriptor stand for what a new one stands for. -/
def moveDescriptor (source target : Nat) : Sh Unit := do
  if source != target then
    let _ ← ask (.duplicate source target)
    ask (.close source)

/-- Let a descriptor stand for something else, after what it stood for has been kept if that is wanted: what has been
kept by then, and what is wrong about it. -/
def redirectOne (capture : Capture) (keep : Bool) (kept : List Kept) (descriptor : Nat) (target : Target) :
    Sh (List Kept × Option Raw) := do
  let isNew := keep && !kept.any (fun before => before.descriptor == descriptor)
  let keepNow := do
    if isNew then
      let now ← keepDescriptor descriptor
      pure (now :: kept)
    else pure kept
  let opened := fun (source : Nat) => do
    if source == descriptor then pure (if isNew then ⟨descriptor, none⟩ :: kept else kept, none)
    else
      let kept ← keepNow
      moveDescriptor source descriptor
      pure (kept, none)
  match target with
  | .file way path => do
    let source ← openPath way path
    opened source
  | .document number expands => do
    let source ← openDocument capture number expands
    opened source
  | .text text => do
    let source ← openText (pure text)
    opened source
  | .nothing => do
    let kept ← keepNow
    ask (.close descriptor)
    pure (kept, none)
  | .descriptor source =>
    if source == descriptor then pure (kept, none)
    else do
      let kept ← keepNow
      let result : Except OsError Unit ← ask (.duplicate source descriptor)
      match result with
      | .ok () => pure (kept, none)
      | .error reason => pure (kept, some (decimal source ++ ": ".toList ++ reason.description))

/-- Let descriptors stand for something else: what has been kept, and how that was left. -/
def redirectEach (capture : Capture) (keep : Bool) :
    List (Nat × Target) → List Kept → Sh (List Kept × Except Leaving Unit)
  | [], kept => pure (kept, .ok ())
  | (descriptor, target) :: others, kept => do
    match ← attempt (redirectOne capture keep kept descriptor target) with
    | .error leaving => pure (kept, .error leaving)
    | .ok (kept, none) => redirectEach capture keep others kept
    | .ok (kept, some message) => do
      let left ← attempt (giveUp message)
      pure (kept, left)

/-- Restore the descriptors that were kept, or forget what they stood for. -/
def restoreDescriptors (forget : Bool) (kept : List Kept) : Sh Unit := do
  for before in kept do
    match before.copy with
    | some copy => do
      if !forget then
        let _ ← ask (.duplicate copy before.descriptor)
      ask (.close copy)
      modify fun shell => { shell with keptDescriptors := shell.keptDescriptors - 1 }
    | none => if !forget then ask (.close before.descriptor)

/-- Let descriptors stand for something else for good. -/
def redirectAll (capture : Capture) (redirections : List Redirection) : Sh Unit := do
  let targets ← redirections.mapM (targetOf capture)
  let (_, result) ← redirectEach capture false targets []
  resume result

end Sh

end AnswerQuery.Host.Script
