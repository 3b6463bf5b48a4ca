import AnswerQuery.Host.Tool.Child
import AnswerQuery.Host.Tool.Report.Table
import AnswerQuery.Host.Tool.Report.Tree
import AnswerQuery.Host.Tool.Source

/-! The state of a report: its variables, the record at hand, and the files and commands it has to do with. -/

namespace AnswerQuery.Host.Tool.Report

/-- What a name holds. -/
inductive Slot where
  | cell (cell : Cell)
  /-- A table, by its number. -/
  | table (number : Nat)

/-- Something that records are read from. -/
structure Inflow where
  /-- The path, or the command. -/
  path : Raw
  /-- The process, if it is a command. -/
  process : Option Nat
  /-- The octets. -/
  source : Source

/-- Something that is written to. -/
structure Outflow where
  /-- The path, or the command. -/
  path : Raw
  /-- The process, if it is a command. -/
  process : Option Nat
  /-- The descriptor. -/
  descriptor : Nat
  /-- What has not been passed on, the last piece first. -/
  pieces : List Raw := []
  /-- How long that is. -/
  size : Nat := 0

/-- The state of a report. -/
structure State where
  /-- The functions. -/
  functions : Array Function
  /-- The shared names and their numbers. -/
  names : List (Raw × Nat)
  /-- What the shared names hold. -/
  shared : Array Slot
  /-- What the names of the function hold that is called. -/
  own : Array Slot := #[]
  /-- The tables. -/
  tables : Array Table := #[]
  /-- The tables that are not used any more. -/
  free : List Nat := []
  /-- The record. -/
  record : Raw := []
  /-- Whether the record is to be made of its fields. -/
  isStale : Bool := false
  /-- The fields. -/
  fields : Array Cell := #[]
  /-- Whether the fields are those of the record. -/
  isCut : Bool := true
  /-- The arguments that have been looked at. -/
  argument : Nat := 1
  /-- Whether records have come from somewhere. -/
  hasRead : Bool := false
  /-- What records are read from. -/
  main : Option Source := none
  /-- What else is read from. -/
  inflows : List Inflow := []
  /-- What is written to. -/
  outflows : List Outflow := []
  /-- The rules that hold from a record to another one, and have begun. -/
  begun : List Nat := []
  /-- What the function leads to. -/
  result : Cell := .blank
  /-- The status. -/
  status : Nat := 0
  /-- The patterns that have been read from texts. -/
  matchers : Std.HashMap Raw Matcher := {}
  /-- What random numbers begin with. -/
  seed : Cell := .blank
  /-- The last random number. -/
  random : Nat := 0

/-- Why a report does not go on. -/
inductive Leaving where
  /-- It is over. -/
  | over

/-- What a report does. -/
abbrev Work := ExceptT Leaving (StateT State Act)

namespace Work

/-- Something that is done outside of the report. -/
def act {α : Type} (act : Act α) : Work α :=
  ExceptT.lift (StateT.lift act)

/-- Repeat a step on a value until it leads to a result. -/
def loop {σ α : Type} (start : σ) (step : σ → Work (σ ⊕ α)) : Work α := fun state => do
  let (result, state) ← Act.loop (start, state) fun (value, state) => do
    match ← step value state with
    | (.ok (.inl value), state) => pure (.inl (value, state))
    | (.ok (.inr result), state) => pure (.inr (Except.ok result, state))
    | (.error leaving, state) => pure (.inr (Except.error leaving, state))
  pure (result, state)

/-- The cell of a shared name. -/
def sharedCell (index : Nat) : Work Cell := do
  match (← get).shared[index]? with
  | some (.cell cell) => pure cell
  | _ => pure .blank

/-- Put a cell under a shared name. -/
def putShared (index : Nat) (cell : Cell) : Work Unit :=
  modify fun state => { state with shared := state.shared.setIfInBounds index (.cell cell) }

/-- How numbers become texts. -/
def numberFormat : Work Raw := do
  match ← sharedCell Shared.numberFormat with
  | .text format => pure format
  | cell => pure (cell.toText "%.6g".toList)

/-- A cell as a text. -/
def textOf (cell : Cell) : Work Raw := do
  match cell with
  | .number _ => pure (cell.toText (← numberFormat))
  | cell => pure (cell.toText [])

/-- The text of a shared name. -/
def sharedText (index : Nat) : Work Raw := do
  textOf (← sharedCell index)

/-- Pass on what has been written to something. -/
def flushOutflow (outflow : Outflow) : Act Outflow := do
  if outflow.size = 0 then pure outflow
  else
    let octets := Raw.octets outflow.pieces.reverse.flatten
    let result : Except OsError Unit ← Act.ask (.write outflow.descriptor octets)
    match result with
    | .ok () => pure { outflow with pieces := [], size := 0 }
    | .error reason => do
      let message := " failed on file ".toList ++ outflow.path ++ " (".toList ++ reason.description ++ [')']
      Act.die 2 ("close".toList ++ message)

/-- Pass on all that has been written. -/
def flushAll : Work Unit := do
  act Act.flush
  let outflows ← act ((← get).outflows.mapM flushOutflow)
  modify fun state => { state with outflows }

/-- What is told of the record at hand when something goes wrong. -/
def whereabouts : Work Raw := do
  let name ← sharedText Shared.fileName
  let fileRecord ← sharedText Shared.fileRecordCount
  let record ← sharedText Shared.recordCount
  pure ("\tFILENAME=\"".toList ++ name ++ "\" FNR=".toList ++ fileRecord ++ " NR=".toList ++ record)

/-- Complain about something that has gone wrong, and end. -/
def die {α : Type} (message : Raw) : Work α := do
  let place ← whereabouts
  act (Act.die 2 ("run time error: ".toList ++ message ++ '\n' :: place))

/-- The pattern that a text tells. -/
def matcherOf (text : Raw) : Work Matcher := do
  match (← get).matchers[text]? with
  | some matcher => pure matcher
  | none =>
    match Pattern.read text with
    | .error message => die ("regular expression compile failed (".toList ++ message.toList ++ ")\n".toList ++ text)
    | .ok matcher => do
      modify fun state => { state with matchers := state.matchers.insert text matcher }
      pure matcher

/-- A way to cut texts. -/
inductive Separator where
  | blanks
  | characters
  | character (c : Char)
  | pattern (matcher : Matcher)

/-- The way to cut texts that a text tells. -/
def separatorOf (text : Raw) : Work Separator := do
  match text with
  | [] => pure .characters
  | [' '] => pure .blanks
  | [c] => pure (.character c)
  | _ => pure (.pattern (← matcherOf text))

/-- The parts of a text. -/
def parts (separator : Separator) (text : Raw) : List Raw :=
  match text, separator with
  | [], _ => []
  | _, .blanks => (text.splitOnP Raw.isSpace).filter fun part => !part.isEmpty
  | _, .characters => text.map fun c => [c]
  | _, .character c => Raw.split c text
  | _, .pattern matcher => Pattern.cut matcher text.toArray (text.length + 1) 0 0

/-- Cut the record into fields, if that has not been done. -/
def cutRecord : Work Unit := do
  let state ← get
  if !state.isCut then
    let separator ← separatorOf (← sharedText Shared.fieldSeparator)
    let fields := ((parts separator state.record).map Cell.told).toArray
    modify fun state => { state with fields, isCut := true }

/-- The record. -/
def record : Work Raw := do
  let state ← get
  if state.isStale then
    let texts ← state.fields.toList.mapM textOf
    let record := (← sharedText Shared.outputSeparator).intercalate texts
    modify fun state => { state with record, isStale := false }
    pure record
  else pure state.record

/-- Make a text the record. -/
def putRecord (record : Raw) : Work Unit :=
  modify fun state => { state with record, isStale := false, isCut := false, fields := #[] }

/-- A field. -/
def field (index : Nat) : Work Cell := do
  if index = 0 then pure (.told (← record))
  else
    cutRecord
    pure ((← get).fields.getD (index - 1) (.text []))

/-- As many fields, the missing ones being empty. -/
def resized (fields : Array Cell) (count : Nat) : Array Cell :=
  if count ≤ fields.size then fields.extract 0 count
  else fields ++ Array.replicate (count - fields.size) (.text [])

/-- Let the record have so many fields. -/
def putFieldCount (count : Nat) : Work Unit := do
  cutRecord
  modify fun state => { state with fields := resized state.fields count, isStale := true }

/-- Put a cell into a field. -/
def putField (index : Nat) (cell : Cell) : Work Unit := do
  if index = 0 then putRecord (← textOf cell)
  else
    cutRecord
    modify fun state =>
      let fields := if state.fields.size < index then resized state.fields index else state.fields
      { state with fields := fields.setIfInBounds (index - 1) cell, isStale := true }

/-- The number of the field that a cell tells. -/
def fieldIndex (cell : Cell) : Work Nat := do
  let index := Number.signed cell.toNumber
  if index < 0 then die ("negative field index $".toList ++ Numeral.ofInt index)
  else pure index.toNat

/-- A new table. -/
def newTable : Work Nat := do
  let state ← get
  match state.free with
  | number :: free => do
    set { state with free }
    pure number
  | [] => do
    set { state with tables := state.tables.push .nothing }
    pure state.tables.size

/-- What a name holds. -/
def slot (name : Name) : Work Slot := do
  let state ← get
  let found := match name with
    | .shared index => state.shared[index]?
    | .own index => state.own[index]?
  pure (found.getD (.cell .blank))

/-- Let a name hold something. -/
def putSlot (name : Name) (slot : Slot) : Work Unit :=
  modify fun state =>
    match name with
    | .shared index => { state with shared := state.shared.setIfInBounds index slot }
    | .own index => { state with own := state.own.setIfInBounds index slot }

/-- The number of the table of a name, which has one from then on. -/
def tableNumber (name : Name) : Work Nat := do
  match ← slot name with
  | .table number => pure number
  | .cell _ => do
    let number ← newTable
    putSlot name (.table number)
    pure number

/-- Work on a table. -/
def onTable {α : Type} (number : Nat) (use : Table → α × Table) : Work α := do
  let state ← get
  let table := state.tables.getD number .nothing
  set { state with tables := state.tables.setIfInBounds number .nothing }
  let (result, table) := use table
  modify fun state => { state with tables := state.tables.setIfInBounds number table }
  pure result

/-- The cell of a variable. -/
def variable_ (name : Name) : Work Cell := do
  match name with
  | .shared 0 => do
    cutRecord
    pure (.ofNat (← get).fields.size)
  | name =>
    match ← slot name with
    | .cell cell => pure cell
    | .table _ => pure .blank

/-- Put a cell into a variable. -/
def putVariable (name : Name) (cell : Cell) : Work Unit := do
  match name with
  | .shared 0 => putFieldCount (Number.signed cell.toNumber).toNat
  | name => do
    if name == .shared Shared.fieldSeparator then
      cutRecord
      let _ ← separatorOf (← textOf cell)
    putSlot name (.cell cell)

/-- The key that a cell tells. -/
def keyOf (cell : Cell) : Work Key := do
  match cell with
  | .number x =>
    match Number.whole? x with
    | some n => pure (.whole n)
    | none => pure (.text (← textOf cell))
  | cell => pure (.text (← textOf cell))

/-- Make what a command tells of how it ended a number. -/
def statusNumber : ExitStatus → Nat
  | .exited code => code
  | .killed signal _ => 256 + signal

/-- Wait for a process. -/
def await (process : Nat) : Act Nat := do
  pure (statusNumber (← Act.await process))

/-- End something that is written to: how the process has ended, if it is one. -/
def closeOutflow (outflow : Outflow) : Act Nat := do
  let outflow ← flushOutflow outflow
  Act.ask (.close outflow.descriptor)
  match outflow.process with
  | some process => await process
  | none => pure 0

/-- Close what has a path. -/
def close (path : Raw) : Work Int := do
  let state ← get
  match state.outflows.find? fun outflow => outflow.path == path, state.inflows.find? fun inflow => inflow.path == path with
  | some outflow, _ => do
    let status ← act (closeOutflow outflow)
    modify fun state => { state with outflows := state.outflows.filter fun other => other.path != path }
    pure (Int.ofNat status)
  | none, some inflow => do
    modify fun state => { state with inflows := state.inflows.filter fun other => other.path != path }
    act inflow.source.close
    match inflow.process with
    | some process => do
      let status ← act (await process)
      pure (Int.ofNat status)
    | none => pure 0
  | none, none => pure (-1)

/-- Close all that is written to. -/
def closeAll : Work Unit := do
  for outflow in (← get).outflows.filter fun outflow => outflow.process.isSome do
    let _ ← act (closeOutflow outflow)
  for outflow in (← get).outflows.filter fun outflow => outflow.process.isNone do
    let _ ← act (closeOutflow outflow)
  modify fun state => { state with outflows := [] }

/-- How many octets are kept before they are passed on. -/
def bufferSize : Nat := 4096

/-- Start a command with one end of a pipe as one of its descriptors: the other end, and the process. -/
def startCommand (command : Raw) (writes : Bool) : Work (Nat × Nat) := do
  flushAll
  let bindings ← act Act.bindings
  let (reading, writing) : Nat × Nat ← act (Act.ask .makePipe)
  let process ← act (Act.start do
    let _ ← Job.call (.duplicate (if writes then writing else reading) (if writes then 1 else 0))
    Job.call (.close reading)
    Job.call (.close writing)
    let reason ← becomeAt usualShell [usualShell, "-c".toList, command] bindings
    pure (statusOfRefusal reason))
  act (Act.ask (.close (if writes then writing else reading)))
  pure (if writes then reading else writing, process)

/-- What has a path and is written to, which is opened if need be. -/
def outflowOf (outlet : Outlet) (path : Raw) : Work Unit := do
  let isCommand := outlet == .command
  let known := (← get).outflows.any fun outflow => outflow.path == path && outflow.process.isSome == isCommand
  if !known then
    if isCommand then
      let (descriptor, process) ← startCommand path false
      modify fun state => { state with outflows := ⟨path, some process, descriptor, [], 0⟩ :: state.outflows }
    else
      let opening : Files.Opening := if outlet == .longerFile then .appending else .writing
      let opened : Except OsError Nat ← act (Act.ask (.openFile path opening))
      match opened with
      | .error reason => do
        let message := "cannot open ".toList ++ path ++ " for output (".toList ++ reason.description ++ [')']
        act (Act.die 2 message)
      | .ok descriptor =>
        modify fun state => { state with outflows := ⟨path, none, descriptor, [], 0⟩ :: state.outflows }

/-- Write a text to something. -/
def writeTo (outlet : Outlet) (path text : Raw) : Work Unit := do
  if outlet != .command && (path == "/dev/stdout".toList || path == ['-']) then act (Act.say text)
  else if outlet != .command && path == "/dev/stderr".toList then act (Act.report text)
  else
    outflowOf outlet path
    let isCommand := outlet == .command
    let (before, outflow, after) ← do
      let outflows := (← get).outflows
      let isOther := fun (outflow : Outflow) => !(outflow.path == path && outflow.process.isSome == isCommand)
      let before := outflows.takeWhile isOther
      let rest := outflows.drop before.length
      pure (before, rest.head?, rest.drop 1)
    match outflow with
    | none => pure ()
    | some outflow => do
      let outflow := { outflow with pieces := text :: outflow.pieces, size := outflow.size + text.length }
      let outflow ← if bufferSize ≤ outflow.size then act (flushOutflow outflow) else pure outflow
      modify fun state => { state with outflows := before ++ outflow :: after }

/-- Read all that a source still gives. -/
def readOn (source : Source) : Act Source :=
  Act.loop source fun source => do
    if source.isOver then pure (.inr source) else pure (.inl (← source.feed))

/-- The next record of a source. -/
def nextOf (source : Source) : Work (Option Raw × Source) := do
  match ← sharedText Shared.recordSeparator with
  | [c] => do
    let (line, source) ← act (source.nextLine c)
    pure (line.map Source.Line.text, source)
  | [] => do
    let source ← act (readOn source)
    let text := source.rest.dropWhile (· == '\n')
    if text.isEmpty then pure (none, { source with rest := [] })
    else
      let matcher := Pattern.exactly ['\n', '\n']
      match matcher.find? text.toArray 0 with
      | some found =>
        pure (some (text.take found.start), { source with rest := (text.drop found.stop).dropWhile (· == '\n') })
      | none => pure (some (if text.getLast? == some '\n' then text.dropLast else text), { source with rest := [] })
  | separator => do
    let source ← act (readOn source)
    let text := source.rest
    if text.isEmpty then pure (none, source)
    else
      let matcher ← matcherOf separator
      match matcher.find? text.toArray 0 with
      | some found =>
        if found.stop = found.start then pure (some text, { source with rest := [] })
        else pure (some (text.take found.start), { source with rest := text.drop found.stop })
      | none => pure (some text, { source with rest := [] })

/-- A shared name that belongs to a text. -/
def sharedName? (name : Raw) : Work (Option Nat) := do
  pure ((← get).names.lookup name)

/-- The name and the value that an argument puts into a variable. -/
def assignment? (argument : Raw) : Option (Raw × Raw) :=
  let name := argument.takeWhile (· != '=')
  if Raw.isName name && name.length < argument.length then some (name, argument.drop (name.length + 1)) else none

/-- Do what an argument says that puts a value into a variable. -/
def assign (name value : Raw) : Work Unit := do
  if let some index ← sharedName? name then putVariable (.shared index) (.told (Escaped.replaced value))

/-- Begin to read from a file. -/
def openMain (name : Raw) (source : Source) : Work Unit := do
  putShared Shared.fileName (.told name)
  putShared Shared.fileRecordCount (.number 0.0)
  modify fun state => { state with main := some source, hasRead := true }

/-- Look at the next argument; the result tells whether there are more. -/
def nextArgument : Work Bool := do
  let state ← get
  let count := (Number.signed (← sharedCell Shared.argumentCount).toNumber).toNat
  if state.argument < count then
    modify fun state => { state with argument := state.argument + 1 }
    let key := Key.whole (Int.ofNat state.argument)
    let number ← tableNumber (.shared Shared.arguments)
    let isThere ← onTable number (Table.find key)
    let argument ← if isThere then textOf (← onTable number (Table.get key)) else pure []
    if argument.isEmpty then pure true
    else
      match assignment? argument with
      | some (name, value) => do
        assign name value
        pure true
      | none => do
        match ← act (Source.openAt argument 4096) with
        | .error reason =>
          act (Act.die 2 ("cannot open ".toList ++ argument ++ " (".toList ++ reason.description ++ [')']))
        | .ok source => do
          openMain argument source
          pure true
  else if state.hasRead then pure false
  else
    openMain ['-'] { descriptor := 0, path := ['-'] }
    pure true

/-- The next record of the files. -/
def nextRecord : Work (Option Raw) :=
  loop () fun () => do
    match (← get).main with
    | none => if ← nextArgument then pure (.inl ()) else pure (.inr none)
    | some source => do
      let (line, source) ← nextOf source
      match line with
      | some text => do
        modify fun state => { state with main := some source }
        for index in [Shared.recordCount, Shared.fileRecordCount] do
          let count := (← sharedCell index).toNumber
          putShared index (.number (count + 1.0))
        pure (.inr (some text))
      | none =>
        match source.failure with
        | some reason => act (Act.die 2 ("read error (".toList ++ reason.description ++ [')']))
        | none => do
          act source.close
          modify fun state => { state with main := none }
          pure (.inl ())

/-- What has a path or is a command and is read from, which is opened if need be. -/
def inflowOf (isCommand : Bool) (path : Raw) : Work (Option Inflow) := do
  match (← get).inflows.find? fun inflow => inflow.path == path && inflow.process.isSome == isCommand with
  | some inflow => pure (some inflow)
  | none => do
    let opened : Option Inflow ← if isCommand then do
        let (descriptor, process) ← startCommand path true
        pure (some ⟨path, some process, { descriptor, path }⟩)
      else
        let path' := if path == "/dev/stdin".toList then ['-'] else path
        match ← act (Source.openAt path' 4096) with
        | .error _ => pure none
        | .ok source => pure (some ⟨path, none, source⟩)
    if let some inflow := opened then
      modify fun state => { state with inflows := inflow :: state.inflows }
    pure opened

/-- The next record of a file or a command; none at the end, and nothing at all if it cannot be read. -/
def nextFrom (isCommand : Bool) (path : Raw) : Work (Option (Option Raw)) := do
  match ← inflowOf isCommand path with
  | none => pure none
  | some inflow => do
    let (line, source) ← nextOf inflow.source
    modify fun state => { state with
      inflows := state.inflows.map fun other =>
        if other.path == path && other.process.isSome == isCommand then { other with source } else other }
    match line, source.failure with
    | none, some _ => pure none
    | line, _ => pure (some line)

end Work

end AnswerQuery.Host.Tool.Report
