import AnswerQuery.Host.Conversion
import AnswerQuery.Host.Calendar.Form
import AnswerQuery.Host.Tool.Amount
import AnswerQuery.Host.Tool.Path
import AnswerQuery.Host.Tool.Source
import AnswerQuery.Host.Tool.Time

/-! Pages: texts in columns, with headings, numbers and margins. -/

namespace AnswerQuery.Host.Tool

namespace Pages

/-- How pages are made. -/
structure Plan where
  /-- How many columns there are. -/
  columns : Nat := 1
  /-- Whether that was told. -/
  columnsTold : Bool := false
  /-- Whether columns are filled across. -/
  across : Bool := false
  /-- Whether files stand beside each other. -/
  parallel : Bool := false
  /-- Whether columns are filled down, with the same number of lines. -/
  balanced : Bool := true
  /-- Whether there are headings and page ends. -/
  extremities : Bool := true
  /-- Whether form feeds of the text are kept. -/
  keepsFeeds : Bool := false
  /-- Whether pages are ended by form feeds. -/
  usesFeeds : Bool := false
  /-- Whether an empty line follows each line. -/
  doubleSpaced : Bool := false
  /-- How many lines a page has. -/
  pageLines : Nat := 66
  /-- How many lines of them are for text. -/
  bodyLines : Nat := 56
  /-- How wide lines are. -/
  width : Nat := 72
  /-- How far lines are indented. -/
  margin : Nat := 0
  /-- Whether lines are cut. -/
  cuts : Bool := false
  /-- Whether whole lines stand beside each other. -/
  joins : Bool := false
  /-- What stands between columns, if that was told. -/
  separator : Option Raw := none
  /-- The character that is made into blanks. -/
  inputTab : Char := '\t'
  /-- How far apart the columns are that it leads to. -/
  inputTabWidth : Nat := 8
  /-- Whether it is made into blanks. -/
  expands : Bool := false
  /-- The character that blanks are made into. -/
  outputTab : Char := '\t'
  /-- How far apart the columns are that it leads to. -/
  outputTabWidth : Nat := 8
  /-- Whether blanks are made into it. -/
  compresses : Bool := false
  /-- Whether lines are numbered. -/
  numbers : Bool := false
  /-- The character behind numbers. -/
  numberMark : Char := '\t'
  /-- How many digits numbers have. -/
  numberDigits : Nat := 5
  /-- The first number, if that was told. -/
  firstNumber : Option Int := none
  /-- Whether what cannot be shown is written as digits. -/
  escapes : Bool := false
  /-- Whether what cannot be shown is written with a caret. -/
  carets : Bool := false
  /-- Whether nothing is said about files that cannot be opened. -/
  ignoresMissing : Bool := false
  /-- What headings say in place of the name of the file. -/
  heading : Option Raw := none
  /-- The form of the time in headings. -/
  timeForm : Raw := "%Y-%m-%d %H:%M".toList
  /-- The first page that is written, if that was told. -/
  firstPage : Option Nat := none
  /-- The last page that is written, if that was told. -/
  lastPage : Option Nat := none

/-- Whether a file can be read further. -/
inductive State where
  | reading
  /-- A form feed was found, and stored lines are left. -/
  | fed
  /-- A form feed was found: it goes on with the next page. -/
  | waiting
  | over
  deriving DecidableEq, Repr

/-- A column. -/
structure Column where
  /-- The number of its file. -/
  file : Nat
  /-- Whether its file can be read further. -/
  state : State := .reading
  /-- How many lines of it are left on the page. -/
  left : Nat := 0
  /-- How many lines of it are stored. -/
  stored : Nat := 0
  /-- The next stored line. -/
  next : Nat := 0
  /-- Where it begins. -/
  start : Nat := 0
  /-- Whether its lines are numbered. -/
  numbered : Bool := false
  /-- Whether the last page was full when it ended. -/
  wasFull : Bool := false
  deriving Inhabited

/-- What is known while pages are made. -/
structure Press where
  /-- How pages are made. -/
  plan : Plan
  /-- What files have left. -/
  files : Array Raw
  /-- The columns. -/
  columns : Array Column
  /-- How many files can be read further. -/
  ready : Nat
  /-- What stands between columns. -/
  separator : Raw := []
  /-- Whether that is written. -/
  separates : Bool := false
  /-- How wide a column is. -/
  columnWidth : Nat := 0
  /-- How wide numbers are with what follows them. -/
  numberWidth : Nat := 0
  /-- Whether lines are stored before they are written. -/
  stores : Bool := false
  /-- What has been written, the last character first. -/
  output : Raw := []
  /-- The column that has been reached in the output. -/
  outputPlace : Int := 0
  /-- The column that has been reached in a line that is read. -/
  inputPlace : Int := 0
  /-- How many blanks have not been written. -/
  blanks : Nat := 0
  /-- How many separators have not been written. -/
  separators : Nat := 0
  /-- Where the column begins that has not been padded to. -/
  padding : Nat := 0
  /-- The number of the next line. -/
  number : Int := 1
  /-- The page. -/
  page : Nat := 1
  /-- Whether a heading has to be written. -/
  wantsHeading : Bool := false
  /-- Whether a form feed has to be written. -/
  wantsFeed : Bool := false
  /-- Whether something was written in the line. -/
  hasText : Bool := false
  /-- Whether empty columns have to be filled up. -/
  alignsEmpty : Bool := false
  /-- Whether the line is empty so far. -/
  isEmpty : Bool := true
  /-- Whether a form feed stood alone. -/
  onlyFeed : Bool := false
  /-- The stored lines: the characters of each, and the column reached behind them. -/
  lines : Array (Raw × Int) := #[]
  /-- The line that is being stored, the last character first. -/
  line : Raw := []
  /-- The time in headings. -/
  time : Raw := []
  /-- The text in headings. -/
  title : Raw := []

/-- A step of the work. -/
abbrev Work := StateM Press

/-- A column. -/
def column (place : Nat) : Work Column := do
  pure (((← get).columns[place]?).getD default)

/-- Change a column. -/
def setColumn (place : Nat) (change : Column → Column) : Work Unit :=
  modify fun press => { press with columns := press.columns.modify place change }

/-- Change all columns. -/
def setColumns (change : Column → Column) : Work Unit :=
  modify fun press => { press with columns := press.columns.map change }

/-- Write a character. -/
def put (c : Char) : Work Unit :=
  modify fun press => { press with output := c :: press.output }

/-- Write characters. -/
def putAll (text : Raw) : Work Unit :=
  modify fun press => { press with output := text.reverse ++ press.output }

/-- The next character of a file. -/
def take (file : Nat) : Work (Option Char) := do
  match ((← get).files[file]?).getD [] with
  | [] => pure none
  | c :: rest => do
    modify fun press => { press with files := press.files.setIfInBounds file rest }
    pure (some c)

/-- Go over a line end, if there is one. -/
def skipEnd (file : Nat) : Work Unit := do
  match ((← get).files[file]?).getD [] with
  | '\n' :: rest => modify fun press => { press with files := press.files.setIfInBounds file rest }
  | _ => pure ()

/-- A file is at its end. -/
def closeFile (place : Nat) : Work Unit := do
  if (← column place).state != .over then
    if (← get).plan.parallel then setColumn place fun column => { column with state := .over, left := 0 }
    else setColumns fun column => { column with state := .over, left := if column.stored = 0 then 0 else column.left }
    modify fun press => { press with ready := press.ready - 1 }

/-- A form feed ends the page of a file. -/
def holdFile (place : Nat) : Work Unit := do
  let press ← get
  if press.plan.parallel then setColumn place fun column => { column with state := .waiting }
  else setColumns fun column => { column with state := if press.stores then .fed else .waiting }
  setColumn place fun column => { column with left := 0 }
  modify fun press => { press with ready := press.ready - 1 }

/-- Files that wait can be read again. -/
def resume : Work Unit := do
  for place in List.range (← get).columns.size do
    if (← column place).state == .waiting then
      setColumn place fun column => { column with state := .reading }
      modify fun press => { press with ready := press.ready + 1 }
  if (← get).stores then
    let isOver := (← column 0).state == .over
    modify fun press => { press with ready := if isOver then 0 else 1 }

/-- Where a tab leads to. -/
def behindTab (width : Nat) (place : Int) : Int :=
  place + (Int.ofNat width - Int.emod place (Int.ofNat width))

/-- Tabs and blanks up to a column. -/
def tabsTo (tab : Char) (width : Nat) (goal : Int) : Nat → Int → Raw
  | 0, _ => []
  | steps + 1, place =>
    if 1 < goal - place && behindTab width place ≤ goal then tab :: tabsTo tab width goal steps (behindTab width place)
    else List.replicate (goal - place).toNat ' '

/-- Write the blanks that have not been written. -/
def putBlanks : Work Unit := do
  let press ← get
  let goal := press.outputPlace + Int.ofNat press.blanks
  putAll (tabsTo press.plan.outputTab press.plan.outputTabWidth goal (press.blanks + 1) press.outputPlace)
  modify fun press => { press with outputPlace := goal, blanks := 0 }

/-- Whether a character can be shown. -/
def isShown (c : Char) : Bool :=
  32 ≤ c.toNat && c.toNat < 127

/-- Write a character of a text. -/
def putText (c : Char) : Work Unit := do
  if (← get).plan.compresses then
    if c == ' ' then modify fun press => { press with blanks := press.blanks + 1 }
    else
      if 0 < (← get).blanks then putBlanks
      let step : Int := if isShown c then 1 else if c == '\x08' then -1 else 0
      modify fun press => { press with outputPlace := press.outputPlace + step }
      put c
  else put c

/-- Write or store a character of a column. -/
def say (c : Char) : Work Unit := do
  if (← get).stores then modify fun press => { press with line := c :: press.line } else putText c

/-- Go to a column. -/
def padTo (place : Nat) : Work Unit := do
  let press ← get
  let space := (Int.ofNat place - press.outputPlace).toNat
  if press.plan.compresses then modify fun press => { press with blanks := space }
  else
    putAll (List.replicate space ' ')
    modify fun press => { press with outputPlace := Int.ofNat place }

/-- Write the characters of a separator. -/
def putSeparator : Raw → Work Unit
  | [] => pure ()
  | c :: rest => do
    if c == ' ' then modify fun press => { press with blanks := press.blanks + 1 }
    else
      if 0 < (← get).blanks then putBlanks
      put c
      modify fun press => { press with outputPlace := press.outputPlace + 1 }
    putSeparator rest

/-- Write the separators that have not been written; only the first one has characters. -/
def putSeparators : Work Unit := do
  let press ← get
  if press.separators = 0 then
    if 0 < press.blanks then putBlanks
  else
    for index in List.range press.separators do
      if index = 0 then putSeparator press.separator
      if 0 < (← get).blanks then putBlanks
    modify fun press => { press with separators := 0 }

/-- Write the number of a line. -/
def putNumber : Work Unit := do
  let press ← get
  let digits := Conversion.signed { width := press.plan.numberDigits } press.number
  modify fun press => { press with number := press.number + 1 }
  (digits.drop (digits.length - press.plan.numberDigits)).forM say
  let mark := press.plan.numberMark
  if 1 < press.columns.size then
    if mark == '\t' then (List.replicate (press.numberWidth - press.plan.numberDigits) ' ').forM say else say mark
  else
    say mark
    if mark == '\t' then
      modify fun press => { press with outputPlace := behindTab press.plan.outputTabWidth press.outputPlace }
  if press.plan.cuts && !press.plan.parallel then
    modify fun press => { press with inputPlace := press.inputPlace + Int.ofNat press.numberWidth }

/-- Go to where a column begins. -/
def padToColumn : Work Unit := do
  let press ← get
  if press.separator.length < press.padding then
    padTo (press.padding - press.separator.length)
    modify fun press => { press with padding := 0 }
  if press.separates then putSeparators

/-- Fill up an empty column. -/
def alignColumn (place : Nat) : Work Unit := do
  let own ← column place
  modify fun press => { press with padding := own.start }
  padToColumn
  if own.numbered then putNumber

/-- Write the heading of a page. -/
def putHeading : Work Unit := do
  let press ← get
  modify fun press => { press with outputPlace := 0 }
  padTo press.plan.margin
  putBlanks
  let page := "Page ".toList ++ decimal press.page
  let room := press.plan.width - press.time.length - press.title.length - page.length
  let blanks := fun (count : Nat) => List.replicate (max count 1) ' '
  putAll ("\n\n".toList ++ List.replicate press.plan.margin ' ' ++ press.time ++ blanks (room / 2) ++ press.title ++
    blanks (room - room / 2) ++ page ++ "\n\n\n".toList)
  modify fun press => { press with wantsHeading := false, outputPlace := 0 }

/-- What a character of a text becomes, and how much wider that makes the line. -/
def clumpOf (plan : Plan) (place : Int) (c : Char) : Raw × Int :=
  let octal := '\\' :: Quote.octal c
  if c == plan.inputTab || c == '\t' then
    let width := if c == plan.inputTab then plan.inputTabWidth else 8
    let step := behindTab width place - place
    (if plan.expands then List.replicate step.toNat ' ' else [c], step)
  else if isShown c then ([c], 1)
  else if plan.escapes then (octal, 4)
  else if plan.carets then
    if c.toNat < 128 then (['^', Char.ofNat (Nat.xor c.toNat 64)], 2) else (octal, 4)
  else if c == '\x08' then ([c], -1)
  else ([c], 0)

/-- What a character of a text becomes; the column is counted on. -/
def clump (c : Char) : Work Raw := do
  let press ← get
  let (text, step) := clumpOf press.plan press.inputPlace c
  let place := press.inputPlace
  let (text, next) :=
    if step < 0 && place = 0 then ([], 0)
    else if step < 0 && place ≤ -step then (text, 0)
    else (text, place + step)
  modify fun press => { press with inputPlace := next }
  pure text

/-- Whether a line has become too long for its column; the column that was reached before is taken again. -/
def isCut (before : Int) : Work Bool := do
  let press ← get
  if press.plan.cuts && Int.ofNat press.columnWidth < press.inputPlace then
    set { press with inputPlace := before }
    pure true
  else pure false

/-- Go over the rest of a line. -/
def skipRest (place file : Nat) : Nat → Work Unit
  | 0 => pure ()
  | steps + 1 => do
    match ← take file with
    | none => closeFile place
    | some '\n' => pure ()
    | some '\x0c' => do
      skipEnd file
      if (← get).plan.keepsFeeds then modify fun press => { press with wantsFeed := true }
      holdFile place
    | some _ => skipRest place file steps

/-- Read the rest of a line; the flag tells whether it was not cut. -/
def readRest (place file : Nat) : Nat → Work Bool
  | 0 => pure true
  | steps + 1 => do
    match ← take file with
    | none => do
      closeFile place
      pure true
    | some '\n' => pure true
    | some '\x0c' => do
      skipEnd file
      if (← get).plan.keepsFeeds then modify fun press => { press with wantsFeed := true }
      holdFile place
      pure true
    | some c => do
      let before := (← get).inputPlace
      let text ← clump c
      if ← isCut before then pure false
      else
        text.forM say
        readRest place file steps

/-- Fill up the empty columns in front of a column. -/
def alignBefore (place : Nat) : Work Unit := do
  let count := (← get).separators
  modify fun press => { press with separators := 0 }
  for index in List.range count do
    alignColumn index
    modify fun press => { press with separators := press.separators + 1 }
  let start := (← column place).start
  modify fun press => { press with
    padding := start, blanks := if press.plan.cuts then press.columnWidth else 0, alignsEmpty := false }

/-- Read a line of a column; the flag tells whether it was not cut. -/
def readLine (place : Nat) : Work Bool := do
  let own ← column place
  let file := own.file
  let first ← take file
  let before := (← get).inputPlace
  let first ← if first == some '\x0c' && own.wasFull then do
      let next ← take file
      if next == some '\n' then take file else pure next
    else pure first
  setColumn place fun column => { column with wasFull := false }
  match first with
  | none => do
    closeFile place
    pure true
  | some '\x0c' => do
    skipEnd file
    modify fun press => { press with onlyFeed := true }
    let press ← get
    if press.wantsHeading && !press.stores then
      modify fun press => { press with hasText := true }
      putHeading
    else if press.plan.keepsFeeds then modify fun press => { press with wantsFeed := true }
    holdFile place
    pure true
  | some c => do
    let text ← if c == '\n' then pure [] else clump c
    if ← isCut before then pure false
    else
      let press ← get
      if !press.stores then
        modify fun press => { press with hasText := true }
        if press.wantsHeading then putHeading
        if press.plan.parallel && press.alignsEmpty then alignBefore place
        padToColumn
      if own.numbered then putNumber
      modify fun press => { press with isEmpty := false }
      if c == '\n' then pure true
      else
        text.forM say
        readRest place file ((((← get).files[file]?).getD []).length + 1)

/-- Read a line of a column, and go over what has been cut. -/
def readWhole (place : Nat) : Work Unit := do
  if !(← readLine place) then
    let file := (← column place).file
    skipRest place file ((((← get).files[file]?).getD []).length + 1)

/-- Store the lines of one page. -/
def storeLines : Work Unit := do
  setColumns fun column => { column with stored := 0 }
  modify fun press => { press with lines := #[] }
  for place in List.range (← get).columns.size do
    if 0 < (← get).ready then
      for _ in List.range (← get).plan.bodyLines do
        if 0 < (← get).ready && (← column place).state == .reading then
          modify fun press => { press with inputPlace := 0, line := [] }
          readWhole place
          let press ← get
          if (← column place).state == .reading || !press.line.isEmpty then
            set { press with lines := press.lines.push (press.line.reverse, press.inputPlace), line := [] }
  let total := (← get).lines.size
  let count := (← get).columns.size
  let mut start := 0
  for place in List.range count do
    let stored := total / count + if place < total % count then 1 else 0
    let next := start
    setColumn place fun column => { column with stored, next }
    start := start + stored

/-- Prepare a page. -/
def beginPage : Work Unit := do
  let press ← get
  if press.stores then
    storeLines
    setColumns fun column => { column with left := column.stored }
  else
    setColumns fun column => { column with left := if column.state == .reading then press.plan.bodyLines else 0 }

/-- Whether a column has something to write. -/
def isReady : Work Bool := do
  let press ← get
  pure (press.columns.any fun column =>
    column.state == .reading || column.state == .fed || (press.stores && 0 < column.stored && 0 < column.left))

/-- Write a stored line of a column. -/
def putStored (place : Nat) : Work Unit := do
  let own ← column place
  setColumn place fun column => { column with next := column.next + 1 }
  modify fun press => { press with hasText := true }
  if (← get).wantsHeading then putHeading
  if own.state == .fed then setColumns fun column => { column with state := .waiting }
  if own.state == .fed && (← column 0).left = 0 then
    if !(← get).plan.extremities then modify fun press => { press with hasText := false }
  else
    padToColumn
    let (text, reached) := ((← get).lines[own.next]?).getD ([], 0)
    text.forM putText
    let press ← get
    if press.blanks = 0 then
      let place := Int.ofNat own.start + reached
      let isFirst := own.start - press.separator.length == press.plan.margin
      set { press with outputPlace := if isFirst then place - Int.ofNat press.separator.length else place }

/-- Write one line of a column, if it has one; the flag tells whether the page is done. -/
def putColumn (place : Nat) : Work Bool := do
  modify fun press => { press with inputPlace := 0 }
  let own ← column place
  let isParallel := (← get).plan.parallel
  if 0 < own.left || own.state == .fed then
    modify fun press => { press with onlyFeed := false, padding := own.start }
    if (← get).stores then putStored place else readWhole place
    setColumn place fun column => { column with left := column.left - 1 }
    let now ← column place
    if now.left = 0 && !(← isReady) then pure true
    else
      if isParallel && now.state != .reading then
        let press ← get
        if press.isEmpty then set { press with alignsEmpty := true }
        else if now.state == .over || (now.state == .waiting && press.onlyFeed) then alignColumn place
      pure false
  else
    if isParallel then
      let press ← get
      if press.isEmpty then set { press with alignsEmpty := true } else alignColumn place
    pure false

/-- Write one line of all columns from one on; the flag tells whether something was written in any of them. -/
def putColumns : Nat → Nat → Bool → Work Bool
  | 0, _, some_ => pure some_
  | steps + 1, place, some_ => do
    let isDone ← putColumn place
    let some_ := some_ || (← get).hasText
    if isDone then pure some_
    else
      modify fun press => { press with separators := if press.separates then press.separators + 1 else press.separators }
      putColumns steps (place + 1) some_

/-- Write the lines of a page, given how many are left and whether any was written; the result is the same. -/
def putLines : Nat → Nat → Bool → Work (Nat × Bool)
  | 0, left, some_ => pure (left, some_)
  | steps + 1, left, some_ => do
    if left = 0 || !(← isReady) then pure (left, some_)
    else
      modify fun press => { press with
        outputPlace := 0, blanks := 0, separators := 0, hasText := false, alignsEmpty := false, isEmpty := true }
      let some_ ← putColumns (← get).columns.size 0 some_
      let left ← if (← get).hasText then do
          put '\n'
          pure (left - 1)
        else pure left
      let plan := (← get).plan
      if !plan.extremities && !(← isReady) then pure (left, some_)
      else if plan.doubleSpaced && some_ then do
        put '\n'
        putLines steps (left - 1) some_
      else putLines steps left some_

/-- How many lines stand below the text of a page. -/
def footLines : Nat := 5

/-- Write one page; the flag tells whether there may be another one. -/
def putPage : Work Bool := do
  beginPage
  if !(← isReady) then pure false
  else
    let plan := (← get).plan
    modify fun press => { press with wantsHeading := press.wantsHeading || plan.extremities, hasText := false }
    let lines := if plan.doubleSpaced then 2 * plan.bodyLines else plan.bodyLines
    let fuel := lines + (((← get).files.foldl (fun size file => size + file.length) 0)) + 2
    let (left, some_) ← putLines fuel lines false
    if left = 0 then setColumns fun column => { column with wasFull := column.wasFull || column.state == .reading }
    modify fun press => { press with hasText := some_ }
    if some_ && plan.extremities then
      putAll (if plan.usesFeeds then ['\x0c'] else List.replicate (left + footLines) '\n')
    else if plan.keepsFeeds && (← get).wantsFeed then
      put '\x0c'
      modify fun press => { press with wantsFeed := false }
    modify fun press => { press with page := press.page + 1 }
    let page := (← get).page
    if plan.lastPage.any (· < page) then pure false
    else
      resume
      pure true

/-- Write pages as long as there are any. -/
def putPages : Nat → Work Unit
  | 0 => pure ()
  | steps + 1 => do
    if ← putPage then putPages steps

/-- Go over one line of a column; told is whether it is the last one of a page. -/
def skipLine (place : Nat) (isLast : Bool) : Work Unit := do
  let own ← column place
  let file := own.file
  let first ← take file
  let first ← if first == some '\x0c' && own.wasFull then do
      let next ← take file
      if next == some '\n' then take file else pure next
    else pure first
  setColumn place fun column => { column with wasFull := isLast }
  let isFeed := first == some '\x0c'
  let fuel := (((← get).files[file]?).getD []).length + 2
  go file fuel first
  let press ← get
  if press.plan.firstNumber.isNone && (!press.plan.parallel || place = 0) && !isFeed then
    set { press with number := press.number + 1 }
where
  /-- Go over the rest of the line. -/
  go (file : Nat) : Nat → Option Char → Work Unit
    | 0, _ => pure ()
    | _ + 1, none => closeFile place
    | _ + 1, some '\n' => pure ()
    | steps + 1, some c => do
      if c == '\x0c' then
        if isLast then
          if (← get).plan.parallel then setColumn place fun column => { column with wasFull := false }
          else setColumns fun column => { column with wasFull := false }
        skipEnd file
        holdFile place
      else
        let next ← take file
        go file steps next

/-- Go over one page. -/
def skipPage : Work Unit := do
  let press ← get
  for line in List.range press.plan.bodyLines do
    for place in List.range press.columns.size do
      if (← column place).state == .reading then skipLine place (line + 1 = press.plan.bodyLines)
  if press.stores then
    setColumns fun column => if column.state != .over then { column with state := .waiting } else column
  resume

/-- Go over pages; the result is the number of the last one there is, if there are too few. -/
def skipPages : Nat → Nat → Work (Option Nat)
  | 0, _ => pure none
  | steps + 1, page => do
    skipPage
    if (← get).ready = 0 then pure (some page) else skipPages steps (page + 1)

/-- The separator of columns, and whether there is one, given how many columns there are. -/
def separatorOf (plan : Plan) (count : Nat) : Raw × Bool :=
  if count ≤ 1 then (plan.separator.getD [], plan.separator.isSome)
  else match plan.separator with
    | none => (if plan.joins then ['\t'] else [' '], true)
    | some text => (if !plan.joins && text == ['\t'] then [' '] else text, true)

/-- What is known before files are written: given are the texts, how many there should be, the heading, and the number of
the first line. -/
def Press.start (plan : Plan) (files : List Raw) (asked : Nat) (time title : Raw) (number : Int) : Except Raw Press := do
  let count := if plan.parallel then asked else plan.columns
  let isShort := plan.pageLines ≤ 10
  let plan := if isShort then { plan with extremities := false, keepsFeeds := true } else plan
  let body := if plan.extremities then plan.pageLines - 10 else plan.pageLines
  let bodyLines := if plan.doubleSpaced then body / 2 else body
  let stores := !plan.across && !plan.parallel && 1 < count
  let (separator, separates) := separatorOf plan count
  let plan := if 1 < count then
      { plan with cuts := true, expands := plan.expands || separator != ['\t'], compresses := true }
    else plan
  let plan := { plan with cuts := plan.cuts && !plan.joins, bodyLines }
  let numberWidth := if !plan.numbers then 0
    else if plan.numberMark == '\t' then (behindTab 8 plan.numberDigits).toNat
    else plan.numberDigits + 1
  let used := (if plan.parallel then numberWidth else 0) + (count - 1) * separator.length
  let columnWidth := (plan.width - used) / max count 1
  if columnWidth < 1 then throw "page width too narrow".toList
  let starts := (List.range (if plan.parallel then files.length else count)).map fun place =>
    if place = 0 then plan.margin + separator.length
    else if !plan.cuts then 0
    else plan.margin + (if plan.parallel then numberWidth else 0) + place * (columnWidth + separator.length)
  let columns := starts.zipIdx.map fun ((start, place) : Nat × Nat) =>
    ({ file := if plan.parallel then place else 0, start
       numbered := plan.numbers && (!plan.parallel || place = 0) } : Column)
  pure {
    plan, files := files.toArray, columns := columns.toArray, ready := if plan.parallel then files.length else 1
    separator, separates, columnWidth, numberWidth, stores, number, time, title }

/-- The options that are known. -/
def known : List Known :=
  [⟨"pages", "pages", .always⟩, ⟨"columns", "columns", .always⟩, ⟨"a", "across", .nothing⟩,
    ⟨"c", "show-control-chars", .nothing⟩, ⟨"d", "double-space", .nothing⟩, ⟨"D", "date-format", .always⟩,
    ⟨"e", "expand-tabs", .maybe⟩, ⟨"f", "form-feed", .nothing⟩, ⟨"F", "", .nothing⟩, ⟨"h", "header", .always⟩,
    ⟨"i", "output-tabs", .maybe⟩, ⟨"J", "join-lines", .nothing⟩, ⟨"l", "length", .always⟩, ⟨"m", "merge", .nothing⟩,
    ⟨"n", "number-lines", .maybe⟩, ⟨"N", "first-line-number", .always⟩, ⟨"o", "indent", .always⟩,
    ⟨"r", "no-file-warnings", .nothing⟩, ⟨"s", "separator", .maybe⟩, ⟨"S", "sep-string", .maybe⟩,
    ⟨"t", "omit-header", .nothing⟩, ⟨"T", "omit-pagination", .nothing⟩, ⟨"v", "show-nonprinting", .nothing⟩,
    ⟨"w", "width", .always⟩, ⟨"W", "page-width", .always⟩, ⟨"b", "", .nothing⟩] ++
    (List.range 10).map fun digit => ⟨String.ofList (decimal digit), "", .nothing⟩

/-- A character and a number, each of which may be missing. -/
def markedNumber (letter : Char) (text : Raw) (mark : Char) (number : Nat) : Act (Char × Nat) := do
  let (mark, rest) := match text with
    | c :: rest => if c.isDigit then (mark, text) else (c, rest)
    | [] => (mark, [])
  if rest.isEmpty then pure (mark, number)
  else
    let bad := fun (why : String) =>
      (Act.refuse 1 ("'-".toList ++ letter :: "' extra characters or invalid number in the argument: ".toList ++ quoted rest ++
        why.toList) : Act (Char × Nat))
    match Amount.read { signed := true } rest with
    | .ok value =>
      if value ≤ 0 then bad ""
      else if 2147483647 < value then bad ": Value too large for defined data type"
      else pure (mark, value.toNat)
    | .error .beyond => bad ": Value too large for defined data type"
    | .error _ => bad ""

/-- A number in an argument. -/
def number (what : String) (least : Int) (text : Raw) : Act Int :=
  Act.amount 1 what { signed := true } least 2147483647 text

/-- The pages that a text tells, if it makes sense. -/
def pagesOf? (text : Raw) : Option (Nat × Option Nat) :=
  let digits := text.takeWhile Char.isDigit
  let first := Numeral.valueOf 10 digits
  if digits.isEmpty || first = 0 then none
  else match text.drop digits.length with
    | [] => some (first, none)
    | ':' :: rest =>
      let last := Numeral.valueOf 10 rest
      if rest.isEmpty || !rest.all Char.isDigit || last < first then none else some (first, some last)
    | _ => none

/-- What is known while options are read. -/
structure Reading where
  /-- How pages are made. -/
  plan : Plan := {}
  /-- The digits of the number of columns. -/
  digits : Raw := []
  /-- Whether the option before was a digit. -/
  isDigit : Bool := false
  /-- Whether separators were told in the old way. -/
  oldSeparator : Bool := false
  /-- Whether the width was told in the old way. -/
  oldWidth : Bool := false
  /-- Whether the width was told in the new way. -/
  newWidth : Bool := false
  /-- Whether any of these was told in the old way. -/
  old : Bool := false
  /-- The separator that was told in the old way. -/
  separator : Option Raw := none

/-- What an option changes. -/
def apply (reading : Reading) (given : Given) : Act Reading := do
  let plan := reading.plan
  let text := given.argument.getD []
  let with_ := fun (plan : Plan) => { reading with plan, isDigit := false }
  match given.key with
  | "pages" =>
    match pagesOf? text with
    | some (first, last) => pure (with_ { plan with firstPage := some first, lastPage := last })
    | none => Act.die 1 ("invalid page range ".toList ++ quoted text)
  | "columns" => do
    let count ← number "invalid number of columns" 1 text
    pure { with_ { plan with columns := count.toNat, columnsTold := true } with digits := [] }
  | "a" => pure (with_ { plan with across := true })
  | "c" => pure (with_ { plan with carets := true })
  | "d" => pure (with_ { plan with doubleSpaced := true })
  | "D" => pure (with_ { plan with timeForm := text })
  | "e" => do
    let (inputTab, inputTabWidth) ← markedNumber 'e' text plan.inputTab plan.inputTabWidth
    pure (with_ { plan with expands := true, inputTab, inputTabWidth })
  | "f" => pure (with_ { plan with usesFeeds := true })
  | "F" => pure (with_ { plan with usesFeeds := true })
  | "h" => pure (with_ { plan with heading := some text })
  | "i" => do
    let (outputTab, outputTabWidth) ← markedNumber 'i' text plan.outputTab plan.outputTabWidth
    pure (with_ { plan with compresses := true, outputTab, outputTabWidth })
  | "J" => pure (with_ { plan with joins := true })
  | "l" => do
    let lines ← number "'-l PAGE_LENGTH' invalid number of lines" 1 text
    pure (with_ { plan with pageLines := lines.toNat })
  | "m" => pure (with_ { plan with parallel := true })
  | "n" => do
    let (numberMark, numberDigits) ← markedNumber 'n' text plan.numberMark plan.numberDigits
    pure (with_ { plan with numbers := true, numberMark, numberDigits })
  | "N" => do
    let first ← number "'-N NUMBER' invalid starting line number" (-2147483648) text
    pure (with_ { plan with firstNumber := some first })
  | "o" => do
    let margin ← number "'-o MARGIN' invalid line offset" 0 text
    pure (with_ { plan with margin := margin.toNat })
  | "r" => pure (with_ { plan with ignoresMissing := true })
  | "s" =>
    let reading := { with_ plan with old := true, oldSeparator := true }
    pure (if plan.separator.isSome || given.argument.isNone then reading else { reading with separator := some text })
  | "S" => pure { with_ { plan with separator := some text } with oldSeparator := false }
  | "t" => pure (with_ { plan with extremities := false, keepsFeeds := true })
  | "T" => pure (with_ { plan with extremities := false, keepsFeeds := false })
  | "v" => pure (with_ { plan with escapes := true })
  | "w" => do
    let width ← number "'-w PAGE_WIDTH' invalid number of characters" 1 text
    let plan := if plan.cuts then plan else { plan with width := width.toNat }
    pure { with_ plan with old := true, oldWidth := true }
  | "W" => do
    let width ← number "'-W PAGE_WIDTH' invalid number of characters" 1 text
    pure { with_ { plan with width := width.toNat, cuts := true } with oldWidth := false }
  | "b" => pure (with_ plan)
  | digit =>
    let digits := if reading.isDigit then reading.digits ++ digit.toList else digit.toList
    pure { reading with digits, isDigit := true }

/-- How pages are made after all options have been read. -/
def Reading.finish (reading : Reading) : Act Plan := do
  let plan := reading.plan
  let plan ← if reading.digits.isEmpty then pure plan
    else do
      let count ← number "invalid number of columns" 1 reading.digits
      pure { plan with columns := count.toNat, columnsTold := true }
  if plan.parallel && plan.columnsTold then
    Act.die 1 "cannot specify number of columns when printing in parallel".toList
  if plan.parallel && plan.across then
    Act.die 1 "cannot specify both printing across and printing in parallel".toList
  let isMany := plan.parallel || plan.columnsTold
  let told := reading.separator.getD []
  let separated := { plan with separator := some (plan.separator.getD told) }
  if !reading.old then pure plan
  else if reading.oldWidth then
    if isMany then
      let plan := if reading.oldSeparator then separated else plan
      pure { plan with cuts := true }
    else pure { plan with joins := true }
  else if plan.separator.isNone && reading.oldSeparator && isMany then
    if plan.cuts then pure separated
    else
      let plan := if told.isEmpty then plan else separated
      pure { plan with joins := true }
  else pure plan

/-- A text with what headings tell about it, or nothing if it cannot be read. -/
def openText (plan : Plan) (path : Raw) : Act (Option (Raw × Option Calendar.Moment)) := do
  let known : Option Status ← if path == ['-'] then pure none
    else do
      let found ← Act.inspect path true
      pure found.toOption
  match ← Act.readFile path with
  | .ok octets => pure (some (Raw.ofOctets octets, known.map Status.changed))
  | .error .isDirectory => Act.die 1 (nameFor path ++ ": Is a directory".toList)
  | .error reason => do
    if !plan.ignoresMissing then Act.complain (nameFor path ++ ": ".toList ++ reason.description)
    Act.fail 1
    pure none

/-- Write files on pages. -/
def sayFiles (plan : Plan) (paths : List Raw) : Act Unit := do
  let now ← Act.now
  let zone ← Act.zone
  let mut texts : List (Raw × Raw × Option Calendar.Moment) := []
  for path in paths do
    if let some (text, moment) := ← openText plan path then texts := texts ++ [(path, text, moment)]
  match texts with
  | [] => pure ()
  | (path, _, moment) :: _ =>
    let moment := if plan.parallel then none else moment
    let time := (zone.shown (moment.getD now)).inForm plan.timeForm
    let title := plan.heading.getD (if moment.isNone then [] else path)
    let number := plan.firstNumber.getD 1
    match Press.start plan (texts.map fun text => text.2.1) paths.length time title number with
    | .error message => Act.die 1 message
    | .ok press => do
      let size := texts.foldl (fun size text => size + text.2.1.length) 0
      let first := plan.firstPage.getD 1
      let (missing, press) := (skipPages (first - 1) 1).run press
      match missing with
      | some page =>
        Act.complain ("starting page number ".toList ++ decimal first ++ " exceeds page count ".toList ++ decimal page)
      | none =>
        let ((), press) := (putPages (size + 2)).run { press with page := first }
        Act.say press.output.reverse

end Pages

/-- Write texts on pages. -/
def pr : Utility := ofAct fun arguments => do
  let invocation ← Act.readOptions 1 Pages.known false arguments
  let mut reading : Pages.Reading := {}
  for given in invocation.given do
    reading ← Pages.apply reading given
  let plan ← reading.finish
  let pages := invocation.operands.findSome? fun operand => match operand with
    | '+' :: rest => if plan.firstPage.isNone then Pages.pagesOf? rest else none
    | _ => none
  let isPages := fun (operand : Raw) => pages.isSome && match operand with
    | '+' :: rest => (Pages.pagesOf? rest).isSome
    | _ => false
  let operands := invocation.operands.filter fun operand => !isPages operand
  let plan := match pages with
    | some (first, last) => { plan with firstPage := some first, lastPage := last }
    | none => plan
  if operands.isEmpty then
    Pages.sayFiles { plan with parallel := false } [['-']]
  else if plan.parallel then Pages.sayFiles plan operands
  else operands.forM fun operand => Pages.sayFiles plan [operand]

/-- The programs that are here. -/
def pageTools : List (String × Utility) :=
  [("pr", pr)]

end AnswerQuery.Host.Tool
