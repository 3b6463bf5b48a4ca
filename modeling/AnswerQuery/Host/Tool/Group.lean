import AnswerQuery.Host.Tool.Amount
import AnswerQuery.Host.Tool.Order

/-! What lines have in common: with those beside them, and with those of another file. -/

namespace AnswerQuery.Host.Tool

namespace Group

/-- How groups of lines that are the same are set off. -/
inductive Offset where
  | none
  /-- An empty line in front of each. -/
  | front
  /-- An empty line behind each. -/
  | back
  /-- An empty line between them. -/
  | between
  /-- An empty line in front of each and behind the last. -/
  | around
  deriving DecidableEq, Repr

/-- Which parts of lines are looked at. -/
structure Part where
  /-- How many fields are passed over. -/
  fields : Nat := 0
  /-- How many characters behind those are passed over. -/
  characters : Nat := 0
  /-- How many characters are looked at, if not all. -/
  most : Option Nat := none
  /-- Whether capitals are the same as other letters. -/
  ignoresCase : Bool := false

namespace Part

/-- The part of a line that is looked at. -/
def of (part : Part) (line : Raw) : Raw :=
  let rest := (Order.skipFields none part.fields line).drop part.characters
  let rest := match part.most with
    | some most => rest.take most
    | none => rest
  if part.ignoresCase then rest.map Char.toUpper else rest

end Part

/-- A count of fields or characters, or a complaint about it. One that is too great stands for the greatest one. -/
def countOf (text : Raw) (what : String) : Act Nat := do
  match Amount.read {} text with
  | .ok count => pure count.toNat
  | .error .beyond => pure Numeral.wordCount
  | .error _ => Act.die 1 (text ++ ": invalid number of ".toList ++ what.toList)

/-- The options of the program that joins lines that are the same. -/
def uniqOptions : List Known :=
  [⟨"c", "count", .nothing⟩, ⟨"d", "repeated", .nothing⟩, ⟨"all-repeated", "all-repeated", .maybe⟩,
    ⟨"D", "", .nothing⟩, ⟨"group", "group", .maybe⟩, ⟨"i", "ignore-case", .nothing⟩, ⟨"u", "unique", .nothing⟩,
    ⟨"f", "skip-fields", .always⟩, ⟨"s", "skip-chars", .always⟩, ⟨"w", "check-chars", .always⟩,
    ⟨"z", "zero-terminated", .nothing⟩] ++ (List.range 10).map fun digit => ⟨toString digit, "", .nothing⟩

/-- What has been made of options. -/
structure Wish where
  /-- Which parts of lines are looked at. -/
  part : Part := {}
  /-- Whether the fields are told by digits that stand alone. -/
  byDigits : Bool := false
  /-- How all lines that are there several times are set off, if they are shown. -/
  repeated : Option Offset := none
  /-- How groups are set off, if all are shown. -/
  grouped : Option Offset := none
  /-- The options without arguments. -/
  chosen : List String := []
  /-- The files. -/
  files : List Raw := []

/-- Whether an option without an argument was given. -/
def Wish.has (wish : Wish) (key : String) : Bool :=
  wish.chosen.contains key

/-- Take up an option or an operand. A number behind a plus tells in the old way how many characters are passed over. -/
def Wish.given (wish : Wish) (given : Given) : Act Wish := do
  let text := given.argument.getD []
  let part := wish.part
  match given.key with
  | "" =>
    let isOld := given.shown.isEmpty && text.head? == some '+'
    match if isOld then Amount.read {} text else .error .missing with
    | .ok count => pure { wish with part := { part with characters := count.toNat } }
    | .error _ =>
      if wish.files.length = 2 then Act.refuseExtra 1 text
      else pure { wish with files := wish.files ++ [text] }
  | "f" => pure { wish with byDigits := false, part := { part with fields := ← countOf text "fields to skip" } }
  | "s" => pure { wish with part := { part with characters := ← countOf text "bytes to skip" } }
  | "w" => pure { wish with part := { part with most := some (← countOf text "bytes to compare") } }
  | "i" => pure { wish with part := { part with ignoresCase := true } }
  | "D" => pure { wish with repeated := some .none }
  | "all-repeated" =>
    let choices := [(["none"], Offset.none), (["prepend"], .front), (["separate"], .between)]
    match given.argument with
    | none => pure { wish with repeated := some .none }
    | some text => pure { wish with repeated := some (← Act.choose "--all-repeated" choices text) }
  | "group" =>
    let choices := [(["prepend"], Offset.front), (["append"], .back), (["separate"], .between), (["both"], .around)]
    match given.argument with
    | none => pure { wish with grouped := some .between }
    | some text => pure { wish with grouped := some (← Act.choose "--group" choices text) }
  | key =>
    if key.toList.all Char.isDigit then
      let before := if wish.byDigits then part.fields else 0
      pure { wish with byDigits := true, part := { part with fields := before * 10 + Numeral.valueOf 10 key.toList } }
    else pure { wish with chosen := key :: wish.chosen }

/-- How groups are shown. -/
structure Showing where
  /-- Whether the lines of each are counted. -/
  counts : Bool
  /-- Whether groups of one line are shown. -/
  single : Bool
  /-- Whether groups of several lines are shown. -/
  several : Bool
  /-- Whether all lines of a group are shown. -/
  all : Bool
  /-- How groups are set off. -/
  offset : Offset

/-- Write a group; the flag tells whether it is the first one that is written. -/
def showGroup (showing : Showing) (mark : Char) (isFirst : Bool) (lines : List Raw) : Act Bool := do
  let count := lines.length
  if (if count = 1 then showing.single else showing.several) then
    let front := showing.offset == .front || showing.offset == .around || (showing.offset == .between && !isFirst)
    if front then Act.say [mark]
    if showing.all then
      for line in lines do
        Act.say (line ++ [mark])
    else
      let digits := decimal count
      let number := if showing.counts then List.replicate (7 - digits.length) ' ' ++ digits ++ [' '] else []
      Act.say (number ++ (lines.head?.getD []) ++ [mark])
    if showing.offset == .back then Act.say [mark]
    pure false
  else pure isFirst

end Group

/-- Write one line of several side by side that are the same. -/
def uniq : Utility := ofAct fun arguments => do
  let wish ← Act.foldEvents 1 Group.uniqOptions Group.Wish.given {} arguments
  let (repeated, grouped) := (wish.repeated, wish.grouped)
  if grouped.isSome && (["c", "d", "u"].any wish.has || repeated.isSome) then
    Act.refuse 1 "--group is mutually exclusive with -c/-d/-D/-u".toList
  if repeated.isSome && wish.has "c" then
    Act.refuse 1 "printing all duplicated lines and repeat counts is meaningless".toList
  let path := wish.files.head?.getD ['-']
  let opened : Except OsError Source ← Source.openAt path 4096
  match opened with
  | .error reason => Act.die 1 (nameFor path ++ ": ".toList ++ reason.description)
  | .ok source => do
    if let some target := wish.files[1]? then
      if target != ['-'] then
        let result : Except OsError Nat ← Act.ask (.openFile target .writing)
        match result with
        | .error reason => Act.die 1 (nameFor target ++ ": ".toList ++ reason.description)
        | .ok descriptor => do
          let _ ← Act.ask (.duplicate descriptor 1)
          Act.ask (.close descriptor)
    let mark := if wish.has "z" then '\x00' else '\n'
    let showing : Group.Showing := {
      counts := wish.has "c"
      single := grouped.isSome || !(wish.has "d" || repeated.isSome)
      several := grouped.isSome || !wish.has "u"
      all := grouped.isSome || repeated.isSome
      offset := (grouped.orElse fun _ => repeated).getD .none }
    let (source, isFirst, last) ← Act.loop (source, true, ([] : List Raw)) fun (source, isFirst, group) => do
      let (line, source) ← source.nextLine mark
      match line with
      | none => pure (.inr (source, isFirst, group))
      | some line =>
        match group with
        | [] => pure (.inl (source, isFirst, [line.text]))
        | latest :: _ =>
          if wish.part.of line.text == wish.part.of latest then pure (.inl (source, isFirst, line.text :: group))
          else do
            let isFirst ← Group.showGroup showing mark isFirst group.reverse
            pure (.inl (source, isFirst, [line.text]))
    let isFirst ← if last.isEmpty then pure isFirst else Group.showGroup showing mark isFirst last.reverse
    if showing.offset == .around && !isFirst then Act.say [mark]
    if let some reason := source.failure then
      Act.die 1 ("error reading ".toList ++ quotedWord path ++ ": ".toList ++ reason.description)

namespace Group

/-- Whether the order of lines is checked: if it matters, always, or never. -/
inductive Checking where
  | needed
  | always
  | never
  deriving DecidableEq, Repr

/-- How checking the order of lines has gone. -/
structure Checked where
  /-- Whether a line without one like it has been seen. -/
  unpaired : Bool := false
  /-- Whether it has been told that the first file is in no order. -/
  first : Bool := false
  /-- Whether it has been told that the second file is in no order. -/
  second : Bool := false

/-- Whether it has been told that a file is in no order. -/
def Checked.told (checked : Checked) (isFirst : Bool) : Bool :=
  if isFirst then checked.first else checked.second

/-- Note that it has been told that a file is in no order. -/
def Checked.note (checked : Checked) (isFirst : Bool) : Checked :=
  if isFirst then { checked with first := true } else { checked with second := true }

/-- Complain if lines are in no order, at most once about a file. -/
def checkOrder (checking : Checking) (checked : Checked) (isFirst : Bool) (isWrong : Bool) (message : Raw) : Act Checked := do
  if isWrong && checking != .never && (checking == .always || checked.unpaired) && !checked.told isFirst then
    if checking == .always then Act.die 1 message
    Act.complain message
    pure (checked.note isFirst)
  else pure checked

/-- How many lines only the first file has, only the second one, and both. -/
structure Shares where
  /-- Only the first file. -/
  first : Nat := 0
  /-- Only the second file. -/
  second : Nat := 0
  /-- Both files. -/
  both : Nat := 0

/-- Which lines are shown, and how. -/
structure Columns where
  /-- Whether those of the first file are shown. -/
  first : Bool
  /-- Whether those of the second file are shown. -/
  second : Bool
  /-- Whether those of both files are shown. -/
  both : Bool
  /-- What stands in front of a column for each one before it. -/
  separator : Raw
  /-- What ends lines. -/
  mark : Char

/-- One of two files that are compared: the lines read last, the last one first, and what is left. -/
structure Side where
  /-- The source. -/
  source : Source
  /-- The line that is looked at, none at the end. -/
  line : Option Raw := none
  /-- The lines before it, the last one first. -/
  before : List Raw := []

/-- Take the next line of a side. -/
def Side.advance (side : Side) (mark : Char) : Act Side := do
  let (line, source) ← side.source.nextLine mark
  if let some reason := source.failure then
    Act.die 1 (nameFor source.path ++ ": ".toList ++ reason.description)
  pure { source, line := line.map Source.Line.text, before := (side.line.toList ++ side.before).take 2 }

/-- Take the next line of one side of a comparison and check the order. -/
def advanceChecked (checking : Checking) (columns : Columns) (checked : Checked) (isFirst : Bool) (side : Side) :
    Act (Side × Checked) := do
  let side ← side.advance columns.mark
  let message := "file ".toList ++ (if isFirst then ['1'] else ['2']) ++ " is not in sorted order".toList
  let isWrong := match side.line, side.before with
    | some line, previous :: _ => !Raw.inOrder previous line
    | none, last :: previous :: _ => !Raw.inOrder previous last
    | _, _ => false
  let checked ← checkOrder checking checked isFirst isWrong message
  pure (side, checked)

/-- Compare two files line by line. -/
def compareSides (checking : Checking) (columns : Columns) (first second : Side) : Act (Shares × Checked) :=
  Act.loop (first, second, ({} : Shares), ({} : Checked)) fun (first, second, shares, checked) => do
    let separators := fun (count : Nat) => (List.replicate count columns.separator).flatten
    let flag := fun (shown : Bool) => if shown then 1 else 0
    let ordering := match first.line, second.line with
      | none, none => none
      | none, some _ => some Ordering.gt
      | some _, none => some Ordering.lt
      | some line, some line' => some (Order.Value.compareTexts line line')
    match ordering with
    | none => pure (.inr (shares, checked))
    | some .eq => do
      if columns.both then
        Act.say (separators (flag columns.first + flag columns.second) ++ second.line.getD [] ++ [columns.mark])
      let (first, checked) ← advanceChecked checking columns checked true first
      let (second, checked) ← advanceChecked checking columns checked false second
      pure (.inl (first, second, { shares with both := shares.both + 1 }, checked))
    | some .lt => do
      if columns.first then Act.say (first.line.getD [] ++ [columns.mark])
      let (first, checked) ← advanceChecked checking columns { checked with unpaired := true } true first
      pure (.inl (first, second, { shares with first := shares.first + 1 }, checked))
    | some .gt => do
      if columns.second then Act.say (separators (flag columns.first) ++ second.line.getD [] ++ [columns.mark])
      let (second, checked) ← advanceChecked checking columns { checked with unpaired := true } false second
      pure (.inl (first, second, { shares with second := shares.second + 1 }, checked))

/-- Two operands, or a complaint. -/
def twoOperands (operands : List Raw) : Act (Raw × Raw) := do
  match operands with
  | [] => Act.refuse 1 "missing operand".toList
  | [only] => Act.refuse 1 ("missing operand after ".toList ++ quoted only)
  | [first, second] => pure (first, second)
  | _ :: _ :: extra :: _ => Act.refuseExtra 1 extra

/-- Whether the order is checked, from the options. -/
def checkingOf (invocation : Invocation) : Checking :=
  match invocation.last? ["check-order", "nocheck-order"] with
  | some "check-order" => .always
  | some _ => .never
  | none => .needed

/-- Open a file, or complain. -/
def openSide (path : Raw) : Act Side := do
  match ← Source.openAt path 4096 with
  | .ok source => pure { source }
  | .error reason => Act.die 1 (nameFor path ++ ": ".toList ++ reason.description)

end Group

/-- Tell which lines two files have in common. -/
def comm : Utility := ofAct fun arguments => do
  let known : List Known := [⟨"1", "", .nothing⟩, ⟨"2", "", .nothing⟩, ⟨"3", "", .nothing⟩,
    ⟨"check-order", "check-order", .nothing⟩, ⟨"nocheck-order", "nocheck-order", .nothing⟩,
    ⟨"output-delimiter", "output-delimiter", .always⟩, ⟨"total", "total", .nothing⟩, ⟨"z", "zero-terminated", .nothing⟩]
  let invocation ← Act.readOptions 1 known false arguments
  let separators := invocation.arguments "output-delimiter"
  if 1 < separators.eraseDups.length then Act.die 1 "multiple output delimiters specified".toList
  let (path, path') ← Group.twoOperands invocation.operands
  let separator := match separators.head? with
    | some [] => ['\x00']
    | some text => text
    | none => ['\t']
  let columns : Group.Columns := {
    first := !invocation.has "1", second := !invocation.has "2", both := !invocation.has "3", separator
    mark := if invocation.has "z" then '\x00' else '\n' }
  let first ← Group.openSide path
  let second ← Group.openSide path'
  let first ← first.advance columns.mark
  let second ← second.advance columns.mark
  let (shares, checked) ← Group.compareSides (Group.checkingOf invocation) columns first second
  if invocation.has "total" then
    Act.say (separator.intercalate [decimal shares.first, decimal shares.second, decimal shares.both, "total".toList] ++
      [columns.mark])
  if checked.first || checked.second then Act.die 1 "input is not in sorted order".toList

namespace Group

/-- A line of a file that is joined, and its fields. -/
structure Entry where
  /-- The line. -/
  text : Raw
  /-- Its fields. -/
  fields : Array Raw

/-- What is written of joined lines. -/
inductive Shown where
  /-- The field by which lines are joined. -/
  | common
  /-- A field of the first file or of the second one. -/
  | field (isFirst : Bool) (index : Nat)

/-- How files are joined. -/
structure Joining where
  /-- The field of the first file by which lines are joined. -/
  first : Nat
  /-- The field of the second file. -/
  second : Nat
  /-- What separates fields, if it is told. -/
  tab : Option Char
  /-- Whether capitals are the same as other letters. -/
  ignoresCase : Bool
  /-- Whether lines of the first file are shown that cannot be joined. -/
  firstAlone : Bool
  /-- Whether lines of the second file are shown that cannot be joined. -/
  secondAlone : Bool
  /-- Whether joined lines are shown. -/
  pairs : Bool
  /-- What is shown of them, if it is told. -/
  shown : Option (List Shown)
  /-- How many fields each file has, if lines are to have as many. -/
  counts : Option (Nat × Nat) := none
  /-- What stands for an empty field. -/
  filler : Raw
  /-- Whether the order is checked. -/
  checking : Checking
  /-- What ends lines. -/
  mark : Char
  /-- The names of the files. -/
  names : Raw × Raw

namespace Joining

/-- The fields of a line. -/
def fieldsOf (joining : Joining) (text : Raw) : Array Raw :=
  match joining.tab with
  | none =>
    let fields := (text.splitOnP Order.isBlank).filter fun field => !field.isEmpty
    -- A blank at the end is followed by an empty field.
    let last := if !fields.isEmpty && (text.getLast?.map Order.isBlank).getD false then [[]] else []
    (fields ++ last).toArray
  | some '\n' => #[text]
  | some tab => if text.isEmpty then #[] else (Raw.split tab text).toArray

/-- The field by which a line is joined. -/
def keyOf (joining : Joining) (isFirst : Bool) (entry : Entry) : Raw :=
  let key := (entry.fields[if isFirst then joining.first else joining.second]?).getD []
  if joining.ignoresCase then key.map Char.toUpper else key

/-- A field, or what stands for it if it is empty. -/
def fieldText (joining : Joining) (entry : Option Entry) (index : Nat) : Raw :=
  let field := ((entry.bind fun entry => entry.fields[index]?)).getD []
  if field.isEmpty then joining.filler else field

/-- What separates fields that are written. -/
def between (joining : Joining) : Raw :=
  match joining.tab with
  | none => [' ']
  | some tab => [tab]

/-- The fields of a line but the one by which it is joined. -/
def otherFields (joining : Joining) (isFirst : Bool) (entry : Option Entry) : List Raw :=
  let count := match joining.counts with
    | some (first, second) => if isFirst then first else second
    | none => (entry.map fun entry => entry.fields.size).getD 0
  let key := if isFirst then joining.first else joining.second
  ((List.range count).filter (· != key)).map (joining.fieldText entry)

/-- Write joined lines, one of which may be missing. -/
def show_ (joining : Joining) (first second : Option Entry) : Act Unit := do
  let common := match first with
    | some _ => joining.fieldText first joining.first
    | none => joining.fieldText second joining.second
  let fields := match joining.shown with
    | some shown => shown.map fun one =>
      match one with
      | .common => common
      | .field isFirst index => joining.fieldText (if isFirst then first else second) index
    | none => common :: joining.otherFields true first ++ joining.otherFields false second
  Act.say (joining.between.intercalate fields ++ [joining.mark])

end Joining

/-- A file that is joined: what is left of it, the last line that was read, and how many were. -/
structure Feed where
  /-- The source. -/
  source : Source
  /-- The line that was read last. -/
  last : Option Entry := none
  /-- How many lines have been read. -/
  number : Nat := 0

/-- Read a line and check the order. -/
def Feed.next (feed : Feed) (joining : Joining) (checked : Checked) (isFirst : Bool) : Act (Option Entry × Feed × Checked) := do
  let (line, source) ← feed.source.nextLine joining.mark
  if let some reason := source.failure then Act.die 1 ("read error: ".toList ++ reason.description)
  match line with
  | none => pure (none, { feed with source }, checked)
  | some line => do
    let entry : Entry := ⟨line.text, joining.fieldsOf line.text⟩
    let number := feed.number + 1
    let isWrong := match feed.last with
      | some last => !Raw.inOrder (joining.keyOf isFirst last) (joining.keyOf isFirst entry)
      | none => false
    let name := if isFirst then joining.names.1 else joining.names.2
    let message := name ++ ':' :: decimal number ++ ": is not sorted: ".toList ++ line.text
    let checked ← checkOrder joining.checking checked isFirst isWrong message
    pure (some entry, { source, last := some entry, number }, checked)

/-- Read lines as long as they are joined by the same field: those lines, and the one behind them. -/
def takeAlike (joining : Joining) (isFirst : Bool) (entry : Entry) (feed : Feed) (checked : Checked) :
    Act (List Entry × Option Entry × Feed × Checked) :=
  Act.loop ([entry], feed, checked) fun (entries, feed, checked) => do
    match ← feed.next joining checked isFirst with
    | (none, feed, checked) => pure (.inr (entries.reverse, none, feed, checked))
    | (some next, feed, checked) =>
      if joining.keyOf isFirst next == joining.keyOf isFirst entry then pure (.inl (next :: entries, feed, checked))
      else pure (.inr (entries.reverse, some next, feed, checked))

/-- Read the rest of a file when the other one is at its end. -/
def readRest (joining : Joining) (isFirst shows : Bool) (entry : Option Entry) (feed : Feed) (checked : Checked) : Act Checked := do
  let checks := joining.checking != .never && !(checked.first && checked.second)
  match entry with
  | none => pure checked
  | some entry =>
    if !shows && !checks then pure checked
    else do
      let show_ := fun (entry : Entry) => do
        if shows then
          if isFirst then joining.show_ (some entry) none else joining.show_ none (some entry)
      show_ entry
      Act.loop (feed, checked) fun (feed, checked) => do
        match ← feed.next joining checked isFirst with
        | (none, _, checked) => pure (.inr checked)
        | (some entry, feed, checked) => do
          show_ entry
          if checked.told isFirst && !shows then pure (.inr checked) else pure (.inl (feed, checked))

/-- Join files, given the first line of each. -/
def joinFeeds (joining : Joining) (first second : Option Entry) (feed feed' : Feed) (checked : Checked) : Act Checked := do
  let (first, second, feed, feed', checked) ←
    Act.loop (first, second, feed, feed', checked) fun (first, second, feed, feed', checked) => do
      match first, second with
      | some one, some other =>
        match Order.Value.compareTexts (joining.keyOf true one) (joining.keyOf false other) with
        | .lt => do
          if joining.firstAlone then joining.show_ (some one) none
          let (first, feed, checked) ← feed.next joining checked true
          pure (.inl (first, second, feed, feed', { checked with unpaired := true }))
        | .gt => do
          if joining.secondAlone then joining.show_ none (some other)
          let (second, feed', checked) ← feed'.next joining checked false
          pure (.inl (first, second, feed, feed', { checked with unpaired := true }))
        | .eq => do
          let (ones, first, feed, checked) ← takeAlike joining true one feed checked
          let (others, second, feed', checked) ← takeAlike joining false other feed' checked
          if joining.pairs then
            for one in ones do
              for other in others do
                joining.show_ (some one) (some other)
          pure (.inl (first, second, feed, feed', checked))
      | _, _ => pure (.inr (first, second, feed, feed', checked))
  let checked ← readRest joining true joining.firstAlone first feed checked
  readRest joining false joining.secondAlone second feed' checked

/-- The number of a field, counted from zero, or a complaint. -/
def fieldNumber (text : Raw) : Act Nat := do
  match Amount.read {} text with
  | .ok (.ofNat (index + 1)) => pure index
  | .error .beyond => pure (Numeral.wordCount - 2)
  | _ => Act.die 1 ("invalid field number: ".toList ++ quoted text)

/-- Whether a character stands between the fields of a list. -/
def isFieldMark (c : Char) : Bool :=
  c == ',' || c == ' ' || c == '\t'

/-- What is shown of joined lines, from a list. -/
def readShown (text : Raw) : Act (List Shown) := do
  let mut shown : List Shown := []
  for part in text.splitOnP isFieldMark do
    match part with
    | ['0'] => shown := shown ++ [.common]
    | '0' :: _ => Act.die 1 ("invalid field specifier: ".toList ++ quoted part)
    | c :: rest =>
      if c != '1' && c != '2' then Act.die 1 ("invalid file number in field spec: ".toList ++ quoted part)
      match rest with
      | '.' :: number => shown := shown ++ [.field (c == '1') (← fieldNumber number)]
      | _ => Act.die 1 ("invalid field specifier: ".toList ++ quoted part)
    | [] => Act.die 1 ("invalid file number in field spec: ".toList ++ quoted part)
  pure shown

/-- The options of the program that joins files. -/
def joinOptions : List Known :=
  [⟨"1", "", .always⟩, ⟨"2", "", .always⟩, ⟨"a", "", .always⟩, ⟨"e", "", .always⟩, ⟨"i", "ignore-case", .nothing⟩,
    ⟨"j", "", .always⟩, ⟨"o", "", .always⟩, ⟨"t", "", .always⟩, ⟨"v", "", .always⟩, ⟨"z", "zero-terminated", .nothing⟩,
    ⟨"check-order", "check-order", .nothing⟩, ⟨"nocheck-order", "nocheck-order", .nothing⟩,
    ⟨"header", "header", .nothing⟩]

/-- What an operand may be besides the name of a file. -/
inductive Loose where
  /-- Nothing else. -/
  | nothing
  /-- The field of the first file, in the old way, or of the second one. -/
  | field (isFirst : Bool)
  /-- One more part of a list of what is shown. -/
  | shown
  deriving DecidableEq

/-- What has been made of the arguments for joining. -/
structure JoinWish where
  /-- The fields by which files are joined. -/
  fields : Option Nat × Option Nat := (none, none)
  /-- The old options for fields that have not been given an argument. -/
  bare : Nat × Nat := (0, 0)
  /-- The files whose lines are shown alone. -/
  alone : List Nat := []
  /-- What stands between fields. -/
  tab : Option Char := none
  /-- What is shown. -/
  shown : Option (List Shown) := none
  /-- What stands for a field that is missing. -/
  filler : Option Raw := none
  /-- The options without arguments. -/
  chosen : List String := []
  /-- The files, each with what else it may be. -/
  files : List (Raw × Loose) := []
  /-- What an operand may be that follows. -/
  before : Loose := .nothing

namespace JoinWish

/-- Whether an option was given. -/
def has (wish : JoinWish) (key : String) : Bool :=
  wish.chosen.contains key

/-- A field by which files are joined, which must not be another one than before. -/
def agreed (old : Option Nat) (new : Nat) : Act (Option Nat) := do
  match old with
  | some old =>
    if old != new then
      Act.die 1 ("incompatible join fields ".toList ++ decimal (old + 1) ++ ", ".toList ++ decimal (new + 1))
    pure (some new)
  | none => pure (some new)

/-- Set the field of one file, or of both. -/
def setFields (wish : JoinWish) (first second : Bool) (index : Nat) : Act JoinWish := do
  let one ← if first then agreed wish.fields.1 index else pure wish.fields.1
  let other ← if second then agreed wish.fields.2 index else pure wish.fields.2
  pure { wish with fields := (one, other) }

/-- Show more. -/
def show_ (wish : JoinWish) (text : Raw) : Act JoinWish := do
  pure { wish with shown := some (wish.shown.getD [] ++ (← readShown text)) }

/-- Take up an operand. If there are two files, one of them must have been something else. -/
def operand (wish : JoinWish) (text : Raw) (loose : Loose) : Act JoinWish := do
  let wish ← match wish.files with
    | [first, second] => do
      let (given, left) := if first.2 == .nothing then (second, first) else (first, second)
      let wish := { wish with files := [left] }
      match given.2 with
      | .nothing => Act.refuse 1 ("extra operand ".toList ++ quotedWord text)
      | .field isFirst => do
        let wish := { wish with bare := if isFirst then (wish.bare.1 - 1, wish.bare.2) else (wish.bare.1, wish.bare.2 - 1) }
        wish.setFields isFirst (!isFirst) (← fieldNumber given.1)
      | .shown => wish.show_ given.1
    | _ => pure wish
  pure { wish with files := wish.files ++ [(text, loose)], before := if loose == .shown then .shown else .nothing }

/-- Take up an option or an operand. -/
def given (wish : JoinWish) (given : Given) : Act JoinWish := do
  let text := given.argument.getD []
  let before := wish.before
  let wish := { wish with before := .nothing }
  match given.key with
  | "" => wish.operand text (if given.shown.isEmpty then before else .nothing)
  | "1" => do wish.setFields true false (← fieldNumber text)
  | "2" => do wish.setFields false true (← fieldNumber text)
  | "j" =>
    if given.isJoined && (text == ['1'] || text == ['2']) then
      let isFirst := text == ['1']
      let bare := if isFirst then (wish.bare.1 + 1, wish.bare.2) else (wish.bare.1, wish.bare.2 + 1)
      pure { wish with before := .field isFirst, bare }
    else do wish.setFields true true (← fieldNumber text)
  | "o" =>
    if text == "auto".toList then pure { wish with chosen := "auto" :: wish.chosen }
    else do
      let wish ← wish.show_ text
      pure { wish with before := .shown }
  | "t" =>
    let tab ← match text with
      | [] => pure '\n'
      | [c] => pure c
      | ['\\', '0'] => pure '\x00'
      | _ => Act.die 1 ("multi-character tab ".toList ++ quoted text)
    if (wish.tab.map fun old => old != tab).getD false then Act.die 1 "incompatible tabs".toList
    pure { wish with tab := some tab }
  | "e" =>
    if (wish.filler.map fun old => old != text).getD false then
      Act.die 1 "conflicting empty-field replacement strings".toList
    pure { wish with filler := some text }
  | "a" | "v" =>
    match Amount.read {} text with
    | .ok 1 => pure { wish with alone := 1 :: wish.alone, chosen := given.key :: wish.chosen }
    | .ok 2 => pure { wish with alone := 2 :: wish.alone, chosen := given.key :: wish.chosen }
    | _ => Act.die 1 ("invalid field number: ".toList ++ quoted text)
  | key => pure { wish with chosen := key :: wish.chosen }

/-- Whether the order is checked. -/
def checking (wish : JoinWish) : Checking :=
  match wish.chosen.find? fun key => key == "check-order" || key == "nocheck-order" with
  | some "check-order" => .always
  | some _ => .never
  | none => .needed

end JoinWish

/-- How the last argument is shown where one is missing: a list of what is shown is cut off at its first mark. -/
def lastShown (arguments : List Raw) : Raw :=
  let last := arguments.getLastD []
  if "-o".toList.isPrefixOf last || (arguments.dropLast.getLast? == some "-o".toList) then
    last.takeWhile fun c => !isFieldMark c
  else last

end Group

/-- Join the lines of two files that have a field in common. -/
def join : Utility := ofAct fun arguments => do
  let wish ← Act.foldEvents 1 Group.joinOptions Group.JoinWish.given {} arguments
  let (path, path') ← match wish.files with
    | [first, second] => pure (first.1, second.1)
    | [] => Act.refuse 1 "missing operand".toList
    | _ => Act.refuse 1 ("missing operand after ".toList ++ quoted (Group.lastShown arguments))
  let wish ← if 0 < wish.bare.1 then wish.setFields true true 0 else pure wish
  let wish ← if 0 < wish.bare.2 then wish.setFields true true 1 else pure wish
  if path == ['-'] && path' == ['-'] then Act.die 1 "both files cannot be standard input".toList
  let joining : Group.Joining := {
    first := wish.fields.1.getD 0, second := wish.fields.2.getD 0, tab := wish.tab, ignoresCase := wish.has "i"
    firstAlone := wish.alone.contains 1, secondAlone := wish.alone.contains 2, pairs := !wish.has "v"
    shown := wish.shown, filler := wish.filler.getD [], checking := wish.checking
    mark := if wish.has "z" then '\x00' else '\n', names := (path, path') }
  let side ← Group.openSide path
  let side' ← Group.openSide path'
  let (one, feed, checked) ← ({ source := side.source } : Group.Feed).next joining {} true
  let (other, feed', checked) ← ({ source := side'.source } : Group.Feed).next joining checked false
  let size := fun (entry : Option Group.Entry) => (entry.map fun entry => entry.fields.size).getD 0
  let joining := if wish.has "auto" && wish.shown.isNone then
      { joining with counts := some (size one, size other) }
    else joining
  let (one, other, feed, feed', checked) ←
    if wish.has "header" && (one.isSome || other.isSome) then do
      joining.show_ one other
      let (one, feed, checked) ← ({ feed with last := none }).next joining checked true
      let (other, feed', checked) ← ({ feed' with last := none }).next joining checked false
      pure (one, other, feed, feed', checked)
    else pure (one, other, feed, feed', checked)
  let checked ← Group.joinFeeds joining one other feed feed' checked
  if checked.first || checked.second then Act.die 1 "input is not in sorted order".toList

/-- The programs of this kind. -/
def groupTools : List (String × Utility) :=
  [("comm", comm), ("join", join), ("uniq", uniq)]

end AnswerQuery.Host.Tool
