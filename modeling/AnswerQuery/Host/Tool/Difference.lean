import Std.Data.HashMap
import AnswerQuery.Host.Calendar.Form
import AnswerQuery.Host.Calendar.Zone
import AnswerQuery.Host.Tool.Alignment
import AnswerQuery.Host.Tool.Matching
import AnswerQuery.Host.Tool.Rendition
import AnswerQuery.Host.Tool.Source

/-! Differences: how it is written what has to be changed in a file so that it is the same as another one. -/

namespace AnswerQuery.Host.Tool

namespace Difference

/-- How changes are written. -/
inductive Style where
  | normal
  | unified
  | context
  /-- As commands of an editor, the last one first. -/
  | editor
  /-- As commands of an editor that cannot be used by it, the first one first. -/
  | forwardEditor
  | counted
  /-- In two columns. -/
  | columns
  /-- Both files in one, as forms tell. -/
  | merged
  deriving DecidableEq, Repr

/-- Which blanks do not matter. -/
inductive Blanks where
  | none
  | tabs
  | trailing
  | trailingAndTabs
  | amount
  | all
  deriving DecidableEq, Repr

/-- How files are compared. -/
structure Plan where
  /-- How changes are written. -/
  style : Style
  /-- Whether it was said how changes are written. -/
  isStyled : Bool
  /-- How many equal lines at both ends of the files are looked at in any case. -/
  horizon : Nat
  /-- Whether lines have colors. -/
  colors : Bool
  /-- Whether nothing is written in front of empty lines that both files have. -/
  baresEmpty : Bool
  /-- How many lines are written around changes. -/
  context : Nat
  /-- Whether it is only told that files differ. -/
  brief : Bool
  /-- Whether it is told that files are the same. -/
  tellsSame : Bool
  /-- Whether directories in directories are compared. -/
  recursive : Bool
  /-- Whether files that are missing count as empty. -/
  missingIsEmpty : Bool
  /-- Whether the first files count as empty if they are missing. -/
  firstMissingIsEmpty : Bool
  /-- Whether capitals do not matter. -/
  ignoresCase : Bool
  /-- Which blanks do not matter. -/
  blanks : Blanks
  /-- Whether changes of blank lines do not matter. -/
  ignoresBlankLines : Bool
  /-- Lines whose changes do not matter. -/
  ignored : List Matcher
  /-- Whether all files are texts. -/
  text : Bool
  /-- Whether carriage returns at the ends of lines are left out. -/
  stripsReturns : Bool
  /-- Whether tabs are written as blanks. -/
  expandsTabs : Bool
  /-- Whether a tab is written in front of lines. -/
  initialTab : Bool
  /-- How wide tabs are. -/
  tab : Nat
  /-- How wide the columns are together. -/
  width : Nat
  /-- Whether lines that are the same are written in the left column only. -/
  leftColumn : Bool
  /-- Whether lines that are the same are left out. -/
  hidesSame : Bool
  /-- What the line before a change that is told has to match, if it has to match anything. -/
  headings : List Matcher
  /-- What the files are called. -/
  labels : List Raw
  /-- The patterns of names that are left out. -/
  excluded : List Raw
  /-- The forms that tell how both files are written in one. -/
  forms : Rendition.Forms
  /-- Whether files are compared that links lead to. -/
  followsLinks : Bool
  /-- The name that comparing directories begins with. -/
  startingName : Raw
  /-- The arguments that told all this. -/
  arguments : Raw

/-- A text with tabs made into blanks. -/
def expanded (tab : Nat) : Nat → Raw → Raw
  | _, [] => []
  | column, '\t' :: rest =>
    let width := tab - column % tab
    List.replicate width ' ' ++ expanded tab (column + width) rest
  | column, c :: rest => c :: expanded tab (column + 1) rest

/-- A text in which any amount of blanks is one blank. -/
def squeezed : Bool → Raw → Raw
  | _, [] => []
  | wasBlank, c :: rest =>
    if Raw.isSpace c then (if wasBlank then [] else [' ']) ++ squeezed true rest else c :: squeezed false rest

/-- What matters of a line. -/
def essence (plan : Plan) (text : Raw) : Raw :=
  let text := match plan.blanks with
    | .none => text
    | .tabs => expanded plan.tab 0 text
    | .trailing => dropTrailing Raw.isSpace text
    | .trailingAndTabs => expanded plan.tab 0 (dropTrailing Raw.isSpace text)
    | .amount => squeezed false (dropTrailing Raw.isSpace text)
    | .all => text.filter fun c => !Raw.isSpace c
  if plan.ignoresCase then text.map Char.toLower else text

/-- Whether it matters that the end of a line is missing. -/
def endMatters (plan : Plan) : Bool :=
  (plan.blanks == .none || plan.blanks == .tabs) && plan.style != .editor && plan.style != .forwardEditor

/-- Lines as numbers: the same number for lines that are the same as far as that matters. -/
def numbers (plan : Plan) (first second : List Source.Line) : Array Nat × Array Nat :=
  let step := fun (state : Std.HashMap (Raw × Bool) Nat × Array Nat) (line : Source.Line) =>
    let key := (essence plan line.text, line.ended || !endMatters plan)
    match state.1[key]? with
    | some number => (state.1, state.2.push number)
    | none => (state.1.insert key state.1.size, state.2.push state.1.size)
  let (known, one) := first.foldl step ({}, #[])
  let (_, other) := second.foldl step (known, #[])
  (one, other)

/-- What a file is called in headings, where what is special is escaped. -/
def headingName (name : Raw) : Raw :=
  let escaped := name.flatMap fun c =>
    if c == '"' || c == '\\' then ['\\', c]
    else match Quote.letters.lookup c with
      | some letter => ['\\', letter]
      | none => if c.toNat < 32 || 128 ≤ c.toNat then '\\' :: Quote.octal c else [c]
  if escaped == name && !name.contains ' ' then name else '"' :: escaped ++ ['"']

/-- Two files that are compared. -/
structure Pair where
  /-- The lines of the first file. -/
  first : Array Source.Line
  /-- The lines of the second file. -/
  second : Array Source.Line
  /-- What the first file is called. -/
  name : Raw
  /-- What the second file is called. -/
  name' : Raw
  /-- When the first file was changed. -/
  moment : Calendar.Moment
  /-- When the second file was changed. -/
  moment' : Calendar.Moment
  /-- The zone that times are told in. -/
  zone : Calendar.Zone

/-- Lines of a file. -/
def part (lines : Array Source.Line) (from_ count : Nat) : List Source.Line :=
  (lines.extract from_ (from_ + count)).toList

/-- Whether a line does not matter if it is changed. -/
def isTrivial (plan : Plan) (line : Source.Line) : Bool :=
  let blank := match plan.blanks with
    | .none => line.text.isEmpty
    | .tabs => line.text.isEmpty
    | _ => line.text.all Raw.isSpace
  (plan.ignoresBlankLines && blank) ||
    plan.ignored.any fun matcher => (matcher.find? line.text.toArray 0).isSome

/-- Whether a change matters. -/
def matters (plan : Plan) (pair : Pair) (change : Alignment.Change) : Bool :=
  !(plan.ignoresBlankLines || !plan.ignored.isEmpty) ||
    !((part pair.first change.line change.removed ++ part pair.second change.line' change.added).all (isTrivial plan))

/-- A line with tabs made into blanks, where what goes back to the first column is followed by a sign. -/
def spread (tab : Nat) (sign : Raw) : Nat → Raw → Raw
  | _, [] => []
  | column, '\t' :: rest =>
    let width := tab - column % tab
    List.replicate width ' ' ++ spread tab sign (column + width) rest
  | _, '\r' :: rest => '\r' :: (if rest.isEmpty then [] else sign) ++ spread tab sign 0 rest
  | column, '\x08' :: rest => if column = 0 then spread tab sign 0 rest else '\x08' :: spread tab sign (column - 1) rest
  | column, c :: rest => c :: spread tab sign (if Quote.isPrinted c then column + 1 else column) rest

/-- A color of lines. -/
inductive Tint where
  | heading
  | range
  | removed
  | added
  deriving DecidableEq, Repr

/-- The number of a color. -/
def Tint.code : Tint → String
  | .heading => "1"
  | .range => "36"
  | .removed => "31"
  | .added => "32"

/-- A text in a color, if there are colors. -/
def tinted (plan : Plan) (tint : Option Tint) (text : Raw) : Raw :=
  match plan.colors, tint with
  | true, some tint => "\x1b[".toList ++ tint.code.toList ++ 'm' :: text ++ "\x1b[0m".toList
  | _, _ => text

/-- Write a line behind a sign, which may be repeated in the line; it is told if the end of the line is missing. -/
def sayLine (plan : Plan) (tint : Option Tint) (repeats : Bool) (sign : Raw) (line : Source.Line) : Act Unit := do
  let text := if plan.expandsTabs then spread plan.tab (if repeats then sign else []) 0 line.text else line.text
  let sign := if plan.baresEmpty && line.text.isEmpty then dropTrailing Raw.isSpace sign else sign
  Act.say (tinted plan tint (sign ++ text))
  if line.ended then Act.say ['\n'] else Act.say "\n\\ No newline at end of file\n".toList

/-- The sign of a line with what separates it from the line. -/
def spaced (plan : Plan) (sign : Raw) : Raw :=
  sign ++ [if plan.initialTab then '\t' else ' ']

/-- The range of some lines. -/
def range (from_ count : Nat) : Raw :=
  if count < 2 then decimal (from_ + count) else decimal (from_ + 1) ++ ',' :: decimal (from_ + count)

/-- The letter of a change. -/
def letterOf (change : Alignment.Change) : Char :=
  if change.removed = 0 then 'a' else if change.added = 0 then 'd' else 'c'

/-- Write a change in the usual way. -/
def sayNormal (plan : Plan) (pair : Pair) (change : Alignment.Change) : Act Unit := do
  Act.sayLine (tinted plan (some .range)
    (range change.line change.removed ++ letterOf change :: range change.line' change.added))
  (part pair.first change.line change.removed).forM (sayLine plan (some .removed) true (spaced plan ['<']))
  if change.removed != 0 && change.added != 0 then Act.sayLine "---".toList
  (part pair.second change.line' change.added).forM (sayLine plan (some .added) true (spaced plan ['>']))

/-- Changes that are so close that they are written together. -/
def grouped (plan : Plan) (pair : Pair) : List Alignment.Change → List (List Alignment.Change)
  | [] => []
  | change :: rest =>
    match grouped plan pair rest with
    | [] => [[change]]
    | group :: groups =>
      match group.head? with
      | none => [change] :: group :: groups
      | some next =>
        let most := if matters plan pair next then 2 * plan.context + 1 else plan.context
        if next.line - (change.line + change.removed) < most then (change :: group) :: groups
        else [change] :: group :: groups

/-- The lines around a group of changes in a file that are written: the first one, and how many. -/
def around (context size from_ to_ : Nat) : Nat × Nat :=
  let start := from_ - context
  (start, min (to_ + context) size - start)

/-- The lines around a group of changes in both files. -/
def bounds (plan : Plan) (pair : Pair) (group : List Alignment.Change) : (Nat × Nat) × (Nat × Nat) :=
  match group.head?, group.getLast? with
  | some first, some last =>
    (around plan.context pair.first.size first.line (last.line + last.removed),
      around plan.context pair.second.size first.line' (last.line' + last.added))
  | _, _ => ((0, 0), (0, 0))

/-- The line that is the heading of what begins at a line. -/
def headingOf (plan : Plan) (pair : Pair) (line : Nat) : Raw :=
  if plan.headings.isEmpty then []
  else
    let isHeading := fun (line : Source.Line) =>
      plan.headings.any fun matcher => (matcher.find? line.text.toArray 0).isSome
    match (part pair.first 0 line).reverse.find? isHeading with
    | none => []
    | some line => ' ' :: dropTrailing Raw.isSpace ((line.text.dropWhile Raw.isSpace).take 40)

/-- A range of lines in the way of hunks with signs. -/
def signedRange (from_ count : Nat) : Raw :=
  if count = 0 then decimal from_ ++ ",0".toList
  else if count = 1 then decimal (from_ + 1)
  else decimal (from_ + 1) ++ ',' :: decimal count

/-- Write lines with a sign that tells whether they are left out or added. -/
def sayWith (plan : Plan) (sign : Char) (tint : Option Tint) (lines : List Source.Line) : Act Unit :=
  let sign := if sign == ' ' then (if plan.initialTab then ['\t'] else [' ']) else if plan.initialTab then [sign, '\t'] else [sign]
  lines.forM (sayLine plan tint false sign)

/-- Write the lines of a group of changes with signs, from a place on in both files. -/
def saySigned (plan : Plan) (pair : Pair) (stop : Nat) : Nat → List Alignment.Change → Act Unit
  | from_, [] => sayWith plan ' ' none (part pair.first from_ (stop - from_))
  | from_, change :: rest => do
    sayWith plan ' ' none (part pair.first from_ (change.line - from_))
    sayWith plan '-' (some .removed) (part pair.first change.line change.removed)
    sayWith plan '+' (some .added) (part pair.second change.line' change.added)
    saySigned plan pair stop (change.line + change.removed) rest

/-- Write a group of changes with signs. -/
def sayUnified (plan : Plan) (pair : Pair) (group : List Alignment.Change) : Act Unit := do
  let ((start, count), (start', count')) := bounds plan pair group
  let told := "@@ -".toList ++ signedRange start count ++ " +".toList ++ signedRange start' count' ++ " @@".toList
  Act.sayLine (tinted plan (some .range) told ++ headingOf plan pair start)
  saySigned plan pair (start + count) start group

/-- A range of lines in the way of hunks in two parts. -/
def plainRange (from_ count : Nat) : Raw :=
  if count < 2 then decimal (from_ + count) else decimal (from_ + 1) ++ ',' :: decimal (from_ + count)

/-- Write lines of one file with the changes in it marked; a change is told by its first line, how many lines it has in this
file, and how many in the other one. -/
def sayMarked (plan : Plan) (lines : Array Source.Line) (sign : Char) (tint : Tint) (start count : Nat)
    (changes : List (Nat × Nat × Nat)) : Act Unit :=
  (List.range count).forM fun index => do
    let place := start + index
    let mark := match changes.find? fun (from_, own, _) => from_ ≤ place && place < from_ + own with
      | some (_, _, others) => if others = 0 then sign else '!'
      | none => ' '
    match lines[place]? with
    | some line => sayLine plan (some tint) true (spaced plan [mark]) line
    | none => pure ()

/-- Write a group of changes in two parts. -/
def sayContext (plan : Plan) (pair : Pair) (group : List Alignment.Change) : Act Unit := do
  let ((start, count), (start', count')) := bounds plan pair group
  Act.sayLine ("***************".toList ++ headingOf plan pair start)
  Act.sayLine (tinted plan (some .range) ("*** ".toList ++ plainRange start count ++ " ****".toList))
  if group.any fun change => change.removed != 0 then
    sayMarked plan pair.first '-' .removed start count (group.map fun change => (change.line, change.removed, change.added))
  Act.sayLine (tinted plan (some .range) ("--- ".toList ++ plainRange start' count' ++ " ----".toList))
  if group.any fun change => change.added != 0 then
    sayMarked plan pair.second '+' .added start' count'
      (group.map fun change => (change.line', change.added, change.removed))

/-- Write the lines of a text for an editor; a line that is a dot has to be made in another way. -/
def sayInserted (forward : Bool) (lines : List Source.Line) : Act Unit := do
  let mut open_ := true
  for line in lines do
    if !open_ then
      Act.sayLine ['a']
      open_ := true
    if !forward && line.text == ['.'] then
      Act.say "..\n.\ns/.//\n".toList
      open_ := false
    else Act.sayLine line.text
  if open_ then Act.sayLine ['.']

/-- Write a change as a command of an editor. -/
def sayEditor (forward : Bool) (pair : Pair) (change : Alignment.Change) : Act Unit := do
  let letter := letterOf change
  if forward then
    let text := if change.removed < 2 then decimal (change.line + change.removed)
      else decimal (change.line + 1) ++ ' ' :: decimal (change.line + change.removed)
    Act.sayLine (letter :: text)
  else Act.sayLine (range change.line change.removed ++ [letter])
  if change.added != 0 then sayInserted forward (part pair.second change.line' change.added)

/-- Write a change with counts of lines. -/
def sayCounted (pair : Pair) (change : Alignment.Change) : Act Unit := do
  if change.removed != 0 then
    Act.sayLine ('d' :: decimal (change.line + 1) ++ ' ' :: decimal change.removed)
  if change.added != 0 then
    Act.sayLine ('a' :: decimal (change.line + change.removed) ++ ' ' :: decimal change.added)
    for line in part pair.second change.line' change.added do
      Act.say (line.text ++ if line.ended then ['\n'] else [])

/-- The way from a column to another one. -/
def tabs (plan : Plan) : Nat → Nat → Nat → Raw
  | 0, _, _ => []
  | steps + 1, from_, to_ =>
    let stop := from_ + plan.tab - from_ % plan.tab
    if !plan.expandsTabs && stop ≤ to_ then '\t' :: tabs plan steps stop to_
    else List.replicate (to_ - from_) ' '

/-- As much of a line as fits into a column, and how wide that is; told are how far the line would be, and how far the
column is. -/
def half (plan : Plan) (most : Nat) : Nat → Nat → Raw → Raw × Nat
  | _, reached, [] => ([], reached)
  | column, reached, c :: rest =>
    if c == '\t' then
      let width := plan.tab - column % plan.tab
      let stop := reached + width
      let column' := column + width
      if column != reached then half plan most column' reached rest
      else if plan.expandsTabs then
        let stop := min stop most
        let (text, width) := half plan most column' stop rest
        (List.replicate (stop - reached) ' ' ++ text, width)
      else if stop < most then
        let (text, width) := half plan most column' stop rest
        (c :: text, width)
      else half plan most column' reached rest
    else if column < most then
      let (text, width) := half plan most (column + 1) (column + 1) rest
      (c :: text, width)
    else half plan most (column + 1) reached rest

/-- Write two lines next to each other. -/
def sayBeside (plan : Plan) (left : Option Source.Line) (sign : Char) (right : Option Source.Line) : Act Unit := do
  let unit := if plan.expandsTabs then 1 else plan.tab
  let place := (plan.width + unit + 3) / (2 * unit) * unit
  let room := min (place - 3) (plan.width - place)
  let place := if room = 0 then plan.width else place
  let (text, column) := match left with
    | some line => half plan room 0 0 line.text
    | none => ([], 0)
  let leftEnded := (left.map Source.Line.ended).getD false
  let rightEnded := (right.map Source.Line.ended).getD false
  let sign := if sign == '|' && leftEnded != rightEnded then (if leftEnded then '/' else '\\') else sign
  let middle := (room + place - 1) / 2
  let (gutter, column) := if sign == ' ' then ([], column)
    else (tabs plan (middle + 1) column middle ++ [sign], max column middle + 1)
  let behind := match right with
    | some line => if line.text.isEmpty then [] else tabs plan (place + 1) column place ++ (half plan room 0 0 line.text).1
    | none => []
  Act.say (text ++ gutter ++ behind ++ if leftEnded || rightEnded then ['\n'] else [])

/-- Write lines that are the same next to each other. -/
def saySame (plan : Plan) (first second : List Source.Line) : Act Unit := do
  if !plan.hidesSame then
    if plan.leftColumn then first.forM fun line => sayBeside plan (some line) '(' none
    else
      for (left, right) in first.zip second do
        sayBeside plan (some left) ' ' (some right)
      for line in second.drop first.length do
        sayBeside plan none ')' (some line)
      for line in first.drop second.length do
        sayBeside plan (some line) '(' none

/-- Write lines that are changed next to each other. -/
def sayChanged (plan : Plan) (removed added : List Source.Line) : Act Unit := do
  for (left, right) in removed.zip added do
    sayBeside plan (some left) '|' (some right)
  for line in added.drop removed.length do
    sayBeside plan none '>' (some line)
  for line in removed.drop added.length do
    sayBeside plan (some line) '<' none

/-- Write both files in two columns, from a place on. -/
def sayColumns (plan : Plan) (pair : Pair) : Nat → Nat → List Alignment.Change → Act Unit
  | from_, from', [] =>
    saySame plan (part pair.first from_ (pair.first.size - from_)) (part pair.second from' (pair.second.size - from'))
  | from_, from', change :: rest => do
    if !matters plan pair change then sayColumns plan pair from_ from' rest
    else
      saySame plan (part pair.first from_ (change.line - from_)) (part pair.second from' (change.line' - from'))
      sayChanged plan (part pair.first change.line change.removed) (part pair.second change.line' change.added)
      sayColumns plan pair (change.line + change.removed) (change.line' + change.added) rest

/-- What a form makes of lines of a file, from a place on. -/
def formed (plan : Plan) (form : Raw) (lines : Array Source.Line) (stretch : Rendition.Stretch) : Raw :=
  (part lines stretch.from_ (stretch.to_ - stretch.from_)).zipIdx.flatMap fun (line, place) =>
    let text := if plan.expandsTabs then spread plan.tab [] 0 line.text else line.text
    let ended := text ++ if line.ended then ['\n'] else []
    Rendition.ofLine (stretch.from_ + place + 1) text ended (form.length + 1) form

/-- Write a group of lines of both files as a form tells. -/
def sayGroup (plan : Plan) (pair : Pair) (form : Raw) (stretch stretch' : Rendition.Stretch) : Act Unit :=
  let line := fun (given : Option Raw) => given.getD Rendition.Forms.usualLine
  let group : Rendition.Group := {
    stretch, stretch'
    removed := formed plan (line plan.forms.removedLine) pair.first stretch
    common := formed plan (line plan.forms.commonLine) pair.first stretch
    added := formed plan (line plan.forms.addedLine) pair.second stretch' }
  Act.say (group.written (form.length + 1) none form).1

/-- Write both files in one, from places on. -/
def sayMerged (plan : Plan) (pair : Pair) : Nat → Nat → List Alignment.Change → Act Unit
  | from_, from', [] => do
    if from_ < pair.first.size || from' < pair.second.size then
      sayGroup plan pair plan.forms.ofCommon ⟨from_, pair.first.size⟩ ⟨from', pair.second.size⟩
  | from_, from', change :: rest => do
    if from_ < change.line || from' < change.line' then
      sayGroup plan pair plan.forms.ofCommon ⟨from_, change.line⟩ ⟨from', change.line'⟩
    let form := if change.added = 0 then plan.forms.ofRemoved
      else if change.removed = 0 then plan.forms.ofAdded
      else plan.forms.ofChanged
    let (stop, stop') := (change.line + change.removed, change.line' + change.added)
    sayGroup plan pair form ⟨change.line, stop⟩ ⟨change.line', stop'⟩
    sayMerged plan pair stop stop' rest

/-- Write what the files are called, and when they were changed. -/
def sayNames (plan : Plan) (pair : Pair) (sign sign' form : String) : Act Unit := do
  let told := fun (label : Option Raw) (name : Raw) (moment : Calendar.Moment) =>
    label.getD (headingName name ++ '\t' :: (pair.zone.shown moment).inForm form.toList)
  Act.sayLine (tinted plan (some .heading) (sign.toList ++ ' ' :: told plan.labels[0]? pair.name pair.moment))
  Act.sayLine (tinted plan (some .heading) (sign'.toList ++ ' ' :: told plan.labels[1]? pair.name' pair.moment'))

/-- Write changes, after what the files are called. -/
def sayChanges (plan : Plan) (pair : Pair) (changes : List Alignment.Change) : Act Unit := do
  let groups := (grouped plan pair changes).filter fun group => group.any (matters plan pair)
  let each := changes.filter (matters plan pair)
  match plan.style with
  | .normal => each.forM (sayNormal plan pair)
  | .unified => do
    sayNames plan pair "---" "+++" "%Y-%m-%d %H:%M:%S.%N %z"
    groups.forM (sayUnified plan pair)
  | .context => do
    sayNames plan pair "***" "---" "%a %b %e %T %Y"
    groups.forM (sayContext plan pair)
  | .editor => each.reverse.forM (sayEditor false pair)
  | .forwardEditor => each.forM (sayEditor true pair)
  | .counted => each.forM (sayCounted pair)
  | .columns => sayColumns plan pair 0 0 changes
  | .merged => sayMerged plan pair 0 0 each

end Difference

end AnswerQuery.Host.Tool
