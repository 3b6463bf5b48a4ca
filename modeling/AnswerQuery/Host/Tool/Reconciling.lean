import AnswerQuery.Host.Tool.Comparing

/-! Reconciling files: what two files have made of a third one, told or put together. -/

namespace AnswerQuery.Host.Tool

namespace Reconciling

/-- Lines of a file, counted from one; the first one follows the last one if there are none. -/
structure Span where
  /-- The first line. -/
  first : Nat
  /-- The last line. -/
  last : Nat
  deriving DecidableEq, Repr

/-- How many lines there are. -/
def Span.count (span : Span) : Nat :=
  span.last + 1 - span.first

/-- A change between a file and the common one. -/
structure Change where
  /-- The lines of the file. -/
  own : Span
  /-- The lines of the common file. -/
  common : Span
  deriving DecidableEq, Repr

/-- The lines that a change of an alignment is about. -/
def Change.ofAlignment (change : Alignment.Change) : Change where
  own := ⟨change.line + 1, change.line + change.removed⟩
  common := ⟨change.line' + 1, change.line' + change.added⟩

/-- A place where files differ. -/
structure Clash where
  /-- The lines of the first file. -/
  first : Span
  /-- The lines of the second file. -/
  second : Span
  /-- The lines of the third file. -/
  third : Span
  /-- The file whose lines are different from the same lines of the two others, counted from zero, if there is one. -/
  odd : Option Nat
  deriving DecidableEq, Repr

namespace Clash

/-- The lines of a file. -/
def span (clash : Clash) : Nat → Span
  | 0 => clash.first
  | 1 => clash.second
  | _ => clash.third

/-- The same with the second and the third file exchanged. -/
def exchanged (clash : Clash) : Clash where
  first := clash.first
  second := clash.third
  third := clash.second
  odd := clash.odd.map fun file => if file = 1 then 2 else if file = 2 then 1 else file

end Clash

/-- Changes of two files that touch each other in the common file, while they are collected. -/
structure Ladder where
  /-- The changes of the first file that wait. -/
  waiting : List Change
  /-- The changes of the second file that wait. -/
  waiting' : List Change
  /-- The changes of the first file that have been taken. -/
  taken : List Change := []
  /-- The changes of the second file that have been taken. -/
  taken' : List Change := []
  /-- How far the changes reach in the common file. -/
  mark : Nat
  /-- Whether a change of the second file reaches that far. -/
  isSecond : Bool

namespace Ladder

/-- Take changes of the file whose changes do not reach as far, as long as they touch what has been taken. -/
def climb : Nat → Ladder → Ladder
  | 0, ladder => ladder
  | steps + 1, ladder =>
    match if ladder.isSecond then ladder.waiting else ladder.waiting' with
    | [] => ladder
    | change :: rest =>
      if ladder.mark + 1 < change.common.first then ladder
      else
        let next := if ladder.isSecond then { ladder with waiting := rest, taken := ladder.taken ++ [change] }
          else { ladder with waiting' := rest, taken' := ladder.taken' ++ [change] }
        climb steps (if ladder.mark < change.common.last then
          { next with mark := change.common.last, isSecond := !ladder.isSecond } else next)

/-- The first step: take the change that begins first in the common file. -/
def start? (waiting waiting' : List Change) : Option Ladder :=
  match waiting, waiting' with
  | [], [] => none
  | change :: rest, [] =>
    some { waiting := rest, waiting', taken := [change], mark := change.common.last, isSecond := false }
  | [], change :: rest =>
    some { waiting, waiting' := rest, taken' := [change], mark := change.common.last, isSecond := true }
  | change :: rest, change' :: rest' =>
    if change'.common.first < change.common.first then
      some { waiting, waiting' := rest', taken' := [change'], mark := change'.common.last, isSecond := true }
    else some { waiting := rest, waiting', taken := [change], mark := change.common.last, isSecond := false }

end Ladder

/-- The lines of a file that belong to lines of the common file, given the changes of the file among them, and the lines of
both at the place where files differed before. -/
def ownSpan (taken : List Change) (common before beforeCommon : Span) : Span :=
  match taken.head?, taken.getLast? with
  | some first, some last =>
    ⟨common.first + first.own.first - first.common.first, common.last + last.own.last - last.common.last⟩
  | _, _ => ⟨common.first + before.last - beforeCommon.last, common.last + before.last - beforeCommon.last⟩

/-- The lines of a file. -/
def part (lines : Array Source.Line) (span : Span) : List Source.Line :=
  Difference.part lines (span.first - 1) span.count

/-- Where two files and the common one differ, the common one being the third, given where they differed before. -/
def clashes (lines lines' : Array Source.Line) : Nat → Clash → List Change → List Change → List Clash
  | 0, _, _, _ => []
  | steps + 1, before, waiting, waiting' =>
    match Ladder.start? waiting waiting' with
    | none => []
    | some ladder =>
      let start := ((ladder.taken ++ ladder.taken').head?.map fun change => change.common.first).getD 1
      let ladder := ladder.climb (waiting.length + waiting'.length)
      let third : Span := ⟨start, ladder.mark⟩
      let first := ownSpan ladder.taken third before.first before.third
      let second := ownSpan ladder.taken' third before.second before.third
      let isSame := (part lines first).map (fun line => (line.text, line.ended)) ==
        (part lines' second).map fun line => (line.text, line.ended)
      let odd := if ladder.taken.isEmpty then some 1 else if ladder.taken'.isEmpty then some 0
        else if isSame then some 2 else none
      let clash : Clash := { first, second, third, odd }
      clash :: clashes lines lines' steps clash ladder.waiting ladder.waiting'

/-- How files are reconciled. -/
structure Plan where
  /-- Whether files are texts whatever is in them. -/
  text : Bool := false
  /-- Whether the result is written. -/
  merges : Bool := false
  /-- Whether commands of an editor are written. -/
  edits : Bool := false
  /-- Whether conflicts are marked. -/
  marks : Bool := false
  /-- Whether changes are shown that the first and the third file have in common. -/
  showsSecond : Bool := false
  /-- Whether only changes that overlap are made. -/
  onlyOverlaps : Bool := false
  /-- Whether only changes that do not overlap are made. -/
  onlySimple : Bool := false
  /-- Whether the editor is told to write and to end. -/
  writes : Bool := false
  /-- Whether lines have a tab in front of them. -/
  initialTab : Bool := false
  /-- Whether carriage returns at the ends of lines are left out. -/
  stripsReturns : Bool := false
  /-- What the files are called in marks. -/
  labels : List Raw := []

/-- Three files and where they differ. -/
structure Meeting where
  /-- What the files are called. -/
  labels : List Raw
  /-- The lines of the files. -/
  lines : List (Array Source.Line)
  /-- Where they differ. -/
  clashes : List Clash

namespace Meeting

/-- What a file is called. -/
def label (meeting : Meeting) (file : Nat) : Raw :=
  (meeting.labels[file]?).getD []

/-- The lines of a file at a place where files differ. -/
def linesAt (meeting : Meeting) (clash : Clash) (file : Nat) : List Source.Line :=
  part ((meeting.lines[file]?).getD #[]) (clash.span file)

/-- The text of lines. -/
def text (lines : List Source.Line) : Raw :=
  lines.flatMap fun line => line.text ++ if line.ended then ['\n'] else []

/-- How a place where files differ is told. -/
def told (plan : Plan) (meeting : Meeting) (clash : Clash) : Raw :=
  let front := if plan.initialTab then "\t".toList else "  ".toList
  let order := if clash.odd == some 1 then [0, 2, 1] else [0, 1, 2]
  let hidden := match clash.odd with
    | none => 3
    | some 0 => 1
    | some _ => 0
  let one := fun (file : Nat) =>
    let span := clash.span file
    let place := if span.count = 0 then decimal span.last ++ ['a']
      else if span.count = 1 then decimal span.first ++ ['c']
      else decimal span.first ++ ',' :: decimal span.last ++ ['c']
    let lines := if file = hidden then [] else meeting.linesAt clash file
    let open_ := (lines.getLast?.map fun line => !line.ended).getD false
    decimal (file + 1) ++ ':' :: place ++ '\n' :: lines.flatMap (fun line => front ++ text [line]) ++
      if open_ then "\n\\ No newline at end of file\n".toList else []
  "====".toList ++ (clash.odd.elim [] fun file => decimal (file + 1)) ++ '\n' :: order.flatMap one

/-- Whether a change is made, and whether it is a conflict. -/
def isConflict? (plan : Plan) (clash : Clash) : Option Bool :=
  match clash.odd with
  | some 0 => none
  | some 1 => if plan.showsSecond then some true else none
  | some _ => if plan.onlyOverlaps then none else some false
  | none => if plan.onlySimple then none else some plan.marks

/-- Lines for an editor, where a dot stands in front of lines that begin with one. -/
def dotted (lines : List Source.Line) : Raw :=
  lines.flatMap fun line => (if line.text.head? == some '.' then ['.'] else []) ++ text [line]

/-- The end of lines for an editor, and how the dots in front of lines are taken away. -/
def undotted (lines : List Source.Line) (from_ count : Nat) : Raw :=
  let place := if count = 1 then decimal from_ else decimal from_ ++ ',' :: decimal (from_ + count - 1)
  ".\n".toList ++ if lines.any fun line => line.text.head? == some '.' then place ++ "s/^\\.//\n".toList else []

/-- How a change is made by an editor, given whether it is a conflict. -/
def edited (plan : Plan) (meeting : Meeting) (clash : Clash) (isConflict : Bool) : Raw :=
  let (second, third) := (meeting.linesAt clash 1, meeting.linesAt clash 2)
  let span := clash.first
  let mark := fun (sign : String) (file : Nat) => sign.toList ++ ' ' :: meeting.label file ++ ['\n']
  let place := if span.count < 2 then decimal span.last else decimal span.first ++ ',' :: decimal span.last
  if isConflict then
    let isOpen := clash.odd.isNone
    let shown := if !isOpen then [] else if plan.showsSecond then second ++ third else third
    let sides := if !isOpen then []
      else (if plan.showsSecond then mark "|||||||" 1 ++ dotted second else []) ++ "=======\n".toList ++ dotted third
    let front := if isOpen then [] else second
    decimal span.last ++ "a\n".toList ++ sides ++ mark ">>>>>>>" 2 ++
      undotted shown (span.last + 2) (second.length + third.length + 1) ++
      decimal (span.first - 1) ++ "a\n".toList ++ mark "<<<<<<<" (if isOpen then 0 else 1) ++
      (if isOpen then [] else dotted front ++ "=======\n".toList) ++ undotted front (span.first + 1) second.length
  else if third.isEmpty then place ++ "d\n".toList
  else place ++ (if span.count = 0 then 'a' else 'c') :: '\n' :: dotted third ++ undotted third span.first third.length

/-- The first file with the changes made to it, from a line on. -/
def merged (plan : Plan) (meeting : Meeting) : Nat → List Clash → Raw
  | from_, [] => text (Difference.part ((meeting.lines[0]?).getD #[]) from_ ((meeting.lines[0]?).getD #[]).size)
  | from_, clash :: rest =>
    match isConflict? plan clash with
    | none => merged plan meeting from_ rest
    | some isConflict =>
      let mark := fun (sign : String) (file : Nat) => sign.toList ++ ' ' :: meeting.label file ++ ['\n']
      let isOpen := clash.odd.isNone
      let before := text (Difference.part ((meeting.lines[0]?).getD #[]) from_ (clash.first.first - 1 - from_))
      let sides := if !isConflict then []
        else (if isOpen then mark "<<<<<<<" 0 ++ text (meeting.linesAt clash 0) else []) ++
          (if plan.showsSecond then mark (if isOpen then "|||||||" else "<<<<<<<") 1 ++ text (meeting.linesAt clash 1) else []) ++
          "=======\n".toList
      before ++ sides ++ text (meeting.linesAt clash 2) ++ (if isConflict then mark ">>>>>>>" 2 else []) ++
        merged plan meeting clash.first.last rest

end Meeting

/-- The options that are known. -/
def known : List Known :=
  [⟨"A", "show-all", .nothing⟩, ⟨"a", "text", .nothing⟩, ⟨"diff-program", "diff-program", .always⟩,
    ⟨"3", "easy-only", .nothing⟩, ⟨"e", "ed", .nothing⟩, ⟨"help", "help", .nothing⟩, ⟨"T", "initial-tab", .nothing⟩,
    ⟨"L", "label", .always⟩, ⟨"m", "merge", .nothing⟩, ⟨"x", "overlap-only", .nothing⟩, ⟨"E", "show-overlap", .nothing⟩,
    ⟨"strip-trailing-cr", "strip-trailing-cr", .nothing⟩, ⟨"version", "version", .nothing⟩, ⟨"X", "", .nothing⟩,
    ⟨"i", "", .nothing⟩, ⟨"v", "", .nothing⟩]

/-- How files are reconciled after arguments. -/
def planOf (invocation : Invocation) : Act Plan := do
  let has := invocation.has
  let kinds := invocation.given.filter fun given => ["A", "e", "E", "x", "X", "3"].contains given.key
  let labels := invocation.arguments "L"
  if 3 < labels.length then Difference.refuse "too many file label options".toList
  let isPlain := kinds.isEmpty && has "m"
  let marks := has "A" || has "E" || isPlain
  if 1 < kinds.length || (has "i" && has "m") || (!labels.isEmpty && !marks) then
    Difference.refuse "incompatible options".toList
  pure {
    text := has "a"
    merges := has "m"
    edits := !kinds.isEmpty && !has "m"
    marks
    showsSecond := has "A" || isPlain
    onlyOverlaps := has "x" || has "X"
    onlySimple := has "3"
    writes := has "i"
    initialTab := has "T"
    stripsReturns := has "strip-trailing-cr"
    labels }

/-- The octets of a file, or complain that there are none. -/
def octetsOf (path : Raw) : Act Bytes := do
  match ← Act.readFile path with
  | .ok octets => pure octets
  | .error reason => Act.die 2 (path ++ ": ".toList ++ reason.description)

/-- How many equal lines at both ends of files are looked at in any case. -/
def horizon : Nat := 100

/-- The changes between a file and the common one. -/
def changesBetween (plan : Plan) (path common : Raw) (octets octets' : Bytes) : Act (List Change) := do
  let isBinary := fun (octets : Bytes) => (octets.take 65536).contains 0
  if octets == octets' then pure []
  else if !plan.text && (isBinary octets || isBinary octets') then
    Act.die 2 ("diff failed: Binary files ".toList ++ path ++ " and ".toList ++ common ++ " differ".toList)
  else
    let usual := { Difference.usual with stripsReturns := plan.stripsReturns }
    let (lines, lines') := (Difference.linesIn usual octets, Difference.linesIn usual octets')
    let (one, other) := Difference.numbers usual lines lines'
    let changes := (Alignment.changes horizon one other).map Change.ofAlignment
    if plan.edits then
      for change in changes do
        for shown in [part lines.toArray change.own, part lines'.toArray change.common] do
          if shown.any fun line => !line.ended then Act.complain "No newline at end of file".toList
    pure changes

/-- Write three files as a plan tells; the result is a status. -/
def say (plan : Plan) (meeting : Meeting) : Act Nat := do
  let status := if meeting.clashes.any fun clash => Meeting.isConflict? plan clash == some true then 1 else 0
  if plan.edits then
    for clash in meeting.clashes.reverse do
      if let some isConflict := Meeting.isConflict? plan clash then Act.say (meeting.edited plan clash isConflict)
    if plan.writes then Act.say "w\nq\n".toList
    pure status
  else if plan.merges then
    Act.say (meeting.merged plan 0 meeting.clashes)
    pure status
  else
    meeting.clashes.forM fun clash => Act.say (meeting.told plan clash)
    pure 0

/-- Reconcile three files. -/
def run (plan : Plan) (paths : List Raw) (first second third : Raw) : Act Unit := do
  let isInput := fun (path : Raw) => path == ['-']
  let usual := if plan.edits || plan.merges then second else third
  let isThird := !((plan.edits || plan.merges) != isInput usual)
  let common := if isThird then third else second
  let other := if isThird then second else third
  if isInput usual && (isInput first || isInput common) then
    Act.die 2 "'-' specified for more than one input file".toList
  for path in paths do
    if !isInput path then
      match ← Act.inspect path true with
      | .error reason => Act.die 2 (path ++ ": ".toList ++ reason.description)
      | .ok status => if status.kind == .directory then Act.die 2 (path ++ ": Is a directory".toList)
  let octets' ← octetsOf other
  let octets ← octetsOf first
  let commonOctets ← octetsOf common
  let changes' ← changesBetween plan other common octets' commonOctets
  let changes ← changesBetween plan first common octets commonOctets
  let linesOf := fun (octets : Bytes) =>
    let lines := Difference.linesIn { Difference.usual with stripsReturns := plan.stripsReturns } octets
    (lines.map fun line => { line with ended := line.ended || plan.edits }).toArray
  let (lines, lines', commonLines) := (linesOf octets, linesOf octets', linesOf commonOctets)
  let start : Clash := { first := ⟨0, 0⟩, second := ⟨0, 0⟩, third := ⟨0, 0⟩, odd := none }
  let found := clashes lines lines' (changes.length + changes'.length + 1) start changes changes'
  let labels := plan.labels ++ paths.drop plan.labels.length
  let meeting : Meeting := if isThird then { labels, lines := [lines, lines', commonLines], clashes := found }
    else { labels, lines := [lines, commonLines, lines'], clashes := found.map Clash.exchanged }
  let status ← say plan meeting
  Act.fail status

end Reconciling

/-- Tell how three files differ, or put them together. -/
def diff3 : Utility := ofAct fun arguments => do
  modify fun output => { output with outputStatus := 2, status := 2 }
  let invocation ← Difference.readOptions Reconciling.known arguments
  let plan ← Reconciling.planOf invocation
  match invocation.operands with
  | [first, second, third] => Reconciling.run plan invocation.operands first second third
  | _ :: _ :: _ :: extra :: _ => Difference.refuse ("extra operand ".toList ++ quoted extra)
  | _ => Difference.refuseMissing arguments invocation

/-- The programs that are here. -/
def reconcilingTools : List (String × Utility) :=
  [("diff3", diff3)]

end AnswerQuery.Host.Tool
