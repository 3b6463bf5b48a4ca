import AnswerQuery.Host.Tool.Comparing

/-! Files beside each other, put together as answers tell. -/

namespace AnswerQuery.Host.Tool

namespace Beside

/-- The options that are known. -/
def known : List Known :=
  [⟨"diff-program", "diff-program", .always⟩, ⟨"t", "expand-tabs", .nothing⟩, ⟨"help", "help", .nothing⟩,
    ⟨"W", "ignore-all-space", .nothing⟩, ⟨"B", "ignore-blank-lines", .nothing⟩, ⟨"i", "ignore-case", .nothing⟩,
    ⟨"I", "ignore-matching-lines", .always⟩, ⟨"b", "ignore-space-change", .nothing⟩,
    ⟨"E", "ignore-tab-expansion", .nothing⟩, ⟨"Z", "ignore-trailing-space", .nothing⟩, ⟨"l", "left-column", .nothing⟩,
    ⟨"d", "minimal", .nothing⟩, ⟨"o", "output", .always⟩, ⟨"H", "speed-large-files", .nothing⟩,
    ⟨"strip-trailing-cr", "strip-trailing-cr", .nothing⟩, ⟨"s", "suppress-common-lines", .nothing⟩,
    ⟨"tabsize", "tabsize", .always⟩, ⟨"a", "text", .nothing⟩, ⟨"version", "version", .nothing⟩, ⟨"w", "width", .always⟩,
    ⟨"v", "", .nothing⟩]

/-- The options that tell how files are compared. -/
def passedOn (invocation : Invocation) : List Raw :=
  invocation.given.flatMap fun given =>
    let letter := ['-'] ++ given.key.toList
    match given.key, given.argument with
    | "l", _ => ["--left-column".toList]
    | "w", some width => ["-W".toList, width]
    | "W", _ => ["-w".toList]
    | "I", some text => [letter, text]
    | "tabsize", some width => ["--tabsize".toList, width]
    | "strip-trailing-cr", _ => ["--strip-trailing-cr".toList]
    | key, none => if ["s", "v", "help", "version"].contains key then [] else [letter]
    | _, some _ => []

/-- What answers may be given. -/
def help : Raw :=
  ("ed:\tEdit then use both versions, each decorated with a header.\neb:\tEdit then use both versions.\n" ++
    "el or e1:\tEdit then use the left version.\ner or e2:\tEdit then use the right version.\n" ++
    "e:\tDiscard both versions then edit a new one.\nl or 1:\tUse the left version.\nr or 2:\tUse the right version.\n" ++
    "s:\tSilently include common lines.\nv:\tVerbosely include common lines.\nq:\tQuit.\n").toList

/-- An answer to what is to be done with a change. -/
inductive Answer where
  | left
  | right
  | silent
  | verbose
  | quit
  deriving DecidableEq, Repr

/-- The answer that a line means. -/
def Answer.ofLine? (line : Raw) : Option Answer :=
  match line.filter fun c => !Raw.isSpace c with
  | ['1'] => some .left
  | ['l'] => some .left
  | ['2'] => some .right
  | ['r'] => some .right
  | ['s'] => some .silent
  | ['v'] => some .verbose
  | ['q'] => some .quit
  | _ => none

/-- Read one answer. -/
def readAnswer (source : Source) : Act (Answer × Source) :=
  Act.loop source fun source => do
    Act.say ['%']
    Act.flush
    let (line, source) ← source.nextLine '\n'
    match line with
    | none => pure (.inr (.quit, source))
    | some line =>
      match Answer.ofLine? line.text with
      | some answer => pure (.inr (answer, source))
      | none => do
        Act.report help
        pure (.inl source)

/-- What is known while files are put together. -/
structure Progress where
  /-- Where answers are read. -/
  source : Source
  /-- Whether lines that are the same are left out. -/
  hidesSame : Bool
  /-- The result. -/
  result : Raw := []
  /-- Whether the work was given up. -/
  isOver : Bool := false

/-- The text of lines. -/
def text (lines : List Source.Line) : Raw :=
  lines.flatMap fun line => line.text ++ if line.ended then ['\n'] else []

/-- Ask until one of two versions is chosen. -/
def choose (progress : Progress) (removed added : List Source.Line) : Act Progress :=
  Act.loop progress fun progress => do
    let (answer, source) ← readAnswer progress.source
    let progress := { progress with source }
    pure (match answer with
      | .left => .inr { progress with result := progress.result ++ text removed }
      | .right => .inr { progress with result := progress.result ++ text added }
      | .silent => .inl { progress with hidesSame := true }
      | .verbose => .inl { progress with hidesSame := false }
      | .quit => .inr { progress with isOver := true })

/-- Put files together, from places on. -/
def put (plan : Difference.Plan) (pair : Difference.Pair) :
    Nat → Nat → List Alignment.Change → Progress → Act Progress
  | from_, from', [], progress => do
    let same := Difference.part pair.first from_ (pair.first.size - from_)
    let same' := Difference.part pair.second from' (pair.second.size - from')
    Difference.saySame { plan with hidesSame := progress.hidesSame } same same'
    pure { progress with result := progress.result ++ text same }
  | from_, from', change :: rest, progress => do
    if !Difference.matters plan pair change then put plan pair from_ from' rest progress
    else
      let same := Difference.part pair.first from_ (change.line - from_)
      let same' := Difference.part pair.second from' (change.line' - from')
      Difference.saySame { plan with hidesSame := progress.hidesSame } same same'
      let removed := Difference.part pair.first change.line change.removed
      let added := Difference.part pair.second change.line' change.added
      Difference.sayChanged plan removed added
      let progress ← choose { progress with result := progress.result ++ text same } removed added
      if progress.isOver then pure progress
      else put plan pair (change.line + change.removed) (change.line' + change.added) rest progress

/-- Put two files together into a third one. -/
def run (plan : Difference.Plan) (hidesSame : Bool) (first second output : Raw) : Act Unit := do
  let fill := fun (directory name : Raw) => do
    if ← Act.isDirectory directory true then pure (Path.beneath directory (Path.lastName name)) else pure directory
  if (← Act.isDirectory first true) && (← Act.isDirectory second true) then
    Act.die 2 "both files to be compared are directories".toList
  let name ← fill first second
  let name' ← fill second first
  let read := fun (path : Raw) => do
    match ← Act.readFile path with
    | .ok octets => pure octets
    | .error reason => Act.die 2 (path ++ ": ".toList ++ reason.description)
  let octets ← read name
  let octets' ← read name'
  let opened : Except OsError Nat ← Act.ask (.openFile output .writing)
  let target ← match opened with
    | .ok target => pure target
    | .error reason => Act.die 2 (output ++ ": ".toList ++ reason.description)
  let lines := Difference.linesIn plan octets
  let lines' := Difference.linesIn plan octets'
  let (one, other) := Difference.numbers plan lines lines'
  let changes := if octets == octets' then [] else Alignment.changes plan.horizon one other
  let pair : Difference.Pair := {
    first := lines.toArray, second := lines'.toArray, name, name', moment := 0, moment' := 0, zone := .universal }
  let progress ← put plan pair 0 0 changes { source := { descriptor := 0, path := ['-'] }, hidesSame }
  let written : Except OsError Unit ← Act.ask (.write target (Raw.octets progress.result))
  if let .error reason := written then Act.die 2 ("write failed: ".toList ++ reason.description)
  Act.fail (if progress.isOver then 2 else if changes.any (Difference.matters plan pair) then 1 else 0)

end Beside

/-- Tell how files differ, beside each other. -/
def sdiff : Utility := ofAct fun arguments => do
  modify fun output => { output with outputStatus := 2 }
  let invocation ← Difference.readOptions Beside.known arguments
  let hidesSame := invocation.has "s"
  let options := Beside.passedOn invocation
  let own := (← get).name
  let named := fun (name : Raw) => modify fun (output : Output) => { output with name }
  match invocation.operands with
  | [first, second] =>
    match invocation.argument? "o" with
    | none => do
      named "diff".toList
      let common := if hidesSame then ["--suppress-common-lines".toList] else []
      Difference.run (options ++ common ++ ["-y".toList, "--".toList, first, second])
    | some output => do
      named "diff".toList
      let arguments := options ++ ["-y".toList]
      let plan ← Difference.planOf arguments (← Difference.readOptions Difference.known arguments)
      named own
      Beside.run plan hidesSame first second output
  | _ :: _ :: extra :: _ => Difference.refuse ("extra operand ".toList ++ quoted extra)
  | _ => Difference.refuseMissing arguments invocation

/-- The programs that are here. -/
def besideTools : List (String × Utility) :=
  [("sdiff", sdiff)]

end AnswerQuery.Host.Tool
