import AnswerQuery.Host.Tool.Amount
import AnswerQuery.Host.Tool.Source

/-! Programs that copy what they read: all of it, a part of it, or in another order. -/

namespace AnswerQuery.Host.Tool

/-- How a file is shown. -/
structure Showing where
  /-- Whether lines are numbered. -/
  numbers : Bool := false
  /-- Whether only lines with characters are numbered. -/
  numbersFilled : Bool := false
  /-- Whether empty lines behind others are dropped. -/
  squeezes : Bool := false
  /-- Whether the ends of lines are marked. -/
  ends : Bool := false
  /-- Whether tabs are shown. -/
  tabs : Bool := false
  /-- Whether other characters that cannot be seen are shown. -/
  hidden : Bool := false

namespace Showing

/-- A character of seven bits as it is shown. -/
def lowCharacter (c : Char) : Raw :=
  if c.toNat < 32 then ['^', Char.ofNat (c.toNat + 64)]
  else if c.toNat = 127 then ['^', '?'] else [c]

/-- A character as it is shown. -/
def character (showing : Showing) (c : Char) : Raw :=
  if c == '\t' then (if showing.tabs then ['^', 'I'] else [c])
  else if !showing.hidden then [c]
  else if c.toNat < 128 then lowCharacter c
  else ['M', '-'] ++ lowCharacter (Char.ofNat (c.toNat - 128))

/-- A line as it is shown. -/
def line (showing : Showing) (line : Source.Line) : Raw :=
  let text := line.text
  let carriage := showing.ends && line.ended && !showing.hidden && text.getLast? == some '\r'
  let shown := (if carriage then text.dropLast else text).flatMap showing.character
  shown ++ (if carriage then ['^', 'M'] else []) ++ (if line.ended then (if showing.ends then ['$', '\n'] else ['\n']) else [])

end Showing

/-- What has been shown. -/
structure Shown where
  /-- How many lines have been numbered. -/
  count : Nat := 0
  /-- How many empty lines came last. -/
  empty : Nat := 0
  /-- Whether a line has begun. -/
  begun : Bool := false

/-- Show lines. -/
def showLines (showing : Showing) (shown : Shown) : List Source.Line → List Raw → List Raw × Shown
  | [], texts => (texts.reverse, shown)
  | line :: lines, texts =>
    let isEmpty := line.text.isEmpty && line.ended && !shown.begun
    let empty := if isEmpty then shown.empty + 1 else 0
    if showing.squeezes && 1 < empty then showLines showing { shown with empty } lines texts
    else
      let numbered := !shown.begun &&
        (if showing.numbersFilled then !isEmpty else showing.numbers)
      let count := if numbered then shown.count + 1 else shown.count
      let number := if numbered then
          let digits := decimal count
          List.replicate (6 - digits.length) ' ' ++ digits ++ ['\t']
        else []
      showLines showing { count, empty, begun := !line.ended } lines ((number ++ showing.line line) :: texts)

/-- How many octets are copied at once. -/
def copyBlock : Nat := 131072

/-- Whether a file that is read is the file that is written, with something left to read. -/
def readsItself (source : Source) (output : Described) : Act Bool := do
  let input : Except OsError Described ← Act.ask (.describe source.descriptor)
  match input with
  | .error _ => pure false
  | .ok input =>
    pure (output.status.kind == Kind.file && output.status.number.isSome && input.status.number == output.status.number &&
      match input.position with
      | some position => position < input.status.size
      | none => false)

/-- Write octets at once. -/
def writeNow (octets : Bytes) : Act Unit := do
  Act.put octets
  Act.flush

/-- Copy a file as it is. -/
def copyPlain (source : Source) : Act Source :=
  Act.loop source fun source => do
    let result : Except OsError Bytes ← Act.ask (.read source.descriptor copyBlock)
    match result with
    | .ok [] => pure (.inr source)
    | .ok octets => do
      writeNow octets
      pure (.inl source)
    | .error reason => pure (.inr { source with failure := some reason })

/-- Copy a file as it is shown. -/
def copyShown (showing : Showing) (shown : Shown) (source : Source) : Act (Shown × Source) :=
  Act.loop (shown, source) fun (shown, source) => do
    let result : Except OsError Bytes ← Act.ask (.read source.descriptor copyBlock)
    match result with
    | .ok [] => pure (.inr (shown, source))
    | .ok octets => do
      let (texts, shown) := showLines showing shown (linesOf '\n' (Raw.ofOctets octets)) []
      writeNow (Raw.octets texts.flatten)
      pure (.inl (shown, source))
    | .error reason => pure (.inr (shown, { source with failure := some reason }))

/-- The options of the program that copies files. -/
def catOptions : List Known :=
  [⟨"b", "number-nonblank", .nothing⟩, ⟨"n", "number", .nothing⟩, ⟨"s", "squeeze-blank", .nothing⟩,
    ⟨"v", "show-nonprinting", .nothing⟩, ⟨"E", "show-ends", .nothing⟩, ⟨"T", "show-tabs", .nothing⟩,
    ⟨"A", "show-all", .nothing⟩, ⟨"e", "", .nothing⟩, ⟨"t", "", .nothing⟩, ⟨"u", "", .nothing⟩]

/-- Copy files one after the other. -/
def cat : Utility := ofAct fun arguments => do
  let invocation ← Act.readOptions 1 catOptions false arguments
  let any := fun (keys : List String) => keys.any invocation.has
  let showing : Showing := {
    numbers := invocation.has "n", numbersFilled := invocation.has "b", squeezes := invocation.has "s"
    ends := any ["A", "e", "E"], tabs := any ["A", "t", "T"], hidden := any ["A", "e", "t", "v"] }
  let plain := !any ["A", "b", "e", "E", "n", "s", "t", "T", "v"]
  let output : Except OsError Described ← Act.ask (.describe 1)
  match output with
  | .error reason => Act.die 1 ("standard output: ".toList ++ reason.description)
  | .ok output => do
    let mut shown : Shown := {}
    for path in (if invocation.operands.isEmpty then [['-']] else invocation.operands) do
      match ← Source.openAt path copyBlock with
      | .error reason => do
        Act.complainFile path reason
        Act.fail 1
      | .ok source => do
        if ← readsItself source output then
          Act.complain (nameFor path ++ ": input file is output file".toList)
          Act.fail 1
        else
          let (after, source) ← if plain then (fun source => (shown, source)) <$> copyPlain source
            else copyShown showing shown source
          shown := after
          if let some reason := source.failure then
            Act.complainFile path reason
            if source.descriptor = 0 && reason == OsError.badDescriptor then
              Act.complain ("closing standard input: ".toList ++ reason.description)
            Act.fail 1
        source.close

/-- What is done where output cannot be written. -/
inductive Failing where
  /-- It is told, except that a broken pipe ends the program by its signal. -/
  | usual
  /-- It is told. -/
  | warn
  /-- It is told, except for a broken pipe. -/
  | warnWithoutPipe
  /-- It ends the program. -/
  | exit
  /-- It ends the program, except for a broken pipe. -/
  | exitWithoutPipe
  deriving DecidableEq, Repr

/-- Whether a failure ends the program. -/
def Failing.ends (failing : Failing) : Bool :=
  failing == .exit || failing == .exitWithoutPipe

/-- Whether it is told that output cannot be written. -/
def Failing.tells (failing : Failing) (reason : OsError) : Bool :=
  reason != .brokenPipe || failing == .exit || failing == .warn

/-- Tell about a file that cannot be written. -/
def Failing.tell (failing : Failing) (path : Raw) (reason : OsError) : Act Unit := do
  Act.complainFile path reason
  if failing.ends then Act.finish 1
  Act.fail 1

/-- The words for what is done where output cannot be written. -/
def failings : List (List String × Failing) :=
  [(["warn"], .warn), (["warn-nopipe"], .warnWithoutPipe), (["exit"], .exit), (["exit-nopipe"], .exitWithoutPipe)]

/-- Write octets to files: those that are left. -/
def writeAll (failing : Failing) (octets : Bytes) : List (Raw × Nat) → Act (List (Raw × Nat))
  | [] => pure []
  | (path, descriptor) :: others => do
    let written : Except OsError Unit ← Act.ask (.write descriptor octets)
    match written with
    | .ok () => do
      let left ← writeAll failing octets others
      pure ((path, descriptor) :: left)
    | .error reason => do
      if failing.tells reason then failing.tell path reason
      writeAll failing octets others

/-- Copy the standard input to files as well. -/
def tee : Utility := ofAct fun arguments => do
  let known : List Known := [⟨"a", "append", .nothing⟩, ⟨"i", "ignore-interrupts", .nothing⟩, ⟨"p", "", .nothing⟩,
    ⟨"output-error", "output-error", .maybe⟩]
  let (failing, invocation) ← Act.foldOptions 1 known false (fun (failing : Failing) given =>
    match given.key, given.argument with
    | "p", _ => pure .warnWithoutPipe
    | "output-error", none => pure .warnWithoutPipe
    | "output-error", some text => Act.choose "--output-error" failings text
    | _, _ => pure failing) .usual arguments
  if invocation.has "i" then Act.ask (.react 2 .ignored)
  if failing != .usual then Act.ask (.react 13 .ignored)
  let opening := if invocation.has "a" then Files.Opening.appending else .writing
  let mut targets : List (Raw × Nat) := [("standard output".toList, 1)]
  for path in invocation.operands do
    let result : Except OsError Nat ← Act.ask (.openFile path opening)
    match result with
    | .ok descriptor => targets := targets ++ [(path, descriptor)]
    | .error reason => failing.tell path reason
  Act.loop targets fun targets => do
    if targets.isEmpty then pure (.inr ())
    else
      let result : Except OsError Bytes ← Act.ask (.read 0 8192)
      match result with
      | .ok [] => pure (.inr ())
      | .ok octets => do
        let left ← writeAll failing octets targets
        pure (.inl left)
      | .error reason => do
        Act.complain ("read error: ".toList ++ reason.description)
        Act.fail 1
        if reason == .badDescriptor then Act.complain ("standard input: ".toList ++ reason.description)
        pure (.inr ())

/-- How much of each file is wanted. -/
structure Share where
  /-- Whether octets are counted and not lines. -/
  octets : Bool := false
  /-- How many. -/
  count : Nat := 10
  /-- Whether the count is taken from the other end. -/
  other : Bool := false

/-- A count, or a complaint about it. -/
def countOf (octets : Bool) (text : Raw) : Act Nat := do
  let what := if octets then "invalid number of bytes" else "invalid number of lines"
  Int.toNat <$> Act.amount 1 what { letters := "bkKmMGTPEZY0" } 0 (Int.ofNat Numeral.wordCount) text

/-- Whether headers are shown, given how many files there are. -/
def showsHeaders (invocation : Invocation) (count : Nat) : Bool :=
  match invocation.last? ["q", "v"] with
  | some "q" => false
  | some _ => true
  | none => 1 < count

/-- Show the header of a file. -/
def showHeader (isFirst : Bool) (path : Raw) : Act Unit :=
  Act.say ((if isFirst then [] else ['\n']) ++ "==> ".toList ++ (if path == ['-'] then "standard input".toList else path) ++
    " <==\n".toList)

/-- The options of the programs that copy one end of files. -/
def endOptions : List Known :=
  [⟨"c", "bytes", .always⟩, ⟨"n", "lines", .always⟩, ⟨"q", "quiet", .nothing⟩, ⟨"q", "silent", .nothing⟩,
    ⟨"v", "verbose", .nothing⟩, ⟨"z", "zero-terminated", .nothing⟩] ++
  ((List.range 10).map fun digit => ⟨toString digit, "", .nothing⟩)

/-- Write the lines at the front of a file, and give back what has been read behind them. -/
def copyFront (mark : Char) (share : Share) (source : Source) : Act Source :=
  Act.loop (share.count, source) fun (left, source) => do
    if left = 0 then
      source.giveBack
      pure (.inr source)
    else if share.octets then
      let result : Except OsError Bytes ← Act.ask (.read source.descriptor (min left source.block))
      match result with
      | .ok [] => pure (.inr source)
      | .ok octets => do
        Act.put octets
        pure (.inl (left - octets.length, source))
      | .error reason => pure (.inr { source with failure := some reason })
    else
      match ← source.nextLine mark with
      | (none, source) => pure (.inr source)
      | (some line, source) => do
        Act.say (line.text ++ if line.ended then [mark] else [])
        pure (.inl (left - 1, source))

/-- Write all of a file but its end. -/
def copyAllBut (mark : Char) (share : Share) (source : Source) : Act Source := do
  let result : Except OsError Bytes ← StateT.lift (Job.readAll source.descriptor)
  match result with
  | .error reason => pure { source with failure := some reason }
  | .ok octets => do
    if share.octets then Act.put (octets.take (octets.length - share.count))
    else
      let lines := linesOf mark (Raw.ofOctets octets)
      for line in lines.take (lines.length - share.count) do
        Act.say (line.text ++ if line.ended then [mark] else [])
    pure source

/-- Complain about a file that could not be read to its end. -/
def complainReading (path : Raw) (reason : OsError) : Act Unit :=
  let told := if path == ['-'] then "standard input".toList else path
  Act.complain ("error reading ".toList ++ quotedWord told ++ ": ".toList ++ reason.description)

/-- Go through files and write a part of each. -/
def copyEnds (invocation : Invocation) (whole : Raw → Source → Act Source) : Act Unit := do
  let paths := if invocation.operands.isEmpty then [['-']] else invocation.operands
  let headers := showsHeaders invocation paths.length
  let mut isFirst := true
  for path in paths do
    match ← Source.openAt path 8192 with
    | .error reason => do
      Act.complain ("cannot open ".toList ++ quotedWord path ++ " for reading: ".toList ++ reason.description)
      Act.fail 1
    | .ok source => do
      if headers then showHeader isFirst path
      isFirst := false
      let source ← whole path source
      if let some reason := source.failure then
        complainReading path reason
        Act.fail 1
      source.close

/-- A first argument that is a count with letters, as options. -/
def oldCount (text : Raw) : Act (List Raw) := do
  let digits := text.takeWhile Char.isDigit
  let rest := text.drop digits.length
  let mut kind := 'n'
  let mut unit : Raw := []
  let mut others : List Raw := []
  for c in rest do
    if c == 'c' then
      kind := 'c'
      unit := []
    else if c == 'b' || c == 'k' || c == 'm' then
      kind := 'c'
      unit := [c]
    else if c == 'l' then kind := 'n'
    else if "qvz".toList.contains c then others := others ++ [['-', c]]
    else Act.refuse 1 ("invalid trailing option -- ".toList ++ [c])
  pure ((['-', kind] ++ digits ++ unit) :: others)

/-- Write the front of files. -/
def head : Utility := ofAct fun arguments => do
  let arguments ← match arguments with
    | ('-' :: c :: rest) :: others => do
      if c.isDigit then
        let options ← oldCount (c :: rest)
        pure (options ++ others)
      else pure arguments
    | _ => pure arguments
  let (share, invocation) ← Act.foldOptions 1 endOptions false (fun (share : Share) given => do
    let octets := given.key == "c"
    if octets || given.key == "n" then
      match given.argument.getD [] with
      | '-' :: text => pure { octets, count := ← countOf octets text, other := true }
      | text => pure { octets, count := ← countOf octets text, other := false }
    else if given.key.toList.all Char.isDigit then
      Act.refuse 1 ("invalid trailing option -- ".toList ++ given.key.toList)
    else pure share) {} arguments
  let mark := if invocation.has "z" then '\x00' else '\n'
  copyEnds invocation fun _ source =>
    if share.other then copyAllBut mark share source else copyFront mark share source

/-- What the first argument tells in the old way, if there is no more than one file: how much is wanted, and whether the
file is followed then. -/
def oldShare? (arguments : List Raw) : Act (Option (Share × Bool)) := do
  let isAlone := match arguments with
    | [_] => true
    | [_, second] => second.length < 2 || second.head? != some '-' || second == ['-', '-']
    | [_, second, _] => second == ['-', '-']
    | _ => false
  let first := arguments.headD []
  let text := first.drop 1
  let other := first.head? == some '+'
  if !isAlone || !(other || first.head? == some '-' && !(text.drop (if text.head? == some 'c' then 1 else 0)).isEmpty) then
    pure none
  else
    let digits := text.takeWhile Char.isDigit
    let (octets, usual, rest) : Bool × Nat × Raw := match text.drop digits.length with
      | 'b' :: rest => (true, 5120, rest)
      | 'c' :: rest => (true, 10, rest)
      | 'l' :: rest => (false, 10, rest)
      | rest => (false, 10, rest)
    if !rest.isEmpty && rest != ['f'] then pure none
    else
      let count := if digits.isEmpty then usual
        else Numeral.valueOf 10 digits * (if text[digits.length]? == some 'b' then 512 else 1)
      if Numeral.wordCount ≤ count then
        Act.die 1 ("invalid number: ".toList ++ quoted first ++ ": Numerical result out of range".toList)
      pure (some ({ octets, count, other }, !rest.isEmpty))

/-- Write the end of files. -/
def tail : Utility := ofAct fun arguments => do
  let known := endOptions ++ [⟨"f", "follow", .maybe⟩, ⟨"F", "", .nothing⟩, ⟨"s", "sleep-interval", .always⟩,
    ⟨"pid", "pid", .always⟩, ⟨"retry", "retry", .nothing⟩]
  let old ← oldShare? arguments
  let start : Share := (old.map Prod.fst).getD {}
  let (share, invocation) ← Act.foldOptions 1 known false (fun (share : Share) given => do
    let octets := given.key == "c"
    if octets || given.key == "n" then
      match given.argument.getD [] with
      | '+' :: text => pure { octets, count := ← countOf octets ('+' :: text), other := true }
      | '-' :: text => pure { octets, count := ← countOf octets text, other := share.other }
      | text => pure { octets, count := ← countOf octets text, other := share.other }
    else if given.key.toList.all Char.isDigit then
      Act.die 1 ("option used in invalid context -- ".toList ++ given.key.toList)
    else pure share) start (if old.isSome then arguments.drop 1 else arguments)
  let follows := invocation.has "f" || invocation.has "F" || (old.map Prod.snd).getD false
  if invocation.has "retry" && !follows then
    Act.complain "warning: --retry ignored; --retry is useful only when following".toList
  if invocation.has "pid" && !follows then
    Act.complain "warning: PID ignored; --pid=PID is useful only when following".toList
  let mark := if invocation.has "z" then '\x00' else '\n'
  if share.count = 0 && !share.other && !follows then pure ()
  else copyEnds invocation fun path source => do
    let result : Except OsError Bytes ← StateT.lift (Job.readAll source.descriptor)
    match result with
    | .error reason =>
      if share.other && (share.octets || share.count < 2) then
        complainReading path reason
        Act.finish 1
      pure { source with failure := some reason }
    | .ok octets => do
      let skipped := fun (length : Nat) => if share.other then share.count - 1 else length - share.count
      if share.octets then Act.put (octets.drop (skipped octets.length))
      else
        let lines := linesOf mark (Raw.ofOctets octets)
        for line in lines.drop (skipped lines.length) do
          Act.say (line.text ++ if line.ended then [mark] else [])
      pure source

/-- The programs of this kind. -/
def copyTools : List (String × Utility) :=
  [("cat", cat), ("head", head), ("tail", tail), ("tee", tee)]

end AnswerQuery.Host.Tool
