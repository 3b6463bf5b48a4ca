import AnswerQuery.Host.Script.Signal
import AnswerQuery.Host.Tool.Amount
import AnswerQuery.Host.Tool.Child
import AnswerQuery.Host.Tool.Source

/-! Splitting a file into others, or handing its parts to a command. -/

namespace AnswerQuery.Host.Tool

namespace Splitting

/-- The names of the parts, which differ in their last characters. -/
structure Names where
  /-- What names begin with. -/
  base : Raw
  /-- The characters that follow. -/
  alphabet : Raw
  /-- What names end with. -/
  ending : Raw
  /-- The characters of the last name, as places in the alphabet. -/
  places : List Nat
  /-- Whether names grow when all short ones have been used. -/
  grows : Bool
  /-- Whether there is a last name. -/
  begun : Bool := false

/-- The places that follow, in an alphabet of so many characters; none if these were the last. -/
def nextPlaces (count : Nat) : List Nat → Option (List Nat)
  | [] => none
  | place :: rest =>
    match nextPlaces count rest with
    | some rest => some (place :: rest)
    | none => if place + 1 < count then some ((place + 1) :: rest.map fun _ => 0) else none

namespace Names

/-- The name. -/
def text (names : Names) : Raw :=
  names.base ++ names.places.map (fun place => names.alphabet[place]?.getD '?') ++ names.ending

/-- The next name; none if all have been used. Names that grow begin with the last character of the alphabet then. -/
def next? (names : Names) : Option Names :=
  if !names.begun then some { names with begun := true }
  else
    let count := names.alphabet.length
    match nextPlaces count names.places with
    | none => none
    | some places =>
      if names.grows && places.head? == some (count - 1) then
        some { names with
          base := names.base ++ names.alphabet.drop (count - 1), places := List.replicate (names.places.length + 1) 0 }
      else some { names with places }

end Names

/-- How a file is split. -/
inductive Way where
  | lines (count : Nat)
  | octets (count : Nat)
  /-- So many octets at most, but whole lines where that can be. -/
  | lineOctets (count : Nat)
  /-- Into so many parts; only one of them may be wanted. -/
  | parts (wanted : Option Nat) (count : Nat)
  /-- Into so many parts of whole lines. -/
  | lineParts (wanted : Option Nat) (count : Nat)
  /-- Line by line into one part after the other. -/
  | turns (wanted : Option Nat) (count : Nat)

/-- How many parts there will be, if that is known. -/
def Way.count? : Way → Option Nat
  | parts _ count | lineParts _ count | turns _ count => some count
  | _ => none

/-- What is to be done. -/
structure Plan where
  /-- How the file is split. -/
  way : Way
  /-- What ends lines. -/
  mark : Char
  /-- Whether parts that are empty are left out. -/
  elides : Bool
  /-- The command that gets the parts. -/
  command : Option Raw
  /-- Whether parts are told. -/
  tells : Bool

/-- Where parts go. -/
inductive Target where
  | none
  | file (descriptor : Nat)
  | command (descriptor process : Nat) (name : Raw)

/-- What is being written. -/
structure Progress where
  /-- The names. -/
  names : Names
  /-- Where the last part goes. -/
  target : Target := .none

/-- End the last part. -/
def Plan.close (plan : Plan) (progress : Progress) : Act Progress := do
  match progress.target with
  | .none => pure ()
  | .file descriptor => Act.ask (.close descriptor)
  | .command descriptor process name => do
    Act.ask (.close descriptor)
    let command := plan.command.getD []
    match ← Act.await process with
    | .exited 0 => pure ()
    | .exited status =>
      Act.die status ("with FILE=".toList ++ nameFor name ++ ", exit ".toList ++ decimal status ++ " from command: ".toList ++
        command)
    | .killed signal _ =>
      if signal != 13 then
        Act.die (signal + 128) ("with FILE=".toList ++ nameFor name ++ ", signal ".toList ++ Signal.fullName signal ++
          " from command: ".toList ++ command)
  pure { progress with target := .none }

/-- Begin a part that is a file. -/
def Plan.beginFile (plan : Plan) (name : Raw) : Act Target := do
  if plan.tells then Act.sayLine ("creating file ".toList ++ quotedWord name)
  let refuse := fun (reason : OsError) => (Act.die 1 (nameFor name ++ ": ".toList ++ reason.description) : Act Target)
  let fresh : Except OsError Nat ← Act.ask (.openFile name { writes := true, creates := true, exclusive := true })
  match fresh with
  | .ok descriptor => pure (.file descriptor)
  | .error .alreadyThere => do
    let old : Except OsError Nat ← Act.ask (.openFile name { writes := true, creates := true })
    match old with
    | .error reason => refuse reason
    | .ok descriptor => do
      let input : Except OsError Described ← Act.ask (.describe 0)
      let output : Except OsError Described ← Act.ask (.describe descriptor)
      let number := fun (described : Except OsError Described) => described.toOption.bind fun described => described.status.number
      if (number input).isSome && number input == number output then
        Act.die 1 (quotedWord name ++ " would overwrite input; aborting".toList)
      let _ ← Act.ask (.resize descriptor 0)
      pure (.file descriptor)
  | .error reason => refuse reason

/-- Begin a part that a command gets. -/
def Plan.beginCommand (plan : Plan) (command name : Raw) : Act Target := do
  let bindings ← Act.bindings
  let shell := (bindings.lookup "SHELL".toList).getD usualShell
  let shown := ((shell.reverse.takeWhile (· != '/')).reverse)
  let bindings := ("FILE".toList, name) :: bindings.filter fun pair => pair.1 != "FILE".toList
  if plan.tells then Act.sayLine ("executing with FILE=".toList ++ nameFor name)
  let (reading, writing) : Nat × Nat ← Act.ask .makePipe
  let called := (← get).name
  let process ← Act.start do
    let _ ← Job.call (.duplicate reading 0)
    Job.call (.close reading)
    Job.call (.close writing)
    Job.call (.react Machine.brokenPipeSignal .usual)
    let reason : OsError ← Job.call (.execute shell [shown, "-c".toList, command] bindings)
    Job.complain (Raw.octets (called ++ ": failed to run command: \"".toList ++ shell ++ " -c ".toList ++ command ++
      "\": ".toList ++ reason.description ++ ['\n']))
    pure 1
  Act.ask (.close reading)
  pure (.command writing process name)

/-- Write to the last part, or to a new one. -/
def Plan.write (plan : Plan) (progress : Progress) (isNew : Bool) (text : Raw) : Act Progress := do
  if isNew && text.isEmpty && plan.elides then pure progress
  else
    let progress ← if !isNew then pure progress else do
      let progress ← plan.close progress
      match progress.names.next? with
      | none => Act.die 1 "output file suffixes exhausted".toList
      | some names => do
        let target ← match plan.command with
          | none => plan.beginFile names.text
          | some command => plan.beginCommand command names.text
        pure { progress with names, target }
    let descriptor? : Option Nat := match progress.target with
      | .none => none
      | .file descriptor => some descriptor
      | .command descriptor _ _ => some descriptor
    match descriptor? with
    | some descriptor =>
      if !text.isEmpty then
        let result : Except OsError Unit ← Act.ask (.write descriptor (Raw.octets text))
        if let .error reason := result then
          if !(plan.command.isSome && reason == OsError.brokenPipe) then
            Act.die 1 (nameFor progress.names.text ++ ": ".toList ++ reason.description)
    | none => pure ()
    pure progress

/-- Complain if reading went wrong. -/
def checked (source : Source) : Act Unit := do
  if let some reason := source.failure then
    Act.die 1 (nameFor source.path ++ ": ".toList ++ reason.description)

/-- Split after every so many lines. -/
def Plan.byLines (plan : Plan) (count : Nat) (progress : Progress) (source : Source) : Act Progress :=
  Act.loop (progress, source, ([] : List Raw), 0) fun (progress, source, before, have_) => do
    let (line, source) ← source.nextLine plan.mark
    match line with
    | none => do
      let progress ← if before.isEmpty then pure progress else plan.write progress true before.reverse.flatten
      checked source
      pure (.inr progress)
    | some line =>
      let text := if line.ended then line.text ++ [plan.mark] else line.text
      if have_ + 1 < count then pure (.inl (progress, source, text :: before, have_ + 1))
      else do
        let progress ← plan.write progress true (text :: before).reverse.flatten
        pure (.inl (progress, source, [], 0))

/-- Read until so many octets are there. -/
def filledTo (count : Nat) (source : Source) : Act Source :=
  Act.loop source fun source => do
    if source.isOver || count ≤ source.rest.length then pure (.inr source)
    else do
      let source ← source.feed
      pure (.inl source)

/-- The part of a text behind its last mark. -/
def behindLast (mark : Char) (text : Raw) : Raw :=
  (text.reverse.takeWhile (· != mark)).reverse

/-- Split after every so many octets; lines may have to be kept whole. -/
def Plan.byOctets (plan : Plan) (count : Nat) (wholeLines : Bool) (progress : Progress) (source : Source) : Act Progress :=
  Act.loop (progress, source) fun (progress, source) => do
    let source ← filledTo count source
    if source.rest.isEmpty then
      checked source
      pure (.inr progress)
    else
      let window := source.rest.take count
      let spare := if wholeLines && window.length == count then behindLast plan.mark window else []
      let spare := if spare.length == window.length then [] else spare
      let part := window.take (window.length - spare.length)
      let progress ← plan.write progress true part
      pure (.inl (progress, { source with rest := source.rest.drop part.length }))

/-- Where parts end, the last of which ends with the file. -/
def ends (size count : Nat) : List Nat :=
  (List.range' 1 (count - 1)).map (fun number => number * (size / count)) ++ [size]

/-- The parts of a text that end at some places, or with the line that goes on there. -/
def cutAt (wholeLines : Bool) (mark : Char) : Nat → List Nat → Raw → List Raw
  | _, [], _ => []
  | from_, stop :: stops, text =>
    let part := text.take (stop - from_)
    let rest := text.drop (stop - from_)
    let goesOn := wholeLines && !part.isEmpty && part.getLast? != some mark
    let more := if !goesOn then [] else
      let line := rest.takeWhile (· != mark)
      rest.take (line.length + 1)
    (part ++ more) :: cutAt wholeLines mark (from_ + part.length + more.length) stops (rest.drop more.length)

/-- The lines of a text that come at some turn. -/
def turn (mark : Char) (count place : Nat) (text : Raw) : Raw :=
  (linesOf mark text).zipIdx.flatMap fun (line, index) =>
    if index % count == place then (if line.ended then line.text ++ [mark] else line.text) else []

/-- All that is read. -/
def readRest (source : Source) : Act Raw := do
  let result : Except OsError Bytes ← StateT.lift (Job.readAll source.descriptor)
  match result with
  | .ok octets => pure (Raw.ofOctets octets)
  | .error reason => Act.die 1 (nameFor source.path ++ ": ".toList ++ reason.description)

/-- Write parts, or the one that is wanted. -/
def Plan.writeParts (plan : Plan) (progress : Progress) (wanted : Option Nat) (parts : List Raw) : Act Progress := do
  match wanted with
  | some number => do
    Act.say (parts[number - 1]?.getD [])
    pure progress
  | none => parts.foldlM (fun progress part => plan.write progress true part) progress

/-- All that is read of a file whose size can be told. -/
def readSized (source : Source) : Act Raw := do
  let described : Except OsError Described ← Act.ask (.describe source.descriptor)
  let refuse := fun (why : Raw) => (Act.die 1 (nameFor source.path ++ ": cannot determine file size".toList ++ why) : Act Raw)
  match described.toOption.bind Described.position with
  | none => refuse []
  | some _ => do
    let result : Except OsError Bytes ← StateT.lift (Job.readAll source.descriptor)
    match result with
    | .ok octets => pure (Raw.ofOctets octets)
    | .error reason => refuse (": ".toList ++ reason.description)

/-- Split what is read. -/
def Plan.run (plan : Plan) (names : Names) (source : Source) : Act Unit := do
  let start : Progress := { names }
  let progress ← match plan.way with
    | .lines count => plan.byLines count start source
    | .octets count => plan.byOctets count false start source
    | .lineOctets count => plan.byOctets count true start source
    | .parts wanted count => do
      let text ← readSized source
      plan.writeParts start wanted (cutAt false plan.mark 0 (ends (max text.length count) count) text)
    | .lineParts wanted count => do
      let text ← readSized source
      plan.writeParts start wanted (cutAt true plan.mark 0 (ends (max text.length count) count) text)
    | .turns wanted count => do
      let text ← readRest source
      plan.writeParts start wanted ((List.range count).map fun place => turn plan.mark count place text)
  let _ ← plan.close progress

/-- How many characters are needed for so many names. -/
def placesFor (base count : Nat) : Nat := (Numeral.inBase base (count - 1)).length

/-- The greatest amount. -/
def most : Int := Int.ofNat (Numeral.wordCount - 1)

/-- Read how a file is split into parts. -/
def partsOf (text : Raw) : Act Way := do
  let text := text.dropWhile Raw.isSpace
  let (kind, text) := match text with
    | 'r' :: '/' :: rest => ('r', rest)
    | 'l' :: '/' :: rest => ('l', rest)
    | _ => ('b', text)
  let front := text.takeWhile (· != '/')
  let (wanted, count) ←
    if front.length == text.length then do
      pure (none, ← Act.amount 1 "invalid number of chunks" {} 1 most text)
    else do
      let count ← Act.amount 1 "invalid number of chunks" {} 1 most (text.drop (front.length + 1))
      if front.isEmpty then pure (none, count)
      else pure (some (← Act.amount 1 "invalid chunk number" {} 1 count front).toNat, count)
  pure (match kind with
    | 'r' => .turns wanted count.toNat
    | 'l' => .lineParts wanted count.toNat
    | _ => .parts wanted count.toNat)

/-- The letters of sizes. -/
def sizes : String := "bEGKkMmPTYZ0"

/-- What options tell about how a file is split: the way, and whether it was told by digits. -/
def wayOf (invocation : Invocation) : Act Way := do
  let mut way : Option Way := none
  let mut digits : Raw := []
  for given in invocation.given do
    let text := given.argument.getD []
    let isDigit := given.key.toList.all Char.isDigit
    if isDigit || ["l", "b", "C", "n"].contains given.key then
      if way.isSome || (!isDigit && !digits.isEmpty) then Act.refuse 1 "cannot split in more than one way".toList
    if isDigit then
      digits := digits ++ given.key.toList
      if Numeral.wordCount ≤ Numeral.valueOf 10 digits then
        Act.die 1 ("line count option -".toList ++ digits ++ "... is too large".toList)
    if given.key == "l" then
      way := some (.lines (← Act.amount 1 "invalid number of lines" {} 1 most text).toNat)
    if given.key == "b" then
      way := some (.octets (← Act.amount 1 "invalid number of bytes" { letters := sizes } 1 Numeral.greatest text).toNat)
    if given.key == "C" then
      way := some (.lineOctets (← Act.amount 1 "invalid number of bytes" { letters := sizes } 1 Numeral.greatest text).toNat)
    if given.key == "n" then
      way := some (← partsOf text)
  pure (way.getD (.lines (if digits.isEmpty then 1000 else Numeral.valueOf 10 digits)))

/-- What ends lines. -/
def markOf (invocation : Invocation) : Act Char := do
  let mut mark : Option Char := none
  for text in invocation.arguments "t" do
    let told ← match text with
      | [] => Act.die 1 "empty record separator".toList
      | [c] => pure c
      | ['\\', '0'] => pure '\x00'
      | _ => Act.die 1 ("multi-character separator ".toList ++ quoted text)
    if mark.isSome && mark != some told then Act.die 1 "multiple separator characters specified".toList
    mark := some told
  pure (mark.getD '\n')

/-- The alphabet of names and where they begin. -/
def alphabetOf (invocation : Invocation) : Act (Raw × Option Raw) := do
  let mut alphabet : Raw := (List.range 26).map fun place => Char.ofNat (97 + place)
  let mut start : Option Raw := none
  for given in invocation.given do
    if given.key == "d" || given.key == "x" then
      alphabet := (if given.key == "d" then "0123456789" else "0123456789abcdef").toList
      if let some text := given.argument then
        if !text.all alphabet.contains then
          Act.refuse 1 (quoted text ++ ": invalid start value for ".toList ++
            (if given.key == "d" then "numerical" else "hexadecimal").toList ++ " suffix".toList)
        let bare := text.dropWhile (· == '0')
        start := some (if bare.isEmpty then text.take 1 else bare)
  pure (alphabet, start)

end Splitting

open Splitting in
/-- Split a file. -/
def split : Utility := ofAct fun arguments => do
  let digits : List Known := (List.range 10).map fun digit => ⟨toString digit, "", .nothing⟩
  let known : List Known := digits ++ [⟨"b", "bytes", .always⟩, ⟨"l", "lines", .always⟩, ⟨"C", "line-bytes", .always⟩,
    ⟨"n", "number", .always⟩, ⟨"e", "elide-empty-files", .nothing⟩, ⟨"u", "unbuffered", .nothing⟩,
    ⟨"a", "suffix-length", .always⟩, ⟨"additional-suffix", "additional-suffix", .always⟩, ⟨"d", "", .nothing⟩,
    ⟨"d", "numeric-suffixes", .maybe⟩, ⟨"x", "", .nothing⟩, ⟨"x", "hex-suffixes", .maybe⟩,
    ⟨"filter", "filter", .always⟩, ⟨"verbose", "verbose", .nothing⟩, ⟨"t", "separator", .always⟩]
  let lengthOf := fun (invocation : Invocation) => do
    match invocation.argument? "a" with
    | none => pure 0
    | some text => Int.toNat <$> Act.amount 1 "invalid suffix length" {} 0 most text
  let endingOf := fun (invocation : Invocation) => do
    let ending := (invocation.argument? "additional-suffix").getD []
    if ending.contains '/' then
      Act.refuse 1 ("invalid suffix ".toList ++ quoted ending ++ ", contains directory separator".toList)
    pure ending
  let invocation ← Act.readChecked 1 known false (fun invocation => do
    discard (lengthOf invocation)
    discard (endingOf invocation)
    discard (wayOf invocation)
    discard (markOf invocation)
    discard (alphabetOf invocation)) arguments
  let length ← lengthOf invocation
  let ending ← endingOf invocation
  let way ← wayOf invocation
  let mark ← markOf invocation
  let (alphabet, start) ← alphabetOf invocation
  let command := invocation.argument? "filter"
  let wanted := match way with
    | .parts wanted _ | .lineParts wanted _ | .turns wanted _ => wanted
    | _ => none
  if wanted.isSome && command.isSome then
    Act.refuse 1 "--filter does not process a chunk extracted to stdout".toList
  if let .lines 0 := way then Act.refuse 1 "invalid number of lines: '0'".toList
  let first := Numeral.valueOf 10 (start.getD [])
  let needed := match way.count? with
    | some count => placesFor alphabet.length (if first < count then count + first else count)
    | none => 0
  if length != 0 && length < needed then
    Act.die 1 ("the suffix length needs to be at least ".toList ++ decimal needed)
  let places := if length != 0 then length else max 2 needed
  if let _ :: _ :: extra :: _ := invocation.operands then Act.refuseExtra 1 extra
  if places < (start.getD []).length then
    Act.refuse 1 "numerical suffix start value is too large for the suffix length".toList
  let path := invocation.operands[0]?.getD ['-']
  if path != ['-'] then
    let opened : Except OsError Nat ← Act.ask (.openFile path .reading)
    match opened with
    | .error reason =>
      Act.die 1 ("cannot open ".toList ++ quotedWord path ++ " for reading: ".toList ++ reason.description)
    | .ok descriptor => do
      let _ ← Act.ask (.duplicate descriptor 0)
      Act.ask (.close descriptor)
  if command.isSome then Act.ask (.react Machine.brokenPipeSignal .ignored)
  let started := List.replicate (places - (start.getD []).length) 0 ++
    (start.getD []).map fun c => (alphabet.idxOf? c).getD 0
  let names : Names := {
    base := invocation.operands[1]?.getD ['x'], alphabet, ending, places := started
    grows := start.isNone && way.count?.isNone && length == 0 }
  let plan : Plan := { way, mark, elides := invocation.has "e", command, tells := invocation.has "verbose" }
  plan.run names { descriptor := 0, path }

/-- The programs of this kind. -/
def splittingTools : List (String × Utility) :=
  [("split", split)]

end AnswerQuery.Host.Tool
