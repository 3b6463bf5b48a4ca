import AnswerQuery.Host.Tool.Options

/-! Copying block by block: from one place to another one, with conversions on the way. -/

namespace AnswerQuery.Host.Tool

namespace Blocks

/-- A number of blocks, or of octets. -/
structure Extent where
  /-- The number. -/
  count : Nat := 0
  /-- Whether octets are counted. -/
  ofOctets : Bool := false

/-- What is copied, and how. -/
structure Plan where
  /-- The file that is read, if it is not the standard input. -/
  input : Option Raw := none
  /-- The file that is written, if it is not the standard output. -/
  output : Option Raw := none
  /-- How many octets are read at once. -/
  inputBlock : Nat := 512
  /-- How many octets are written at once. -/
  outputBlock : Nat := 512
  /-- How many octets are read and written at once, if that is the same. -/
  block : Option Nat := none
  /-- How long lines are where they become blocks. -/
  line : Nat := 0
  /-- What is passed over of the input. -/
  skipped : Extent := {}
  /-- What is left alone of the output. -/
  kept : Extent := {}
  /-- What is copied, if not all. -/
  count : Option Extent := none
  /-- The conversions. -/
  conversions : List Raw := []
  /-- How the input is read. -/
  inputFlags : List Raw := []
  /-- How the output is written. -/
  outputFlags : List Raw := []
  /-- What is told about it. -/
  telling : Raw := []

namespace Plan

/-- Whether a conversion is wanted. -/
def converts (plan : Plan) (name : String) : Bool :=
  plan.conversions.contains name.toList

/-- The octets that an extent stands for where blocks have a size. -/
def octetsOf (extent : Extent) (flags : List Raw) (flag : String) (block : Nat) : Nat :=
  if extent.ofOctets || flags.contains flag.toList then extent.count else extent.count * block

/-- What the output is called. -/
def outputName (plan : Plan) : Raw :=
  plan.output.getD "standard output".toList

/-- What the input is called. -/
def inputName (plan : Plan) : Raw :=
  plan.input.getD "standard input".toList

end Plan

/-- The letters behind numbers, and what they multiply them by. -/
def factorOf? : Raw → Option (Nat × Raw)
  | 'c' :: rest => some (1, rest)
  | 'w' :: rest => some (2, rest)
  | 'b' :: rest => some (512, rest)
  | letter :: rest =>
    ([('k', 1), ('K', 1), ('M', 2), ('G', 3), ('T', 4), ('P', 5), ('E', 6), ('Z', 7), ('Y', 8)].lookup letter).map
      fun power => match rest with
        | 'i' :: 'B' :: after => (Nat.pow 1024 power, after)
        | 'B' :: after => (Nat.pow 1000 power, after)
        | _ => (Nat.pow 1024 power, rest)
  | [] => none

/-- The number that a text stands for, which may be a product. -/
def number? : Nat → Raw → Option Nat
  | 0, _ => none
  | steps + 1, text =>
    let text := text.dropWhile Raw.isSpace
    let text := if text.head? == some '+' then text.drop 1 else text
    let digits := text.takeWhile Char.isDigit
    let rest := text.drop digits.length
    if digits.isEmpty && (factorOf? rest).isNone then none
    else
      let value := if digits.isEmpty then 1 else Numeral.valueOf 10 digits
      let (value, rest) := match factorOf? rest with
        | some (factor, after) => (value * factor, after)
        | none => (value, rest)
      let rest := if rest.head? == some 'B' && !digits.isEmpty then rest.drop 1 else rest
      match rest with
      | [] => some value
      | 'x' :: more => (number? steps more).map fun other => value * other
      | _ => none

/-- The conversions that there are. -/
def knownConversions : List Raw :=
  ["ascii", "ebcdic", "ibm", "block", "unblock", "lcase", "ucase", "sparse", "swab", "sync", "excl", "nocreat",
    "notrunc", "noerror", "fdatasync", "fsync"].map String.toList

/-- The ways of reading and writing that there are. -/
def knownFlags : List Raw :=
  ["append", "binary", "cio", "direct", "directory", "dsync", "noatime", "nocache", "noctty", "nofollow", "nolinks",
    "nonblock", "sync", "text", "fullblock", "count_bytes", "skip_bytes", "seek_bytes"].map String.toList

/-- No number is as great as this one. -/
def greatest : Nat := 9223372036854775808

/-- Read names that commas separate, all of which have to be known. -/
def readNames (what : String) (known : List Raw) (text : Raw) : Act (List Raw) := do
  let names := Raw.split ',' text
  match names.find? fun name => !known.contains name with
  | some name => Act.refuse 1 (what.toList ++ ": ".toList ++ quoted name)
  | none => pure names

/-- Take an operand. -/
def readOperand (plan : Plan) (operand : Raw) : Act Plan := do
  let name := operand.takeWhile (· != '=')
  let text := operand.drop (name.length + 1)
  if name.length == operand.length then Act.refuse 1 ("unrecognized operand ".toList ++ quoted operand)
  let extent := fun (count : Nat) => ({ count, ofOctets := text.contains 'B' } : Extent)
  let numeric := fun (least : Nat) (place : Nat → Plan) => do
    if "0x".toList.isPrefixOf text then
      Act.complain "warning: '0x' is a zero multiplier; use '00x' if that is intended".toList
    match (number? (text.length + 1) text).filter (least ≤ ·) with
    | none => Act.die 1 ("invalid number: ".toList ++ quoted text)
    | some count =>
      if count < greatest then pure (place count)
      else Act.die 1 ("invalid number: ".toList ++ quoted text ++ ": Value too large for defined data type".toList)
  match String.ofList name with
  | "if" => pure { plan with input := some text }
  | "of" => pure { plan with output := some text }
  | "conv" => do
    let names ← readNames "invalid conversion" knownConversions text
    pure { plan with conversions := plan.conversions ++ names }
  | "iflag" => do
    let names ← readNames "invalid input flag" (knownFlags.filter (· != "seek_bytes".toList)) text
    pure { plan with inputFlags := plan.inputFlags ++ names }
  | "oflag" => do
    let input := ["fullblock", "count_bytes", "skip_bytes"].map String.toList
    let names ← readNames "invalid output flag" (knownFlags.filter fun flag => !input.contains flag) text
    pure { plan with outputFlags := plan.outputFlags ++ names }
  | "status" =>
    if ["none", "noxfer", "progress"].map String.toList |>.contains text then pure { plan with telling := text }
    else Act.refuse 1 ("invalid status level: ".toList ++ quoted ((Raw.split ',' text).getLast?.getD []))
  | "ibs" => numeric 1 fun count => { plan with inputBlock := count }
  | "obs" => numeric 1 fun count => { plan with outputBlock := count }
  | "bs" => numeric 1 fun count => { plan with block := some count }
  | "cbs" => numeric 1 fun count => { plan with line := count }
  | "skip" => numeric 0 fun count => { plan with skipped := extent count }
  | "iseek" => numeric 0 fun count => { plan with skipped := extent count }
  | "seek" => numeric 0 fun count => { plan with kept := extent count }
  | "oseek" => numeric 0 fun count => { plan with kept := extent count }
  | "count" => numeric 0 fun count => { plan with count := some (extent count) }
  | _ => Act.refuse 1 ("unrecognized operand ".toList ++ quoted operand)

/-- A plan whose parts are consistent. -/
def settled (plan : Plan) : Act Plan := do
  let plan := match plan.block with
    | some block => { plan with inputBlock := block, outputBlock := block }
    | none => plan
  let plan := if plan.line = 0 then
      { plan with conversions := plan.conversions.filter fun name => name != "block".toList && name != "unblock".toList }
    else plan
  let combines := fun (names : List String) => 1 < (names.filter plan.converts).length
  if combines ["ascii", "ebcdic", "ibm"] then Act.die 1 "cannot combine any two of \x7bascii,ebcdic,ibm\x7d".toList
  for pair in [("block", "unblock"), ("lcase", "ucase"), ("excl", "nocreat")] do
    if combines [pair.1, pair.2] then Act.die 1 ("cannot combine ".toList ++ pair.1.toList ++ " and ".toList ++ pair.2.toList)
  pure plan

/-- How far the copying has come. -/
structure Progress where
  /-- How many whole blocks have been read. -/
  wholeRead : Nat := 0
  /-- How many parts of blocks have been read. -/
  partRead : Nat := 0
  /-- How many whole blocks have been written. -/
  wholeWritten : Nat := 0
  /-- How many parts of blocks have been written. -/
  partWritten : Nat := 0
  /-- How many octets have been written. -/
  written : Nat := 0
  /-- How many octets have been read. -/
  taken : Nat := 0
  /-- How many lines were too long. -/
  truncated : Nat := 0
  /-- What waits for being written. -/
  waiting : Bytes := []
  /-- The octet that waits for the one it changes places with. -/
  saved : Option UInt8 := none
  /-- The column in a line. -/
  column : Nat := 0
  /-- How many blanks have been passed over. -/
  blanks : Nat := 0

/-- Octets of which each pair has changed places, as far as there are pairs. -/
def swapped : Option UInt8 → Bytes → Bytes × Option UInt8
  | saved, [] => ([], saved)
  | none, octet :: rest => swapped (some octet) rest
  | some before, octet :: rest =>
    let (others, saved) := swapped none rest
    (octet :: before :: others, saved)

/-- The octets of lines as blocks of one length. -/
def blocked (line : Nat) : Progress → Bytes → Bytes × Progress
  | progress, [] => ([], progress)
  | progress, octet :: rest =>
    if octet == 10 then
      let (others, after) := blocked line { progress with column := 0 } rest
      (List.replicate (line - progress.column) 32 ++ others, after)
    else
      let next := { progress with
        column := progress.column + 1
        truncated := progress.truncated + (if progress.column = line then 1 else 0) }
      let (others, after) := blocked line next rest
      (if progress.column < line then octet :: others else others, after)

/-- The octets of blocks of one length as lines without the blanks behind them. -/
def unblocked (line : Nat) : Progress → Bytes → Bytes × Progress
  | progress, [] => ([], progress)
  | progress, octet :: rest =>
    let (front, column, blanks) := if line ≤ progress.column then ([10], 0, 0)
      else ([], progress.column, progress.blanks)
    let (shown, blanks) := if octet == 32 then ([], blanks + 1) else (List.replicate blanks 32 ++ [octet], 0)
    let (others, after) := unblocked line { progress with column := column + 1, blanks } rest
    (front ++ shown ++ others, after)

/-- An octet as the case of letters is wanted. -/
def lettered (plan : Plan) (octet : UInt8) : UInt8 :=
  if plan.converts "ucase" && 97 ≤ octet && octet ≤ 122 then octet - 32
  else if plan.converts "lcase" && 65 ≤ octet && octet ≤ 90 then octet + 32
  else octet

/-- Octets as they are to be written. -/
def convert (plan : Plan) (progress : Progress) (octets : Bytes) : Bytes × Progress :=
  let octets := if plan.converts "ucase" || plan.converts "lcase" then octets.map (lettered plan) else octets
  let (octets, progress) := if plan.converts "swab" then
      let (octets, saved) := swapped progress.saved octets
      (octets, { progress with saved })
    else (octets, progress)
  if plan.converts "block" then blocked plan.line progress octets
  else if plan.converts "unblock" then unblocked plan.line progress octets
  else (octets, progress)

/-- What is still to be written at the end. -/
def lastOctets (plan : Plan) (progress : Progress) : Bytes :=
  let swap := progress.saved.toList
  let (swap, progress) := convert { plan with conversions := plan.conversions.filter (· != "swab".toList) } progress swap
  swap ++ (if plan.converts "block" && 0 < progress.column then List.replicate (plan.line - progress.column) 32
    else if plan.converts "unblock" && 0 < progress.column then [10] else [])

/-- A number of octets with letters for powers of a base, rounded. -/
def scaled (base : Nat) (letters : List String) (count : Nat) : Raw :=
  let rec go : List String → Nat → Raw
    | [], unit => decimal (count / unit)
    | letter :: others, unit =>
      if count < unit * base || others.isEmpty then
        if unit = 1 then decimal count ++ ' ' :: letter.toList
        else
          let tenths := (count * 10 + unit / 2) / unit
          (if tenths < 100 then decimal (tenths / 10) ++ '.' :: decimal (tenths % 10)
            else decimal ((count + unit / 2) / unit)) ++ ' ' :: letter.toList
      else go others (unit * base)
  go letters 1

/-- Say how much has been copied. -/
def tell (plan : Plan) (progress : Progress) : Act Unit := do
  if plan.telling != "none".toList then
    let line := fun (whole part : Nat) (what : String) =>
      decimal whole ++ '+' :: decimal part ++ " records ".toList ++ what.toList ++ ['\n']
    Act.report (line progress.wholeRead progress.partRead "in" ++ line progress.wholeWritten progress.partWritten "out")
    if progress.truncated != 0 then
      Act.report (decimal progress.truncated ++
        (if progress.truncated = 1 then " truncated record\n" else " truncated records\n").toList)
    if plan.telling != "noxfer".toList then
      let count := progress.written
      let thousands := scaled 1000 ["B", "kB", "MB", "GB", "TB"] count
      let powers := scaled 1024 ["B", "KiB", "MiB", "GiB", "TiB"] count
      let shown := if count < 1000 then []
        else if count < 1024 then " (".toList ++ thousands ++ [')']
        else " (".toList ++ thousands ++ ", ".toList ++ powers ++ [')']
      Act.report (decimal count ++ (if count = 1 then " byte" else " bytes").toList ++ shown ++ " copied, 0.0001 s, ".toList ++
        scaled 1000 ["B", "kB", "MB", "GB", "TB"] (count * 10000) ++ "/s\n".toList)

/-- Say how much has been copied, and end. -/
def quit {α : Type} (plan : Plan) (progress : Progress) (status : Nat) : Act α := do
  tell plan progress
  Act.abandon status

/-- Write a block. -/
def writeBlock (plan : Plan) (descriptor : Nat) (verb : String) (progress : Progress) (octets : Bytes) : Act Progress := do
  let result : Except OsError Unit ← Act.ask (.write descriptor octets)
  match result with
  | .ok () =>
    let progress := { progress with written := progress.written + octets.length }
    pure (if octets.length = plan.outputBlock then { progress with wholeWritten := progress.wholeWritten + 1 }
      else { progress with partWritten := progress.partWritten + 1 })
  | .error reason => do
    Act.complain (verb.toList ++ ' ' :: quotedWord plan.outputName ++ ": ".toList ++ reason.description)
    quit plan progress 1

/-- Write the whole blocks of what waits. -/
def writeWhole (plan : Plan) (descriptor : Nat) : Nat → Progress → Act Progress
  | 0, progress => pure progress
  | steps + 1, progress =>
    if progress.waiting.length < plan.outputBlock then pure progress
    else do
      let block := progress.waiting.take plan.outputBlock
      let rest := progress.waiting.drop plan.outputBlock
      let progress ← writeBlock plan descriptor "writing to" { progress with waiting := rest } block
      writeWhole plan descriptor steps progress

/-- Read so many octets, fewer only at the end or if what comes first is enough. -/
def readBlock (descriptor : Nat) (whole : Bool) (most : Nat) : Act (Except OsError Bytes) :=
  Act.loop ([] : Bytes) fun before => do
    let result : Except OsError Bytes ← Act.ask (.read descriptor (most - before.length))
    match result with
    | .error reason => pure (.inr (.error reason))
    | .ok octets =>
      let all := before ++ octets
      pure (if whole && !octets.isEmpty && all.length < most then .inl all else .inr (.ok all))

/-- Read what is passed over; how many octets were missing. -/
def passOver (descriptor : Nat) (count : Nat) : Act Nat :=
  Act.loop count fun left => do
    if left = 0 then pure (.inr 0)
    else
      let result : Except OsError Bytes ← Act.ask (.read descriptor (min left 65536))
      match result with
      | .ok octets => pure (if octets.isEmpty then .inr left else .inl (left - octets.length))
      | .error _ => pure (.inr left)

/-- Open the file that is written, and go to where writing begins. -/
def openOutput (plan : Plan) : Act Nat := do
  let kept := Plan.octetsOf plan.kept plan.outputFlags "seek_bytes" plan.outputBlock
  let truncates := !plan.converts "notrunc"
  let descriptor ← match plan.output with
    | none => pure 1
    | some path => do
      let opening : Files.Opening := {
        writes := true, creates := !plan.converts "nocreat", exclusive := plan.converts "excl"
        empties := truncates && kept = 0, appends := plan.outputFlags.contains "append".toList }
      let result : Except OsError Nat ← Act.ask (.openFile path opening)
      match result with
      | .ok descriptor => pure descriptor
      | .error reason => Act.die 1 ("failed to open ".toList ++ quotedWord path ++ ": ".toList ++ reason.description)
  if 0 < kept then
    let told : Except OsError Described ← Act.ask (.describe descriptor)
    if let .ok told := told then
      let place := told.position.getD 0 + kept
      if truncates && plan.output.isSome then
        let _ ← Act.ask (.resize descriptor place)
      let _ ← Act.ask (.move descriptor (Int.ofNat kept))
  pure descriptor

/-- Copy blocks until the end, or as many as are wanted. -/
def copy (plan : Plan) (source target : Nat) : Act Progress :=
  let whole := plan.inputFlags.contains "fullblock".toList
  let ofOctets := (plan.count.map fun extent =>
    extent.ofOctets || plan.inputFlags.contains "count_bytes".toList).getD false
  let pad : UInt8 := if plan.converts "block" || plan.converts "unblock" then 32 else 0
  let isDirect := plan.block.isSome && !(["block", "unblock", "swab", "ucase", "lcase"].any plan.converts)
  Act.loop ({} : Progress) fun progress => do
    let most := match plan.count with
      | none => plan.inputBlock
      | some extent =>
        if ofOctets then min plan.inputBlock (extent.count - progress.taken)
        else if progress.wholeRead + progress.partRead < extent.count then plan.inputBlock else 0
    if most = 0 then return .inr progress
    match ← readBlock source whole most with
    | .error reason => do
      Act.complain ("error reading ".toList ++ quotedWord plan.inputName ++ ": ".toList ++ reason.description)
      Act.fail 1
      pure (.inr progress)
    | .ok [] => pure (.inr progress)
    | .ok octets => do
      let isWhole := octets.length = plan.inputBlock
      let progress := { progress with
        wholeRead := progress.wholeRead + (if isWhole then 1 else 0)
        partRead := progress.partRead + (if isWhole then 0 else 1)
        taken := progress.taken + octets.length }
      let octets := if plan.converts "sync" then
          octets ++ List.replicate (plan.inputBlock - octets.length) pad else octets
      if isDirect then
        let progress ← writeBlock plan target "error writing" progress octets
        pure (.inl progress)
      else
        let (octets, progress) := convert plan progress octets
        let waiting := progress.waiting ++ octets
        let progress ← writeWhole plan target (waiting.length + 1) { progress with waiting }
        pure (.inl progress)

end Blocks

/-- Copy a file block by block. -/
def dd : Utility := ofAct fun arguments => do
  let invocation ← Act.readOptions 1 [] false arguments
  let plan ← invocation.operands.foldlM Blocks.readOperand ({} : Blocks.Plan)
  let plan ← Blocks.settled plan
  let source ← match plan.input with
    | none => pure 0
    | some path => do
      let result : Except OsError Nat ← Act.ask (.openFile path .reading)
      match result with
      | .ok descriptor => pure descriptor
      | .error reason => Act.die 1 ("failed to open ".toList ++ quotedWord path ++ ": ".toList ++ reason.description)
  let target ← Blocks.openOutput plan
  let skipped := Blocks.Plan.octetsOf plan.skipped plan.inputFlags "skip_bytes" plan.inputBlock
  let missing ← Blocks.passOver source skipped
  if missing != 0 && plan.telling != "none".toList then
    Act.complain (quotedWord plan.inputName ++ ": cannot skip to specified offset".toList)
  let progress ← Blocks.copy plan source target
  let last := Blocks.lastOctets plan progress
  let waiting := progress.waiting ++ last
  let progress ← Blocks.writeWhole plan target (waiting.length + 1) { progress with waiting }
  let progress ← if progress.waiting.isEmpty then pure progress
    else Blocks.writeBlock plan target "error writing" { progress with waiting := [] } progress.waiting
  Blocks.tell plan progress

/-- The programs of this kind. -/
def blockTools : List (String × Utility) :=
  [("dd", dd)]

end AnswerQuery.Host.Tool
