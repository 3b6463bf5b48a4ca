import AnswerQuery.Host.Conversion
import AnswerQuery.Host.Packing.Member
import AnswerQuery.Host.Tool.Options
import AnswerQuery.Host.Tool.Path
import AnswerQuery.Host.Tool.Time

/-! Making files smaller, and making them what they were. -/

namespace AnswerQuery.Host.Tool

namespace Shrinking

/-- The options that are known. -/
def known : List Known :=
  [⟨"a", "ascii", .nothing⟩, ⟨"c", "to-stdout", .nothing⟩, ⟨"c", "stdout", .nothing⟩, ⟨"d", "decompress", .nothing⟩,
    ⟨"d", "uncompress", .nothing⟩, ⟨"f", "force", .nothing⟩, ⟨"h", "help", .nothing⟩, ⟨"k", "keep", .nothing⟩,
    ⟨"l", "list", .nothing⟩, ⟨"L", "license", .nothing⟩, ⟨"n", "no-name", .nothing⟩, ⟨"N", "name", .nothing⟩,
    ⟨"q", "quiet", .nothing⟩, ⟨"q", "silent", .nothing⟩, ⟨"synchronous", "synchronous", .nothing⟩,
    ⟨"r", "recursive", .nothing⟩, ⟨"S", "suffix", .always⟩, ⟨"t", "test", .nothing⟩, ⟨"v", "verbose", .nothing⟩,
    ⟨"V", "version", .nothing⟩, ⟨"1", "fast", .nothing⟩, ⟨"9", "best", .nothing⟩, ⟨"Z", "lzw", .nothing⟩,
    ⟨"b", "bits", .always⟩, ⟨"rsyncable", "rsyncable", .nothing⟩, ⟨"m", "", .nothing⟩, ⟨"M", "", .nothing⟩] ++
  (List.range 7).map fun number => ⟨toString (number + 2), "", .nothing⟩

/-- What is to be done. -/
structure Plan where
  /-- Whether files become what they were. -/
  unpacks : Bool := false
  /-- Whether everything goes to the standard output. -/
  toOutput : Bool := false
  /-- Whether files stay beside what is made of them. -/
  keeps : Bool := false
  /-- Whether it is done in spite of doubts. -/
  force : Bool := false
  /-- Whether files are only listed. -/
  lists : Bool := false
  /-- Whether files are only tried. -/
  tests : Bool := false
  /-- Whether more is told. -/
  verbose : Bool := false
  /-- Whether less is told. -/
  quiet : Bool := false
  /-- Whether directories are gone through. -/
  recursive : Bool := false
  /-- Whether names matter, if that is told. -/
  names : Option Bool := none
  /-- Whether times matter, if that is told. -/
  times : Option Bool := none
  /-- What the names of packed files end with. -/
  ending : Raw := ".gz".toList
  /-- How hard it is tried. -/
  level : Nat := 6

namespace Plan

/-- Whether names matter. -/
def usesNames (plan : Plan) : Bool := plan.names.getD (!plan.unpacks)

/-- Whether times matter. -/
def usesTimes (plan : Plan) : Bool := plan.times.getD (!plan.unpacks)

end Plan

/-- What has been listed. -/
structure Tally where
  /-- Whether anything has been. -/
  begun : Bool := false
  /-- How many octets the files have. -/
  packed : Nat := 0
  /-- How many octets they had. -/
  unpacked : Nat := 0
  /-- How many octets in the last file are not packed ones. -/
  frame : Nat := 0

/-- An activity that remembers what has been listed. -/
abbrev Work := StateT Tally Act

/-- Complain about arguments and end the program. -/
def refuse {α : Type} (message : Raw) : Act α := do
  Act.complain message
  Act.report ("Try \x60gzip --help' for more information.\n".toList)
  Act.finish 1

/-- Say something, and remember that something is not as it should be. -/
def warn (plan : Plan) (message : Raw) : Act Unit := do
  if !plan.quiet then Act.report message
  if (← get).status = 0 then Act.fail 2

/-- Say something about a file, and remember that something is not as it should be. -/
def warnAbout (plan : Plan) (path : Raw) (what : String) : Act Unit := do
  let name := (← get).name
  warn plan (name ++ ": ".toList ++ path ++ what.toList ++ ['\n'])

/-- Say what went wrong with a file. -/
def complainAbout (path : Raw) (message : Raw) : Act Unit := do
  Act.report ((← get).name ++ ": ".toList ++ path ++ message ++ ['\n'])
  Act.fail 1

/-- Say, on a line of its own, what went wrong with a file. -/
def complainApart (path : Raw) (message : String) : Act Unit := do
  Act.report ('\n' :: (← get).name ++ ": ".toList ++ path ++ ": ".toList ++ message.toList ++ ['\n'])
  Act.fail 1

/-- Say why something cannot be done with a file. -/
def complainFor (path : Raw) (reason : OsError) : Act Unit :=
  complainAbout path (": ".toList ++ reason.description)

/-- Where octets go, and how what has been made is removed if there is no use for it. -/
structure Target where
  /-- The descriptor. -/
  descriptor : Nat
  /-- The path, if it is not the standard output. -/
  path : Option Raw

/-- Remove what has been made. -/
def Target.discard (target : Target) : Act Unit := do
  if let some path := target.path then
    let _ ← Act.remove path

/-- Remove what has been made, and end the program. -/
def quit {α : Type} (target : Target) : Act α := do
  target.discard
  Act.finish 1

/-- Write octets. -/
def write (target : Target) (octets : Bytes) : Act Unit := do
  if !octets.isEmpty then
    let result : Except OsError Unit ← Act.ask (.write target.descriptor octets)
    if let .error reason := result then
      Act.report ('\n' :: (← get).name ++ ": ".toList ++ target.path.getD "stdout".toList ++ ": ".toList ++
        reason.description ++ ['\n'])
      quit target

/-- What becomes of packed octets. -/
structure Result where
  /-- Whether it is all as it should be. -/
  isGood : Bool
  /-- Whether the last member is known to be the last. -/
  isWhole : Bool := true
  /-- How many octets the last member had. -/
  size : Nat := 0
  /-- The sum of the last member. -/
  sum : Nat := 0
  /-- How many octets are not packed ones. -/
  frame : Nat := 0

/-- Say what is wrong with the front of a member. -/
def complainFront (shown : Raw) (target : Target) : Packing.FrontFault → Act Unit
  | .short => do
    complainApart shown "unexpected end of file"
    quit target
  | .missing => complainApart shown "not in gzip format"
  | .method number => complainAbout shown (": unknown method ".toList ++ decimal number ++ " -- not supported".toList)
  | .ciphered => complainAbout shown " is encrypted -- not supported".toList
  | .flags number => complainAbout shown (" has flags 0x".toList ++ Numeral.inBase 16 number ++ " -- not supported".toList)

/-- Unpack a member whose front ends at a place: the place behind it, if it is as it should be. -/
def unpackMember (plan : Plan) (shown : Raw) (target : Target) (octets : Array UInt8) (place : Nat) :
    Act (Option Nat × Nat × Nat) := do
  let outcome := Packing.Member.unpack octets place
  if !plan.tests && !plan.lists then write target outcome.octets
  let broken := fun (what : String) => complainApart shown ("invalid compressed data--" ++ what)
  match outcome.result with
  | .ok next => pure (some next, outcome.octets.length, outcome.sum)
  | .error (.packed .short) => do
    complainApart shown "unexpected end of file"
    quit target
  | .error (.packed .broken) => do
    broken "format violated"
    quit target
  | .error (.checked isSum isLength) => do
    if !isSum then broken "crc error"
    if !isLength then broken "length error"
    if !plan.tests then quit target
    pure (none, outcome.octets.length, outcome.sum)

/-- Unpack the members that follow the first one from a place on. -/
def unpackOthers (plan : Plan) (shown : Raw) (target : Target) (octets : Array UInt8) : Nat → Nat → Result → Act Result
  | 0, _, result => pure result
  | steps + 1, place, result => do
    if octets.size ≤ place then pure result
    else
      let result := { result with frame := 0 }
      match Packing.Member.readFront octets place with
      | .ok (_, next) => do
        let (next, size, sum) ← unpackMember plan shown target octets next
        match next with
        | none => pure { result with isGood := false }
        | some next => unpackOthers plan shown target octets steps next { result with size, sum }
      | .error .missing => do
        if plan.force && plan.toOutput && !plan.lists then
          write target (octets.extract place octets.size).toList
          pure result
        else if (octets.extract place octets.size).all (· == 0) then
          if plan.verbose then
            warn plan ('\n' :: (← get).name ++ ": ".toList ++ shown ++
              ": decompression OK, trailing zero bytes ignored\n".toList)
          pure { result with isWhole := false }
        else do
          warn plan ('\n' :: (← get).name ++ ": ".toList ++ shown ++ ": decompression OK, trailing garbage ignored\n".toList)
          pure { result with isWhole := false }
      | .error fault => do
        complainFront shown target fault
        pure { result with isGood := false }

/-- Unpack octets whose front has been read and ends at a place. -/
def unpack (plan : Plan) (shown : Raw) (target : Target) (octets : Array UInt8) (place : Nat) : Act Result := do
  let (next, size, sum) ← unpackMember plan shown target octets place
  match next with
  | none => pure { isGood := false }
  | some next =>
    unpackOthers plan shown target octets (octets.size + 1) next { isGood := true, size, sum, frame := place + 8 }

/-- What part of a number is gained, in hundredths. -/
def ratio (gained : Int) (whole : Nat) : Raw :=
  let value := if whole = 0 then Floating.finite false 0 0
    else (Floating.nearest .double (decide (gained < 0)) (100 * gained.natAbs) whole).1
  ({ letter := 'f', width := 5, precision := some 1 } : Conversion).floating .double value ++ ['%']

/-- How wide numbers are in a list. -/
def columnWidth : Nat := 19

/-- A number in a list. -/
def column (text : Raw) : Raw :=
  ({ width := columnWidth } : Conversion).text text ++ [' ']

/-- What takes the place of what is told more. -/
def blankFront : Raw := List.replicate 28 ' '

/-- List a file. -/
def list (plan : Plan) (name : Raw) (moment : Calendar.Moment) (packed : Nat) (result : Result) : Work Unit := do
  let tally ← get
  if !tally.begun then
    if plan.verbose then Act.say "method  crc     date  time  ".toList
    if !plan.quiet then
      Act.sayLine (column "compressed".toList ++ column "uncompressed".toList ++ " ratio uncompressed_name".toList)
  set ({ begun := true, packed := tally.packed + packed, unpacked := tally.unpacked + result.size, frame := result.frame } : Tally)
  if plan.verbose then
    let zone ← Act.zone
    let digits := Numeral.inBase 16 result.sum
    Act.say ("defla ".toList ++ List.replicate (8 - digits.length) '0' ++ digits ++ [' '] ++
      (zone.shown moment).inForm "%b %e %H:%M ".toList)
  Act.sayLine (column (decimal packed) ++ column (decimal result.size) ++
    ratio (Int.ofNat result.size - (Int.ofNat packed - Int.ofNat result.frame)) result.size ++ ' ' :: name)

/-- List all files together. -/
def listTotals (plan : Plan) : Work Unit := do
  let tally ← get
  if tally.packed != 0 && tally.unpacked != 0 then
    if plan.verbose then Act.say blankFront
    Act.sayLine (column (decimal tally.packed) ++ column (decimal tally.unpacked) ++
      ratio (Int.ofNat tally.unpacked - (Int.ofNat tally.packed - Int.ofNat tally.frame)) tally.unpacked ++
      " (totals)".toList)

/-- The seconds that a front can tell. -/
def secondsOf (moment : Calendar.Moment) : Nat :=
  let seconds := Calendar.Moment.seconds moment
  if seconds < 0 || 4294967295 < seconds then 0 else seconds.toNat

/-- Read all that a descriptor gives, or end the program. -/
def readInput (shown : Raw) (descriptor : Nat) : Act Bytes := do
  let octets : Except OsError Bytes ← StateT.lift (Job.readAll descriptor)
  match octets with
  | .ok octets => pure octets
  | .error reason => do
    Act.report ('\n' :: (← get).name ++ ": ".toList ++ shown ++ ": ".toList ++ reason.description ++ ['\n'])
    Act.finish 1

/-- Work on the standard input. -/
def treatInput (plan : Plan) : Work Unit := do
  let described : Except OsError Described ← Act.ask (.describe 0)
  let shown := "stdin".toList
  let target : Target := ⟨1, none⟩
  match described with
  | .error reason => do
    complainFor "standard input".toList reason
    Act.finish 1
  | .ok described => do
    let isFile := described.status.kind == .file
    if plan.unpacks then
      let octets := (← readInput shown 0).toArray
      match Packing.Member.readFront octets 0 with
      | .ok (front, place) => do
        let moment := if plan.usesTimes && front.changed != 0 then Calendar.Moment.ofSeconds (Int.ofNat front.changed)
          else if isFile then described.status.changed else 0
        let result ← unpack { plan with toOutput := true } shown target octets place
        if plan.lists then
          if result.isGood && result.isWhole then list plan "stdout".toList moment octets.size result
        else if result.isGood && result.isWhole && plan.verbose then
          if plan.tests then Act.report " OK\n".toList
      | .error fault => do
        if fault == .missing || (fault == .short && octets.size < 2) then
          if plan.force && !plan.lists then
            write target octets.toList
            return
        complainFront shown target fault
        Act.finish 1
    else
      let octets ← readInput shown 0
      let changed := if plan.usesTimes && isFile then secondsOf described.status.changed else 0
      let packed := Packing.Member.pack plan.level { changed } octets
      write target packed
      if plan.verbose then
        let gained := Int.ofNat octets.length - (Int.ofNat packed.length - 18)
        Act.report (ratio gained octets.length ++ ['\n'])

/-- The endings of packed files that are known. -/
def endings (plan : Plan) : List Raw :=
  plan.ending :: [".gz", ".z", ".taz", ".tgz", "-gz", "-z", "_z"].map String.toList

/-- The ending of a packed file. -/
def endingOf? (plan : Plan) (path : Raw) : Option Raw :=
  let lower := path.map Char.toLower
  ((endings plan).find? fun ending =>
    ending.length < path.length && ending.isSuffixOf lower &&
      lower[path.length - ending.length - 1]? != some '/').map fun ending => path.drop (path.length - ending.length)

/-- The path of what is made of a file, if something can be. -/
def targetPath? (plan : Plan) (path : Raw) : Act (Option Raw) := do
  let talks := plan.verbose || (!plan.recursive && !plan.quiet)
  match endingOf? plan path, plan.unpacks with
  | none, true => do
    if !plan.recursive && (plan.lists || plan.tests) then pure (some path)
    else
      if talks then warnAbout plan path ": unknown suffix -- ignored"
      pure none
  | some ending, true =>
    let bare := path.take (path.length - ending.length)
    let whole := ending.map Char.toLower
    pure (some (if whole == ".tgz".toList || whole == ".taz".toList then bare ++ ".tar".toList else bare))
  | some ending, false =>
    if plan.force then pure (some (path ++ plan.ending))
    else
      if talks then
        Act.report ((← get).name ++ ": ".toList ++ path ++ " already has ".toList ++ ending ++
          " suffix -- unchanged\n".toList)
      pure none
  | none, false => pure (some (path ++ plan.ending))

/-- The path of a file that is named, with an ending if the file is not there without one, and what it leads to. -/
def locate (plan : Plan) (name : Raw) : Act (Raw × Except OsError Status) := do
  let follows := plan.toOutput || plan.force
  let found ← Act.inspect name follows
  let missing := match found with
    | .error .noEntry => true
    | _ => false
  if !missing || !plan.unpacks || (endingOf? plan name).isSome then pure (name, found)
  else
    let tried := (plan.ending :: [".gz", ".z", "-z", ".Z"].map String.toList).map (name ++ ·)
    let rec try_ : List Raw → Act (Raw × Except OsError Status)
      | [] => pure (name ++ plan.ending, .error .noEntry)
      | path :: others => do
        match ← Act.inspect path follows with
        | .error .noEntry => try_ others
        | result => pure (path, result)
    try_ tried

/-- Make the file that is written, which must not be there. -/
def create (plan : Plan) (path : Raw) : Act (Option Target) := do
  let opening : Files.Opening := { writes := true, creates := true, exclusive := true, mode := 0o600 }
  let result : Except OsError Nat ← Act.ask (.openFile path opening)
  match result with
  | .ok descriptor => pure (some ⟨descriptor, some path⟩)
  | .error .alreadyThere => do
    if plan.force then
      if let some reason ← Act.remove path then
        complainFor path reason
        pure none
      else
        let result : Except OsError Nat ← Act.ask (.openFile path opening)
        match result with
        | .ok descriptor => pure (some ⟨descriptor, some path⟩)
        | .error reason => do
          complainFor path reason
          pure none
    else
      Act.report ((← get).name ++ ": ".toList ++ path ++ " already exists;\tnot overwritten\n".toList)
      if (← get).status = 0 then Act.fail 2
      pure none
  | .error reason => do
    complainFor path reason
    pure none

/-- Why a file is left alone. -/
def doubt? (plan : Plan) (status : Status) (links : Nat) : Option String :=
  let has := fun (bit : Nat) => status.mode / bit % 2 == 1
  if status.kind != .file then some " is not a directory or a regular file - ignored"
  else if has 0o4000 then some " is set-user-ID on execution - ignored"
  else if has 0o2000 then some " is set-group-ID on execution - ignored"
  else if plan.force then none
  else if has 0o1000 then some " has the sticky bit set - file ignored"
  else if 2 ≤ links then
    some (" has " ++ toString (links - 1) ++ (if links = 2 then " other link" else " other links") ++ " -- file ignored")
  else none

/-- Finish a file: what was made becomes like what it was made of, which goes if it is not kept. -/
def settle (plan : Plan) (path : Raw) (status : Status) (moment : Calendar.Moment) (target : Target) : Act Unit := do
  if let some made := target.path then
    let _ ← Act.setMode made status.mode
    let _ ← Act.touch made true (.at status.accessed) (.at moment)
    Act.ask (.close target.descriptor)
    if !plan.keeps then
      if let some reason ← Act.remove path then
        warnAbout plan path (": " ++ String.ofList reason.description)

/-- Pack a file whose octets are known. -/
def packFile (plan : Plan) (path made : Raw) (status : Status) (octets : Bytes) : Act Unit := do
  let target ← if plan.toOutput then pure (some ⟨1, none⟩) else create plan made
  if let some target := target then
    if plan.verbose then Act.report (path ++ ":\t".toList)
    let name := if plan.usesNames then some (Path.lastName path) else none
    let changed := if plan.usesTimes then secondsOf status.changed else 0
    let packed := Packing.Member.pack plan.level { name, changed } octets
    write target packed
    settle plan path status status.changed target
    if plan.verbose then
      let frame := 18 + (match name with
        | some name => name.length + 1
        | none => 0)
      let gained := Int.ofNat octets.length - (Int.ofNat packed.length - Int.ofNat frame)
      let what := if plan.toOutput then [] else
        (if plan.keeps then " -- created " else " -- replaced with ").toList ++ made
      Act.report (ratio gained octets.length ++ what ++ ['\n'])

/-- Unpack a file whose octets are known. -/
def unpackFile (plan : Plan) (path made : Raw) (status : Status) (octets : Array UInt8) : Work Unit := do
  let nothing : Target := ⟨1, none⟩
  match Packing.Member.readFront octets 0 with
  | .error fault => do
    if plan.force && plan.toOutput && !plan.lists && (fault == .missing || (fault == .short && octets.size < 2)) then
      write nothing octets.toList
    else complainFront path nothing fault
  | .ok (front, place) => do
    let named := if plan.toOutput && !plan.lists then none else if plan.usesNames then front.name else none
    let made := match named with
      | some name => made.take (made.length - (Path.lastName made).length) ++ Path.lastName name
      | none => made
    let moment := if plan.usesTimes && front.changed != 0 then Calendar.Moment.ofSeconds (Int.ofNat front.changed)
      else status.changed
    if plan.lists then
      let result ← unpack plan path nothing octets place
      if result.isGood && result.isWhole then list plan made moment octets.size result
    else
      let target ← if plan.toOutput then pure (some nothing) else create plan made
      if let some target := target then
        if plan.verbose then Act.report (path ++ ":\t".toList)
        let result ← unpack plan path target octets place
        if !result.isGood then target.discard
        else
          settle plan path status moment target
          if plan.verbose then
            if plan.tests then Act.report " OK\n".toList
            else
              let gained := Int.ofNat result.size - (Int.ofNat octets.size - Int.ofNat result.frame)
              Act.report (ratio gained result.size ++
                (if plan.keeps then " -- created " else " -- replaced with ").toList ++ made ++ ['\n'])

/-- Work on a file that is named, and on all in it if it is a directory, to a depth. -/
def treat (plan : Plan) : Nat → Raw → Work Unit
  | 0, _ => pure ()
  | depth + 1, name => do
    if name == ['-'] then treatInput plan
    else
      let (path, found) ← locate plan name
      match found with
      | .error reason => complainFor path reason
      | .ok status =>
        let readable : Bool ← Act.ask (.allows path .read)
        if status.kind == .link then complainFor path .tooManyLinks
        else if !readable then complainFor path .noAccess
        else if status.kind == .directory then
          if !plan.recursive then warnAbout plan path " is a directory -- ignored"
          else
            match ← Act.names path with
            | .error reason => complainFor path reason
            | .ok names =>
              for entry in names do
                treat plan depth (Path.beneath path entry)
        else
          let links : Nat ← Act.ask (.links path true)
          match if plan.toOutput then none else doubt? plan status links with
          | some doubt =>
            warnAbout plan path doubt
          | none => do
            let made ← if plan.toOutput && !plan.lists && !plan.tests then pure (some "stdout".toList)
              else targetPath? plan path
            if let some made := made then
              match ← Act.readFile path with
              | .error reason => complainFor path reason
              | .ok octets =>
                if plan.unpacks then unpackFile plan path made status octets.toArray
                else packFile plan path made status octets

/-- How deep directories are gone through at most. -/
def depth : Nat := 256

/-- The plan with one more option. -/
def withOption (plan : Plan) (given : Given) : Act Plan := do
  match given.key, given.argument with
  | "b", some bits =>
    if bits.all Char.isDigit then pure plan else refuse "-b operand is not an integer".toList
  | "a", _ => do
    if !plan.quiet then Act.complain "option --ascii ignored on this system".toList
    pure plan
  | "c", _ => pure { plan with toOutput := true }
  | "d", _ => pure { plan with unpacks := true }
  | "f", _ => pure { plan with force := true }
  | "k", _ => pure { plan with keeps := true }
  | "l", _ => pure { plan with lists := true, unpacks := true, toOutput := true }
  | "n", _ => pure { plan with names := some false, times := some false }
  | "N", _ => pure { plan with names := some true, times := some true }
  | "m", _ => pure { plan with times := some false }
  | "M", _ => pure { plan with times := some true }
  | "q", _ => pure { plan with quiet := true, verbose := false }
  | "r", _ => pure { plan with recursive := true }
  | "S", some ending =>
    if ending.isEmpty || 30 < ending.length then Act.die 1 ("invalid suffix '".toList ++ ending ++ ['\''])
    else pure { plan with ending }
  | "t", _ => pure { plan with tests := true, unpacks := true, toOutput := true }
  | "v", _ => pure { plan with verbose := true, quiet := false }
  | key, _ => match key.toList with
    | [digit] => pure (if digit.isDigit then { plan with level := Numeral.digitValue digit } else plan)
    | _ => pure plan

end Shrinking

/-- Make files smaller, or what they were, starting from a plan. -/
def shrink (plan : Shrinking.Plan) : Utility := fun _ arguments =>
  let act : List Raw → Act Unit := fun arguments => do
    match Options.readArguments Shrinking.known false (arguments.length + 1) arguments with
    | .error message => Shrinking.refuse message
    | .ok invocation => do
      let plan ← invocation.given.foldlM Shrinking.withOption plan
      let work : Shrinking.Work Unit := do
        if invocation.operands.isEmpty then Shrinking.treatInput plan
        else invocation.operands.forM (Shrinking.treat plan Shrinking.depth)
        if plan.lists && !plan.quiet && 1 < invocation.operands.length then Shrinking.listTotals plan
      let _ ← work.run {}
  ofAct act "gzip".toList arguments

/-- The programs of this kind. -/
def shrinkingTools : List (String × Utility) :=
  [("gzip", shrink {}), ("gunzip", shrink { unpacks := true }), ("uncompress", shrink { unpacks := true }),
    ("zcat", shrink { unpacks := true, toOutput := true })]

end AnswerQuery.Host.Tool
