import AnswerQuery.Host.Script.Signal
import AnswerQuery.Host.Tool.Child
import AnswerQuery.Host.Tool.Source

/-! Running a program again and again with arguments that are read from the standard input, as many at once as fit. -/

namespace AnswerQuery.Host.Tool

namespace Batches

/-- How arguments are read and what is done with them. -/
structure Plan where
  /-- The program and the arguments that it always has. -/
  command : List Raw := []
  /-- The character that ends arguments, if blanks and quotes mean nothing. -/
  delimiter : Option Char := none
  /-- The argument that ends the input. -/
  stop : Option Raw := none
  /-- What arguments stand in place of, if each line makes a run of its own. -/
  mark : Option Raw := none
  /-- How many lines make a run. -/
  lines : Option Nat := none
  /-- How many arguments make a run. -/
  count : Option Nat := none
  /-- How many octets a run has at most, with one behind each argument. -/
  longest : Nat := 131072
  /-- Whether it is a failure that arguments do not fit. -/
  exits : Bool := false
  /-- Whether runs are shown. -/
  shows : Bool := false
  /-- Whether it is asked before each run. -/
  asks : Bool := false
  /-- Whether the program is not run without arguments. -/
  needsArguments : Bool := false
  /-- Whether the program reads from the terminal. -/
  opensTerminal : Bool := false
  /-- Whether the program reads what is left of the standard input. -/
  keepsInput : Bool := false
  /-- The variable that tells which place a run has among those that go on at once. -/
  slot : Option Raw := none

/-- How many octets the program and the arguments have that it always has. -/
def Plan.fixedSize (plan : Plan) : Nat :=
  (plan.command.map fun word => word.length + 1).foldl (· + ·) 0

/-- How long an argument can be while it is read. -/
def Plan.room (plan : Plan) : Nat :=
  plan.longest - (if plan.mark.isSome then 0 else plan.fixedSize) - 1

/-- The input, as far as it has been read. -/
structure Feed where
  /-- Where it comes from. -/
  source : Source
  /-- The character that was read last. -/
  previous : Option Char := none
  /-- Whether the argument is the first one of its line. -/
  isFirst : Bool := true
  /-- Whether nothing more is read. -/
  isOver : Bool := false
  /-- Whether it has been told that zeros cannot be passed on. -/
  hasWarned : Bool := false
  /-- The process that runs the program, and what the program is called. -/
  running : Option (Nat × Raw) := none

/-- What was found in the input. -/
inductive Found where
  /-- An argument; the flag tells whether its line ends with it. -/
  | argument (text : Raw) (endsLine : Bool)
  /-- The end of the input. -/
  | nothing
  /-- Something that makes no sense. -/
  | flaw (message : Raw)

/-- What the next character means. -/
inductive Mode where
  /-- Blanks are passed over. -/
  | between
  /-- It belongs to an argument. -/
  | inside
  /-- It belongs to an argument up to a quote. -/
  | quoted (quote : Char)
  /-- It belongs to an argument whatever it is. -/
  | literal
  deriving DecidableEq

/-- An argument that has begun: its characters, the last one first, and how many they are. -/
structure Begun where
  /-- The characters. -/
  text : Raw := []
  /-- How many they are. -/
  size : Nat := 0
  /-- Whether there were quotes. -/
  isQuoted : Bool := false

/-- The argument that has begun. -/
def Begun.argument (begun : Begun) : Raw :=
  begun.text.reverse.takeWhile (· != '\x00')

/-- The next character of the input, if there is one. -/
def nextCharacter (feed : Feed) : Act (Option Char × Feed) := do
  let taken := fun (feed : Feed) =>
    match feed.source.rest with
    | c :: rest => some (c, { feed with source := { feed.source with rest }, previous := some c })
    | [] => none
  match taken feed with
  | some (c, feed) => pure (some c, feed)
  | none =>
    if feed.source.isOver then pure (none, feed)
    else do
      let source ← feed.source.feed
      let feed := { feed with source }
      match taken feed with
      | some (c, feed) => pure (some c, feed)
      | none => pure (none, feed)

/-- The sentence about a quote without an end. -/
def unmatched (quote : Char) : Raw :=
  "unmatched ".toList ++ (if quote == '"' then "double" else "single").toList ++
    " quote; by default quotes are special to xargs unless you use the -0 option".toList

/-- The sentence about an argument that is too long. -/
def tooLong : Raw := "argument line too long".toList

/-- Whether a character ends an argument on a line. -/
def isBlank (c : Char) : Bool :=
  c == ' ' || c == '\t'

/-- Note a zero, which cannot be passed on. -/
def warn (feed : Feed) (c : Char) : Act Feed := do
  if c == '\x00' && !feed.hasWarned then
    Act.complain ("WARNING: a NUL character occurred in the input.  It cannot be passed through in the argument list.  " ++
      "Did you mean to use the --null option?").toList
    pure { feed with hasWarned := true }
  else pure feed

/-- What an argument of the input is, given whether it ends its line; the one that ends the input is none. -/
def arrived (plan : Plan) (feed : Feed) (text : Raw) (endsLine : Bool) : Found × Feed :=
  if plan.stop == some text then (.nothing, { feed with isOver := true })
  else (.argument text endsLine, { feed with isFirst := endsLine })

/-- The next argument of an input in which blanks separate arguments, unless each line is one. -/
def nextWord (plan : Plan) (feed : Feed) : Act (Found × Feed) :=
  Act.loop (feed, Mode.between, ({} : Begun)) fun (feed, mode, begun) => do
    let before := feed.previous
    let (next, feed) ← nextCharacter feed
    match next with
    | none => do
      let feed := { feed with isOver := true }
      let text := begun.argument
      if begun.text.isEmpty then pure (.inr (Found.nothing, feed))
      else if let .quoted quote := mode then pure (.inr (.flaw (unmatched quote), feed))
      else if feed.isFirst && plan.stop == some text then pure (.inr (.nothing, feed))
      else pure (.inr (.argument text false, feed))
    | some c => do
      let kept := fun (feed : Feed) (mode : Mode) =>
        if plan.room ≤ begun.size then (.inr (Found.flaw tooLong, feed) : (Feed × Mode × Begun) ⊕ (Found × Feed))
        else .inl (feed, mode, { begun with text := c :: begun.text, size := begun.size + 1 })
      match mode with
      | .literal => pure (kept feed .inside)
      | .quoted quote =>
        if c == '\n' then pure (.inr (.flaw (unmatched quote), feed))
        else if c == quote then pure (.inl (feed, .inside, begun))
        else pure (kept feed mode)
      | _ =>
        if mode == .between && Raw.isSpace c then pure (.inl (feed, .between, begun))
        else
          let feed ← warn feed c
          if c == '\n' then
            if begun.text.isEmpty && !begun.isQuoted then pure (.inl (feed, .between, begun))
            else pure (.inr (arrived plan feed begun.argument !(before.map isBlank).getD false))
          else if plan.mark.isNone && isBlank c then pure (.inr (arrived plan feed begun.argument false))
          else if c == '\\' then pure (.inl (feed, .literal, begun))
          else if c == '"' || c == '\'' then pure (.inl (feed, .quoted c, { begun with isQuoted := true }))
          else pure (kept feed .inside)

/-- The next argument of an input in which a character ends every argument. -/
def nextPiece (plan : Plan) (delimiter : Char) (feed : Feed) : Act (Found × Feed) :=
  Act.loop (feed, ({} : Begun)) fun (feed, begun) => do
    let (next, feed) ← nextCharacter feed
    match next with
    | none => do
      let feed := { feed with isOver := true }
      pure (.inr (if begun.text.isEmpty then .nothing else .argument begun.argument false, feed))
    | some c =>
      if c == delimiter then pure (.inr (.argument begun.argument true, feed))
      else if plan.room ≤ begun.size then pure (.inr (.flaw tooLong, feed))
      else pure (.inl (feed, { begun with text := c :: begun.text, size := begun.size + 1 }))

/-- The next argument. -/
def next (plan : Plan) (feed : Feed) : Act (Found × Feed) := do
  if feed.isOver then pure (.nothing, feed)
  else match plan.delimiter with
    | some delimiter => nextPiece plan delimiter feed
    | none => nextWord plan feed

/-- The arguments that have been collected for a run. -/
structure Batch where
  /-- The arguments, the last one first. -/
  arguments : List Raw := []
  /-- How many they are. -/
  count : Nat := 0
  /-- How many octets the run has with them. -/
  size : Nat
  /-- How many lines have ended. -/
  lines : Nat := 0
  /-- Whether the program has been run. -/
  hasRun : Bool := false

/-- End the program; what has been read and not been used is given back. That a run has failed before is told by the
status whatever happens. -/
def leave {α : Type} (feed : Feed) (status : Nat) (message : Option Raw) : Act α := do
  feed.source.giveBack
  if let some message := message then Act.complain message
  if let some (process, _) := feed.running then
    let _ ← Act.await process
  let failed := (← get).status
  Act.finish (if failed = 0 then status else failed)

/-- Wait for the run that goes on, and end the program because of how that went. -/
def settle (feed : Feed) : Act Feed := do
  let settled := { feed with running := none }
  match feed.running with
  | none => pure feed
  | some (process, program) =>
    match ← Act.await process with
    | .exited 0 => pure settled
    | .exited 255 => leave settled 124 (some (program ++ ": exited with status 255; aborting".toList))
    | .exited _ => do
      Act.fail 123
      pure settled
    | .killed signal _ => leave settled 125 (some (program ++ ": terminated by signal ".toList ++ decimal signal))

/-- Let the standard input be the terminal, or end the program. -/
def openTerminal : Job Nat := do
  let result : Except OsError Nat ← Job.call (.openFile "/dev/tty".toList .reading)
  match result with
  | .ok _ => pure 0
  | .error reason => do
    Job.complain (Raw.octets ("xargs: '/dev/tty': ".toList ++ reason.description ++
      "\nxargs: xargs.c:1605: wait_for_proc_all: Assertion \x60getpid () == parent' failed.\n".toList))
    let own : Nat ← Job.call .identity
    let _ ← Job.call (.send 6 own)
    pure 0

/-- Start a run; the answer tells its process, or how the program could not be run. -/
def start (plan : Plan) (words : List Raw) : Act (Except Nat Nat) := do
  let usual ← Act.bindings
  let bindings := match plan.slot with
    | some name => (usual.filter fun pair => pair.1 != name) ++ [(name, ['0'])]
    | none => usual
  let name := (← get).name
  -- The program that is run does not keep the end that tells that it could not be run.
  let (reading, writing) : Nat × Nat ← Act.ask .makePipe
  let child ← Act.start do
    Job.call (.close reading)
    let told := firstPrivate
    let _ ← Job.call (.duplicate writing told)
    Job.call (.close writing)
    if !plan.keepsInput then
      Job.call (.close 0)
      if plan.opensTerminal then
        let _ ← openTerminal
      else
        let _ ← Job.call (.openFile "/dev/null".toList .reading)
    let reason ← become words bindings
    let program := words.head?.getD []
    Job.complain (Raw.octets (name ++ ": ".toList ++ program ++ ": ".toList ++ reason.description ++ ['\n']))
    let status := statusOfRefusal reason
    let _ : Except OsError Unit ← Job.call (.write told [UInt8.ofNat status])
    pure status
  Act.ask (.close writing)
  let told : Except OsError Bytes ← Act.ask (.read reading 1)
  Act.ask (.close reading)
  match told with
  | .ok (octet :: _) => do
    let _ ← Act.await child
    pure (.error octet.toNat)
  | _ => pure (.ok child)

/-- Run the program once no other run goes on. -/
def run (plan : Plan) (feed : Feed) (words : List Raw) : Act Feed := do
  Act.flush
  let feed ← settle feed
  if plan.shows || plan.asks then
    Act.report ([' '].intercalate (words.map wordFor) ++ (if plan.asks then [] else ['\n']))
  if plan.asks then
    let result : Except OsError Nat ← Act.ask (.openFile "/dev/tty".toList .reading)
    if let .error reason := result then
      leave feed 1 (some ("failed to open /dev/tty for reading: ".toList ++ reason.description))
  match ← start plan words with
  | .error status => leave feed status none
  | .ok process => pure { feed with running := some (process, words.head?.getD []) }

/-- Run the program with the arguments that have been collected. -/
def runBatch (plan : Plan) (feed : Feed) (batch : Batch) : Act (Feed × Batch) := do
  let feed ← run plan feed (plan.command ++ batch.arguments.reverse)
  pure (feed, { size := plan.fixedSize, hasRun := true })

/-- Collect an argument; the program is run as soon as there are enough. -/
def push (plan : Plan) (feed : Feed) (batch : Batch) (text : Raw) : Act (Feed × Batch) := do
  let more := text.length + 1
  let (feed, batch) ←
    if batch.size + more ≤ plan.longest then pure (feed, batch)
    else if batch.count = 0 then leave feed 1 (some "cannot fit single argument within argument list size limit".toList)
    else if plan.exits && (plan.lines.isSome || plan.count.isSome) then leave feed 1 (some "argument list too long".toList)
    else runBatch plan feed batch
  let batch := { batch with arguments := text :: batch.arguments, count := batch.count + 1, size := batch.size + more }
  if plan.count == some batch.count then runBatch plan feed batch else pure (feed, batch)

/-- Run the program with arguments from the input. -/
def collect (plan : Plan) (feed : Feed) : Act Unit := do
  if plan.longest < plan.fixedSize then
    leave feed 1 (some "cannot fit single argument within argument list size limit".toList)
  let start : Batch := { size := plan.fixedSize }
  Act.loop (feed, start) fun (feed, batch) => do
    let (found, feed) ← next plan feed
    match found with
    | .nothing => do
      let runs := batch.count != 0 || (!batch.hasRun && !plan.needsArguments)
      let (feed, _) ← if runs then runBatch plan feed batch else pure (feed, batch)
      let feed ← settle feed
      feed.source.giveBack
      pure (.inr ())
    | .flaw message => do
      let (feed, _) ← if batch.count != 0 && !plan.exits then runBatch plan feed batch else pure (feed, batch)
      leave feed 1 (some message)
    | .argument text endsLine => do
      let (feed, batch) ← push plan feed batch text
      let batch := if endsLine then { batch with lines := batch.lines + 1 } else batch
      match plan.lines with
      | some most =>
        if endsLine && most ≤ batch.lines then
          let next ← runBatch plan feed batch
          pure (.inl next)
        else pure (.inl (feed, batch))
      | none => pure (.inl (feed, batch))

/-- A word with a line in place of each mark, given how many octets there may be; none if there are more. Every step
deals with one mark. -/
def inserted? (mark line : Raw) : Nat → Nat → Raw → Option Raw
  | 0, _, rest => if rest.isEmpty then some [] else none
  | steps + 1, left, rest =>
    match Raw.cutAt? mark rest with
    | none => if left ≤ rest.length then none else some rest
    | some (front, back) =>
      if left ≤ front.length + line.length then none
      else if back.isEmpty then some (front ++ line)
      else (inserted? mark line steps (left - front.length - line.length) back).map fun others => front ++ line ++ others

/-- Run the program once for every line, which stands in place of marks among the words. -/
def replace (plan : Plan) (mark : Raw) (feed : Feed) : Act Unit :=
  Act.loop feed fun feed => do
    let (found, feed) ← next plan feed
    match found with
    | .nothing => do
      let feed ← settle feed
      feed.source.giveBack
      pure (.inr ())
    | .flaw message => leave feed 1 (some message)
    | .argument text _ => do
      let words := (plan.command.drop 1).map fun word =>
        if word.isEmpty then some [] else inserted? mark text word.length (plan.longest - 1) word
      if words.any Option.isNone then leave feed 1 (some "command too long".toList)
      let words := plan.command.take 1 ++ words.filterMap id
      if plan.longest < (words.map fun word => word.length + 1).foldl (· + ·) 0 then
        leave feed 1 (some "argument list too long".toList)
      let feed ← run plan feed words
      pure (.inl feed)

/-- The character that a text tells for the end of arguments, or the sentence about what is wrong with it. -/
def delimiterOf (text : Raw) : Except Raw Char := do
  let wrong : Except Raw Char := throw ("Invalid input delimiter specification ".toList ++ text ++
    ": the delimiter must be either a single character or an escape sequence starting with \\.".toList)
  let invalid := fun (why : Raw) =>
    (throw ("Invalid escape sequence ".toList ++ text ++ " in input delimiter specification".toList ++ why) : Except Raw Char)
  let ofDigits := fun (base greatest : Nat) (digits : Raw) =>
    let front := Numeral.readFront base digits
    if greatest < front.value.toNat then
      invalid ("; character values must not exceed ".toList ++ Numeral.inBase base greatest ++ ['.'])
    else if !front.rest.isEmpty then invalid ("; trailing characters ".toList ++ front.rest ++ " not recognised.".toList)
    else pure (Char.ofNat front.value.toNat)
  match text with
  | [c] => pure c
  | ['\\', c] =>
    match [('a', '\x07'), ('b', '\x08'), ('f', '\x0c'), ('n', '\n'), ('r', '\r'), ('t', '\t'), ('v', '\x0b'),
        ('\\', '\\')].lookup c with
    | some character => pure character
    | none =>
      if c == 'x' then ofDigits 16 255 []
      else if c.isDigit then ofDigits 8 255 [c]
      else invalid ['.']
  | '\\' :: 'x' :: digits => ofDigits 16 255 digits
  | '\\' :: c :: digits => if c.isDigit then ofDigits 8 255 (c :: digits) else invalid ['.']
  | _ => wrong

/-- Complain about an option that another one takes the place of. -/
def exclude (option other : String) (isGiven : Bool) : Act Unit := do
  if isGiven then
    Act.complain ("warning: options ".toList ++ other.toList ++ " and ".toList ++ option.toList ++
      " are mutually exclusive, ignoring previous ".toList ++ other.toList ++ " value".toList)

/-- The number that an option was given; the last number is the least one. -/
def numberOf (given : Given) (least : Int) : Act Int := do
  let text := given.argument.getD []
  let front := Numeral.readFront 10 text
  if !front.found || !front.rest.isEmpty then
    Act.refuse 1 ("invalid number \"".toList ++ text ++ "\" for -".toList ++ given.key.toList ++ " option".toList)
  let message := "value ".toList ++ text ++ " for -".toList ++ given.key.toList ++ " option should be >= ".toList ++
    Numeral.ofInt least
  if front.value < least then
    if given.key == "s" then
      Act.complain message
      pure least
    else Act.refuse 1 message
  else pure front.value

/-- Take up an option. -/
def Plan.given (plan : Plan) (given : Given) : Act Plan := do
  let text := given.argument.getD []
  match given.key with
  | "0" => pure { plan with delimiter := some '\x00' }
  | "d" =>
    match delimiterOf text with
    | .ok delimiter => pure { plan with delimiter := some delimiter }
    | .error message => Act.die 1 message
  | "E" => pure { plan with stop := if text.isEmpty then none else some text }
  | "e" => pure { plan with stop := if text.isEmpty then none else some text }
  | "L" => do
    let lines ← numberOf given 1
    exclude "-L" "--max-args" plan.count.isSome
    exclude "-L" "--replace" plan.mark.isSome
    pure { plan with lines := some lines.toNat, count := none, mark := none }
  | "l" => do
    let lines ← if given.argument.isSome then numberOf given 1 else pure 1
    exclude "--max-lines/-l" "--max-args" plan.count.isSome
    exclude "--max-lines/-l" "--replace" plan.mark.isSome
    pure { plan with lines := some lines.toNat, count := none, mark := none }
  | "n" => do
    let count ← numberOf given 1
    exclude "--max-args/-n" "--max-lines" plan.lines.isSome
    if count = 1 && plan.mark.isSome then pure { plan with lines := none, count := none }
    else
      exclude "--max-args/-n" "--replace" plan.mark.isSome
      pure { plan with count := some count.toNat, lines := none, mark := none }
  | "s" => do
    let size ← numberOf given 1
    pure { plan with longest := size.toNat }
  | "P" => do
    let _ ← numberOf given 0
    pure plan
  | "t" => pure { plan with shows := true }
  | "p" => pure { plan with asks := true }
  | "x" => pure { plan with exits := true }
  | "o" => pure { plan with opensTerminal := true }
  | "r" => pure { plan with needsArguments := true }
  | "process-slot-var" => pure { plan with slot := some text }
  | key => do
    if key == "I" || key == "i" then
      exclude "--replace/-I/-i" "--max-args" plan.count.isSome
      exclude "--replace/-I/-i" "--max-lines" plan.lines.isSome
      pure { plan with mark := some (given.argument.getD "\x7b\x7d".toList), count := none, lines := none }
    else pure plan

/-- The options. -/
def known : List Known :=
  [⟨"0", "null", .nothing⟩, ⟨"a", "arg-file", .always⟩, ⟨"d", "delimiter", .always⟩, ⟨"E", "", .always⟩,
    ⟨"e", "eof", .maybe⟩, ⟨"I", "", .always⟩, ⟨"i", "replace", .maybe⟩, ⟨"L", "", .always⟩, ⟨"l", "max-lines", .maybe⟩,
    ⟨"n", "max-args", .always⟩, ⟨"o", "open-tty", .nothing⟩, ⟨"P", "max-procs", .always⟩, ⟨"p", "interactive", .nothing⟩,
    ⟨"process-slot-var", "process-slot-var", .always⟩, ⟨"r", "no-run-if-empty", .nothing⟩, ⟨"s", "max-chars", .always⟩,
    ⟨"t", "verbose", .nothing⟩, ⟨"x", "exit", .nothing⟩]

end Batches

open Batches in
/-- Run a program with arguments from the standard input. -/
def xargs : Utility := ofAct fun arguments => do
  let invocation ← Act.readOptions 1 known true arguments
  let mut wished : Plan := { command := if invocation.operands.isEmpty then ["echo".toList] else invocation.operands }
  for given in invocation.given do
    wished ← wished.given given
  let plan := wished
  if plan.stop.isSome && plan.delimiter.isSome then
    Act.complain "warning: the -E option has no effect if -0 or -d is used.\n".toList
  let path := (invocation.argument? "a").getD ['-']
  let opened ← Source.openAt path 4096
  match opened with
  | .error reason => Act.die 1 ("Cannot open input file ".toList ++ quotedWord path ++ ": ".toList ++ reason.description)
  | .ok source => do
    let feed : Feed := { source }
    let plan := { plan with
      keepsInput := path != ['-'], stop := if plan.delimiter.isSome then none else plan.stop
      exits := plan.exits || plan.mark.isSome || plan.lines.isSome }
    match plan.mark with
    | some mark => replace plan mark feed
    | none => collect plan feed

/-- The program that collects arguments. -/
def batchTools : List (String × Utility) :=
  [("xargs", xargs)]

end AnswerQuery.Host.Tool
