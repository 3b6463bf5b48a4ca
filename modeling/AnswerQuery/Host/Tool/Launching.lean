import AnswerQuery.Host.Tool.Amount
import AnswerQuery.Host.Tool.Environment

/-! Running programs in other circumstances: for a limited time, without a terminal, with less haste, with other buffers
or in a session of their own; and telling where programs are found. -/

namespace AnswerQuery.Host.Tool

namespace Launching

/-- Run a program in place of this one. -/
def runInstead {α : Type} (command : List Raw) (bindings : List (Raw × Raw)) : Act α := do
  Act.flush
  let reason ← StateT.lift (become command bindings)
  let name := command.head?.getD []
  Act.complain ("failed to run command ".toList ++ quoted name ++ ": ".toList ++ reason.description)
  Act.finish (statusOfRefusal reason)

/-- How a program is run for a limited time. -/
structure Limit where
  /-- The time, in milliseconds. -/
  time : Nat
  /-- The time after which it is killed then. -/
  later : Option Nat
  /-- The signal that it gets. -/
  signal : Nat
  /-- Whether signals are told. -/
  tells : Bool
  /-- Whether the status of the program counts even if its time is over. -/
  keepsStatus : Bool
  /-- Whether signals go to the program alone. -/
  isAlone : Bool

/-- The status after the program has ended, given whether its time was over. -/
def Limit.finish (limit : Limit) (status : ExitStatus) (isOver : Bool) : Act Unit := do
  let own : Nat ← Act.ask .identity
  match status, isOver with
  | .exited status, false => Act.finish status
  | .killed signal _, false => do
    let _ ← Act.ask (.send signal own)
    Act.finish (128 + signal)
  | .killed 9 _, true => do
    if !limit.isAlone then
      let _ ← Act.ask (.send 9 own)
    Act.finish 137
  | .killed signal _, true => Act.finish (if limit.keepsStatus then 128 + signal else 124)
  | .exited status, true => Act.finish (if limit.keepsStatus then status else 124)

/-- Run a program for a limited time. A second process watches the time, and writes to a pipe before it sends a
signal. -/
def Limit.run (limit : Limit) (command : List Raw) : Act Unit := do
  let bindings ← Act.bindings
  let name := (← get).name
  let shown := quoted (command.head?.getD [])
  let (reading, writing) : Nat × Nat ← Act.ask .makePipe
  let child ← Act.start do
    Job.call (.close reading)
    Job.call (.close writing)
    let reason ← become command bindings
    Job.complain (Raw.octets (name ++ ": failed to run command ".toList ++ shown ++ ": ".toList ++
      reason.description ++ ['\n']))
    pure (statusOfRefusal reason)
  if limit.time = 0 then
    let status ← Act.await child
    limit.finish status false
  else
    let send := fun (signal : Nat) => (do
      if limit.tells then
        Job.complain (Raw.octets (name ++ ": sending signal ".toList ++ Signal.fullName signal ++ " to command ".toList ++
          shown ++ ['\n']))
      let _ ← Job.call (.send signal child)
      pure () : Job Unit)
    let clock ← Act.start do
      Job.call (.pause limit.time)
      let _ : Except OsError Unit ← Job.call (.write writing [1])
      send limit.signal
      if let some more := limit.later then
        Job.call (.pause more)
        send 9
      pure 0
    Act.ask (.close writing)
    let status ← Act.await child
    let _ ← Act.ask (.send 9 clock)
    let _ ← Act.await clock
    let told : Except OsError Bytes ← Act.ask (.read reading 1)
    limit.finish status (told matches .ok (_ :: _))

/-- A time, or a complaint. -/
def timeOf (text : Raw) : Act Nat := do
  match milliseconds? text with
  | some time => pure time
  | none => Act.refuse 125 ("invalid time interval ".toList ++ quoted text)

/-- A buffer, as a text tells it: none, or of so many octets, or of one line. -/
def bufferOf (given : Given) : Act Raw := do
  let text := (given.argument.getD []).dropWhile Raw.isSpace
  if given.key == "i" && text.head? == some 'L' then Act.refuse 125 "line buffering stdin is meaningless".toList
  if text == ['L'] then pure text
  else match Amount.read { letters := "EGkKMPTYZ0" } text with
    | .ok size => pure (Numeral.ofInt size)
    | .error .beyond => Act.die 125 ("invalid mode ".toList ++ quoted text ++ ": Value too large for defined data type".toList)
    | .error _ => Act.die 125 ("invalid mode ".toList ++ quoted text)

/-- The library that changes the buffers of a program. -/
def bufferLibrary : Raw := "/usr/libexec/coreutils/libstdbuf.so".toList

/-- Whether an argument is an adjustment in the old way, a number behind a minus. -/
def isAdjustment : Raw → Bool
  | '-' :: sign :: c :: _ => sign.isDigit || ((sign == '-' || sign == '+') && c.isDigit)
  | ['-', c] => c.isDigit
  | _ => false

/-- Read an adjustment, the last one counts, and what follows. -/
def readAdjustment : Nat → Option Raw → List Raw → Act (Option Raw × List Raw)
  | 0, adjustment, arguments => pure (adjustment, arguments)
  | steps + 1, adjustment, arguments => do
    let first := arguments.head?.getD []
    if isAdjustment first then readAdjustment steps (some (first.drop 1)) (arguments.drop 1)
    else if first.head? != some '-' || first == ['-'] then pure (adjustment, arguments)
    else
      let known : List Known := [⟨"n", "adjustment", .always⟩]
      let result := if first == ['-', '-'] then .ok ([], arguments.drop 1)
        else if first.take 2 == ['-', '-'] then
          (Options.readWord known (first.drop 2) (arguments.drop 1)).map fun (one, others) => ([one], others)
        else Options.readLetters known (first.drop 1) (arguments.drop 1)
      match result with
      | .error message => Act.refuse 125 message
      | .ok ([], others) => pure (adjustment, others)
      | .ok (given, others) => readAdjustment steps ((given.getLast?.bind Given.argument).or adjustment) others

end Launching

open Launching in
/-- Run a program that may take so much time. -/
def timeout : Utility := ofAct fun arguments => do
  let known : List Known := [⟨"k", "kill-after", .always⟩, ⟨"s", "signal", .always⟩, ⟨"v", "verbose", .nothing⟩,
    ⟨"foreground", "foreground", .nothing⟩, ⟨"preserve-status", "preserve-status", .nothing⟩]
  let invocation ← Act.readOptions 125 known true arguments
  let later ← match invocation.argument? "k" with
    | some text => some <$> timeOf text
    | none => pure none
  let signal ← match invocation.argument? "s" with
    | none => pure 15
    | some text =>
      match Signal.ofOperand? text with
      | some signal => pure signal
      | none => Act.refuse 125 (quoted text ++ ": invalid signal".toList)
  match invocation.operands with
  | duration :: program :: operands => do
    let limit : Limit := {
      time := ← timeOf duration, later, signal, tells := invocation.has "v", keepsStatus := invocation.has "preserve-status"
      isAlone := invocation.has "foreground" }
    limit.run (program :: operands)
  | _ => do
    Act.report ("Try '".toList ++ (← get).name ++ " --help' for more information.\n".toList)
    Act.finish 125

open Launching in
/-- Run a program that goes on when its terminal is gone. -/
def nohup : Utility := ofAct fun arguments => do
  let invocation ← Act.readOptions 125 [] true arguments
  if invocation.operands.isEmpty then Act.refuse 125 "missing operand".toList
  Act.ask (.react 1 .ignored)
  let bindings ← Act.bindings
  runInstead invocation.operands bindings

open Launching in
/-- Run a program that leaves others more time. -/
def nice : Utility := ofAct fun arguments => do
  let (told, command) ← readAdjustment (arguments.length + 1) none arguments
  let adjustment ← match told with
    | none => pure 10
    | some text =>
      match Amount.read { signed := true } text with
      | .ok adjustment => pure (max (-39) (min 39 adjustment))
      | .error .beyond => pure (if text.head? == some '-' then -39 else 39)
      | .error _ => Act.die 125 ("invalid adjustment ".toList ++ quoted text)
  if command.isEmpty then
    if told.isSome then Act.refuse 125 "a command must be given with an adjustment".toList
    let now : Except OsError Int ← Act.ask (.yield 0)
    Act.sayLine (Numeral.ofInt (now.toOption.getD 0))
  else
    let result : Except OsError Int ← Act.ask (.yield adjustment)
    if let .error reason := result then Act.complain ("cannot set niceness: ".toList ++ reason.description)
    let bindings ← Act.bindings
    let reason ← StateT.lift (become command bindings)
    Act.complain (quoted (command.head?.getD []) ++ ": ".toList ++ reason.description)
    Act.finish (statusOfRefusal reason)

open Launching in
/-- Run a program whose standard streams are kept back more or less. -/
def stdbuf : Utility := ofAct fun arguments => do
  let known : List Known := [⟨"i", "input", .always⟩, ⟨"o", "output", .always⟩, ⟨"e", "error", .always⟩]
  let invocation ← Act.readOptions 125 known true arguments
  let mut buffers : List (String × Raw) := []
  for given in invocation.given do
    let buffer ← bufferOf given
    buffers := (given.key, buffer) :: buffers
  if invocation.operands.isEmpty then Act.refuse 125 "missing operand".toList
  if buffers.isEmpty then Act.refuse 125 "you must specify a buffering mode option".toList
  let mut bindings ← Act.bindings
  for key in ["i", "o", "e"] do
    if let some buffer := buffers.lookup key then
      bindings := Variables.with_ bindings ("_STDBUF_".toList ++ key.toList.map Char.toUpper) buffer
  let loaded := bindings.lookup "LD_PRELOAD".toList
  let library := match loaded with
    | some others => others ++ ':' :: bufferLibrary
    | none => bufferLibrary
  runInstead invocation.operands (Variables.with_ bindings "LD_PRELOAD".toList library)

/-- Run a program in a session of its own. -/
def setsid : Utility := ofAct fun arguments => do
  let known : List Known := [⟨"c", "ctty", .nothing⟩, ⟨"f", "fork", .nothing⟩, ⟨"w", "wait", .nothing⟩]
  let invocation ← Act.readOptions 1 known true arguments
  if invocation.operands.isEmpty then Act.refuse 1 "no command specified".toList
  let bindings ← Act.bindings
  let name := (← get).name
  let work : Job Nat := do
    if invocation.has "c" then
      Job.complain (Raw.octets (name ++ ": failed to set the controlling terminal: Inappropriate ioctl for device\n".toList))
      Job.exit 1
    let reason ← become invocation.operands bindings
    Job.complain (Raw.octets (name ++ ": failed to execute ".toList ++ invocation.operands.head?.getD [] ++ ": ".toList ++
      reason.description ++ ['\n']))
    pure (statusOfRefusal reason)
  if invocation.has "f" then
    let child ← Act.start work
    if invocation.has "w" then
      match ← Act.await child with
      | .exited status => Act.finish status
      | .killed _ _ => Act.finish 0
  else
    let status ← StateT.lift work
    Act.finish status

/-- Where the program is that tells where others are. -/
def whichPlace (name : Raw) : Raw :=
  if name.contains '/' then name else "/usr/bin/".toList ++ name

/-- Tell where programs are found. -/
def which : Utility := ofAct fun arguments => do
  let known : List Known := [⟨"a", "", .nothing⟩]
  let letters := (arguments.takeWhile fun argument => argument.head? == some '-' && 1 < argument.length &&
    argument != ['-', '-'])
  if let some wrong := (letters.flatMap (List.drop 1)).find? (· != 'a') then
    Act.report ("Illegal option -".toList ++ [wrong, '\n'])
    Act.sayLine ("Usage: ".toList ++ whichPlace (← get).name ++ " [-a] args".toList)
    Act.finish 2
  let invocation ← Act.readOptions 2 known true arguments
  let bindings ← Act.bindings
  let places := Raw.split ':' ((bindings.lookup "PATH".toList).getD Files.usualSearch)
  if invocation.operands.isEmpty then Act.fail 1
  for name in invocation.operands do
    let paths := if name.contains '/' then [name] else places.map fun place =>
      Machine.inDirectory name (if place.isEmpty then ['.'] else place)
    let mut found : List Raw := []
    for path in paths do
      let status : Except OsError Status ← Act.ask (.inspect path true)
      let allowed : Bool ← Act.ask (.allows path .execute)
      if allowed && (status.toOption.map fun status => status.kind == Kind.file).getD false then found := found ++ [path]
    if found.isEmpty then Act.fail 1
    for path in (if invocation.has "a" then found else found.take 1) do
      Act.sayLine path

/-- The programs of this kind. -/
def launchingTools : List (String × Utility) :=
  [("nice", nice), ("nohup", nohup), ("setsid", setsid), ("stdbuf", stdbuf), ("timeout", timeout),
    ("which.debianutils", which)]

end AnswerQuery.Host.Tool
