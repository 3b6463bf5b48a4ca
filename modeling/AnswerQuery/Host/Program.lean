import AnswerQuery.Host.Files
import AnswerQuery.System.ExitStatus

/-! Running programs, seen as the calls they make: a tree that branches on what each call is answered. -/

namespace AnswerQuery.Host

/-- What kind of thing a path leads to. -/
inductive Kind where
  | directory
  | file
  | link
  | device
  | channel
  deriving DecidableEq, Repr

/-- What a program is told about a node. -/
structure Status where
  /-- Its kind. -/
  kind : Kind
  /-- How many octets it has. -/
  size : Nat
  /-- Who may use it. -/
  mode : Nat
  /-- Whether it belongs to somebody else. -/
  foreign : Bool
  /-- Its number, if it has one. -/
  number : Option Nat
  /-- When its contents were changed. -/
  changed : Calendar.Moment := 0
  /-- When it was used. -/
  accessed : Calendar.Moment := 0
  /-- When anything about it was changed. -/
  altered : Calendar.Moment := 0
  /-- The device that it is, if it is one. -/
  device : Option Device := none
  deriving DecidableEq, Repr

/-- A time that a file is given. -/
inductive Stamp where
  /-- The one that it has. -/
  | kept
  /-- The time it is. -/
  | now
  | at (moment : Calendar.Moment)
  deriving DecidableEq, Repr

/-- What a program is told about one of its descriptors. -/
structure Described where
  /-- What it stands for. -/
  status : Status
  /-- Where the next octet is read or written, if there is such a place. -/
  position : Option Nat
  /-- Whether every write goes to the end. -/
  appends : Bool
  deriving DecidableEq, Repr

/-- What happens when a signal arrives. -/
inductive Reaction where
  /-- What usually happens. -/
  | usual
  | ignored
  /-- It is kept until the program asks for it. -/
  | caught
  deriving DecidableEq, Repr

/-- A call that a program makes. -/
inductive Request where
  /-- Read at most so many octets; no octets mean the end. -/
  | read (descriptor most : Nat)
  /-- Write octets. -/
  | write (descriptor : Nat) (octets : Bytes)
  /-- Go forward in a file by so many octets, or back if that is less than zero. -/
  | move (descriptor : Nat) (distance : Int)
  /-- Open a file; the answer is its descriptor. -/
  | openFile (path : Raw) (opening : Files.Opening)
  /-- Close a descriptor. -/
  | close (descriptor : Nat)
  /-- Let the second descriptor stand for what the first stands for. -/
  | duplicate (source target : Nat)
  /-- Make a pipe; the answer is its read end and its write end. -/
  | makePipe
  /-- Cut a file off behind so many octets, or fill it up. -/
  | resize (descriptor size : Nat)
  /-- Ask what a descriptor stands for. -/
  | describe (descriptor : Nat)
  /-- Become another program; there is an answer only if that fails. -/
  | execute (path : Raw) (arguments : List Raw) (bindings : List (Raw × Raw))
  /-- Wait until a process ends; a signal that is caught may come first. -/
  | wait (process : Nat) (interruptible : Bool)
  /-- Ask how a process has ended, if it has. -/
  | ended (process : Nat)
  /-- Send a signal to a process. -/
  | send (signal process : Nat)
  /-- Say what happens when a signal arrives. -/
  | react (signal : Nat) (reaction : Reaction)
  /-- Ask which signals are ignored. -/
  | ignored
  /-- Take the signals that were caught. -/
  | caught
  /-- Ask what a path leads to, a link at its end being followed or not. -/
  | inspect (path : Raw) (follow : Bool)
  /-- Ask how many names there are for what a path leads to. -/
  | links (path : Raw) (follow : Bool)
  /-- Ask whether what a path leads to may be used. -/
  | allows (path : Raw) (use : Use)
  /-- Ask for the names in a directory. -/
  | list (path : Raw)
  /-- Remove a file. -/
  | remove (path : Raw)
  /-- Remove an empty directory. -/
  | removeDirectory (path : Raw)
  /-- Make a directory. -/
  | makeDirectory (path : Raw) (mode : Nat)
  /-- Make a link to a path. -/
  | makeLink (target path : Raw)
  /-- Give a file a second name. -/
  | makeName (source path : Raw)
  /-- Make a pipe with a name. -/
  | makeChannel (path : Raw) (mode : Nat)
  /-- Ask for the path that a link stands for. -/
  | readLink (path : Raw)
  /-- Move a file. -/
  | rename (source target : Raw)
  /-- Change who may use a file. -/
  | setMode (path : Raw) (mode : Nat)
  /-- Set when a file was used and when it was changed, a link at the end of the path being followed or not. -/
  | touch (path : Raw) (follow : Bool) (accessed changed : Stamp)
  /-- Set when what a descriptor stands for was used and when it was changed. -/
  | touchOpen (descriptor : Nat) (accessed changed : Stamp)
  /-- Make a directory the working directory. -/
  | enter (path : Raw)
  /-- Ask for the working directory. -/
  | whereabouts
  /-- Ask for the number of the process. -/
  | identity
  /-- Ask for the number of the process that started this one. -/
  | parent
  /-- Ask for the environment variables. -/
  | bindings
  /-- Say which uses are not allowed of files that are made; the answer is what was said before. -/
  | setMask (mask : Nat)
  /-- Leave others more time, or less, which is not allowed; the answer tells how much is left to them then. -/
  | yield (more : Int)
  /-- Wait for so many milliseconds. -/
  | pause (milliseconds : Nat)
  /-- Ask how many milliseconds have passed since the beginning of 1970. -/
  | clock

/-- The least descriptor that is closed when a process becomes another program. -/
def firstPrivate : Nat := 100

/-- What a call is answered with. -/
def Request.Reply : Request → Type
  | read .. => Except OsError Bytes
  | write .. => Except OsError Unit
  | move .. => Except OsError Unit
  | openFile .. => Except OsError Nat
  | close .. => Unit
  | duplicate .. => Except OsError Unit
  | makePipe => Nat × Nat
  | resize .. => Except OsError Unit
  | describe .. => Except OsError Described
  | execute .. => OsError
  | wait .. => Except OsError ExitStatus
  | ended .. => Option ExitStatus
  | send .. => Except OsError Unit
  | react .. => Unit
  | ignored => List Nat
  | caught => List Nat
  | inspect .. => Except OsError Status
  | links .. => Nat
  | allows .. => Bool
  | list .. => Except OsError (List Raw)
  | remove .. => Except OsError Unit
  | removeDirectory .. => Except OsError Unit
  | makeDirectory .. => Except OsError Unit
  | makeLink .. => Except OsError Unit
  | makeName .. => Except OsError Unit
  | makeChannel .. => Except OsError Unit
  | readLink .. => Except OsError Raw
  | rename .. => Except OsError Unit
  | setMode .. => Except OsError Unit
  | touch .. => Except OsError Unit
  | touchOpen .. => Except OsError Unit
  | enter .. => Except OsError Unit
  | whereabouts => Raw
  | identity => Nat
  | parent => Nat
  | bindings => List (Raw × Raw)
  | setMask .. => Nat
  | yield .. => Except OsError Int
  | pause .. => Unit
  | clock => Nat

/-- A program that is running: what it does next, and how it goes on after the answer. -/
inductive Program where
  /-- It ends. -/
  | ended (code : Nat)
  /-- It makes a call. -/
  | call (request : Request) (next : request.Reply → Program)
  /-- It starts a process that runs beside it, and is told its number. -/
  | fork (child : Program) (next : Nat → Program)

/-- A part of a program that leads to a value, as what becomes of the program once the value is known. -/
def Job (α : Type) : Type := (α → Program) → Program

namespace Job

instance : Monad Job where
  pure value := fun next => next value
  bind first second := fun next => first (fun value => second value next)

/-- Make a call. -/
def call (request : Request) : Job request.Reply := fun next => .call request next

/-- Start a process that runs beside this one. -/
def fork (child : Program) : Job Nat := fun next => .fork child next

/-- End the program here. -/
def exit {α : Type} (code : Nat) : Job α := fun _ => .ended code

/-- A job as a whole program, which ends with the code it leads to. -/
def toProgram (job : Job Nat) : Program := job .ended

/-- How often a program repeats something at most; no run that ends comes near it. -/
def patience : Nat := 1000000000

/-- Repeat a step on a state until it leads to a result. -/
def iterate {σ α : Type} (exhausted : Job α) (step : σ → Job (σ ⊕ α)) : Nat → σ → Job α
  | 0, _ => exhausted
  | times + 1, state => do
    match ← step state with
    | .inl state => iterate exhausted step times state
    | .inr result => pure result

/-- Repeat a step on a state until it leads to a result, with patience. -/
def loop {σ α : Type} (state : σ) (step : σ → Job (σ ⊕ α)) : Job α :=
  iterate (exit 1) step patience state

/-- How many octets are read at once if nothing else is said. -/
def chunk : Nat := 65536

/-- Everything that a descriptor still gives. -/
def readAll (descriptor : Nat) : Job (Except OsError Bytes) :=
  loop ([] : List Bytes) fun chunks => do
    match ← call (.read descriptor chunk) with
    | .error reason => pure (.inr (.error reason))
    | .ok [] => pure (.inr (.ok chunks.reverse.flatten))
    | .ok octets => pure (.inl (octets :: chunks))

/-- Write octets to the standard error. -/
def complain (octets : Bytes) : Job Unit := do
  let _ ← call (.write 2 octets)

end Job

end AnswerQuery.Host
