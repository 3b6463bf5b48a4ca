import AnswerQuery.Host.Numeral
import AnswerQuery.Host.Program

/-! What programs have in common that work on texts: what they write, and how they complain. -/

namespace AnswerQuery.Host.Tool

/-- What a program has in mind about its output. -/
structure Output where
  /-- The name it is called by. -/
  name : Raw
  /-- What has been written to the standard output and not yet been passed on, the last piece first. -/
  pieces : List Bytes := []
  /-- How many octets that are. -/
  size : Nat := 0
  /-- The status it ends with if nothing else is said. -/
  status : Nat := 0
  /-- The status it ends with if its output cannot be written. -/
  outputStatus : Nat := 1
  /-- How it complains about that. -/
  complaint : OsError → Raw := fun reason => "write error: ".toList ++ reason.description

/-- What a program does. -/
abbrev Act := StateT Output Job

/-- A program, given the name it is called by and its arguments. -/
abbrev Utility := Raw → List Raw → Job Nat

namespace Act

/-- Make a call. -/
def ask (request : Request) : Act request.Reply :=
  StateT.lift (Job.call request)

/-- End the program as it is, without what has not been passed on. -/
def abandon {α : Type} (status : Nat) : Act α :=
  StateT.lift (Job.exit status)

/-- Write to the standard error. -/
def report (text : Raw) : Act Unit :=
  StateT.lift (Job.complain (Raw.octets text))

/-- Pass on what has been written. -/
def flush : Act Unit := do
  let output ← get
  if output.size != 0 then
    set { output with pieces := [], size := 0 }
    let result : Except OsError Unit ← ask (.write 1 output.pieces.reverse.flatten)
    if let .error reason := result then
      report (output.name ++ ": ".toList ++ output.complaint reason ++ ['\n'])
      abandon output.outputStatus

/-- Complain with the name of the program, after all has been passed on that was written before. -/
def complain (message : Raw) : Act Unit := do
  flush
  let output ← get
  report (output.name ++ ": ".toList ++ message ++ ['\n'])

/-- How many octets are kept before they are passed on. -/
def bufferSize : Nat := 4096

/-- Write octets to the standard output. -/
def put (octets : Bytes) : Act Unit := do
  if !octets.isEmpty then
    modify fun output => { output with pieces := octets :: output.pieces, size := output.size + octets.length }
    if bufferSize ≤ (← get).size then flush

/-- Write to the standard output. -/
def say (text : Raw) : Act Unit :=
  put (Raw.octets text)

/-- Write a line to the standard output. -/
def sayLine (text : Raw) : Act Unit :=
  say (text ++ ['\n'])

/-- Remember that something went wrong. -/
def fail (status : Nat) : Act Unit :=
  modify fun output => { output with status }

/-- End the program after all has been passed on. -/
def finish {α : Type} (status : Nat) : Act α := do
  flush
  abandon status

/-- Complain and end the program. -/
def die {α : Type} (status : Nat) (message : Raw) : Act α := do
  complain message
  finish status

/-- Complain about the arguments and end the program. -/
def refuse {α : Type} (status : Nat) (message : Raw) : Act α := do
  complain message
  let output ← get
  report ("Try '".toList ++ output.name ++ " --help' for more information.\n".toList)
  finish status

/-- Repeat a step on a value until it leads to a result. -/
def loop {σ α : Type} (start : σ) (step : σ → Act (σ ⊕ α)) : Act α := fun output =>
  Job.loop (start, output) fun (value, output) => do
    match ← step value output with
    | (.inl value, output) => pure (.inl (value, output))
    | (.inr result, output) => pure (.inr (result, output))

end Act

/-- A program made of what it does with its arguments. -/
def ofAct (act : List Raw → Act Unit) : Utility := fun name arguments => do
  let work : Act Nat := do
    act arguments
    Act.flush
    let output ← get
    pure output.status
  let (status, _) ← work { name }
  pure status

end AnswerQuery.Host.Tool
