import AnswerQuery.Host.Tool.Amount

/-! What is known about the machine, its users and its terminal. -/

namespace AnswerQuery.Host.Tool

namespace Surroundings

/-- What the machine tells about itself: the letter and the word of the option that asks for it, and the answer. -/
def facts : List (String × String × String) := [
  ("s", "kernel-name", "Linux"),
  ("n", "nodename", "localhost"),
  ("r", "kernel-release", "6.1.0"),
  ("v", "kernel-version", "#1 SMP"),
  ("m", "machine", "x86_64"),
  ("p", "processor", "unknown"),
  ("i", "hardware-platform", "unknown"),
  ("o", "operating-system", "GNU/Linux")]

/-- What the machine tells about one thing. -/
def fact (key : String) : Raw :=
  ((facts.find? fun known => known.1 == key).map fun known => known.2.2.toList).getD []

/-- The name of the user. -/
def user : Raw := "user".toList

/-- The number of the user. -/
def userNumber : Nat := 1000

/-- How many processors there are. -/
def processors : Nat := 4

/-- Refuse operands. -/
def withoutOperands (status : Nat) (invocation : Invocation) : Act Unit := do
  if let some extra := invocation.operands.head? then Act.refuseExtra status extra

/-- A program that writes a line and has neither options nor operands. -/
def teller (line : Raw) : Utility := ofAct fun arguments => do
  withoutOperands 1 (← Act.readOptions 1 [] false arguments)
  Act.sayLine line

/-- A number of threads that a variable tells. -/
def threads? (bindings : List (Raw × Raw)) (name : String) : Option Nat :=
  (bindings.lookup name.toList).bind fun text =>
    let text := text.dropWhile Raw.isSpace
    let digits := text.takeWhile Char.isDigit
    let rest := (text.drop digits.length).dropWhile Raw.isSpace
    if digits.isEmpty || !(rest.isEmpty || rest.head? == some ',') then none
    else some (Numeral.valueOf 10 digits)

end Surroundings

open Surroundings in
/-- Tell about the machine. -/
def uname : Utility := ofAct fun arguments => do
  let known := ⟨"a", "all", .nothing⟩ :: facts.map fun fact => ⟨fact.1, fact.2.1, .nothing⟩
  let invocation ← Act.readOptions 1 (known ++ [⟨"s", "sysname", .nothing⟩, ⟨"r", "release", .nothing⟩]) false arguments
  withoutOperands 1 invocation
  let wanted := facts.filter fun fact =>
    if invocation.has "a" then fact.2.2 != "unknown" else invocation.has fact.1
  let told := if wanted.isEmpty then facts.take 1 else wanted
  Act.sayLine ([' '].intercalate (told.map fun fact => fact.2.2.toList))

open Surroundings in
/-- Tell how many processors there are. -/
def nproc : Utility := ofAct fun arguments => do
  let known : List Known := [⟨"all", "all", .nothing⟩, ⟨"ignore", "ignore", .always⟩]
  let invocation ← Act.readOptions 1 known false arguments
  let less ← match invocation.argument? "ignore" with
    | none => pure 0
    | some text => Int.toNat <$> Act.amount 1 "invalid number" {} 0 (Int.ofNat (Numeral.wordCount - 1)) text
  withoutOperands 1 invocation
  let bindings : List (Raw × Raw) ← Act.ask .bindings
  let count :=
    if invocation.has "all" then processors
    else
      let limit := (threads? bindings "OMP_THREAD_LIMIT").filter (· != 0)
      let count := ((threads? bindings "OMP_NUM_THREADS").filter (· != 0)).getD processors
      min count (limit.getD count)
  Act.sayLine (decimal (max 1 (count - less)))

open Surroundings in
/-- Tell the terminal. -/
def tty : Utility := ofAct fun arguments => do
  let known : List Known := [⟨"s", "silent", .nothing⟩, ⟨"s", "quiet", .nothing⟩]
  let invocation ← Act.readOptions 2 known false arguments
  modify fun output => { output with outputStatus := 3 }
  withoutOperands 2 invocation
  if !invocation.has "s" then Act.sayLine "not a tty".toList
  Act.fail 1

open Surroundings in
/-- Tell the login name of the user, who has not logged in. -/
def logname : Utility := ofAct fun arguments => do
  withoutOperands 1 (← Act.readOptions 1 [] false arguments)
  Act.die 1 "no login name".toList

/-- The programs of this kind. -/
def surroundingTools : List (String × Utility) :=
  [("arch", Surroundings.teller (Surroundings.fact "m")), ("logname", logname), ("nproc", nproc), ("tty", tty),
    ("uname", uname), ("whoami", Surroundings.teller Surroundings.user)]

end AnswerQuery.Host.Tool
