import AnswerQuery.Text.Basic

/-! How a process ends. -/

namespace AnswerQuery

/-- How a process ended. -/
inductive ExitStatus where
  /-- With a code of its own. -/
  | exited (code : Nat)
  /-- By a signal, which may have left a picture of its memory behind. -/
  | killed (signal : Nat) (dumped : Bool)
  deriving DecidableEq, Repr

namespace ExitStatus

/-- The names of the signals from the first on. -/
def signalNames : List Text :=
  ["HUP", "INT", "QUIT", "ILL", "TRAP", "ABRT", "BUS", "FPE", "KILL", "USR1", "SEGV", "USR2", "PIPE", "ALRM",
    "TERM", "STKFLT", "CHLD", "CONT", "STOP", "TSTP", "TTIN", "TTOU", "URG", "XCPU", "XFSZ", "VTALRM", "PROF",
    "WINCH", "IO", "PWR", "SYS"].map String.toList

/-- The name of a signal, if it has one. -/
def signalName? (number : Nat) : Option Text :=
  -- The first signal has the number one.
  if number = 0 then none else signalNames[number - 1]?

/-- Whether a process ended as it should. -/
def succeeded (status : ExitStatus) : Bool :=
  status == exited 0

/-- How a process ended, in words. -/
def message : ExitStatus → Text
  | exited code => "exit status: ".toList ++ decimal code
  | killed number dumped =>
    "signal: ".toList ++ decimal number ++
      (match signalName? number with
      | some name => " (SIG".toList ++ name ++ ")".toList
      | none => []) ++
      if dumped then " (core dumped)".toList else []

end ExitStatus

end AnswerQuery
