import AnswerQuery.Host.Numeral

/-! Signals: their numbers, and what they are called. -/

namespace AnswerQuery.Host.Signal

/-- How many signals there are, with the number zero. -/
def count : Nat := 65

/-- The names of the signals from the first on; some have none. -/
def usualNames : List String :=
  ["HUP", "INT", "QUIT", "ILL", "TRAP", "ABRT", "BUS", "FPE", "KILL", "USR1", "SEGV", "USR2", "PIPE", "ALRM", "TERM",
    "16", "CHLD", "CONT", "STOP", "TSTP", "TTIN", "TTOU", "URG", "XCPU", "XFSZ", "VTALRM", "PROF", "WINCH", "IO", "PWR",
    "SYS", "32", "33"]

/-- The name of a signal; the number zero stands for the end of a shell. -/
def name (signal : Nat) : Raw :=
  if signal = 0 then "EXIT".toList
  else match usualNames[signal - 1]? with
    | some usual => usual.toList
    | none =>
      if signal = 34 then "RTMIN".toList
      else if signal = 64 then "RTMAX".toList
      else if signal < 50 then "RTMIN+".toList ++ decimal (signal - 34)
      else "RTMAX-".toList ++ decimal (64 - signal)

/-- The name of a signal where all of the usual ones have one. -/
def fullName (signal : Nat) : Raw :=
  if signal = 16 then "STKFLT".toList else if signal = 29 then "POLL".toList else name signal

/-- The number that a numeral stands for, if there is such a signal. -/
def ofNumeral? (text : Raw) : Option Nat :=
  match Numeral.natural? text with
  | some number => if number < count then some number else none
  | none => none

/-- Further names. -/
def aliases : List (String × Nat) :=
  [("IO", 29), ("IOT", 6), ("CLD", 17)]

/-- Whether a number is the one of a signal that has a name. -/
def isNamed (signal : Nat) : Bool :=
  signal < count && signal != 32 && signal != 33

/-- The signal that a text in capital letters calls by its full name, or by a further one. -/
def ofFullName? (text : Raw) : Option Nat :=
  match (List.range count).find? fun signal => isNamed signal && fullName signal == text with
  | some signal => some signal
  | none => (aliases.find? fun known => known.1.toList == text).map Prod.snd

/-- The signal that an operand names: a number, of which the status of a program that was ended by a signal is one too,
or a name. -/
def ofOperand? (text : Raw) : Option Nat :=
  if (text.head?.map Char.isDigit).getD false then
    match Numeral.natural? text with
    | none => none
    | some number =>
      let ending := number % 128
      let signal := if ending != 0 && ending != 127 then ending else number
      if number < 2147483648 && isNamed signal then some signal else none
  else
    let capital := text.map Char.toUpper
    (ofFullName? capital).orElse fun _ =>
      if capital.take 3 == "SIG".toList then ofFullName? (capital.drop 3) else none

/-- The signal of a number or a name, from the least signal that is allowed by name on. -/
def ofText? (least : Nat) (text : Raw) : Option Nat :=
  (ofNumeral? text).orElse fun _ =>
    (List.range' least (count - least)).find? fun signal =>
      (name signal).map Char.toLower == text.map Char.toLower

/-- What the signals from the first on are called in full. -/
def descriptions : List String :=
  ["Hangup", "Interrupt", "Quit", "Illegal instruction", "Trace/breakpoint trap", "Aborted", "Bus error",
    "Floating point exception", "Killed", "User defined signal 1", "Segmentation fault", "User defined signal 2",
    "Broken pipe", "Alarm clock", "Terminated", "Stack fault", "Child exited", "Continued", "Stopped (signal)",
    "Stopped", "Stopped (tty input)", "Stopped (tty output)", "Urgent I/O condition", "CPU time limit exceeded",
    "File size limit exceeded", "Virtual timer expired", "Profiling timer expired", "Window changed", "I/O possible",
    "Power failure", "Bad system call"]

/-- What a signal is called in full. -/
def description (signal : Nat) : Raw :=
  match (if signal = 0 then none else descriptions[signal - 1]?) with
  | some description => description.toList
  | none =>
    if 34 ≤ signal && signal < count then "Real-time signal ".toList ++ decimal (signal - 34)
    else "Unknown signal ".toList ++ decimal signal

end AnswerQuery.Host.Signal
