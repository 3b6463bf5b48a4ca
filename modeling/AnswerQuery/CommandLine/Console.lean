import AnswerQuery.CommandLine.Usage
import AnswerQuery.System.OsError
import AnswerQuery.Text.Utf8

/-! What a filter on the command line asks of its surroundings, and how it reports what went wrong. -/

namespace AnswerQuery.CommandLine

/-- The surroundings of a filter. -/
structure Console (m : Type → Type) where
  /-- Read all of the standard input. -/
  readInput : m (Except OsError Bytes)
  /-- Read all of a file. -/
  readFile : Text → m (Except OsError Bytes)
  /-- Write to the standard output. -/
  write : Bytes → m (Except OsError Unit)
  /-- Write to the standard error. -/
  report : Text → m (Except OsError Unit)

/-- The exit code of a filter that fails. -/
def failureCode : Nat := 1

/-- The exit code of a filter that is broken off because it cannot report what it does. -/
def brokenCode : Nat := 101

/-- An error in words. -/
def errorReport (message : Text) : Text :=
  "Error: ".toList ++ message ++ ['\n']

/-- An error with what it was met at and what caused it, in words. -/
def causedReport (context : Text) (reason : OsError) : Text :=
  "Error: ".toList ++ context ++ "\n\nCaused by:\n    ".toList ++ reason.message ++ ['\n']

namespace Console

variable {m : Type → Type} [Monad m]

/-- Report a message on a topic, if the topic is traced. -/
def trace (console : Console m) (trace : Trace) (topic : Topic) (message : Text) : m (Except OsError Unit) :=
  if trace.reports topic then console.report (message ++ ['\n']) else pure (.ok ())

/-- Report an error and end with it. -/
def fail (console : Console m) (context : Text) (reason : OsError) : m Nat := do
  -- A report that cannot be written is lost, and the exit code tells of the failure all the same.
  let _ ← console.report (causedReport context reason)
  pure failureCode

/-- Write the result and end. -/
def deliver (console : Console m) (context : Text) (octets : Bytes) : m Nat := do
  match ← console.write octets with
  | .ok () => pure 0
  | .error reason => console.fail context reason

/-- Do nothing but say why. -/
def refuse (console : Console m) (command : Command) (refusal : Refusal) : m Nat := do
  let text := command.refusalText refusal
  match refusal with
  | .help => let _ ← console.write (Utf8.encode text)
  | _ => let _ ← console.report text
  pure refusal.exitCode

end Console

end AnswerQuery.CommandLine
