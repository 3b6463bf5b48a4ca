import AnswerQuery.Text.Basic

/-! Why the operating system refuses a request, and how it says so. -/

namespace AnswerQuery

/-- A reason for which a request to the operating system fails. -/
inductive OsError where
  | notPermitted
  | noEntry
  | interrupted
  | noDevice
  | argumentsTooLong
  | badExecutable
  | badDescriptor
  | noChild
  | noAccess
  | busy
  | alreadyThere
  | notDirectory
  | isDirectory
  | invalid
  | notTerminal
  | noSpace
  | notSeekable
  | brokenPipe
  | outOfRange
  | nameTooLong
  | notEmpty
  | tooManyLinks
  | noProcess
  /-- An argument holds a character that ends strings. -/
  | nulInArgument
  /-- A file name holds a character that ends strings. -/
  | nulInName
  deriving DecidableEq, Repr

namespace OsError

/-- The number of an error, if the operating system itself reports it. -/
def number? : OsError → Option Nat
  | notPermitted => some 1
  | noEntry => some 2
  | noProcess => some 3
  | interrupted => some 4
  | noDevice => some 6
  | argumentsTooLong => some 7
  | badExecutable => some 8
  | badDescriptor => some 9
  | noChild => some 10
  | noAccess => some 13
  | busy => some 16
  | alreadyThere => some 17
  | notDirectory => some 20
  | isDirectory => some 21
  | invalid => some 22
  | notTerminal => some 25
  | noSpace => some 28
  | notSeekable => some 29
  | brokenPipe => some 32
  | outOfRange => some 34
  | nameTooLong => some 36
  | notEmpty => some 39
  | tooManyLinks => some 40
  | nulInArgument => none
  | nulInName => none

/-- What an error is called. -/
def description : OsError → Text
  | notPermitted => "Operation not permitted".toList
  | noEntry => "No such file or directory".toList
  | noProcess => "No such process".toList
  | interrupted => "Interrupted system call".toList
  | noDevice => "No such device or address".toList
  | argumentsTooLong => "Argument list too long".toList
  | badExecutable => "Exec format error".toList
  | badDescriptor => "Bad file descriptor".toList
  | noChild => "No child processes".toList
  | noAccess => "Permission denied".toList
  | busy => "Device or resource busy".toList
  | alreadyThere => "File exists".toList
  | notDirectory => "Not a directory".toList
  | isDirectory => "Is a directory".toList
  | invalid => "Invalid argument".toList
  | notTerminal => "Inappropriate ioctl for device".toList
  | noSpace => "No space left on device".toList
  | notSeekable => "Illegal seek".toList
  | brokenPipe => "Broken pipe".toList
  | outOfRange => "Numerical result out of range".toList
  | nameTooLong => "File name too long".toList
  | notEmpty => "Directory not empty".toList
  | tooManyLinks => "Too many levels of symbolic links".toList
  | nulInArgument => "nul byte found in provided data".toList
  | nulInName => "file name contained an unexpected NUL byte".toList

/-- An error in full, with its number if it has one. -/
def message (error : OsError) : Text :=
  match error.number? with
  | some number => error.description ++ " (os error ".toList ++ decimal number ++ ")".toList
  | none => error.description

end OsError

end AnswerQuery
