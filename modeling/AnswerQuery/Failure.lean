import AnswerQuery.System.OsError

/-! Why a query cannot be run. -/

namespace AnswerQuery

/-- A reason for which a query cannot be prepared or run. -/
inductive Failure where
  /-- No solver has the name. -/
  | unknownSolver (name : Text)
  /-- No interpreter has the name. -/
  | unknownInterpreter (name : Text)
  /-- There is no logic program at the path. -/
  | missingProgram (path : Text)
  /-- No directory of the query system is named. -/
  | missingBase
  /-- A program cannot be started or waited for. -/
  | launch (program : Text) (reason : OsError)
  /-- The datastore cannot be written. -/
  | datastore (path : Text) (reason : OsError)
  deriving DecidableEq, Repr

namespace Failure

/-- The environment variable that names the directory of the query system. -/
def baseVariable : Text := "QSYSTEM".toList

/-- A failure in words. -/
def message : Failure → Text
  | unknownSolver name => name ++ " is an undefined answer set solver".toList
  | unknownInterpreter name => name ++ " is an undefined prolog interpreter".toList
  | missingProgram path => path ++ ": no such logic program".toList
  | missingBase => "the ".toList ++ baseVariable ++
      " environment variable must name the query system directory".toList
  | launch program _ => "unable to launch ".toList ++ program
  | datastore path _ => "unable to write datastore ".toList ++ path

/-- The error of the operating system behind a failure, if there is one. -/
def cause? : Failure → Option OsError
  | launch _ reason => some reason
  | datastore _ reason => some reason
  | _ => none

/-- The code a command ends with after a failure. -/
def exitCode : Failure → Nat
  | unknownSolver _ => 3
  | unknownInterpreter _ => 4
  | missingProgram _ => 5
  | missingBase => 6
  | launch _ _ => 1
  | datastore _ _ => 1

end Failure

end AnswerQuery
