import AnswerQuery.CommandLine.Usage
import AnswerQuery.Workbench

/-! The command that computes the answer sets of a program and lets an interpreter query them. -/

namespace AnswerQuery.CommandLine

/-- A query as it is asked for. -/
structure Query where
  /-- The name of the interpreter. -/
  interpreter : Text
  /-- The name of the solver. -/
  solver : Text
  /-- The path of the logic program. -/
  program : Text
  /-- The directory of the query system, if the arguments name one. -/
  base : Option Text
  /-- What is reported. -/
  trace : Trace

namespace Query

/-- The name of the command. -/
def name : Text := "qsystem".toList

/-- The interpreter that is taken if none is named. -/
def usualInterpreter : Text := "sic".toList

/-- The command as it is called. -/
def command : Command where
  name := name
  purpose := "Query the answer sets of a logic program from Prolog".toList
  options := [
    ⟨"prolog".toList, some 'p', .text, "The Prolog interpreter to use (sic or swi)".toList, some usualInterpreter,
      false⟩,
    solverOption "The answer set solver to use (dlv, smodels, or clasp)".toList,
    ⟨"file".toList, some 'f', .path, "The logic program to use as a knowledge base".toList, none, true⟩,
    ⟨"base".toList, none, .path, "The query system directory; defaults to $QSYSTEM".toList, none, false⟩,
    traceOption]

/-- The query that arguments ask for; a logic program must be named. -/
def ofArguments (arguments : List Text) : Except Refusal Query := do
  let given ← read command arguments
  pure {
    interpreter := (given.value? "prolog").getD usualInterpreter
    solver := given.solver
    program := (given.value? "file").getD []
    base := given.value? "base"
    trace := given.trace }

/-- The installation of a query: the one that the arguments name, or else that of the environment. -/
def installation (query : Query) (baseVariable : Option Text) : Except Failure Installation :=
  match query.base with
  | some base => .ok ⟨base, .current⟩
  | none => Installation.ofVariable baseVariable

/-- A failure as it is reported, with its cause. -/
def failureReport (failure : Failure) : Text :=
  name ++ ": ".toList ++ failure.message ++ ['\n'] ++
    (match failure.cause? with
    | some reason => "  caused by: ".toList ++ reason.message ++ ['\n']
    | none => [])

/-- Carry out a query on a system, given the value of the environment variable that names an installation. -/
def perform {σ : Type} (query : Query) (system : System σ) (baseVariable : Option Text) :
    StateM σ (Except Failure Unit) :=
  match query.installation baseVariable with
  | .error failure => pure (.error failure)
  | .ok installation => (Workbench.mk installation query.trace).query system query.solver query.program query.interpreter

/-- Carry out the query that arguments ask for and report how it fails; the result is the exit code. -/
def run {σ : Type} (system : System σ) (baseVariable : Option Text) (arguments : List Text) : StateM σ Nat := do
  match ofArguments arguments with
  | .error refusal =>
    system.report (command.refusalText refusal)
    pure refusal.exitCode
  | .ok query =>
    match ← query.perform system baseVariable with
    | .ok () => pure 0
    | .error failure =>
      system.report (failureReport failure)
      pure failure.exitCode

end Query

end AnswerQuery.CommandLine
