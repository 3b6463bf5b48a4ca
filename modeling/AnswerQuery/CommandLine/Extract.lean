import AnswerQuery.CommandLine.Console
import AnswerQuery.Failure
import AnswerQuery.Format
import AnswerQuery.Solver

/-! The command that lists the models a solver has printed. -/

namespace AnswerQuery.CommandLine.Extract

/-- The name of the command. -/
def name : Text := "qs-extract".toList

/-- The command as it is called. -/
def command : Command where
  name := name
  purpose := "Extract the models printed by an answer set solver".toList
  options := [solverOption "The solver that produced the input (dlv, smodels, or clasp)".toList,
    ⟨"aprolog".toList, some 'a', .nothing, "Write models as A-Prolog code".toList, none, false⟩, traceOption]

/-- The format that is asked for. -/
def format (given : Given) : Format :=
  if given.has "aprolog" then .code else .text

/-- What is traced about the models. -/
def foundMessage (count : Nat) (solver : Solver) : Text :=
  "Found ".toList ++ decimal count ++ ' ' :: solver.name ++ " model(s)".toList

/-- Read what a solver printed and list its models; the solver is looked up before anything is read. -/
def run {m : Type → Type} [Monad m] (console : Console m) (arguments : List Text) : m Nat := do
  match read command arguments with
  | .error refusal => console.refuse command refusal
  | .ok given =>
    match Solver.ofName? given.solver with
    | none =>
      let _ ← console.report (errorReport (Failure.unknownSolver given.solver).message)
      pure failureCode
    | some solver =>
      match ← console.readInput with
      | .error reason => console.fail "Reading from stdin".toList reason
      | .ok octets =>
        let blocks := solver.blocks (Utf8.decode octets)
        match ← console.trace given.trace .extract (foundMessage blocks.length solver) with
        | .error _ => pure brokenCode
        | .ok () => console.deliver "Writing models".toList ((format given).listing blocks)

end AnswerQuery.CommandLine.Extract
