import AnswerQuery.Scan.Search

/-! The answer set solvers whose output is understood, and where each of them prints its models. -/

namespace AnswerQuery

/-- A supported answer set solver. -/
inductive Solver where
  | dlv
  | smodels
  | clasp
  deriving DecidableEq, Repr

/-- Where a solver takes its program from. -/
inductive Family where
  /-- From a grounder. -/
  | grounded
  /-- From the file itself. -/
  | standalone
  deriving DecidableEq, Repr

namespace Solver

/-- Every solver, in the solvers' own order. -/
def all : List Solver := [dlv, smodels, clasp]

/-- The name a solver is chosen by, which is also the name of its executable. -/
def name : Solver → Text
  | dlv => "dlv".toList
  | smodels => "smodels".toList
  | clasp => "clasp".toList

/-- The solver of a name, written exactly so. -/
def ofName? (name : Text) : Option Solver :=
  all.find? (fun solver => solver.name == name)

/-- Where a solver takes its program from. -/
def family : Solver → Family
  | dlv => .standalone
  | smodels => .grounded
  | clasp => .grounded

/-- The place of a solver in the solvers' own order. -/
def rank : Solver → Nat
  | dlv => 0
  | smodels => 1
  | clasp => 2

/-- Solvers in their own order, each as often as it was given. -/
def sort (solvers : List Solver) : List Solver :=
  solvers.mergeSort (fun first second => first.rank ≤ second.rank)

/-- How a solver marks a model. -/
def pattern {α : Type} [Symbol α] : Solver → Pattern α (List α)
  | dlv => .braces
  | smodels => .labelled
  | clasp => .numbered

/-- Where a solver's mark may begin. -/
def anchor : Solver → Anchor
  | dlv => .anywhere
  | smodels => .lineStart
  | clasp => .anywhere

/-- The blocks of text that hold the models a solver printed, in the order it printed them. -/
def blocks {α : Type} [Symbol α] (solver : Solver) (output : List α) : List (List α) :=
  solver.pattern.pieces solver.anchor output

/-- A solver is found by its own name, and by no other. -/
theorem ofName?_eq_some_iff {name : Text} {solver : Solver} : ofName? name = some solver ↔ solver.name = name := by
  -- The three names differ.
  constructor
  · intro found
    have same := List.find?_some found
    simpa using same
  · rintro rfl
    cases solver <;> decide

end Solver

end AnswerQuery
