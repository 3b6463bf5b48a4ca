import AnswerQuery.Text.Basic

/-! Literals, an atom or an atom that is classically negated, and facts: a literal that holds in a model, as a clause of a
logic program. -/

namespace AnswerQuery

/-- Whether an atom is asserted or denied. -/
inductive Polarity where
  | negative
  | positive
  deriving DecidableEq, Repr

namespace Polarity

/-- The name of a polarity. -/
def name : Polarity → Text
  | negative => "negative".toList
  | positive => "positive".toList

/-- The functor of the facts of a polarity. -/
def functor : Polarity → Text
  | negative => "neg".toList
  | positive => "pos".toList

/-- The mark in front of the atom. -/
def mark : Polarity → Text
  | negative => "-".toList
  | positive => []

end Polarity

/-- An atom with its polarity. -/
structure Literal where
  /-- What is asserted or denied. -/
  atom : Text
  /-- Which of the two it is. -/
  polarity : Polarity
  deriving DecidableEq, Repr

namespace Literal

/-- Whether a character may end a literal without belonging to it. -/
def isTerminator (c : Char) : Bool :=
  c == '.' || c == ','

/-- Read a literal: terminators are dropped from its end, then one minus from its front; an atom must be left. -/
def ofToken? (token : Text) : Option Literal :=
  match dropTrailing isTerminator token with
  | [] => none
  | '-' :: [] => none
  | '-' :: first :: others => some ⟨first :: others, .negative⟩
  | first :: others => some ⟨first :: others, .positive⟩

/-- A literal as it is written. -/
def render (literal : Literal) : Text :=
  literal.polarity.mark ++ literal.atom

/-- A token without characters is no literal. -/
@[simp] theorem ofToken?_nil : ofToken? [] = none := rfl

end Literal

/-- A literal of the model with a given number. -/
structure Fact where
  /-- The number of the model, counted from zero. -/
  model : Nat
  /-- A literal that holds in it. -/
  literal : Literal
  deriving DecidableEq, Repr

namespace Fact

/-- The term a fact states. -/
def term (fact : Fact) : Text :=
  fact.literal.polarity.functor ++ '(' :: decimal fact.model ++ ',' :: fact.literal.atom ++ [')']

/-- A fact as a clause, with its period. -/
def render (fact : Fact) : Text :=
  fact.term ++ ['.']

/-- The fact that a token states of a model, if the token is a literal. -/
def ofToken? (model : Nat) (token : Text) : Option Fact :=
  (Literal.ofToken? token).map fun literal => ⟨model, literal⟩

end Fact

/-- The term for a token of a model, if the token is a literal; a period behind the token is left out. -/
def wrap (token : Text) (model : Nat) : Option Text :=
  (Fact.ofToken? model token).map Fact.term

end AnswerQuery
