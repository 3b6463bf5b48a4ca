import AnswerQuery.Format
import AnswerQuery.Literal

/-! Datastores: the facts of every model in the order of their octets, and the number of models. -/

namespace AnswerQuery

/-- What a token of a listing is. -/
inductive Token where
  /-- It ends a model. -/
  | delimiter
  /-- It is a literal of the model. -/
  | literal (literal : Literal)
  /-- It has no atom in it. -/
  | empty
  deriving DecidableEq, Repr

/-- Read a token; the delimiters of both formats end a model. -/
def Token.read (token : Text) : Token :=
  if Format.isDelimiter token then .delimiter
  else match Literal.ofToken? token with
    | some value => .literal value
    | none => .empty

/-- The facts of some models, and how many models there are. -/
structure Datastore where
  /-- The facts, in the order of their octets. -/
  facts : List Fact
  /-- The number of models. -/
  models : Nat
  deriving DecidableEq, Repr

namespace Datastore

/-- The facts of a listing from the model of a number on, as they come, and the number the last token leaves. -/
def collect : Nat → List Text → List Fact × Nat
  | model, [] => ([], model)
  | model, token :: tokens =>
    match Token.read token with
    | .delimiter => collect (model + 1) tokens
    | .literal literal => let (facts, models) := collect model tokens; (⟨model, literal⟩ :: facts, models)
    | .empty => collect model tokens

/-- Whether a fact may stand before another: facts are ordered by the octets of their clauses. -/
def inOrder (first second : Fact) : Bool :=
  Utf8.encode first.render ≤ Utf8.encode second.render

/-- The datastore of a listing that has been cut into tokens. -/
def ofTokens (tokens : List Text) : Datastore :=
  let (facts, models) := collect 0 tokens
  ⟨facts.mergeSort inOrder, models⟩

/-- The datastore of a listing, whose tokens are its words. -/
def ofText (text : Text) : Datastore :=
  ofTokens (words text)

/-- The last clause of a datastore, which states the number of models. -/
def countClause (models : Nat) : Text :=
  "number_of_models(".toList ++ decimal models ++ ").".toList

/-- A datastore as a logic program: a line for each fact, and one for the number of models. -/
def render (datastore : Datastore) : Text :=
  datastore.facts.flatMap (fun fact => fact.render ++ ['\n']) ++ countClause datastore.models ++ ['\n']

/-- No tokens hold no facts. -/
@[simp] theorem collect_nil (model : Nat) : collect model [] = ([], model) := rfl

/-- A delimiter begins the next model. -/
theorem collect_delimiter {model : Nat} {token : Text} {tokens : List Text}
    (ends : Token.read token = .delimiter) : collect model (token :: tokens) = collect (model + 1) tokens := by
  simp [collect, ends]

/-- A literal is a fact of the model that is being read. -/
theorem collect_literal {model : Nat} {token : Text} {tokens : List Text} {literal : Literal}
    (holds : Token.read token = .literal literal) :
    collect model (token :: tokens) = (⟨model, literal⟩ :: (collect model tokens).1, (collect model tokens).2) := by
  simp [collect, holds]

/-- A token without an atom changes nothing. -/
theorem collect_empty {model : Nat} {token : Text} {tokens : List Text} (bare : Token.read token = .empty) :
    collect model (token :: tokens) = collect model tokens := by
  simp [collect, bare]

end Datastore

end AnswerQuery
