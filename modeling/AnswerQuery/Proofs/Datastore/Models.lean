import AnswerQuery.Datastore
import AnswerQuery.Proofs.Text.Order

/-! Reading tokens model by model: which facts tokens state, and how a datastore orders them. -/

namespace AnswerQuery

/-- The facts that tokens state about a model, one for each token that has an atom. -/
def literalFacts (model : Nat) (tokens : List Text) : List Fact :=
  tokens.filterMap fun token => (Literal.ofToken? token).map (Fact.mk model)

/-- The facts of models that are numbered in order from a number on. -/
def numberedFacts (first : Nat) (models : List (List Text)) : List Fact :=
  (models.zipIdx first).flatMap fun (tokens, model) => literalFacts model tokens

/-- The facts of models that are numbered in order from zero on. -/
def modelFacts (models : List (List Text)) : List Fact :=
  numberedFacts 0 models

/-- The facts of the first model come before those of the others. -/
theorem numberedFacts_cons (first : Nat) (tokens : List Text) (models : List (List Text)) :
    numberedFacts first (tokens :: models) =
      literalFacts first tokens ++ numberedFacts (first + 1) models := by
  simp [numberedFacts, List.zipIdx_cons]

/-- A token that is no delimiter is read as a literal. -/
theorem Token.read_of_not_isDelimiter {token : Text} (plain : Format.isDelimiter token = false) :
    Token.read token = (Literal.ofToken? token).elim .empty .literal := by
  -- What is no delimiter either has an atom or has none.
  cases parsed : Literal.ofToken? token <;> simp [Token.read, plain, parsed]

namespace Datastore

/-- Tokens without a delimiter are read into the model at hand. -/
theorem collect_append_of_not_isDelimiter {tokens : List Text}
    (plain : ∀ token ∈ tokens, Format.isDelimiter token = false) (model : Nat) (rest : List Text) :
    collect model (tokens ++ rest) =
      (literalFacts model tokens ++ (collect model rest).1, (collect model rest).2) := by
  -- Each token adds its fact, if it has one, and leaves the number of the model.
  induction tokens with
  | nil => rfl
  | cons token tokens ih =>
    rw [List.forall_mem_cons] at plain
    have read := Token.read_of_not_isDelimiter plain.1
    cases parsed : Literal.ofToken? token with
    | none =>
      rw [parsed] at read
      rw [List.cons_append, collect_empty read, ih plain.2]
      simp [literalFacts, parsed]
    | some literal =>
      rw [parsed] at read
      rw [List.cons_append, collect_literal read, ih plain.2]
      simp [literalFacts, parsed]

/-- Models that a delimiter ends each, and that hold no other, are read one after the other. -/
theorem collect_models {models : List (List Text)} {delimiter : Text}
    (ends : Format.isDelimiter delimiter = true)
    (plain : ∀ tokens ∈ models, ∀ token ∈ tokens, Format.isDelimiter token = false)
    (first : Nat) :
    collect first (models.flatMap fun tokens => tokens ++ [delimiter]) =
      (numberedFacts first models, first + models.length) := by
  -- The delimiter after the first model gives the others their numbers.
  induction models generalizing first with
  | nil => rfl
  | cons tokens models ih =>
    rw [List.forall_mem_cons] at plain
    have closed : Token.read delimiter = .delimiter := by simp [Token.read, ends]
    have others := ih plain.2 (first + 1)
    rw [List.flatMap_cons, List.append_assoc, collect_append_of_not_isDelimiter plain.1,
      List.singleton_append, collect_delimiter closed, others, numberedFacts_cons, List.length_cons]
    simp only [Prod.mk.injEq, true_and]
    omega

/-- What is read after a token depends only on what is read after it in any model. -/
theorem collect_cons_congr {front back : List Text}
    (same : ∀ model, collect model front = collect model back) (model : Nat) (token : Text) :
    collect model (token :: front) = collect model (token :: back) := by
  -- There are three kinds of tokens.
  cases read : Token.read token with
  | delimiter => rw [collect_delimiter read, collect_delimiter read, same]
  | literal literal => rw [collect_literal read, collect_literal read, same]
  | empty => rw [collect_empty read, collect_empty read, same]

/-- The order of facts is the order of the octets of their clauses. -/
theorem inOrder_iff (first second : Fact) :
    inOrder first second = true ↔ Utf8.encode first.render ≤ Utf8.encode second.render := by
  simp [inOrder]

/-- One fact may stand before another exactly if its clause is not the greater one. -/
theorem inOrder_iff_not_lt (first second : Fact) :
    inOrder first second = true ↔ ¬ second.render < first.render := by
  rw [inOrder_iff, Utf8.encode_le_encode_iff]

/-- Facts may be compared through a third one. -/
theorem inOrder_trans (first second third : Fact) (before : inOrder first second = true)
    (after : inOrder second third = true) : inOrder first third = true := by
  -- Lists of octets are ordered letter by letter.
  rw [inOrder_iff] at *
  exact List.le_trans before after

/-- Of two facts one may stand before the other. -/
theorem inOrder_total (first second : Fact) :
    (inOrder first second || inOrder second first) = true := by
  -- Of two lists of octets one is no greater.
  rw [Bool.or_eq_true, inOrder_iff, inOrder_iff]
  exact List.le_total _ _

/-- Sorting puts facts in the order of the octets of their clauses. -/
theorem pairwise_mergeSort_inOrder (facts : List Fact) :
    (facts.mergeSort inOrder).Pairwise fun first second =>
      Utf8.encode first.render ≤ Utf8.encode second.render := by
  -- An order that is transitive and total puts any two elements in order.
  have sorted := List.pairwise_mergeSort inOrder_trans inOrder_total facts
  exact sorted.imp fun before => (inOrder_iff _ _).mp before

/-- What tokens are read as decides about their datastore. -/
theorem ofTokens_congr {tokens others : List Text} (same : collect 0 tokens = collect 0 others) :
    ofTokens tokens = ofTokens others := by
  simp [ofTokens, same]

end Datastore

end AnswerQuery
