import AnswerQuery.Proofs.Datastore.Clauses
import AnswerQuery.Proofs.Datastore.Positions
import AnswerQuery.Proofs.Text.Utf8
import AnswerQuery.Proofs.Text.Words
import Mathlib.Data.List.Count

/-! Within a model the order and the spelling of tokens do not matter: what is read decides about a datastore. -/

namespace AnswerQuery

/-- The literals that are read from the tokens after exactly so many delimiters. -/
def literalsAfter (delimiters : Nat) (tokens : List Text) : List Literal :=
  -- Delimiters lie between the pieces, and a token without an atom is no literal.
  ((tokens.splitOnP Format.isDelimiter).getD delimiters []).filterMap Literal.ofToken?

/-- The stated facts are those of the pieces between the delimiters, numbered in order. -/
theorem statedFacts_eq_numberedFacts (first : Nat) (tokens : List Text) :
    statedFacts first tokens = numberedFacts first (tokens.splitOnP Format.isDelimiter) := by
  -- A delimiter begins another piece, and any other token joins the first piece of the rest.
  induction tokens generalizing first with
  | nil => rfl
  | cons token tokens ih =>
    obtain ⟨head, pieces, parts⟩ :=
      List.exists_cons_of_ne_nil (List.splitOnP_ne_nil Format.isDelimiter tokens)
    rw [statedFacts_cons, ih, List.splitOnP_cons_eq_if_modifyHead, parts]
    cases ends : Format.isDelimiter token with
    | true => simp [statedFact?, ends, numberedFacts_cons, literalFacts]
    | false =>
      cases parsed : Literal.ofToken? token <;>
        simp [statedFact?, ends, numberedFacts_cons, literalFacts, parsed]

/-- The facts about one model are its literals. -/
theorem literalFacts_eq_map (model : Nat) (tokens : List Text) :
    literalFacts model tokens = (tokens.filterMap Literal.ofToken?).map (Fact.mk model) := by
  rw [List.map_filterMap, literalFacts]

/-- A literal is stated about its model as often as it is read. -/
theorem count_literalFacts (model : Nat) (literal : Literal) (tokens : List Text) :
    (literalFacts model tokens).count ⟨model, literal⟩ =
      (tokens.filterMap Literal.ofToken?).count literal := by
  -- Different literals make different facts about the same model.
  have injective : Function.Injective (Fact.mk model) := by
    intro first second same
    exact (Fact.mk.inj same).2
  rw [literalFacts_eq_map, List.count_map_of_injective _ _ injective]

/-- Nothing is stated about other models by the tokens of one model. -/
theorem count_literalFacts_of_ne {model other : Nat} (apart : other ≠ model) (literal : Literal)
    (tokens : List Text) : (literalFacts model tokens).count ⟨other, literal⟩ = 0 := by
  -- All of its facts have the number of the model.
  rw [List.count_eq_zero, literalFacts_eq_map, List.mem_map]
  rintro ⟨_, _, same⟩
  exact apart (Fact.mk.inj same).1.symm

/-- Nothing is stated about the models in front of those that are numbered. -/
theorem count_numberedFacts_of_lt {first model : Nat} (before : model < first) (literal : Literal)
    (models : List (List Text)) : (numberedFacts first models).count ⟨model, literal⟩ = 0 := by
  -- The numbers only grow.
  induction models generalizing first with
  | nil => rfl
  | cons tokens models ih =>
    rw [numberedFacts_cons, List.count_append, count_literalFacts_of_ne (Nat.ne_of_lt before),
      ih (Nat.lt_succ_of_lt before)]

/-- A literal is stated about a model as often as it is read from the tokens of that model. -/
theorem count_numberedFacts (first model : Nat) (literal : Literal) (models : List (List Text)) :
    (numberedFacts first models).count ⟨first + model, literal⟩ =
      ((models.getD model []).filterMap Literal.ofToken?).count literal := by
  -- It comes from the first model, or from one of the others with one number less to go.
  induction models generalizing first model with
  | nil => simp [numberedFacts]
  | cons tokens models ih =>
    rw [numberedFacts_cons, List.count_append]
    cases model with
    | zero =>
      have later := count_numberedFacts_of_lt (Nat.lt_succ_self first) literal models
      rw [Nat.add_zero, count_literalFacts, later, Nat.add_zero, List.getD_cons_zero]
    | succ model =>
      have apart : first + (model + 1) ≠ first := by omega
      have earlier := count_literalFacts_of_ne apart literal tokens
      have later := ih (first + 1) model
      rw [Nat.add_assoc, Nat.add_comm 1 model] at later
      rw [earlier, Nat.zero_add, later, List.getD_cons_succ]

/-- A literal is stated about a model as often as it is read after so many delimiters. -/
theorem count_statedFacts (model : Nat) (literal : Literal) (tokens : List Text) :
    (statedFacts 0 tokens).count ⟨model, literal⟩ = (literalsAfter model tokens).count literal := by
  have counted := count_numberedFacts 0 model literal (tokens.splitOnP Format.isDelimiter)
  rwa [Nat.zero_add, ← statedFacts_eq_numberedFacts] at counted

/-- Tokens state the same facts if and only if the same literals are read after every number of delimiters. -/
theorem statedFacts_perm_iff (tokens others : List Text) :
    (statedFacts 0 tokens).Perm (statedFacts 0 others) ↔
      ∀ model, (literalsAfter model tokens).Perm (literalsAfter model others) := by
  -- Both sides count the same things.
  constructor
  · intro same model
    rw [List.perm_iff_count]
    intro literal
    rw [← count_statedFacts, ← count_statedFacts, same.count_eq]
  · intro same
    rw [List.perm_iff_count]
    rintro ⟨model, literal⟩
    rw [count_statedFacts, count_statedFacts, (same model).count_eq]

/-- Nothing is read after more delimiters than there are. -/
theorem literalsAfter_of_lt {model : Nat} {tokens : List Text}
    (beyond : tokens.countP Format.isDelimiter < model) : literalsAfter model tokens = [] := by
  -- There is only one piece more than there are delimiters.
  have short : (tokens.splitOnP Format.isDelimiter).length ≤ model := by
    rw [length_splitOnP]
    omega
  simp [literalsAfter, List.getD_eq_getElem?_getD, List.getElem?_eq_none short]

namespace Datastore

/-- Two facts that may stand in either order are the same. -/
theorem eq_of_inOrder {first second : Fact} (before : inOrder first second = true)
    (after : inOrder second first = true) : first = second := by
  -- Their clauses have the same octets.
  rw [inOrder_iff] at before after
  have octets := List.le_antisymm before after
  exact Fact.render_inj.mp (Utf8.encode_inj.mp octets)

/-- Facts that are the same but for their order are sorted alike, and no others are. -/
theorem mergeSort_inOrder_eq_iff (facts others : List Fact) :
    facts.mergeSort inOrder = others.mergeSort inOrder ↔ facts.Perm others := by
  constructor
  · intro same
    exact (List.mergeSort_perm facts inOrder).symm.trans (same ▸ List.mergeSort_perm others inOrder)
  · intro perm
    -- Two sorted lists of the same facts can differ only where two facts may stand in either order.
    have sorted := List.pairwise_mergeSort inOrder_trans inOrder_total facts
    have otherSorted := List.pairwise_mergeSort inOrder_trans inOrder_total others
    have same : (facts.mergeSort inOrder).Perm (others.mergeSort inOrder) :=
      (List.mergeSort_perm facts inOrder).trans (perm.trans (List.mergeSort_perm others inOrder).symm)
    exact same.eq_of_pairwise (fun _ _ _ _ => eq_of_inOrder) sorted otherSorted

end Datastore

/--
Two lists of tokens have the same datastore exactly if they hold as many delimiters and the same
literals are read after each number of them.

Neither the order of the tokens of a model nor how delimiters and literals are spelled can be told from
what is written.
-/
theorem ofTokens_eq_iff_literals_perm (tokens others : List Text) :
    let datastore := Datastore.ofTokens tokens
    let other := Datastore.ofTokens others
    let alike := tokens.countP Format.isDelimiter = others.countP Format.isDelimiter ∧
      ∀ model ≤ tokens.countP Format.isDelimiter,
        (literalsAfter model tokens).Perm (literalsAfter model others)
    (datastore = other ↔ alike) ∧
      (alike → datastore.facts = other.facts ∧ datastore.models = other.models ∧
        datastore.render = other.render) := by
  -- Sorting forgets the order of the facts, and nothing else about them.
  intro datastore other alike
  have split : datastore = other ↔
      (statedFacts 0 tokens).Perm (statedFacts 0 others) ∧
        tokens.countP Format.isDelimiter = others.countP Format.isDelimiter := by
    simp only [datastore, other, Datastore.ofTokens_eq, Datastore.mk.injEq,
      Datastore.mergeSort_inOrder_eq_iff]
  have same : datastore = other ↔ alike := by
    rw [split, statedFacts_perm_iff]
    constructor
    · rintro ⟨read, count⟩
      exact ⟨count, fun model _ => read model⟩
    · rintro ⟨count, read⟩
      refine ⟨?_, count⟩
      intro model
      rcases Nat.lt_or_ge (tokens.countP Format.isDelimiter) model with beyond | within
      · -- After more delimiters than there are, nothing is read on either side.
        rw [literalsAfter_of_lt beyond, literalsAfter_of_lt (count ▸ beyond)]
      · exact read model within
  refine ⟨same, ?_⟩
  intro isAlike
  have equal := same.mpr isAlike
  exact ⟨congrArg Datastore.facts equal, congrArg Datastore.models equal, congrArg Datastore.render equal⟩

example : literalsAfter 1 (["a", "::endmodel", "-b.", ".", "c,"].map String.toList) =
    [⟨['b'], .negative⟩, ⟨['c'], .positive⟩] := by decide

end AnswerQuery
