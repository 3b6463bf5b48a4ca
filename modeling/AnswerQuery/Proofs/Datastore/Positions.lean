import AnswerQuery.Proofs.Datastore.Models
import Mathlib.Data.List.Infix

/-! Facts by the positions of their tokens: the delimiters before a token number its model. -/

namespace AnswerQuery

/-- The fact that a token states about a model, unless it is a delimiter or has no atom. -/
def statedFact? (model : Nat) (token : Text) : Option Fact :=
  if Format.isDelimiter token then none else (Literal.ofToken? token).map (Fact.mk model)

/--
The facts that tokens state in the order of the tokens, when models are numbered from a number on.

The number of delimiters before a token tells which model it belongs to.
-/
def statedFacts (first : Nat) (tokens : List Text) : List Fact :=
  -- Each token goes with the tokens before it.
  (tokens.inits.zip tokens).filterMap fun (before, token) =>
    statedFact? (first + before.countP Format.isDelimiter) token

/-- The delimiters among tokens are counted token by token. -/
theorem countP_isDelimiter_cons (token : Text) (tokens : List Text) :
    (token :: tokens).countP Format.isDelimiter =
      [token].countP Format.isDelimiter + tokens.countP Format.isDelimiter := by
  rw [← List.countP_append, List.singleton_append]

/-- The first token states its fact, and it numbers the models of the others if it is a delimiter. -/
theorem statedFacts_cons (first : Nat) (token : Text) (tokens : List Text) :
    statedFacts first (token :: tokens) =
      (statedFact? first token).toList ++
        statedFacts (first + [token].countP Format.isDelimiter) tokens := by
  -- It is the first of the tokens before each of the others.
  have later : ((tokens.inits.map (token :: ·)).zip tokens).filterMap (fun (before, other) =>
        statedFact? (first + before.countP Format.isDelimiter) other) =
      statedFacts (first + [token].countP Format.isDelimiter) tokens := by
    rw [List.zip_map_left, List.filterMap_map]
    congr 1
    funext ⟨before, other⟩
    simp only [Function.comp_apply, Prod.map_apply, id_eq, countP_isDelimiter_cons token before,
      Nat.add_assoc]
  rw [statedFacts, List.inits_cons, List.zip_cons_cons, List.filterMap_cons, later]
  cases stated : statedFact? first token <;> simp [stated]

/-- What tokens state depends on the tokens before them only by how many of those are delimiters. -/
theorem statedFacts_append (first : Nat) (front back : List Text) :
    statedFacts first (front ++ back) =
      statedFacts first front ++ statedFacts (first + front.countP Format.isDelimiter) back := by
  -- The first token of the front counts for all of the others.
  induction front generalizing first with
  | nil => rfl
  | cons token front ih =>
    rw [List.cons_append, statedFacts_cons, statedFacts_cons, ih, countP_isDelimiter_cons token front,
      Nat.add_assoc, List.append_assoc]

/-- The model of a stated fact has no larger number than the delimiters lead to. -/
theorem model_le_of_mem_statedFacts {first : Nat} {tokens : List Text} {fact : Fact}
    (stated : fact ∈ statedFacts first tokens) :
    fact.model ≤ first + tokens.countP Format.isDelimiter := by
  -- The delimiters before a token are some of them all.
  obtain ⟨⟨before, token⟩, member, same⟩ := List.mem_filterMap.mp stated
  have front : before <+: tokens := (List.mem_inits _ _).mp (List.of_mem_zip member).1
  have fewer := front.sublist.countP_le (p := Format.isDelimiter)
  simp only [statedFact?, Option.ite_none_left_eq_some, Option.map_eq_some_iff] at same
  obtain ⟨_, literal, _, rfl⟩ := same
  exact Nat.add_le_add_left fewer first

/-- A token between others states its fact about the model that the delimiters before it lead to. -/
theorem mem_statedFacts (first : Nat) (front back : List Text) {token : Text} {literal : Literal}
    (plain : Format.isDelimiter token = false) (parsed : Literal.ofToken? token = some literal) :
    ⟨first + front.countP Format.isDelimiter, literal⟩ ∈
      statedFacts first (front ++ token :: back) := by
  -- It is the first of the facts that come after those of the front.
  rw [statedFacts_append, statedFacts_cons]
  simp [statedFact?, plain, parsed]

namespace Datastore

/-- Reading tokens one by one finds the facts that they state, and counts their delimiters. -/
theorem collect_eq (first : Nat) (tokens : List Text) :
    collect first tokens = (statedFacts first tokens, first + tokens.countP Format.isDelimiter) := by
  -- After each token the number of the model is that of the delimiters up to there.
  induction tokens generalizing first with
  | nil => rfl
  | cons token tokens ih =>
    rw [statedFacts_cons, countP_isDelimiter_cons token tokens, ← Nat.add_assoc]
    cases ends : Format.isDelimiter token with
    | true =>
      have read : Token.read token = .delimiter := by simp [Token.read, ends]
      simp only [collect_delimiter read, ih, statedFact?, ends, List.countP_singleton, if_true,
        Option.toList_none, List.nil_append]
    | false =>
      have read := Token.read_of_not_isDelimiter ends
      cases parsed : Literal.ofToken? token with
      | none =>
        rw [parsed] at read
        rw [collect_empty read, ih]
        simp [statedFact?, ends, parsed]
      | some literal =>
        rw [parsed] at read
        rw [collect_literal read, ih]
        simp [statedFact?, ends, parsed]

/-- The datastore of tokens holds the facts that they state, sorted, and counts their delimiters. -/
theorem ofTokens_eq (tokens : List Text) :
    ofTokens tokens =
      ⟨(statedFacts 0 tokens).mergeSort inOrder, tokens.countP Format.isDelimiter⟩ := by
  rw [ofTokens, collect_eq, Nat.zero_add]

end Datastore

/--
The datastore of tokens counts their delimiters and holds exactly the facts that they state, in order.

No fact is about a model beyond those, and one that a delimiter follows is about one of them.
-/
theorem ofTokens_holds_stated_facts (tokens : List Text) :
    let datastore := Datastore.ofTokens tokens
    datastore.models = tokens.countP Format.isDelimiter ∧
      datastore.facts.Perm (statedFacts 0 tokens) ∧
      (datastore.facts.Pairwise fun first second =>
        Utf8.encode first.render ≤ Utf8.encode second.render) ∧
      (∀ fact ∈ datastore.facts, fact.model ≤ datastore.models) ∧
      ∀ front token back literal, tokens = front ++ token :: back →
        Format.isDelimiter token = false → Literal.ofToken? token = some literal →
        (∃ other ∈ back, Format.isDelimiter other = true) →
        ⟨front.countP Format.isDelimiter, literal⟩ ∈ datastore.facts ∧
          front.countP Format.isDelimiter < datastore.models := by
  -- Sorting keeps the facts, and what is known of them is known of those that are stated.
  intro datastore
  have whole : datastore = _ := Datastore.ofTokens_eq tokens
  have facts : datastore.facts.Perm (statedFacts 0 tokens) :=
    whole ▸ List.mergeSort_perm (statedFacts 0 tokens) Datastore.inOrder
  have models : datastore.models = tokens.countP Format.isDelimiter := by rw [whole]
  refine ⟨models, facts, ?_, ?_, ?_⟩
  · exact whole ▸ Datastore.pairwise_mergeSort_inOrder (statedFacts 0 tokens)
  · intro fact member
    have bound := model_le_of_mem_statedFacts (facts.mem_iff.mp member)
    rwa [Nat.zero_add, ← models] at bound
  · rintro front token back literal rfl plain parsed ⟨other, member, ends⟩
    have stated := mem_statedFacts 0 front back plain parsed
    rw [Nat.zero_add] at stated
    refine ⟨facts.mem_iff.mpr stated, ?_⟩
    -- The delimiter after the token is counted, but not before it.
    have later : 0 < back.countP Format.isDelimiter := List.countP_pos_iff.mpr ⟨other, member, ends⟩
    rw [models, List.countP_append, countP_isDelimiter_cons token back]
    omega

/-- A literal between two delimiters is about the model that the second one ends. -/
theorem literal_between_delimiters_is_counted :
    let tokens := ["::endmodel", "-q.", "p", "%%endmodel", "."].map String.toList
    let datastore := Datastore.ofTokens tokens
    Format.isDelimiter "-q.".toList = false ∧
      Literal.ofToken? "-q.".toList = some ⟨['q'], .negative⟩ ∧
      ⟨1, ⟨['q'], .negative⟩⟩ ∈ datastore.facts ∧ 1 < datastore.models := by
  intro tokens datastore
  have plain : Format.isDelimiter "-q.".toList = false := by decide
  have parsed : Literal.ofToken? "-q.".toList = some ⟨['q'], .negative⟩ := by decide
  have ends : ∃ other ∈ ["p", "%%endmodel", "."].map String.toList,
      Format.isDelimiter other = true := by decide
  obtain ⟨_, _, _, _, later⟩ := ofTokens_holds_stated_facts tokens
  exact ⟨plain, parsed, later ["::endmodel".toList] _ _ _ rfl plain parsed ends⟩

example : statedFacts 0 (["-q.", "::endmodel", ".", "%%endmodel", "p", "-q"].map String.toList) =
    [⟨0, ⟨['q'], .negative⟩⟩, ⟨2, ⟨['p'], .positive⟩⟩, ⟨2, ⟨['q'], .negative⟩⟩] := by decide

end AnswerQuery
