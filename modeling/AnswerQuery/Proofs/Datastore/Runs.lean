import AnswerQuery.Proofs.Datastore.Clauses
import AnswerQuery.Proofs.Datastore.Models

/-! In a datastore the clauses of one predicate about one model stand together, and it is known where these runs are. -/

namespace AnswerQuery

/-- In a list where an element of a kind never comes after one that is not, the elements of the kind come first. -/
theorem filter_eq_takeWhile_of_pairwise {α : Type} {kind : α → Bool} {list : List α}
    (first : list.Pairwise fun before after => kind after = true → kind before = true) :
    list.filter kind = list.takeWhile kind := by
  -- Behind the first element that is not of the kind there is none that is.
  induction first with
  | nil => rfl
  | @cons element list before _ ih =>
    cases same : kind element with
    | true => rw [List.filter_cons_of_pos same, List.takeWhile_cons_of_pos same, ih]
    | false =>
      -- One behind it would make this one of the kind as well.
      have noOther : ∀ other ∈ list, ¬ kind other = true := by
        intro other member is
        rw [before other member is] at same
        contradiction
      rw [List.filter_cons_of_neg (by simp [same]), List.takeWhile_cons_of_neg (by simp [same]),
        List.filter_eq_nil_iff.mpr noOther]

/-- In a sorted list the elements of a kind stand together if whatever may stand between two of them is of that kind. -/
theorem filter_isInfix_of_pairwise {α : Type} {R : α → α → Prop} {kind : α → Bool} {list : List α}
    (between : ∀ before middle after, R before middle → R middle after →
      kind before = true → kind after = true → kind middle = true)
    (sorted : list.Pairwise R) : list.filter kind <:+: list := by
  -- The first element of the kind begins the run, and those behind it are of the kind up to where the run ends.
  induction sorted with
  | nil => exact List.infix_refl []
  | @cons element list before sorted ih =>
    cases same : kind element with
    | true =>
      -- Whatever stands before one of the kind stands between it and the first.
      have first : list.Pairwise fun middle after => kind after = true → kind middle = true := by
        refine sorted.imp_of_mem ?_
        intro middle after member _ ordered isAfter
        exact between element middle after (before middle member) ordered same isAfter
      rw [List.filter_cons_of_pos same, filter_eq_takeWhile_of_pairwise first]
      exact ((List.prefix_cons_inj element).mpr (List.takeWhile_prefix kind)).isInfix
    | false =>
      -- The run is the one that the rest of the list has.
      rw [List.filter_cons_of_neg (by simp [same])]
      exact ih.trans (List.suffix_cons element list).isInfix

namespace Fact

/-- The clause of a fact up to its atom. -/
def head (fact : Fact) : Text :=
  fact.literal.polarity.functor ++ '(' :: (decimal fact.model ++ [','])

/-- A clause is its head, its atom, and its end. -/
theorem render_eq_head_append (fact : Fact) : fact.render = fact.head ++ (fact.literal.atom ++ ").".toList) := by
  simp [render_eq, head]

/-- No head goes on to the head of another polarity or model. -/
theorem eq_of_head_isPrefix {first second : Fact} (front : first.head <+: second.head) :
    first.literal.polarity = second.literal.polarity ∧ first.model = second.model := by
  -- What follows the shorter head could as well be the beginning of an atom.
  obtain ⟨more, longer⟩ := front
  have same : render ⟨first.model, ⟨more ++ second.literal.atom, first.literal.polarity⟩⟩ = second.render := by
    rw [render_eq_head_append, render_eq_head_append, ← longer]
    simp [head]
  rw [← render_inj.mp same]
  exact ⟨rfl, rfl⟩

/-- Two facts have the same head exactly if they agree in polarity and model. -/
theorem head_inj {first second : Fact} :
    first.head = second.head ↔
      first.literal.polarity = second.literal.polarity ∧ first.model = second.model := by
  constructor
  · intro same
    exact eq_of_head_isPrefix (same ▸ List.prefix_refl _)
  · rintro ⟨polarity, model⟩
    rw [head, head, polarity, model]

/-- Facts of a polarity about a model have the same head. -/
theorem head_eq_head {polarity : Polarity} {model : Nat} {first second : Fact}
    (isFirst : first.literal.polarity = polarity ∧ first.model = model)
    (isSecond : second.literal.polarity = polarity ∧ second.model = model) : first.head = second.head :=
  head_inj.mpr ⟨isFirst.1.trans isSecond.1.symm, isFirst.2.trans isSecond.2.symm⟩

/-- Clauses are compared by their heads, and by what follows only where the heads are the same. -/
theorem render_lt_render_iff {first second : Fact} :
    first.render < second.render ↔ first.head < second.head ∨
      first.head = second.head ∧
        first.literal.atom ++ ").".toList < second.literal.atom ++ ").".toList := by
  rw [render_eq_head_append, render_eq_head_append]
  -- No head is the beginning of another, so that different ones part before they end.
  apply append_lt_append_iff
  · exact fun front => head_inj.mpr (eq_of_head_isPrefix front)
  · exact fun front => (head_inj.mpr (eq_of_head_isPrefix front)).symm

/-- Heads are compared by their polarities, and by the numerals with their commas where those are the same. -/
theorem head_lt_head_iff {first second : Fact} :
    first.head < second.head ↔
      first.literal.polarity = .negative ∧ second.literal.polarity = .positive ∨
        first.literal.polarity = second.literal.polarity ∧
          decimal first.model ++ [','] < decimal second.model ++ [','] := by
  -- The functors differ in their first letters.
  have below (rest others : Text) : 'n' :: rest < 'p' :: others :=
    List.cons_lt_cons_iff.mpr (.inl (by decide))
  have notAbove (rest others : Text) : ¬ 'p' :: others < 'n' :: rest := List.lt_asymm (below rest others)
  obtain ⟨model, atom, polarity⟩ := first
  obtain ⟨otherModel, otherAtom, otherPolarity⟩ := second
  cases polarity <;> cases otherPolarity <;> simp [head, Polarity.functor, below, notAbove]

section Ordered

variable {first second : Fact} (ordered : ¬ second.render < first.render)

include ordered

/-- A head does not come after a greater one. -/
theorem not_head_lt_of_not_render_lt : ¬ second.head < first.head :=
  fun below => ordered (render_lt_render_iff.mpr (.inl below))

/-- After a positive fact there is no negative one. -/
theorem positive_of_not_render_lt (positive : first.literal.polarity = .positive) :
    second.literal.polarity = .positive := by
  cases polarity : second.literal.polarity with
  | positive => rfl
  | negative =>
    -- A negative head would be below a positive one.
    have below : second.head < first.head := head_lt_head_iff.mpr (.inl ⟨polarity, positive⟩)
    exact absurd below (not_head_lt_of_not_render_lt ordered)

/-- Of two facts of one polarity the first has the same model, or the lower numeral. -/
theorem numeral_lt_of_not_render_lt (polarity : first.literal.polarity = second.literal.polarity) :
    first.model = second.model ∨ decimal first.model ++ [','] < decimal second.model ++ [','] := by
  by_cases below : decimal first.model ++ [','] < decimal second.model ++ [',']
  · exact .inr below
  · -- Neither numeral is lower, so that they are the same, and so are the heads.
    have notAbove : ¬ decimal second.model ++ [','] < decimal first.model ++ [','] := fun above =>
      not_head_lt_of_not_render_lt ordered (head_lt_head_iff.mpr (.inr ⟨polarity.symm, above⟩))
    have same := eq_of_not_lt below notAbove
    exact .inl (head_inj.mp (by rw [head, head, polarity, same])).2

/-- Of two facts of one polarity and model the first does not have the greater atom. -/
theorem not_atom_lt_of_not_render_lt (same : first.head = second.head) :
    ¬ second.literal.atom ++ ").".toList < first.literal.atom ++ ").".toList :=
  fun below => ordered (render_lt_render_iff.mpr (.inr ⟨same.symm, below⟩))

/-- What stands between two facts of one polarity and model is of that polarity and model. -/
theorem head_eq_of_between {third : Fact} (later : ¬ third.render < second.render) (same : first.head = third.head) :
    second.head = first.head := by
  -- Its head is neither below the head of both nor above it.
  have notBelow := not_head_lt_of_not_render_lt ordered
  have notAbove := not_head_lt_of_not_render_lt later
  rw [← same] at notAbove
  exact eq_of_not_lt notBelow notAbove

end Ordered

end Fact

/-- No fact of a datastore has a greater clause than one behind it. -/
theorem Datastore.pairwise_facts_ofTokens (tokens : List Text) :
    (ofTokens tokens).facts.Pairwise fun first second => ¬ second.render < first.render := by
  have sorted := List.pairwise_mergeSort inOrder_trans inOrder_total (collect 0 tokens).1
  exact sorted.imp fun ordered => (inOrder_iff_not_lt _ _).mp ordered

/--
In a datastore the negative facts come before the positive ones, and the facts of one polarity about one model stand
together, in the order of what follows the number of the model in their clauses.

The models of the facts of one polarity come in the order of their numerals as texts.
-/
theorem clauses_stand_in_runs (tokens : List Text) :
    let facts := (Datastore.ofTokens tokens).facts
    (facts.Pairwise fun first second =>
      first.literal.polarity = .positive → second.literal.polarity = .positive) ∧
    (∀ polarity model,
      let run := facts.filter fun fact => fact.literal.polarity = polarity ∧ fact.model = model
      run <:+: facts ∧
      run.Pairwise fun first second =>
        Utf8.encode (first.literal.atom ++ ").".toList) ≤ Utf8.encode (second.literal.atom ++ ").".toList)) ∧
    facts.Pairwise fun first second =>
      first.literal.polarity = second.literal.polarity →
        first.model = second.model ∨
          Utf8.encode (decimal first.model ++ [',']) < Utf8.encode (decimal second.model ++ [',']) := by
  intro facts
  have sorted := Datastore.pairwise_facts_ofTokens tokens
  refine ⟨sorted.imp Fact.positive_of_not_render_lt, ?_, ?_⟩
  · intro polarity model run
    constructor
    · -- Heads that are no less than a head and no greater are that head.
      refine filter_isInfix_of_pairwise ?_ sorted
      intro before middle after ordered later isBefore isAfter
      rw [decide_eq_true_eq] at isBefore isAfter ⊢
      have between := Fact.head_eq_of_between ordered later (Fact.head_eq_head isBefore isAfter)
      obtain ⟨samePolarity, sameModel⟩ := Fact.head_inj.mp between
      exact ⟨samePolarity.trans isBefore.1, sameModel.trans isBefore.2⟩
    · -- In the run all heads are the same, so that the atoms are in order.
      rw [List.pairwise_filter]
      refine sorted.imp fun ordered isFirst isSecond => ?_
      rw [decide_eq_true_eq] at isFirst isSecond
      rw [Utf8.encode_le_encode_iff]
      exact Fact.not_atom_lt_of_not_render_lt ordered (Fact.head_eq_head isFirst isSecond)
  · refine sorted.imp fun ordered polarity => ?_
    rw [Utf8.encode_lt_encode_iff]
    exact Fact.numeral_lt_of_not_render_lt ordered polarity

example : decimal 10 ++ [','] < decimal 2 ++ [','] := by decide

end AnswerQuery
