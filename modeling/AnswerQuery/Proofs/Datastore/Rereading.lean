import AnswerQuery.Proofs.Datastore.Boundaries
import AnswerQuery.Proofs.Datastore.Lines
import AnswerQuery.Proofs.Datastore.Reordering
import AnswerQuery.Proofs.Text.Order

/-! Clauses that are read as literals again: which facts they become, in which order, and what many rounds leave. -/

namespace AnswerQuery

/--
Whether one atom goes on after another such that its clause changes places when clauses are read again.

At first a period follows the other atom and its parenthesis, and afterwards another parenthesis.
-/
inductive Overtakes (atom : Text) : Text → Prop where
  /-- It goes on with a sign that lies between the two. -/
  | sign {c : Char} (rest : Text) (above : ')' < c) (below : c < '.') :
    Overtakes atom (atom ++ ')' :: c :: rest)
  /-- It goes on with a parenthesis as well, and what follows that is no less than a period. -/
  | parenthesis {c : Char} (rest : Text) (above : '.' ≤ c) :
    Overtakes atom (atom ++ ')' :: ')' :: c :: rest)

/-- Whether a fact has a clause that changes places with that of another, which is about the same model. -/
structure Fact.Overtakes (fact other : Fact) : Prop where
  /-- They are about the same model. -/
  model : fact.model = other.model
  /-- They have the same functor. -/
  polarity : fact.literal.polarity = other.literal.polarity
  /-- The atom of the other goes on after the atom of the fact. -/
  atom : AnswerQuery.Overtakes fact.literal.atom other.literal.atom

/--
A text stands before another with periods after both, and behind it with parentheses before the periods,
exactly if it goes on after the other with a character between the two, or with a parenthesis.
-/
theorem swapped_iff (text longer : Text) :
    longer ++ ['.'] < text ++ ['.'] ∧ text ++ [')', '.'] < longer ++ [')', '.'] ↔
      ∃ c rest, longer = text ++ c :: rest ∧
        (')' < c ∧ c < '.' ∨ c = ')' ∧ ['.'] < rest ++ [')', '.']) := by
  -- Only where one of the texts ends are the marks compared with anything.
  induction text generalizing longer with
  | nil =>
    cases longer with
    | nil => simp
    | cons c rest =>
      have below : c = ')' → c < '.' := by
        rintro rfl
        decide
      simp only [List.nil_append, List.cons_append, List.cons_lt_cons_iff, List.not_lt_nil, and_false, or_false,
        List.cons.injEq, eq_comm (a := ')')]
      constructor
      · rintro ⟨low, high | closes⟩
        · exact ⟨c, rest, ⟨rfl, rfl⟩, .inl ⟨high, low⟩⟩
        · exact ⟨c, rest, ⟨rfl, rfl⟩, .inr closes⟩
      · rintro ⟨_, _, ⟨rfl, rfl⟩, ⟨high, low⟩ | closes⟩
        · exact ⟨low, .inl high⟩
        · exact ⟨below closes.1, .inr closes⟩
  | cons d text ih =>
    cases longer with
    | nil =>
      -- A character that is no less than the period is not below the parenthesis.
      refine iff_of_false ?_ (by simp)
      simp only [List.nil_append, List.cons_append, List.cons_lt_cons_iff]
      rintro ⟨above | ⟨rfl, _⟩, below | ⟨same, _⟩⟩
      · exact absurd (Char.lt_trans above below) (by decide)
      · exact absurd (same ▸ above) (by decide)
      · exact absurd below (by decide)
      · exact absurd same (by decide)
    | cons c longer =>
      simp only [List.cons_append, List.cons_lt_cons_iff]
      by_cases same : c = d
      · subst same
        simpa [Char.lt_irrefl] using ih longer
      · -- The first character decides in the same way with either mark.
        refine iff_of_false ?_ ?_
        · rintro ⟨below | ⟨equal, _⟩, above | ⟨equal', _⟩⟩
          · exact Char.lt_asymm below above
          · exact same equal'.symm
          · exact same equal
          · exact same equal
        · rintro ⟨e, rest, split, _⟩
          exact same (List.cons.inj split).1

namespace Fact

/-- The fact that an atom holds in the first model. -/
def asserting (atom : Text) : Fact :=
  ⟨0, ⟨atom, .positive⟩⟩

/-- The fact that the clause of a fact states when it is read as a literal. -/
def restated (fact : Fact) : Fact :=
  asserting fact.term

/-- A term up to its atom, the atom, and a parenthesis. -/
theorem term_eq (fact : Fact) :
    fact.term = fact.literal.polarity.functor ++ '(' :: (decimal fact.model ++ ',' :: fact.literal.atom) ++ [')'] := by
  simp [term]

/-- Different facts have different terms. -/
theorem term_inj {first second : Fact} : first.term = second.term ↔ first = second := by
  -- A clause is a term with a period.
  rw [← render_inj, render, render, List.append_left_inj]

/-- A term that goes on after a parenthesis has an atom that does. -/
theorem term_append (model : Nat) (atom rest : Text) (polarity : Polarity) :
    term ⟨model, ⟨atom, polarity⟩⟩ ++ (rest ++ [')']) = term ⟨model, ⟨atom ++ ')' :: rest, polarity⟩⟩ := by
  simp [term]

/-- A fact whose term goes on after that of another has the same functor and number, and its atom goes on. -/
theorem eq_of_term_eq_append {fact other : Fact} {c : Char} {rest : Text}
    (longer : other.term = fact.term ++ c :: rest) :
    ∃ more, c :: rest = more ++ [')'] ∧
      other = ⟨fact.model, ⟨fact.literal.atom ++ ')' :: more, fact.literal.polarity⟩⟩ := by
  -- What the term ends with is a parenthesis, and the rest belongs to the atom.
  obtain ⟨more, last, split⟩ : ∃ more last, c :: rest = more ++ [last] :=
    ⟨_, _, (List.dropLast_append_getLast (List.cons_ne_nil c rest)).symm⟩
  rw [split] at longer
  have closes : last = ')' := by
    have ends := congrArg List.getLast? longer
    rw [term_eq, List.getLast?_concat, ← List.append_assoc, List.getLast?_concat] at ends
    exact (Option.some.inj ends).symm
  subst closes
  refine ⟨more, split, ?_⟩
  rw [← term_inj, longer]
  exact term_append fact.model fact.literal.atom more fact.literal.polarity

/-- The clause of a term that is read as an atom of the first model. -/
theorem render_restated (fact : Fact) :
    fact.restated.render = "pos(0,".toList ++ (fact.term ++ [')', '.']) := by
  simp [render_eq, restated, asserting, decimal, Polarity.functor]

/-- A period stands before what begins with no less than a period, and goes on. -/
theorem period_lt_iff (c : Char) {rest : Text} (more : rest ≠ []) : ['.'] < c :: rest ↔ '.' ≤ c := by
  obtain ⟨d, others, rfl⟩ := List.exists_cons_of_ne_nil more
  rw [List.cons_lt_cons_iff, ← Char.toNat_inj]
  simp only [List.nil_lt_cons, and_true]
  exact Nat.le_iff_lt_or_eq.symm

/-- Two facts change places when their clauses are read again exactly if one overtakes the other. -/
theorem swapped_iff_overtakes (fact other : Fact) :
    other.render < fact.render ∧ fact.restated.render < other.restated.render ↔
      fact.Overtakes other := by
  -- A term is followed by a period at first, and by a parenthesis and a period when it is an atom itself.
  rw [render_restated, render_restated, append_lt_append_left_iff, render, render, swapped_iff]
  constructor
  · rintro ⟨c, rest, longer, order⟩
    obtain ⟨more, split, rfl⟩ := eq_of_term_eq_append longer
    refine ⟨rfl, rfl, ?_⟩
    rcases order with ⟨above, below⟩ | ⟨rfl, after⟩
    · cases more with
      | nil =>
        cases split
        exact absurd above (by decide)
      | cons d more =>
        cases split
        exact .sign more above below
    · -- The parenthesis is not the one that ends the term, and what follows it is no less than a period.
      cases more with
      | nil =>
        cases split
        exact absurd after (by decide)
      | cons d more =>
        rw [List.cons_append, List.cons.injEq] at split
        obtain ⟨rfl, rfl⟩ := split
        cases more with
        | nil => exact absurd after (by decide)
        | cons e more =>
          rw [List.cons_append, List.cons_append, period_lt_iff e (by simp)] at after
          exact .parenthesis more after
  · obtain ⟨model, atom, polarity⟩ := fact
    obtain ⟨otherModel, otherAtom, otherPolarity⟩ := other
    rintro ⟨rfl, rfl, goesOn⟩
    cases goesOn with
    | @sign c rest above below =>
      exact ⟨c, rest ++ [')'], (term_append _ _ (c :: rest) _).symm, .inl ⟨above, below⟩⟩
    | @parenthesis c rest above =>
      refine ⟨')', c :: (rest ++ [')']), (term_append _ _ (')' :: c :: rest) _).symm, .inr ⟨rfl, ?_⟩⟩
      rw [List.cons_append, period_lt_iff c (by simp)]
      exact above

/-- A term is read as a literal that asserts it. -/
theorem ofToken?_term (fact : Fact) : Literal.ofToken? fact.term = some ⟨fact.term, .positive⟩ := by
  -- It ends in a parenthesis, and the functor does not begin with a minus.
  have kept : dropTrailing Literal.isTerminator fact.term = fact.term := by
    rw [term_eq]
    exact dropTrailing_append_of_not _ (by decide)
  rw [Literal.ofToken?, kept, term_eq]
  cases fact.literal.polarity <;> rfl

end Fact

namespace Datastore

/-- Facts are sorted to any list of the same facts that is sorted. -/
theorem mergeSort_inOrder_eq {facts sorted : List Fact} (perm : facts.Perm sorted)
    (ordered : sorted.Pairwise fun first second => inOrder first second = true) :
    facts.mergeSort inOrder = sorted := by
  rw [(mergeSort_inOrder_eq_iff facts sorted).mpr perm, List.mergeSort_of_pairwise ordered]

/-- Terms that are read as literals that assert them are the facts in the datastore of their clauses. -/
theorem ofTokens_map_append_period {terms : List Text}
    (read : ∀ term ∈ terms, Literal.ofToken? term = some ⟨term, .positive⟩) :
    ofTokens (terms.map (· ++ ['.'])) = ⟨(terms.map Fact.asserting).mergeSort inOrder, 0⟩ := by
  -- No clause is a delimiter, and its period does not belong to the literal.
  have plain : ∀ clause ∈ terms.map (· ++ ['.']), Format.isDelimiter clause = false := by
    rw [List.forall_mem_map]
    exact fun term _ => Format.isDelimiter_append_period term
  have stated : literalFacts 0 terms = terms.map Fact.asserting := by
    rw [literalFacts, ← List.filterMap_eq_map]
    refine List.filterMap_congr fun term member => ?_
    rw [read term member]
    rfl
  have collected := collect_append_of_not_isDelimiter plain 0 []
  rw [List.append_nil, collect_nil, List.append_nil, literalFacts_append_period, stated] at collected
  rw [ofTokens, collected]

/-- The datastore of clauses holds their terms, sorted once more. -/
theorem ofTokens_map_render (facts : List Fact) :
    ofTokens (facts.map Fact.render) = ⟨(facts.map Fact.restated).mergeSort inOrder, 0⟩ := by
  have read : ∀ term ∈ facts.map Fact.term, Literal.ofToken? term = some ⟨term, .positive⟩ := by
    rw [List.forall_mem_map]
    exact fun fact _ => fact.ofToken?_term
  have clauses := ofTokens_map_append_period read
  rw [List.map_map, List.map_map] at clauses
  exact clauses

/-- Of two members of a list that are not the same, one comes before the other. -/
theorem rel_or_rel_of_pairwise {α : Type} {R : α → α → Prop} {list : List α} (pairwise : list.Pairwise R)
    {first second : α} (member : first ∈ list) (among : second ∈ list) :
    first = second ∨ R first second ∨ R second first := by
  -- One of them may be the head of the list.
  induction pairwise with
  | nil => contradiction
  | cons before _ ih =>
    rcases List.mem_cons.mp member with rfl | inTail
    · rcases List.mem_cons.mp among with rfl | later
      · exact .inl rfl
      · exact .inr (.inl (before _ later))
    · rcases List.mem_cons.mp among with rfl | later
      · exact .inr (.inr (before _ inTail))
      · exact ih inTail later

/-- Sorted facts stay sorted when their clauses are read again exactly if none of them overtakes another. -/
theorem pairwise_map_restated_iff {facts : List Fact}
    (sorted : facts.Pairwise fun first second => inOrder first second = true) :
    ((facts.map Fact.restated).Pairwise fun first second => inOrder first second = true) ↔
      ∀ fact ∈ facts, ∀ other ∈ facts, ¬ fact.Overtakes other := by
  simp only [inOrder_iff_not_lt] at sorted ⊢
  rw [List.pairwise_map]
  constructor
  · intro kept fact member other among overtakes
    obtain ⟨before, after⟩ := (fact.swapped_iff_overtakes other).mpr overtakes
    -- Whichever of the two comes first, one of the two orders is broken.
    rcases rel_or_rel_of_pairwise (sorted.and kept) member among with rfl | ⟨ordered, _⟩ | ⟨_, reordered⟩
    · exact List.lt_irrefl _ before
    · exact ordered before
    · exact reordered after
  · intro none
    refine List.Pairwise.imp_of_mem ?_ sorted
    intro first second member among ordered swapped
    by_cases less : first.render < second.render
    · exact none second among first member ((second.swapped_iff_overtakes first).mp ⟨less, swapped⟩)
    · have same := Fact.render_inj.mp (eq_of_not_lt less ordered)
      rw [same] at swapped
      exact List.lt_irrefl _ swapped

/-- The atoms of facts that are sorted again are in their old order exactly if the facts are. -/
theorem map_atom_mergeSort_restated_iff (facts : List Fact) :
    ((facts.map Fact.restated).mergeSort inOrder).map (fun fact => fact.literal.atom) = facts.map Fact.term ↔
      (facts.map Fact.restated).Pairwise fun first second => inOrder first second = true := by
  -- A restated fact is determined by its atom, and sorting changes nothing only where there is nothing to sort.
  have determined : ∀ fact ∈ (facts.map Fact.restated).mergeSort inOrder,
      (Fact.asserting ∘ fun fact => fact.literal.atom) fact = id fact := by
    intro fact member
    rw [List.mem_mergeSort] at member
    obtain ⟨source, _, rfl⟩ := List.mem_map.mp member
    rfl
  constructor
  · intro same
    have kept := congrArg (List.map Fact.asserting) same
    rw [List.map_map, List.map_map, List.map_congr_left determined, List.map_id] at kept
    have sorted := List.pairwise_mergeSort inOrder_trans inOrder_total (facts.map Fact.restated)
    rwa [kept] at sorted
  · intro sorted
    rw [List.mergeSort_of_pairwise sorted, List.map_map]
    rfl

end Datastore

/--
The clauses of a written datastore are read as literals that assert their terms.

Their order is kept exactly if no atom overtakes another of the same model and polarity.
-/
theorem reread_clauses_keep_order_iff (text : Text) :
    let datastore := Datastore.ofText text
    let clauses := (datastore.render.splitOn '\n').dropLast.dropLast
    let atoms := (Datastore.ofTokens clauses).facts.map fun fact => fact.literal.atom
    atoms.Perm (clauses.map List.dropLast) ∧
      (atoms = clauses.map List.dropLast ↔
        ∀ fact ∈ datastore.facts, ∀ other ∈ datastore.facts, ¬ fact.Overtakes other) := by
  -- The lines before the last one are the clauses of the facts, and each is its term with a period.
  intro datastore clauses atoms
  have lines : clauses = datastore.facts.map Fact.render := by
    simp only [clauses, datastore, Datastore.splitOn_render_ofText, Datastore.lines, List.dropLast_concat]
  have terms : clauses.map List.dropLast = datastore.facts.map Fact.term := by
    simp [lines, Fact.render]
  have read : atoms = ((datastore.facts.map Fact.restated).mergeSort Datastore.inOrder).map
      fun fact => fact.literal.atom := by
    simp only [atoms, lines, Datastore.ofTokens_map_render]
  rw [terms, read]
  constructor
  · have perm := (List.mergeSort_perm (datastore.facts.map Fact.restated) Datastore.inOrder).map
      fun fact => fact.literal.atom
    rwa [List.map_map] at perm
  · rw [Datastore.map_atom_mergeSort_restated_iff]
    apply Datastore.pairwise_map_restated_iff
    simp only [datastore, Datastore.ofText, Datastore.ofTokens_eq]
    exact List.pairwise_mergeSort Datastore.inOrder_trans Datastore.inOrder_total _

/-- A literal that goes on with a comma after another and a parenthesis changes places with it. -/
theorem reread_clauses_change_places :
    let datastore := Datastore.ofText "b b),c".toList
    let clauses := (datastore.render.splitOn '\n').dropLast.dropLast
    let atoms := (Datastore.ofTokens clauses).facts.map fun fact => fact.literal.atom
    clauses = ["pos(0,b),c).", "pos(0,b)."].map String.toList ∧
      atoms = ["pos(0,b)", "pos(0,b),c)"].map String.toList ∧
      atoms ≠ clauses.map List.dropLast := by
  -- At first a comma is compared with a period, and afterwards with a parenthesis.
  let shorter : Fact := ⟨0, ⟨"b".toList, .positive⟩⟩
  let longer : Fact := ⟨0, ⟨"b),c".toList, .positive⟩⟩
  have facts : (Datastore.ofText "b b),c".toList).facts = [longer, shorter] := by
    have stated : statedFacts 0 (words "b b),c".toList) = [shorter, longer] := by decide +kernel
    rw [Datastore.ofText, Datastore.ofTokens_eq, stated]
    exact Datastore.mergeSort_inOrder_eq (.swap _ _ _) (by decide +kernel)
  have again : (Datastore.ofTokens ([longer, shorter].map Fact.render)).facts =
      [shorter.restated, longer.restated] := by
    rw [Datastore.ofTokens_map_render]
    exact Datastore.mergeSort_inOrder_eq (.swap _ _ _) (by decide +kernel)
  intro datastore clauses atoms
  have lines : clauses = [longer, shorter].map Fact.render := by
    simp only [clauses, datastore, Datastore.splitOn_render_ofText, Datastore.lines, List.dropLast_concat, facts]
  simp only [atoms, lines, again]
  decide +kernel

namespace Datastore

/-- The term that the last clause states. -/
def countTerm (models : Nat) : Text :=
  "number_of_models(".toList ++ decimal models ++ [')']

/-- The terms that the clauses of a datastore state, in their order. -/
def terms (datastore : Datastore) : List Text :=
  datastore.facts.map Fact.term ++ [countTerm datastore.models]

/-- The last clause is its term with a period. -/
theorem countClause_eq (models : Nat) : countClause models = countTerm models ++ ['.'] :=
  (List.append_assoc _ [')'] ['.']).symm

/-- The lines of a datastore are its terms with periods. -/
theorem lines_eq_map_terms (datastore : Datastore) : datastore.lines = datastore.terms.map (· ++ ['.']) := by
  rw [lines, terms, List.map_append, List.map_map, List.map_singleton, countClause_eq]
  rfl

/-- The term of the last clause is read as a literal that asserts it. -/
theorem ofToken?_countTerm (models : Nat) :
    Literal.ofToken? (countTerm models) = some ⟨countTerm models, .positive⟩ := by
  -- It neither ends in a terminator nor begins with a minus.
  have kept : dropTrailing Literal.isTerminator (countTerm models) = countTerm models :=
    dropTrailing_append_of_not _ (by decide)
  rw [Literal.ofToken?, kept]
  rfl

/-- The terms of a datastore are read as literals that assert them. -/
theorem ofToken?_of_mem_terms {datastore : Datastore} {term : Text} (member : term ∈ datastore.terms) :
    Literal.ofToken? term = some ⟨term, .positive⟩ := by
  rcases List.mem_append.mp member with ofFact | ofCount
  · obtain ⟨fact, _, rfl⟩ := List.mem_map.mp ofFact
    exact fact.ofToken?_term
  · rw [List.mem_singleton.mp ofCount]
    exact ofToken?_countTerm _

/-- The datastore of a text after so many rounds, in each of which it is written and read as a text again. -/
def afterRounds (text : Text) : Nat → Datastore
  | 0 => ofText text
  | rounds + 1 => ofText (afterRounds text rounds).render

/-- After any number of rounds there is the datastore of a text. -/
theorem exists_afterRounds_eq_ofText (text : Text) (rounds : Nat) :
    ∃ source, afterRounds text rounds = ofText source := by
  cases rounds with
  | zero => exact ⟨text, rfl⟩
  | succ rounds => exact ⟨_, rfl⟩

/-- One more round asserts the terms that the clauses have stated. -/
theorem afterRounds_succ (text : Text) (rounds : Nat) :
    afterRounds text (rounds + 1) =
      ⟨((afterRounds text rounds).terms.map Fact.asserting).mergeSort inOrder, 0⟩ := by
  obtain ⟨source, same⟩ := exists_afterRounds_eq_ofText text rounds
  rw [afterRounds, ofText, same, words_render_ofText, lines_eq_map_terms,
    ofTokens_map_append_period fun _ member => ofToken?_of_mem_terms member]

/-- Each round adds the last clause to the facts. -/
theorem length_facts_afterRounds (text : Text) (rounds : Nat) :
    (afterRounds text rounds).facts.length = (ofText text).facts.length + rounds := by
  induction rounds with
  | zero => rfl
  | succ rounds ih =>
    rw [afterRounds_succ, List.length_mergeSort, List.length_map, terms, List.length_append, List.length_map, ih]
    rfl

end Datastore

/--
A datastore that is written and read again holds a fact for each of its lines, after any number of rounds.

The lines are the words of what is written. The fact asserts in the first model what the line states, which is the
line without its period, and no models are counted any more. So each round adds one fact, the number of models.
-/
theorem rounds_assert_every_line (text : Text) (rounds : Nat) :
    let before := Datastore.afterRounds text rounds
    let after := Datastore.afterRounds text (rounds + 1)
    after.models = 0 ∧
      after.facts.length = (Datastore.ofText text).facts.length + (rounds + 1) ∧
      (∀ fact ∈ after.facts, fact.literal.polarity = .positive ∧ fact.model = 0) ∧
      ∃ lines, before.render.splitOn '\n' = lines ++ [[]] ∧ words before.render = lines ∧
        (after.facts.map fun fact => fact.literal.atom ++ ['.']).Perm lines := by
  intro before after
  obtain ⟨source, same⟩ : ∃ source, before = Datastore.ofText source :=
    Datastore.exists_afterRounds_eq_ofText text rounds
  have whole : after = ⟨(before.terms.map Fact.asserting).mergeSort Datastore.inOrder, 0⟩ :=
    Datastore.afterRounds_succ text rounds
  have facts : after.facts.Perm (before.terms.map Fact.asserting) := whole ▸ List.mergeSort_perm _ _
  refine ⟨by rw [whole], Datastore.length_facts_afterRounds text (rounds + 1), ?_, before.lines, ?_, ?_, ?_⟩
  · intro fact member
    obtain ⟨term, _, rfl⟩ := List.mem_map.mp (facts.mem_iff.mp member)
    exact ⟨rfl, rfl⟩
  · rw [same, Datastore.splitOn_render_ofText]
  · rw [same, Datastore.words_render_ofText]
  · -- The atom of each fact is one of the terms.
    have atoms := facts.map fun fact => fact.literal.atom ++ ['.']
    rw [List.map_map] at atoms
    rw [Datastore.lines_eq_map_terms]
    exact atoms

end AnswerQuery
