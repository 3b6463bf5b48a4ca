import AnswerQuery.Literal
import AnswerQuery.Proofs.Text.Words

/-! Literals are read by a grammar that has one reading for every token, and what is read is written as itself. -/

namespace AnswerQuery

namespace Literal

/-- What a literal that is read looks like. -/
structure WellFormed (literal : Literal) : Prop where
  /-- It has an atom. -/
  nonempty : literal.atom ≠ []
  /-- The atom does not end in a terminator. -/
  unterminated : ∀ last ∈ literal.atom.getLast?, last ≠ '.' ∧ last ≠ ','
  /-- A minus in front of the atom is not taken for one that denies it. -/
  unsigned : literal.polarity = .positive → literal.atom.head? ≠ some '-'

/-- The terminators are the period and the comma. -/
theorem isTerminator_iff {c : Char} : isTerminator c = true ↔ c = '.' ∨ c = ',' := by
  simp [isTerminator]

/-- All other characters belong to a literal that ends in them. -/
theorem isTerminator_eq_false_iff {c : Char} : isTerminator c = false ↔ c ≠ '.' ∧ c ≠ ',' := by
  simp [isTerminator]

/-- A token is read as a literal exactly if the literal as it is written is left without the terminators at the end. -/
theorem ofToken?_eq_some_iff_dropTrailing {token : Text} {literal : Literal} :
    ofToken? token = some literal ↔
      dropTrailing isTerminator token = literal.render ∧ literal.atom ≠ [] ∧
        (literal.polarity = .positive → literal.atom.head? ≠ some '-') := by
  unfold ofToken?
  -- Only what is left in front of the terminators is looked at.
  generalize dropTrailing isTerminator token = front
  constructor
  · intro read
    -- Nothing and a lone minus are no literals; otherwise the first character decides.
    split at read
    · contradiction
    · contradiction
    · cases read
      simp [render, Polarity.mark]
    · next first others alone signed =>
      cases read
      refine ⟨rfl, List.cons_ne_nil _ _, ?_⟩
      -- A minus in front would be the only character, or be taken from the others.
      rintro - minus
      obtain rfl : first = '-' := Option.some.inj minus
      cases others with
      | nil => exact alone rfl rfl
      | cons second others => exact signed second others rfl rfl
  · rintro ⟨rfl, nonempty, unsigned⟩
    obtain ⟨atom, polarity⟩ := literal
    obtain ⟨first, others, rfl⟩ := List.exists_cons_of_ne_nil nonempty
    -- A positive literal is written without a mark, so that its atom must not look like one.
    cases polarity with
    | negative => rfl
    | positive =>
      have plain : first ≠ '-' := fun minus => unsigned rfl (congrArg some minus)
      simp [render, Polarity.mark, plain]

/-- A token is no literal exactly if nothing is left without the terminators at the end, or only a minus. -/
theorem ofToken?_eq_none_iff_dropTrailing {token : Text} :
    ofToken? token = none ↔ dropTrailing isTerminator token = [] ∨ dropTrailing isTerminator token = ['-'] := by
  unfold ofToken?
  generalize dropTrailing isTerminator token = front
  split <;> simp_all

/-- The last character of a literal is that of its atom. -/
theorem getLast?_render {literal : Literal} (nonempty : literal.atom ≠ []) :
    literal.render.getLast? = literal.atom.getLast? := by
  rw [render, List.getLast?_append, List.getLast?_eq_some_getLast nonempty, Option.some_or]

/-- A token is read as a literal exactly if that is well formed and the token is the literal with terminators behind. -/
theorem ofToken?_eq_some_iff {token : Text} {literal : Literal} :
    ofToken? token = some literal ↔
      literal.WellFormed ∧ ∃ run, token = literal.render ++ run ∧ ∀ c ∈ run, c = '.' ∨ c = ',' := by
  simp only [ofToken?_eq_some_iff_dropTrailing, dropTrailing_eq_iff, isTerminator_iff, isTerminator_eq_false_iff]
  constructor
  · rintro ⟨⟨unterminated, following⟩, nonempty, unsigned⟩
    -- What is left does not end in a terminator, and it ends as its atom does.
    rw [getLast?_render nonempty] at unterminated
    exact ⟨⟨nonempty, unterminated, unsigned⟩, following⟩
  · rintro ⟨wellFormed, following⟩
    rw [getLast?_render wellFormed.nonempty]
    exact ⟨⟨wellFormed.unterminated, following⟩, wellFormed.nonempty, wellFormed.unsigned⟩

/-- A token is no literal exactly if it consists of terminators, with or without a minus in front. -/
theorem ofToken?_eq_none_iff {token : Text} :
    ofToken? token = none ↔ ∃ run, (token = run ∨ token = '-' :: run) ∧ ∀ c ∈ run, c = '.' ∨ c = ',' := by
  -- Each of the two fronts that are no literals stands before a run of terminators.
  have bare : dropTrailing isTerminator token = [] ↔ ∃ run, token = run ∧ ∀ c ∈ run, c = '.' ∨ c = ',' := by
    simp [dropTrailing_eq_iff, isTerminator_iff]
  have minus : dropTrailing isTerminator token = ['-'] ↔
      ∃ run, token = '-' :: run ∧ ∀ c ∈ run, c = '.' ∨ c = ',' := by
    simp [dropTrailing_eq_iff, isTerminator]
  rw [ofToken?_eq_none_iff_dropTrailing, bare, minus, ← exists_or]
  simp only [or_and_right]

end Literal

/--
A token is read as a literal exactly if that is well formed and is written, with terminators behind it, as the token.

A token that is no literal has nothing in it but terminators, and at most a minus in front of them. Whatever is read
is also read from what it is written as.
-/
theorem tokens_are_read_by_grammar (token : Text) (literal : Literal) :
    (Literal.ofToken? token = some literal ↔
      literal.WellFormed ∧ ∃ run, token = literal.render ++ run ∧ ∀ c ∈ run, c = '.' ∨ c = ',') ∧
    (Literal.ofToken? token = none ↔
      ∃ run, (token = run ∨ token = '-' :: run) ∧ ∀ c ∈ run, c = '.' ∨ c = ',') ∧
    (Literal.ofToken? token = some literal → Literal.ofToken? literal.render = some literal) := by
  refine ⟨Literal.ofToken?_eq_some_iff, Literal.ofToken?_eq_none_iff, ?_⟩
  intro read
  -- No terminators need to follow what is written.
  obtain ⟨wellFormed, -⟩ := Literal.ofToken?_eq_some_iff.mp read
  exact Literal.ofToken?_eq_some_iff.mpr ⟨wellFormed, [], by simp, by simp⟩

/-- A literal with a minus and periods in its atom is read back from what it is written as. -/
theorem minus_in_atom_is_read_back :
    let literal : Literal := ⟨".--.a".toList, .negative⟩
    Literal.ofToken? "-.--.a,.".toList = some literal ∧ Literal.ofToken? literal.render = some literal := by
  have read : Literal.ofToken? "-.--.a,.".toList = some ⟨".--.a".toList, .negative⟩ := by decide
  exact ⟨read, (tokens_are_read_by_grammar _ _).2.2 read⟩

example : Literal.ofToken? "-.,.".toList = none := by decide

end AnswerQuery
