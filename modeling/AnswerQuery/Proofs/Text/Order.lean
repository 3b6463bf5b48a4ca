import AnswerQuery.Proofs.Text.Utf8

/-! The octets of texts are in the order of their characters. -/

namespace AnswerQuery

/-- Behind the same elements two lists are compared alone. -/
theorem append_lt_append_left_iff {α : Type} [LT α] [Std.Irrefl fun a b : α => a < b] (list front back : List α) :
    list ++ front < list ++ back ↔ front < back := by
  -- No element is less than itself.
  induction list with
  | nil => rfl
  | cons element list ih => rw [List.cons_append, List.cons_append, List.cons_lt_cons_self, ih]

/-- If neither of two lists goes on after the other, what stands behind them is compared only where they are the same. -/
theorem append_lt_append_iff {α : Type} [LT α] [Std.Irrefl fun a b : α => a < b] {front other : List α}
    (whole : front <+: other → front = other) (otherWhole : other <+: front → front = other) (back rest : List α) :
    front ++ back < other ++ rest ↔ front < other ∨ front = other ∧ back < rest := by
  -- The first elements that differ are found before either of the two ends.
  induction front generalizing other with
  | nil =>
    obtain rfl := whole List.nil_prefix
    simp
  | cons element front ih =>
    cases other with
    | nil => exact absurd (otherWhole List.nil_prefix) (List.cons_ne_nil _ _)
    | cons first other =>
      rw [List.cons_append, List.cons_append, List.cons_lt_cons_iff, List.cons_lt_cons_iff, List.cons.injEq]
      by_cases same : element = first
      · subst same
        simp only [List.prefix_cons_inj, List.cons.injEq, true_and] at whole otherWhole
        rw [ih whole otherWhole]
        simp [Std.Irrefl.irrefl]
      · simp [same]

/-- Texts neither of which is greater than the other are the same. -/
theorem eq_of_not_lt {first second : Text} (notBelow : ¬ first < second) (notAbove : ¬ second < first) :
    first = second :=
  List.le_antisymm (List.not_lt.mp notAbove) (List.not_lt.mp notBelow)

namespace Utf8

/-- Of two characters the octets of the lower one come first, whatever follows them. -/
theorem utf8EncodeChar_append_lt {c d : Char} (below : c < d) (front back : Bytes) :
    String.utf8EncodeChar c ++ front < String.utf8EncodeChar d ++ back := by
  -- A longer sequence begins with a greater octet, and sequences of one length are digits to base 64.
  have lower : c.toNat < d.toNat := below
  have range := toNat_scalar c
  have otherRange := toNat_scalar d
  have same : c.val.toNat = c.toNat := rfl
  have otherSame : d.val.toNat = d.toNat := rfl
  unfold String.utf8EncodeChar
  simp only [same, otherSame]
  generalize c.toNat = value at *
  generalize d.toNat = other at *
  -- Four lengths of the first sequence, and four of the second one.
  repeat' split
  all_goals
    simp only [List.cons_append, List.nil_append, List.cons_lt_cons_iff, UInt8.lt_iff_toNat_lt,
      UInt8.toNat_ofNat', ← UInt8.toNat_inj]
    simp (disch := omega) only [Nat.mod_eq_of_lt]
    omega

/-- The octets of a character and those of what follows it. -/
theorem encode_cons (c : Char) (text : Text) : encode (c :: text) = String.utf8EncodeChar c ++ encode text := by
  simp [encode]

/-- The octets of texts are in the order of the texts, character by character. -/
theorem encode_lt_encode_iff {first second : Text} : encode first < encode second ↔ first < second := by
  -- The first characters that differ decide, and so do their octets.
  induction first generalizing second with
  | nil =>
    cases second with
    | nil => simp
    | cons d second =>
      have size : 0 < (String.utf8EncodeChar d).length := by
        rw [String.length_utf8EncodeChar]
        exact d.utf8Size_pos
      obtain ⟨octet, octets, parts⟩ := List.exists_cons_of_length_pos size
      simp [encode_cons, parts]
  | cons c first ih =>
    cases second with
    | nil => simp
    | cons d second =>
      rw [encode_cons, encode_cons, List.cons_lt_cons_iff]
      rcases Nat.lt_trichotomy c.toNat d.toNat with below | same | above
      · exact iff_of_true (utf8EncodeChar_append_lt below _ _) (.inl below)
      · obtain rfl := Char.toNat_inj.mp same
        rw [append_lt_append_left_iff, ih]
        simp
      · have reverse := utf8EncodeChar_append_lt above (encode second) (encode first)
        refine iff_of_false (List.lt_asymm reverse) ?_
        rintro (below | ⟨rfl, _⟩)
        · exact Nat.lt_asymm above below
        · exact Nat.lt_irrefl _ above

/-- The octets of one text are no greater than those of another exactly if the text is not the greater one. -/
theorem encode_le_encode_iff {first second : Text} : encode first ≤ encode second ↔ ¬ second < first := by
  rw [← List.not_lt, encode_lt_encode_iff]

end Utf8

end AnswerQuery
