import AnswerQuery.Text.Utf8

/-! The octets of a text are read back as that text. -/

namespace AnswerQuery.Utf8

/-- The code point of a character is no surrogate and not too large. -/
theorem toNat_scalar (c : Char) : c.toNat < 0xD800 ∨ (0xDFFF < c.toNat ∧ c.toNat < 0x110000) := by
  -- Characters carry a proof of this.
  simpa [UInt32.isValidChar, Nat.isValidChar] using c.valid

/-- An octet that begins a sequence of several octets is remembered. -/
theorem feed_lead {octet : UInt8} {pending : Pending} {emitted : Text}
    (leads : Pending.ofLead? octet = some pending) (above : 0x80 ≤ octet.toNat) :
    Decoder.feed ⟨none, emitted⟩ octet = ⟨some pending, emitted⟩ := by
  -- Only octets below 0x80 are characters on their own.
  have wide : ¬ octet < 0x80 := by
    simp only [UInt8.lt_iff_toNat_lt, UInt8.reduceToNat]
    omega
  simp [Decoder.feed, Decoder.begin, leads, wide]

/-- An octet in the middle of a sequence adds six bits to it. -/
theorem feed_more {bits next missing : Nat} {low high : UInt8} {emitted : Text}
    (lowest : low.toNat ≤ next % 64 + 0x80) (highest : next % 64 + 0x80 ≤ high.toNat) :
    Decoder.feed ⟨some ⟨bits, missing + 2, low, high⟩, emitted⟩
        (UInt8.ofNat (next % 64 + 0x80)) =
      ⟨some ⟨bits * 64 + next % 64, missing + 1, 0x80, 0xBF⟩, emitted⟩ := by
  -- The octet is one of those that may come next, and more than one is missing.
  have value : (UInt8.ofNat (next % 64 + 0x80)).toNat = next % 64 + 0x80 :=
    UInt8.toNat_ofNat_of_lt' (by simp only [UInt8.size]; omega)
  simp only [Decoder.feed, UInt8.le_iff_toNat_le, value]
  simp [lowest, highest]

/-- The last octet of a sequence completes a character. -/
theorem feed_last {bits next : Nat} {low high : UInt8} {emitted : Text}
    (lowest : low.toNat ≤ next % 64 + 0x80) (highest : next % 64 + 0x80 ≤ high.toNat) :
    Decoder.feed ⟨some ⟨bits, 1, low, high⟩, emitted⟩ (UInt8.ofNat (next % 64 + 0x80)) =
      ⟨none, Char.ofNat (bits * 64 + next % 64) :: emitted⟩ := by
  -- The octet is one of those that may come next, and no other is missing.
  have value : (UInt8.ofNat (next % 64 + 0x80)).toNat = next % 64 + 0x80 :=
    UInt8.toNat_ofNat_of_lt' (by simp only [UInt8.size]; omega)
  simp only [Decoder.feed, UInt8.le_iff_toNat_le, value]
  simp [lowest, highest]

/-- The first of two octets leaves five bits and one octet to come. -/
theorem ofLead?_two (bits : Nat) (long : 2 ≤ bits) (short : bits < 32) :
    Pending.ofLead? (UInt8.ofNat (bits + 0xC0)) = some ⟨bits, 1, 0x80, 0xBF⟩ := by
  -- It lies between 0xC2 and 0xDF.
  have value : (UInt8.ofNat (bits + 0xC0)).toNat = bits + 0xC0 :=
    UInt8.toNat_ofNat_of_lt' (by simp only [UInt8.size]; omega)
  simp only [Pending.ofLead?, UInt8.le_iff_toNat_le, value, UInt8.reduceToNat]
  rw [if_pos (by omega), Nat.add_sub_cancel]

/-- The first of three octets admits the second, as no character is too short or a surrogate. -/
theorem ofLead?_three (bits next : Nat) (short : bits < 16) (long : bits = 0 → 32 ≤ next % 64)
    (scalar : bits = 13 → next % 64 < 32) :
    ∃ low high, Pending.ofLead? (UInt8.ofNat (bits + 0xE0)) = some ⟨bits, 2, low, high⟩ ∧
      low.toNat ≤ next % 64 + 0x80 ∧ next % 64 + 0x80 ≤ high.toNat := by
  -- Two of the sixteen octets narrow the range of the second one.
  have value : (UInt8.ofNat (bits + 0xE0)).toNat = bits + 0xE0 :=
    UInt8.toNat_ofNat_of_lt' (by simp only [UInt8.size]; omega)
  have inside : next % 64 < 64 := Nat.mod_lt _ (by decide)
  generalize next % 64 = next at *
  simp only [Pending.ofLead?, UInt8.le_iff_toNat_le, ← UInt8.toNat_inj, value, UInt8.reduceToNat]
  rw [if_neg (by omega)]
  by_cases least : bits = 0
  · subst least
    exact ⟨0xA0, 0xBF, rfl, by simp; omega, by simp; omega⟩
  rw [if_neg (by omega)]
  by_cases surrogate : bits = 13
  · subst surrogate
    exact ⟨0x80, 0x9F, rfl, by simp, by simp; omega⟩
  rw [if_neg (by omega), if_pos (by omega), Nat.add_sub_cancel]
  exact ⟨0x80, 0xBF, rfl, by simp, by simp; omega⟩

/-- The first of four octets admits the second, as no character is too short or too large. -/
theorem ofLead?_four (bits next : Nat) (short : bits < 5) (long : bits = 0 → 16 ≤ next % 64)
    (scalar : bits = 4 → next % 64 < 16) :
    ∃ low high, Pending.ofLead? (UInt8.ofNat (bits + 0xF0)) = some ⟨bits, 3, low, high⟩ ∧
      low.toNat ≤ next % 64 + 0x80 ∧ next % 64 + 0x80 ≤ high.toNat := by
  -- The first and the last of the five octets narrow the range of the second one.
  have value : (UInt8.ofNat (bits + 0xF0)).toNat = bits + 0xF0 :=
    UInt8.toNat_ofNat_of_lt' (by simp only [UInt8.size]; omega)
  have inside : next % 64 < 64 := Nat.mod_lt _ (by decide)
  generalize next % 64 = next at *
  simp only [Pending.ofLead?, UInt8.le_iff_toNat_le, ← UInt8.toNat_inj, value, UInt8.reduceToNat]
  rw [if_neg (by omega), if_neg (by omega), if_neg (by omega), if_neg (by omega)]
  by_cases least : bits = 0
  · subst least
    exact ⟨0x90, 0xBF, rfl, by simp; omega, by simp; omega⟩
  rw [if_neg (by omega)]
  by_cases greatest : bits = 4
  · subst greatest
    exact ⟨0x80, 0x8F, rfl, by simp, by simp; omega⟩
  rw [if_pos (by omega), Nat.add_sub_cancel]
  exact ⟨0x80, 0xBF, rfl, by simp, by simp; omega⟩

/-- Reading the octets of a character outside any sequence reads that character. -/
theorem foldl_feed_utf8EncodeChar (emitted : Text) (c : Char) :
    (String.utf8EncodeChar c).foldl Decoder.feed ⟨none, emitted⟩ = ⟨none, c :: emitted⟩ := by
  -- There are four lengths, and the octets carry the bits of the code point from the end.
  have range := toNat_scalar c
  have same : c.val.toNat = c.toNat := rfl
  have self := Char.ofNat_toNat c
  unfold String.utf8EncodeChar
  simp only [same]
  generalize c.toNat = value at *
  split
  case isTrue one =>
    have back : (UInt8.ofNat value).toNat = value :=
        UInt8.toNat_ofNat_of_lt' (by simp only [UInt8.size]; omega)
    have plain : UInt8.ofNat value < 0x80 := by
      simp only [UInt8.lt_iff_toNat_lt, back, UInt8.reduceToNat]
      omega
    simp [Decoder.feed, Decoder.begin, plain, self, back]
  split
  case isTrue two =>
    have lead : value / 64 % 32 = value / 64 := by omega
    have leads := ofLead?_two (value / 64) (by omega) (by omega)
    have whole : value / 64 * 64 + value % 64 = value := by omega
    simp only [lead, List.foldl_cons, List.foldl_nil]
    rw [feed_lead leads (by simp; omega), feed_last (by simp) (by simp; omega), whole, self]
  split
  case isTrue three =>
    have lead : value / 4096 % 16 = value / 4096 := by omega
    obtain ⟨low, high, leads, lowest, highest⟩ :=
      ofLead?_three (value / 4096) (value / 64) (by omega) (by omega) (by omega)
    have whole : (value / 4096 * 64 + value / 64 % 64) * 64 + value % 64 = value := by omega
    simp only [lead, List.foldl_cons, List.foldl_nil]
    rw [feed_lead leads (by simp; omega), feed_more lowest highest,
      feed_last (by simp) (by simp; omega), whole, self]
  case isFalse four =>
    have lead : value / 262144 % 8 = value / 262144 := by omega
    obtain ⟨low, high, leads, lowest, highest⟩ :=
      ofLead?_four (value / 262144) (value / 4096) (by omega) (by omega) (by omega)
    have whole : ((value / 262144 * 64 + value / 4096 % 64) * 64 + value / 64 % 64) * 64 +
        value % 64 = value := by
      omega
    simp only [lead, List.foldl_cons, List.foldl_nil]
    rw [feed_lead leads (by simp; omega), feed_more lowest highest,
      feed_more (by simp) (by simp; omega), feed_last (by simp) (by simp; omega), whole, self]

/-- Reading the octets of a text outside any sequence reads its characters, the last one first. -/
theorem foldl_feed_encode (text emitted : Text) :
    (encode text).foldl Decoder.feed ⟨none, emitted⟩ = ⟨none, text.reverse ++ emitted⟩ := by
  -- Every character leaves the reader outside any sequence, where the next one begins.
  induction text generalizing emitted with
  | nil => rfl
  | cons c text ih =>
    have rest := ih (c :: emitted)
    rw [← List.singleton_append, encode_append, List.foldl_append]
    simpa [encode, foldl_feed_utf8EncodeChar] using rest

/-- A text is what its octets are read as. -/
@[simp] theorem decode_encode (text : Text) : decode (encode text) = text := by
  -- The reader begins and ends outside any sequence, and its characters are turned round in the end.
  simp [decode, Decoder.start, foldl_feed_encode, Decoder.finish]

/-- Different texts have different octets. -/
theorem encode_inj {first second : Text} : encode first = encode second ↔ first = second := by
  -- A text is read back from its octets.
  constructor
  · intro same
    rw [← decode_encode first, same, decode_encode]
  · rintro rfl
    rfl

end AnswerQuery.Utf8
