import AnswerQuery.Proofs.Text.Utf8
import AnswerQuery.Scan.Symbol
import Mathlib.Algebra.Group.Nat.Defs

/-!
Octets of ASCII stand for themselves wherever they occur, and no others are read as characters of
ASCII.
-/

namespace AnswerQuery.Utf8

/-- The character with the code of an octet. -/
def charOf (octet : UInt8) : Char :=
  Char.ofNat octet.toNat

/-- A number that is no surrogate and not too large is the code of its character. -/
theorem toNat_ofNat_scalar {value : Nat} (scalar : value < 0xD800 ∨ 0xE000 ≤ value ∧ value < 0x110000) :
    (Char.ofNat value).toNat = value := by
  -- Other numbers have no character.
  have valid : value.isValidChar := by
    unfold Nat.isValidChar
    omega
  rw [Char.ofNat, dif_pos valid]
  rfl

/-- The character with the code of an octet has this code. -/
@[simp] theorem code_charOf (octet : UInt8) : Symbol.code (charOf octet) = Symbol.code octet := by
  -- Codes of octets are small.
  have small : octet.toNat < 256 := octet.toNat_lt
  exact toNat_ofNat_scalar (.inl (by omega))

namespace Pending

/-- The least value that a sequence can be completed to. -/
def least (pending : Pending) : Nat :=
  (pending.bits * 64 + (pending.low.toNat - 0x80)) * 64 ^ (pending.missing - 1)

/-- The least value above all that a sequence can be completed to. -/
def limit (pending : Pending) : Nat :=
  (pending.bits * 64 + (pending.high.toNat - 0x80) + 1) * 64 ^ (pending.missing - 1)

/-- A sequence that no octet of ASCII continues, and that is completed to characters outside of ASCII only. -/
structure Sound (pending : Pending) : Prop where
  /-- What comes next is no octet of ASCII. -/
  above : 0x80 ≤ pending.low.toNat
  /-- No value is that of a character of ASCII. -/
  wide : 0x80 ≤ pending.least
  /-- No value is a surrogate or too large. -/
  scalar : pending.limit ≤ 0xD800 ∨ 0xE000 ≤ pending.least ∧ pending.limit ≤ 0x110000

/-- A sequence that has just begun is sound. -/
theorem sound_of_ofLead? {octet : UInt8} {pending : Pending} (leads : ofLead? octet = some pending) :
    pending.Sound := by
  -- The ranges of the second octet rule out long forms, surrogates and values too large.
  simp only [ofLead?, UInt8.le_iff_toNat_le, ← UInt8.toNat_inj, UInt8.reduceToNat] at leads
  generalize octet.toNat = value at leads
  repeat' split at leads
  all_goals
    first
    | contradiction
    | obtain rfl := Option.some.inj leads
      constructor <;> simp only [least, limit, UInt8.reduceToNat] <;> omega

variable {pending : Pending} {octet : UInt8}

/-- A sequence with an octet more. -/
def more (pending : Pending) (octet : UInt8) : Pending :=
  ⟨pending.bits * 64 + (octet.toNat - 0x80), pending.missing - 1, 0x80, 0xBF⟩

/-- An octet adds six bits. -/
theorem bits_more (pending : Pending) (octet : UInt8) :
    (pending.more octet).bits = pending.bits * 64 + (octet.toNat - 0x80) := rfl

/-- An octet less is missing. -/
theorem missing_more (pending : Pending) (octet : UInt8) :
    (pending.more octet).missing = pending.missing - 1 := rfl

/-- Any octet in the middle of a sequence may come next. -/
theorem low_more (pending : Pending) (octet : UInt8) : (pending.more octet).low = 0x80 := rfl

/-- Only an octet in the middle of a sequence may come next. -/
theorem high_more (pending : Pending) (octet : UInt8) : (pending.more octet).high = 0xBF := rfl

/-- An octet more leaves some of the values that a sequence could be completed to. -/
theorem range_more (lowest : pending.low ≤ octet) (highest : octet ≤ pending.high)
    (several : ¬ pending.missing ≤ 1) :
    pending.least ≤ (pending.more octet).least ∧ (pending.more octet).limit ≤ pending.limit := by
  -- The octets that are missing still may be any, so the values are those that begin with its bits.
  obtain ⟨bits, missing, low, high⟩ := pending
  obtain ⟨rest, rfl⟩ : ∃ rest, missing = rest + 2 := ⟨missing - 2, by simp at several; omega⟩
  simp only [UInt8.le_iff_toNat_le] at lowest highest
  have shift : ∀ value, value * 64 * 64 ^ rest = value * 64 ^ (rest + 1) := by
    intro value
    rw [Nat.mul_assoc, Nat.mul_comm 64, Nat.pow_succ]
  have whole : (bits * 64 + (octet.toNat - 0x80)) * 64 + (0xBF - 0x80) + 1 =
      (bits * 64 + (octet.toNat - 0x80) + 1) * 64 := by omega
  constructor
  · simp only [least, bits_more, missing_more, low_more, UInt8.reduceToNat, Nat.sub_self,
      Nat.add_zero, Nat.add_one_sub_one, shift]
    exact Nat.mul_le_mul_right _ (by omega)
  · simp only [limit, bits_more, missing_more, high_more, UInt8.reduceToNat, whole,
      Nat.add_one_sub_one, shift]
    exact Nat.mul_le_mul_right _ (by omega)

/-- A sequence stays sound with an octet more. -/
theorem Sound.more (sound : pending.Sound) (lowest : pending.low ≤ octet)
    (highest : octet ≤ pending.high) (several : ¬ pending.missing ≤ 1) :
    (pending.more octet).Sound := by
  -- No value is added.
  obtain ⟨_, wide, scalar⟩ := sound
  obtain ⟨lower, upper⟩ := range_more lowest highest several
  exact ⟨by simp [low_more], by omega, by omega⟩

/-- The last octet completes a sequence to a character outside of ASCII. -/
theorem Sound.last (sound : pending.Sound) (lowest : pending.low ≤ octet)
    (highest : octet ≤ pending.high) (one : pending.missing ≤ 1) :
    0x80 ≤ (Char.ofNat (pending.more octet).bits).toNat := by
  -- The value of the character is one of those that the sequence can be completed to.
  obtain ⟨_, wide, scalar⟩ := sound
  have last : 64 ^ (pending.missing - 1) = 1 := by rw [Nat.sub_eq_zero_of_le one, Nat.pow_zero]
  simp only [UInt8.le_iff_toNat_le] at lowest highest
  simp only [least, limit, last] at wide scalar
  rw [bits_more, toNat_ofNat_scalar] <;> omega

end Pending

/-- Elements outside of ASCII. -/
def Wide {α : Type} [Symbol α] (symbols : List α) : Prop :=
  ∀ symbol ∈ symbols, 0x80 ≤ Symbol.code symbol

/-- An element more is outside of ASCII as well. -/
theorem wide_cons {α : Type} [Symbol α] {symbol : α} {symbols : List α} :
    Wide (symbol :: symbols) ↔ 0x80 ≤ Symbol.code symbol ∧ Wide symbols :=
  List.forall_mem_cons

/-- What replaces octets is outside of ASCII. -/
theorem wide_replacement_cons {text : Text} (wide : Wide text) : Wide (replacement :: text) :=
  wide_cons.mpr ⟨by decide, wide⟩

namespace Decoder

/-- What a reader has read, the last character first, when nothing continues what it is in the middle of. -/
def flushed (decoder : Decoder) : Text :=
  decoder.finish.reverse

/-- Outside any sequence nothing is broken off. -/
@[simp] theorem flushed_none (emitted : Text) : flushed ⟨none, emitted⟩ = emitted := by
  simp [flushed, finish]

/-- In the middle of a sequence it is replaced. -/
@[simp] theorem flushed_some (pending : Pending) (emitted : Text) :
    flushed ⟨some pending, emitted⟩ = replacement :: emitted := by
  simp [flushed, finish]

/-- An octet either continues the sequence that has begun, or it is read afresh after what was read. -/
theorem feed_cases (decoder : Decoder) (octet : UInt8) :
    (∃ pending, decoder.pending = some pending ∧ pending.low ≤ octet ∧ octet ≤ pending.high ∧
      (pending.missing ≤ 1 ∧
          decoder.feed octet = ⟨none, Char.ofNat (pending.more octet).bits :: decoder.emitted⟩ ∨
        ¬ pending.missing ≤ 1 ∧ decoder.feed octet = ⟨some (pending.more octet), decoder.emitted⟩)) ∨
    ((∀ pending, decoder.pending = some pending → ¬ (pending.low ≤ octet ∧ octet ≤ pending.high)) ∧
      decoder.feed octet = .begin decoder.flushed octet) := by
  obtain ⟨pending, emitted⟩ := decoder
  -- Only where a sequence has begun can one be continued.
  cases pending with
  | none => exact .inr ⟨by simp, by simp [feed]⟩
  | some pending =>
    by_cases continued : pending.low ≤ octet ∧ octet ≤ pending.high
    · -- The octet is the last of its sequence or not.
      refine .inl ⟨pending, rfl, continued.1, continued.2, ?_⟩
      by_cases one : pending.missing ≤ 1
      · exact .inl ⟨one, by simp [feed, continued, one, Pending.bits_more]⟩
      · exact .inr ⟨one, by simp only [feed, continued, one, and_self, if_true, if_false]; rfl⟩
    · exact .inr ⟨by simpa using continued, by simp [feed, continued]⟩

/-- A reader is sound if the sequence it is in the middle of is. -/
def Sound (decoder : Decoder) : Prop :=
  ∀ pending, decoder.pending = some pending → pending.Sound

/-- A reader that reads an octet afresh is sound. -/
theorem sound_begin (emitted : Text) (octet : UInt8) : (Decoder.begin emitted octet).Sound := by
  intro pending begun
  -- A sequence is begun by its first octet only.
  unfold Decoder.begin at begun
  split at begun
  · contradiction
  · split at begun
    · rename_i other leads
      obtain rfl : other = pending := Option.some.inj begun
      exact Pending.sound_of_ofLead? leads
    · contradiction

/-- A reader stays sound with every octet. -/
theorem Sound.feed {decoder : Decoder} (sound : decoder.Sound) (octet : UInt8) :
    (decoder.feed octet).Sound := by
  rcases decoder.feed_cases octet with
    ⟨pending, begun, lowest, highest, ⟨_, same⟩ | ⟨several, same⟩⟩ | ⟨_, same⟩
  · simp [Sound, same]
  · -- The sequence goes on.
    intro other later
    rw [same, Option.some.injEq] at later
    exact later ▸ (sound pending begun).more lowest highest several
  · rw [same]
    exact sound_begin _ _

/-- An octet of ASCII is read as its character, after what was read before. -/
theorem Sound.feed_of_ascii {decoder : Decoder} (sound : decoder.Sound) {octet : UInt8}
    (ascii : Symbol.code octet < 0x80) :
    decoder.feed octet = ⟨none, charOf octet :: decoder.flushed⟩ := by
  -- It continues no sequence.
  have small : octet.toNat < 0x80 := ascii
  rcases decoder.feed_cases octet with ⟨pending, begun, lowest, _⟩ | ⟨_, same⟩
  · have above := (sound pending begun).above
    rw [UInt8.le_iff_toNat_le] at lowest
    omega
  · have plain : octet < 0x80 := by rwa [UInt8.lt_iff_toNat_lt]
    rw [same, Decoder.begin, if_pos plain, charOf]

/-- What is flushed is not empty after an octet. -/
theorem flushed_feed_ne_nil (decoder : Decoder) (octet : UInt8) :
    (decoder.feed octet).flushed ≠ [] := by
  -- Each octet completes a character, is replaced, or is kept for later.
  rcases decoder.feed_cases octet with ⟨_, _, _, _, ⟨_, same⟩ | ⟨_, same⟩⟩ | ⟨_, same⟩
  · simp [same]
  · simp [same]
  · rw [same, Decoder.begin]
    split
    · simp
    · split <;> simp

/-- What is flushed is outside of ASCII if what has been read is. -/
theorem wide_flushed {decoder : Decoder} (wide : Wide decoder.emitted) : Wide decoder.flushed := by
  obtain ⟨pending, emitted⟩ := decoder
  cases pending with
  | none => simpa using wide
  | some pending => simpa using wide_replacement_cons wide

/-- An octet outside of ASCII that is read afresh adds no character of ASCII. -/
theorem wide_begin {emitted : Text} (wide : Wide emitted) {octet : UInt8}
    (outside : 0x80 ≤ Symbol.code octet) : Wide (Decoder.begin emitted octet).emitted := by
  -- It is replaced or kept for later.
  have large : ¬ octet < 0x80 := by
    rw [UInt8.lt_iff_toNat_lt, Nat.not_lt]
    exact outside
  rw [Decoder.begin, if_neg large]
  split
  · exact wide
  · exact wide_replacement_cons wide

/-- An octet outside of ASCII adds no character of ASCII. -/
theorem Sound.wide_feed {decoder : Decoder} (sound : decoder.Sound) (wide : Wide decoder.emitted)
    {octet : UInt8} (outside : 0x80 ≤ Symbol.code octet) : Wide (decoder.feed octet).emitted := by
  -- A sequence is completed to a character outside of ASCII.
  rcases decoder.feed_cases octet with
    ⟨pending, begun, lowest, highest, ⟨one, same⟩ | ⟨_, same⟩⟩ | ⟨_, same⟩
  · rw [same]
    exact wide_cons.mpr ⟨(sound pending begun).last lowest highest one, wide⟩
  · rw [same]
    exact wide
  · rw [same]
    exact wide_begin (wide_flushed wide) outside

/-- A reader that has read characters before. -/
def after (decoder : Decoder) (earlier : Text) : Decoder :=
  ⟨decoder.pending, decoder.emitted ++ earlier⟩

/-- Characters that were read before are flushed before. -/
theorem flushed_after (decoder : Decoder) (earlier : Text) :
    (decoder.after earlier).flushed = decoder.flushed ++ earlier := by
  obtain ⟨pending, emitted⟩ := decoder
  cases pending <;> simp [after]

/-- What an octet begins does not depend on the characters before. -/
theorem begin_append (emitted earlier : Text) (octet : UInt8) :
    Decoder.begin (emitted ++ earlier) octet = (Decoder.begin emitted octet).after earlier := by
  unfold Decoder.begin
  split
  · rfl
  · split <;> rfl

/-- What an octet is read as does not depend on the characters before. -/
theorem feed_after (decoder : Decoder) (earlier : Text) (octet : UInt8) :
    (decoder.after earlier).feed octet = (decoder.feed octet).after earlier := by
  -- Only the sequence that has begun matters.
  obtain ⟨pending, emitted⟩ := decoder
  cases pending with
  | none => exact begin_append emitted earlier octet
  | some pending =>
    simp only [after, feed]
    split
    · split <;> rfl
    · exact begin_append (replacement :: emitted) earlier octet

/-- What octets are read as does not depend on the characters before. -/
theorem foldl_feed_after (octets : Bytes) (decoder : Decoder) (earlier : Text) :
    octets.foldl feed (decoder.after earlier) = (octets.foldl feed decoder).after earlier := by
  induction octets generalizing decoder with
  | nil => rfl
  | cons octet octets ih => rw [List.foldl_cons, feed_after, ih, List.foldl_cons]

/-- A reader stays sound with all octets. -/
theorem Sound.foldl_feed {decoder : Decoder} (sound : decoder.Sound) (octets : Bytes) :
    (octets.foldl Decoder.feed decoder).Sound := by
  induction octets generalizing decoder with
  | nil => exact sound
  | cons octet octets ih => exact ih (sound.feed octet)

/-- Octets outside of ASCII add no character of ASCII. -/
theorem Sound.wide_foldl_feed {decoder : Decoder} (sound : decoder.Sound)
    (wide : Wide decoder.emitted) {octets : Bytes} (outside : Wide octets) :
    Wide (octets.foldl Decoder.feed decoder).emitted := by
  induction octets generalizing decoder with
  | nil => exact wide
  | cons octet octets ih =>
    rw [wide_cons] at outside
    exact ih (sound.feed octet) (sound.wide_feed wide outside.1) outside.2

/-- A reader that has read nothing is sound. -/
theorem sound_start : Decoder.start.Sound := by
  simp [Sound, start]

end Decoder

/-- The text that octets stand for is what is flushed in the end, turned round. -/
theorem decode_eq_reverse_flushed (octets : Bytes) :
    decode octets = (octets.foldl Decoder.feed .start).flushed.reverse := by
  simp [decode, Decoder.flushed]

/-- An octet of ASCII is read as its character, whatever comes before it and after it. -/
theorem decode_append_cons {octet : UInt8} (ascii : Symbol.code octet < 0x80) (front back : Bytes) :
    decode (front ++ octet :: back) = decode front ++ charOf octet :: decode back := by
  -- What comes before it is flushed, and what comes after it is read as if from the start.
  have sound := Decoder.sound_start.foldl_feed front
  have fresh : ∀ earlier, (⟨none, earlier⟩ : Decoder) = Decoder.start.after earlier := fun _ => rfl
  rw [decode_eq_reverse_flushed, List.foldl_append, List.foldl_cons, sound.feed_of_ascii ascii, fresh,
    Decoder.foldl_feed_after, Decoder.flushed_after, List.reverse_append, List.reverse_cons,
    ← decode_eq_reverse_flushed, ← decode_eq_reverse_flushed, List.append_assoc,
    List.singleton_append]

/-- Octets outside of ASCII are read as characters outside of ASCII. -/
theorem wide_decode {octets : Bytes} (outside : Wide octets) : Wide (decode octets) := by
  have none : Wide Decoder.start.emitted := by simp [Wide, Decoder.start]
  have wide := Decoder.wide_flushed (Decoder.sound_start.wide_foldl_feed none outside)
  intro c member
  rw [decode_eq_reverse_flushed, List.mem_reverse] at member
  exact wide c member

/-- Only no octets are read as no text. -/
theorem decode_eq_nil_iff {octets : Bytes} : decode octets = [] ↔ octets = [] := by
  -- The last octet leaves something to be flushed.
  constructor
  · intro empty
    rcases List.eq_nil_or_concat octets with rfl | ⟨front, last, rfl⟩
    · rfl
    · rw [decode_eq_reverse_flushed, List.reverse_eq_nil_iff, List.concat_eq_append, List.foldl_append]
        at empty
      exact absurd empty (Decoder.flushed_feed_ne_nil _ last)
  · rintro rfl
    rfl

/-- A character of ASCII is read from its octet, and what is around it from what is around the octet. -/
theorem exists_of_decode_eq_append_cons {octets : Bytes} {front back : Text} {c : Char}
    (read : decode octets = front ++ c :: back) (ascii : Symbol.code c < 0x80) :
    ∃ before octet after, octets = before ++ octet :: after ∧ charOf octet = c ∧
      decode before = front ∧ decode after = back := by
  -- The octets are cut at the first one of ASCII, which is either it or comes before it.
  induction size : octets.length using Nat.strongRecOn generalizing octets front with
  | _ size ih =>
    subst size
    cases first : octets.find? (fun octet => decide (Symbol.code octet < 0x80)) with
    | none =>
      have outside : Wide octets := by simpa [Wide] using List.find?_eq_none.mp first
      have large := wide_decode outside c (by simp [read])
      omega
    | some octet =>
      obtain ⟨small, before, after, rfl, outside⟩ := List.find?_eq_some_iff_append.mp first
      have small : Symbol.code octet < 0x80 := by simpa using small
      have outside : Wide before := by simpa [Wide] using outside
      rw [decode_append_cons small] at read
      rcases List.append_eq_append_iff.mp read with ⟨between, longer, left⟩ | ⟨between, longer, left⟩
      · cases between with
        | nil =>
          obtain ⟨same, rest⟩ := List.cons.inj left
          exact ⟨before, octet, after, rfl, same, by simpa using longer.symm, rest⟩
        | cons next between =>
          obtain ⟨rfl, later⟩ := List.cons.inj left
          obtain ⟨middle, other, last, rfl, same, readMiddle, readLast⟩ :=
            ih after.length (by simp; omega) later rfl
          refine ⟨before ++ octet :: middle, other, last, by simp, same, ?_, readLast⟩
          rw [decode_append_cons small, readMiddle, longer]
      · cases between with
        | nil =>
          obtain ⟨same, rest⟩ := List.cons.inj left
          exact ⟨before, octet, after, rfl, same.symm, by simpa using longer, rest.symm⟩
        | cons next between =>
          obtain ⟨rfl, _⟩ := List.cons.inj left
          have large := wide_decode outside c (by simp [longer])
          omega

/-- Octets of ASCII that come first are read as their characters. -/
theorem decode_append_of_ascii {front : Bytes} (ascii : ∀ octet ∈ front, Symbol.code octet < 0x80)
    (back : Bytes) : decode (front ++ back) = front.map charOf ++ decode back := by
  -- Behind each of them, reading begins anew.
  induction front with
  | nil => rfl
  | cons octet front ih =>
    rw [List.forall_mem_cons] at ascii
    have first := decode_append_cons ascii.1 [] (front ++ back)
    rw [List.nil_append, decode_nil, List.nil_append] at first
    rw [List.cons_append, first, ih ascii.2, List.map_cons, List.cons_append]

/-- Characters of ASCII that come first are read from their octets. -/
theorem exists_of_decode_eq_append {octets : Bytes} {front back : Text}
    (ascii : ∀ c ∈ front, Symbol.code c < 0x80) (read : decode octets = front ++ back) :
    ∃ used rest, octets = used ++ rest ∧ used.map charOf = front ∧ decode rest = back := by
  -- Nothing comes before the octet of the first character.
  induction front generalizing octets with
  | nil => exact ⟨[], octets, rfl, rfl, read⟩
  | cons c front ih =>
    rw [List.forall_mem_cons] at ascii
    rw [List.cons_append, ← List.nil_append (c :: _)] at read
    obtain ⟨before, octet, after, rfl, same, empty, readAfter⟩ :=
      exists_of_decode_eq_append_cons read ascii.1
    obtain rfl := decode_eq_nil_iff.mp empty
    obtain ⟨used, rest, rfl, others, readRest⟩ := ih ascii.2 readAfter
    exact ⟨octet :: used, rest, rfl, by rw [List.map_cons, same, others], readRest⟩

/-- Octets of ASCII that come last are read as their characters. -/
theorem decode_append_ascii (front : Bytes) {back : Bytes}
    (ascii : ∀ octet ∈ back, Symbol.code octet < 0x80) :
    decode (front ++ back) = decode front ++ back.map charOf := by
  -- The first of them ends whatever comes before it.
  cases back with
  | nil => simp
  | cons octet back =>
    rw [List.forall_mem_cons] at ascii
    have others := decode_append_of_ascii ascii.2 []
    rw [List.append_nil, decode_nil, List.append_nil] at others
    rw [decode_append_cons ascii.1, others, List.map_cons]

/-- Characters of ASCII that come last are read from their octets. -/
theorem exists_of_decode_eq_append_ascii {octets : Bytes} {front back : Text}
    (ascii : ∀ c ∈ back, Symbol.code c < 0x80) (read : decode octets = front ++ back) :
    ∃ before used, octets = before ++ used ∧ decode before = front ∧ used.map charOf = back := by
  -- The octets after that of the first of them are read as the others, and nothing is left.
  cases back with
  | nil => exact ⟨octets, [], by simp, by simpa using read, rfl⟩
  | cons c back =>
    rw [List.forall_mem_cons] at ascii
    obtain ⟨before, octet, after, rfl, same, readBefore, readAfter⟩ :=
      exists_of_decode_eq_append_cons read ascii.1
    rw [← List.append_nil back] at readAfter
    obtain ⟨used, rest, rfl, others, empty⟩ := exists_of_decode_eq_append ascii.2 readAfter
    obtain rfl := decode_eq_nil_iff.mp empty
    exact ⟨before, octet :: used, by simp, readBefore, by rw [List.map_cons, same, others]⟩

end AnswerQuery.Utf8
