import AnswerQuery.Text.Basic

/-! UTF-8, read leniently: every maximal part of an ill-formed sequence becomes one replacement character. -/

namespace AnswerQuery.Utf8

/-- What stands for octets that encode no character. -/
def replacement : Char := '\uFFFD'

/-- A sequence that has begun: its bits so far, how many octets are missing, and what the next may be. -/
structure Pending where
  /-- The bits gathered so far, as a number. -/
  bits : Nat
  /-- How many octets are still missing. -/
  missing : Nat
  /-- The least octet that may come next. -/
  low : UInt8
  /-- The greatest octet that may come next. -/
  high : UInt8

/-- The sequence that an octet begins, if it may begin one of several octets. -/
def Pending.ofLead? (octet : UInt8) : Option Pending :=
  -- The narrower ranges after 0xE0, 0xED, 0xF0 and 0xF4 rule out long forms, surrogates and values too large.
  if 0xC2 ≤ octet ∧ octet ≤ 0xDF then some ⟨octet.toNat - 0xC0, 1, 0x80, 0xBF⟩
  else if octet = 0xE0 then some ⟨0x0, 2, 0xA0, 0xBF⟩
  else if octet = 0xED then some ⟨0xD, 2, 0x80, 0x9F⟩
  else if 0xE1 ≤ octet ∧ octet ≤ 0xEF then some ⟨octet.toNat - 0xE0, 2, 0x80, 0xBF⟩
  else if octet = 0xF0 then some ⟨0, 3, 0x90, 0xBF⟩
  else if 0xF1 ≤ octet ∧ octet ≤ 0xF3 then some ⟨octet.toNat - 0xF0, 3, 0x80, 0xBF⟩
  else if octet = 0xF4 then some ⟨4, 3, 0x80, 0x8F⟩
  else none

/-- A reader of octets: the sequence it is in the middle of, and what it has read, the last character first. -/
structure Decoder where
  /-- The sequence that has begun and not ended. -/
  pending : Option Pending
  /-- The characters read, the last one first. -/
  emitted : Text

/-- A reader that has read nothing. -/
def Decoder.start : Decoder := ⟨none, []⟩

/-- Read an octet outside any sequence, after some characters. -/
def Decoder.begin (emitted : Text) (octet : UInt8) : Decoder :=
  -- An octet below 0x80 is a character, and one that begins nothing is replaced on its own.
  if octet < 0x80 then ⟨none, Char.ofNat octet.toNat :: emitted⟩
  else match Pending.ofLead? octet with
    | some pending => ⟨some pending, emitted⟩
    | none => ⟨none, replacement :: emitted⟩

/-- Read one octet more. -/
def Decoder.feed (decoder : Decoder) (octet : UInt8) : Decoder :=
  match decoder.pending with
  | none => .begin decoder.emitted octet
  | some pending =>
    if pending.low ≤ octet ∧ octet ≤ pending.high then
      let bits := pending.bits * 64 + (octet.toNat - 0x80)
      if pending.missing ≤ 1 then ⟨none, Char.ofNat bits :: decoder.emitted⟩
      else ⟨some ⟨bits, pending.missing - 1, 0x80, 0xBF⟩, decoder.emitted⟩
    else
      -- The octets of the broken sequence are replaced together, and this one is read afresh.
      .begin (replacement :: decoder.emitted) octet

/-- What has been read when no octet is left. -/
def Decoder.finish (decoder : Decoder) : Text :=
  -- A sequence that the end cuts short is replaced as well.
  match decoder.pending with
  | none => decoder.emitted.reverse
  | some _ => (replacement :: decoder.emitted).reverse

/-- The text that octets stand for; no octets are refused. -/
def decode (octets : Bytes) : Text :=
  (octets.foldl Decoder.feed .start).finish

/-- The octets of a text. -/
def encode (text : Text) : Bytes :=
  text.flatMap String.utf8EncodeChar

/-- No octets are no text. -/
@[simp] theorem decode_nil : decode [] = [] := rfl

/-- No text has no octets. -/
@[simp] theorem encode_nil : encode [] = [] := rfl

/-- Texts are encoded one after the other. -/
theorem encode_append (front back : Text) : encode (front ++ back) = encode front ++ encode back := by
  -- Every character is encoded on its own.
  simp [encode]

end AnswerQuery.Utf8
