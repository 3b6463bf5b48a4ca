import AnswerQuery.Text.Basic

/-! What patterns test: characters and octets alike, by their code. -/

namespace AnswerQuery

/-- A kind of element whose members are told apart by a number. -/
class Symbol (α : Type) where
  /-- The number of an element: the code point of a character, the value of an octet. -/
  code : α → Nat

instance : Symbol Char := ⟨Char.toNat⟩

instance : Symbol UInt8 := ⟨UInt8.toNat⟩

namespace Symbol

variable {α : Type} [Symbol α]

/-- Whether an element has the code of a given character. -/
def is (c : Char) (symbol : α) : Bool :=
  code symbol == c.toNat

/-- Whether an element is a space or a tab. -/
def isSpace (symbol : α) : Bool :=
  is ' ' symbol || is '\t' symbol

/-- Whether an element is one of the ten digits of ASCII. -/
def isDigit (symbol : α) : Bool :=
  '0'.toNat ≤ code symbol && code symbol ≤ '9'.toNat

/-- Whether an element ends a line. -/
def isNewline (symbol : α) : Bool :=
  is '\n' symbol

/-- A character has the code of itself and of no other. -/
@[simp] theorem is_char (c d : Char) : is c d = (d == c) := by
  -- Code points tell characters apart.
  rw [Bool.eq_iff_iff]
  simp only [is, code, beq_iff_eq]
  exact ⟨fun same => Char.toNat_inj.mp same, fun same => same ▸ rfl⟩

end Symbol

end AnswerQuery
