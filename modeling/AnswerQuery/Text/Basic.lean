/-! Texts are lists of characters and files are lists of octets, so that both are reasoned about by induction; words are
what lies between the blanks of a text. -/

namespace AnswerQuery

/-- A text, character by character. -/
abbrev Text := List Char

/-- The contents of a file or a stream, octet by octet. -/
abbrev Bytes := List UInt8

/-- The decimal numeral of a natural number, without leading zeros. -/
def decimal (n : Nat) : Text :=
  -- Digits to base ten, the most significant first.
  Nat.toDigits 10 n

/-- Drop the longest run of elements of a kind from the end of a list. -/
def dropTrailing {α : Type} (kind : α → Bool) (list : List α) : List α :=
  -- The end of a list is the front of its reverse.
  (list.reverse.dropWhile kind).reverse

/-- A list that ends outside the kind is kept as it is. -/
theorem dropTrailing_append_of_not {α : Type} {kind : α → Bool} (front : List α) {last : α}
    (other : kind last = false) : dropTrailing kind (front ++ [last]) = front ++ [last] := by
  -- The reverse begins with the last element, at which nothing is dropped.
  simp [dropTrailing, other]

/-- Elements of the kind at the end are dropped one by one. -/
theorem dropTrailing_append_of_kind {α : Type} {kind : α → Bool} (front : List α) {last : α}
    (same : kind last = true) : dropTrailing kind (front ++ [last]) = dropTrailing kind front := by
  -- The reverse begins with the last element, which is dropped first.
  simp [dropTrailing, same]

/-- Whether a character has the Unicode property White_Space, which twenty-five code points have. -/
def isBlank (c : Char) : Bool :=
  -- The controls and the space of ASCII, the two of Latin-1, then the spaces and separators beyond.
  let n := c.toNat
  (9 ≤ n && n ≤ 13) || n == 0x20 || n == 0x85 || n == 0xA0 || n == 0x1680 ||
    (0x2000 ≤ n && n ≤ 0x200A) || n == 0x2028 || n == 0x2029 || n == 0x202F || n == 0x205F || n == 0x3000

/-- The non-empty pieces of a text between its blanks, in order. -/
def words (text : Text) : List Text :=
  -- Blanks next to each other have an empty piece between them, which is no word.
  (text.splitOnP isBlank).filter (fun piece => !piece.isEmpty)

/-- A text without characters has no words. -/
@[simp] theorem words_nil : words [] = [] := by
  -- Its only piece is empty.
  simp [words]

end AnswerQuery
