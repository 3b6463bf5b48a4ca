import AnswerQuery.Scan.Pattern

/-! Searching a whole text for a pattern: the leftmost matches, none overlapping another. -/

namespace AnswerQuery

/-- Where in a text a pattern may begin. -/
inductive Anchor where
  /-- At any position. -/
  | anywhere
  /-- At the first position and after each line feed. -/
  | lineStart
  deriving DecidableEq, Repr

/-- Whether a pattern may begin at a position, which is at the start of a line or not. -/
def Anchor.admits : Anchor → Bool → Bool
  | .anywhere, _ => true
  | .lineStart, startsLine => startsLine

/-- A piece that was found, and the part of the text that was used for it. -/
structure Match (β : Type) where
  /-- How many elements come before it. -/
  start : Nat
  /-- How many elements come before the end of it. -/
  stop : Nat
  /-- What was found. -/
  piece : β

/-- How far a search has come. -/
structure Cursor (α : Type) where
  /-- How many elements have been passed. -/
  position : Nat
  /-- Whether a line starts here. -/
  startsLine : Bool
  /-- The elements still to be searched. -/
  rest : List α

namespace Cursor

variable {α β : Type} [Symbol α]

/-- A search that has not begun; the first position starts a line. -/
def start (text : List α) : Cursor α := ⟨0, true, text⟩

/-- Pass what a match used; a line starts after it if a line feed is the last element used. -/
def jump (cursor : Cursor α) (taken : Taken α β) : Cursor α :=
  ⟨cursor.position + taken.used.length, taken.used.getLast?.any Symbol.isNewline, taken.rest⟩

/-- What the pattern finds here, if it may begin here. -/
def find? (cursor : Cursor α) (anchor : Anchor) (pattern : Pattern α β) : Option (Taken α β) :=
  if anchor.admits cursor.startsLine then pattern.take? cursor.rest else none

/-- What is found here as a match, with its bounds. -/
def report (cursor : Cursor α) (taken : Taken α β) : Match β :=
  ⟨cursor.position, cursor.position + taken.used.length, taken.piece⟩

omit [Symbol α] in
/-- What is found at a cursor leaves less to be searched. -/
theorem rest_lt_of_find? {cursor : Cursor α} {anchor : Anchor} {pattern : Pattern α β} {taken : Taken α β}
    (found : cursor.find? anchor pattern = some taken) : taken.rest.length < cursor.rest.length := by
  -- The pattern used at least one element.
  unfold find? at found
  split at found
  · obtain ⟨whole, used⟩ := pattern.progress found
    have count := congrArg List.length whole
    have positive := List.length_pos_iff.mpr used
    simp only [List.length_append] at count
    omega
  · simp at found

/-- All matches from a cursor on: a match is jumped over, and any other element is passed alone. -/
def sweep (cursor : Cursor α) (anchor : Anchor) (pattern : Pattern α β) : List (Match β) :=
  match _left : cursor.rest with
  | [] => []
  | symbol :: others =>
    match found : cursor.find? anchor pattern with
    | some taken => cursor.report taken :: (cursor.jump taken).sweep anchor pattern
    | none => sweep ⟨cursor.position + 1, Symbol.isNewline symbol, others⟩ anchor pattern
termination_by cursor.rest.length
decreasing_by
  · exact rest_lt_of_find? found
  · simp [_left]

end Cursor

/-- Every match in a text, from left to right. -/
def Pattern.search {α β : Type} [Symbol α] (pattern : Pattern α β) (anchor : Anchor) (text : List α) :
    List (Match β) :=
  (Cursor.start text).sweep anchor pattern

/-- The pieces found in a text, from left to right. -/
def Pattern.pieces {α β : Type} [Symbol α] (pattern : Pattern α β) (anchor : Anchor) (text : List α) : List β :=
  (pattern.search anchor text).map Match.piece

end AnswerQuery
