import AnswerQuery.Text.Utf8

/-! An output that may run out of room. -/

namespace AnswerQuery

/-- An output: how many octets it still takes, if that is limited, and the pieces it took, the last one first. -/
structure Sink where
  /-- How many octets still fit; no limit if there is none. -/
  room : Option Nat
  /-- The pieces taken, the last one first. -/
  pieces : List Bytes

namespace Sink

/-- An empty output with room for so many octets, or without a limit. -/
def empty (room : Option Nat) : Sink := ⟨room, []⟩

/-- The octets an output has taken. -/
def contents (sink : Sink) : Bytes :=
  sink.pieces.reverse.flatten

/-- Write a piece; an output that cannot take all of it takes as much as fits, and is handed back as an error. -/
def put (sink : Sink) (piece : Bytes) : Except Sink Sink :=
  match sink.room with
  | none => .ok ⟨none, piece :: sink.pieces⟩
  | some room =>
    if piece.length ≤ room then .ok ⟨some (room - piece.length), piece :: sink.pieces⟩
    else .error ⟨some 0, piece.take room :: sink.pieces⟩

/-- An empty output has taken nothing. -/
@[simp] theorem contents_empty (room : Option Nat) : (empty room).contents = [] := rfl

/-- An output without a limit takes every piece whole. -/
theorem put_unlimited (pieces : List Bytes) (piece : Bytes) :
    put ⟨none, pieces⟩ piece = .ok ⟨none, piece :: pieces⟩ := rfl

/-- A piece comes after what was there before. -/
theorem contents_cons (room : Option Nat) (piece : Bytes) (pieces : List Bytes) :
    contents ⟨room, piece :: pieces⟩ = contents ⟨room, pieces⟩ ++ piece := by
  -- The last piece is the first of the list.
  simp [contents]

end Sink

end AnswerQuery
