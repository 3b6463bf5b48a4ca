import AnswerQuery.Scan.Search

/-! A search goes on from match to match: equations for what is found from a place on. -/

namespace AnswerQuery

namespace Cursor

variable {α β : Type} [Symbol α] {anchor : Anchor} {pattern : Pattern α β}

/-- Nothing is found where no text is left. -/
theorem sweep_of_rest_nil {cursor : Cursor α} (empty : cursor.rest = []) :
    cursor.sweep anchor pattern = [] := by
  -- The search ends with the text.
  rw [sweep]
  split
  · rfl
  · rename_i left
    rw [empty] at left
    contradiction

/-- A match is reported, and the search goes on after it. -/
theorem sweep_of_find?_eq_some {cursor : Cursor α} {taken : Taken α β}
    (found : cursor.find? anchor pattern = some taken) :
    cursor.sweep anchor pattern = cursor.report taken :: (cursor.jump taken).sweep anchor pattern := by
  -- A match leaves less text, so there was some.
  have shorter := rest_lt_of_find? found
  rw [sweep]
  split
  · rename_i empty
    simp [empty] at shorter
  · split
    · rename_i other same
      rw [found, Option.some.injEq] at same
      rw [same]
    · rename_i missed
      rw [found] at missed
      contradiction

/-- An element at which there is no match is passed alone. -/
theorem sweep_of_find?_eq_none {position : Nat} {startsLine : Bool} {symbol : α} {others : List α}
    (missed : find? ⟨position, startsLine, symbol :: others⟩ anchor pattern = none) :
    sweep ⟨position, startsLine, symbol :: others⟩ anchor pattern =
      sweep ⟨position + 1, Symbol.isNewline symbol, others⟩ anchor pattern := by
  -- There is some text, and what is found in it is nothing.
  rw [sweep]
  split
  · contradiction
  · rename_i left
    obtain ⟨rfl, rfl⟩ := List.cons.inj left
    split
    · rename_i taken found
      rw [missed] at found
      contradiction
    · rfl

end Cursor

namespace Pattern

variable {α β : Type} [Symbol α] {anchor : Anchor} {pattern : Pattern α β}

/-- The pieces that are found from a place on, which is at the start of a line or not. -/
def piecesFrom (pattern : Pattern α β) (anchor : Anchor) (startsLine : Bool) (text : List α) :
    List β :=
  (Cursor.sweep ⟨0, startsLine, text⟩ anchor pattern).map Match.piece

/-- How many elements were passed before does not matter for the pieces that are found. -/
theorem map_piece_sweep (cursor : Cursor α) :
    (cursor.sweep anchor pattern).map Match.piece =
      pattern.piecesFrom anchor cursor.startsLine cursor.rest := by
  -- Two searches that differ in their positions only go the same way.
  have general : ∀ (count : Nat) (startsLine : Bool) (text : List α) (position other : Nat),
      text.length = count →
      (Cursor.sweep ⟨position, startsLine, text⟩ anchor pattern).map Match.piece =
        (Cursor.sweep ⟨other, startsLine, text⟩ anchor pattern).map Match.piece := by
    intro count
    induction count using Nat.strongRecOn with
    | _ count ih =>
      intro startsLine text position other size
      cases text with
      | nil => rw [Cursor.sweep_of_rest_nil rfl, Cursor.sweep_of_rest_nil rfl]
      | cons symbol others =>
        cases found : Cursor.find? ⟨position, startsLine, symbol :: others⟩ anchor pattern with
        | none =>
          have missed : Cursor.find? ⟨other, startsLine, symbol :: others⟩ anchor pattern = none :=
            found
          rw [Cursor.sweep_of_find?_eq_none found, Cursor.sweep_of_find?_eq_none missed]
          exact ih others.length (by simp [← size]) _ _ _ _ rfl
        | some taken =>
          have again : Cursor.find? ⟨other, startsLine, symbol :: others⟩ anchor pattern =
            some taken := found
          have shorter := Cursor.rest_lt_of_find? found
          rw [Cursor.sweep_of_find?_eq_some found, Cursor.sweep_of_find?_eq_some again]
          simp only [List.map_cons, Cursor.report, Cursor.jump]
          rw [ih taken.rest.length (by simp_all) _ _ _ _ rfl]
  exact general _ _ _ _ _ rfl

/-- The search of a whole text begins at the start of a line. -/
theorem pieces_eq_piecesFrom (text : List α) :
    pattern.pieces anchor text = pattern.piecesFrom anchor true text := rfl

/-- Nothing is found in no text. -/
@[simp] theorem piecesFrom_nil (startsLine : Bool) : pattern.piecesFrom anchor startsLine [] = [] := by
  rw [piecesFrom, Cursor.sweep_of_rest_nil rfl, List.map_nil]

/-- What is found at an admitted place comes first, and the search goes on after it. -/
theorem piecesFrom_of_take?_eq_some {startsLine : Bool} {text : List α} {taken : Taken α β}
    (admitted : anchor.admits startsLine = true) (found : pattern.take? text = some taken) :
    pattern.piecesFrom anchor startsLine text =
      taken.piece ::
        pattern.piecesFrom anchor (taken.used.getLast?.any Symbol.isNewline) taken.rest := by
  -- The position at which it is found does not matter any more.
  have here : Cursor.find? ⟨0, startsLine, text⟩ anchor pattern = some taken := by
    simp [Cursor.find?, admitted, found]
  rw [piecesFrom, Cursor.sweep_of_find?_eq_some here, List.map_cons, map_piece_sweep]
  rfl

/-- Where nothing is found, or nothing may be, the search goes on after one element. -/
theorem piecesFrom_cons_of_take?_eq_none {startsLine : Bool} {symbol : α} {others : List α}
    (missed : anchor.admits startsLine = true → pattern.take? (symbol :: others) = none) :
    pattern.piecesFrom anchor startsLine (symbol :: others) =
      pattern.piecesFrom anchor (Symbol.isNewline symbol) others := by
  -- There is no match here in either case.
  have here : Cursor.find? ⟨0, startsLine, symbol :: others⟩ anchor pattern = none := by
    simp only [Cursor.find?]
    split
    · exact missed ‹_›
    · rfl
  rw [piecesFrom, Cursor.sweep_of_find?_eq_none here, map_piece_sweep]

/-- For a pattern that may begin anywhere it does not matter whether a line starts. -/
theorem piecesFrom_anywhere (startsLine : Bool) (text : List α) :
    pattern.piecesFrom .anywhere startsLine text = pattern.piecesFrom .anywhere true text := by
  -- The first step is the same, and the flag is not used after it.
  cases text with
  | nil => rw [piecesFrom_nil, piecesFrom_nil]
  | cons symbol others =>
    cases found : pattern.take? (symbol :: others) with
    | none =>
      rw [piecesFrom_cons_of_take?_eq_none fun _ => found,
        piecesFrom_cons_of_take?_eq_none fun _ => found]
    | some taken => rw [piecesFrom_of_take?_eq_some rfl found, piecesFrom_of_take?_eq_some rfl found]

end Pattern

end AnswerQuery
