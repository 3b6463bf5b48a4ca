import AnswerQuery.Proofs.Scan.Search

/-! A search for any pattern, step by step: it stands where it should in the text, and misses no match. -/

namespace AnswerQuery

variable {α β : Type} [Symbol α] {anchor : Anchor} {pattern : Pattern α β} {text : List α}

/-- Whether a line starts at a position of a text: at the first one, and after each line feed. -/
def isLineStart (text : List α) : Nat → Bool
  | 0 => true
  | position + 1 => text[position]?.any Symbol.isNewline

/-- Behind a piece of a text a line starts if a line feed is the last element of the piece. -/
theorem isLineStart_add_length {position : Nat} {used rest : List α} (split : text.drop position = used ++ rest)
    (nonempty : used ≠ []) :
    isLineStart text (position + used.length) = used.getLast?.any Symbol.isNewline := by
  -- The last element of the piece is the one before the position behind it.
  obtain ⟨count, size⟩ := Nat.exists_eq_add_one.mpr (List.length_pos_iff.mpr nonempty)
  have last : text[position + count]? = used.getLast? := by
    rw [← List.getElem?_drop, split, List.getElem?_append_left (by omega), List.getLast?_eq_getElem?, size]
    rfl
  rw [size, ← Nat.add_assoc, isLineStart, last]

namespace Cursor

/-- A cursor stands in a text if what it knows of its position is so: what comes next, and whether a line starts. -/
structure Stands (text : List α) (cursor : Cursor α) : Prop where
  /-- The text goes up to the position at least. -/
  within : cursor.position ≤ text.length
  /-- What is still to be searched is the text from the position on. -/
  rest : cursor.rest = text.drop cursor.position
  /-- A line starts at the first position, and where a line feed comes before. -/
  startsLine : cursor.startsLine = isLineStart text cursor.position

/-- A search that has not begun stands at the first position. -/
theorem stands_start (text : List α) : (start text).Stands text :=
  ⟨Nat.zero_le _, rfl, rfl⟩

/-- After a piece of the text a cursor stands behind it. -/
theorem Stands.advance {cursor : Cursor α} (stands : cursor.Stands text) {used rest : List α}
    (split : cursor.rest = used ++ rest) (nonempty : used ≠ []) :
    Stands text ⟨cursor.position + used.length, used.getLast?.any Symbol.isNewline, rest⟩ := by
  -- The piece and what follows it are the text from the position on.
  have ahead : text.drop cursor.position = used ++ rest := stands.rest ▸ split
  refine ⟨?_, ?_, (isLineStart_add_length ahead nonempty).symm⟩
  · have sizes := congrArg List.length ahead
    have within := stands.within
    simp only [List.length_drop, List.length_append] at sizes
    show cursor.position + used.length ≤ text.length
    omega
  · show rest = text.drop (cursor.position + used.length)
    rw [← List.drop_drop, ahead, List.drop_left]

/-- After a match the cursor stands behind it. -/
theorem Stands.jump {cursor : Cursor α} (stands : cursor.Stands text) {taken : Taken α β}
    (found : cursor.find? anchor pattern = some taken) : (cursor.jump taken).Stands text := by
  -- What was used for it is a piece of the text, and it is not empty.
  obtain ⟨_, took⟩ := Option.ite_none_right_eq_some.mp found
  obtain ⟨whole, nonempty⟩ := pattern.progress took
  exact stands.advance whole.symm nonempty

/-- After an element that was passed alone the cursor stands behind it. -/
theorem Stands.pass {position : Nat} {startsLine : Bool} {symbol : α} {others : List α}
    (stands : Stands text ⟨position, startsLine, symbol :: others⟩) :
    Stands text ⟨position + 1, Symbol.isNewline symbol, others⟩ :=
  -- The element is a piece of length one.
  stands.advance rfl (List.cons_ne_nil symbol [])

/-- What is found at a cursor is what the pattern takes from there on, if it may begin there. -/
theorem Stands.find?_eq {cursor : Cursor α} (stands : cursor.Stands text) :
    cursor.find? anchor pattern =
      if anchor.admits (isLineStart text cursor.position) then pattern.take? (text.drop cursor.position) else none := by
  rw [find?, stands.startsLine, stands.rest]

/-- The way of a search from a cursor to the end of the text: the cursors one after the other, and what is found. -/
inductive Walk (anchor : Anchor) (pattern : Pattern α β) : Cursor α → List (Cursor α) → List (Match β) → Prop where
  /-- It ends where no text is left. -/
  | done {cursor : Cursor α} (empty : cursor.rest = []) : Walk anchor pattern cursor [] []
  /-- A match is jumped over. -/
  | jump {cursor : Cursor α} {taken : Taken α β} {cursors : List (Cursor α)} {hits : List (Match β)}
      (found : cursor.find? anchor pattern = some taken)
      (later : Walk anchor pattern (cursor.jump taken) cursors hits) :
      Walk anchor pattern cursor (cursor :: cursors) (cursor.report taken :: hits)
  /-- Where nothing is found, one element is passed. -/
  | pass {position : Nat} {startsLine : Bool} {symbol : α} {others : List α} {cursors : List (Cursor α)}
      {hits : List (Match β)} (missed : find? ⟨position, startsLine, symbol :: others⟩ anchor pattern = none)
      (later : Walk anchor pattern ⟨position + 1, Symbol.isNewline symbol, others⟩ cursors hits) :
      Walk anchor pattern ⟨position, startsLine, symbol :: others⟩
        (⟨position, startsLine, symbol :: others⟩ :: cursors) hits

/-- A search comes to the end of the text, in no more steps than there are elements left. -/
theorem exists_walk (anchor : Anchor) (pattern : Pattern α β) (cursor : Cursor α) :
    ∃ cursors, Walk anchor pattern cursor cursors (cursor.sweep anchor pattern) ∧
      cursors.length ≤ cursor.rest.length := by
  -- Every step leaves less text.
  induction size : cursor.rest.length using Nat.strongRecOn generalizing cursor with
  | _ size ih =>
    subst size
    obtain ⟨position, startsLine, rest⟩ := cursor
    cases rest with
    | nil =>
      rw [sweep_of_rest_nil rfl]
      exact ⟨[], .done rfl, Nat.le_refl _⟩
    | cons symbol others =>
      cases found : find? ⟨position, startsLine, symbol :: others⟩ anchor pattern with
      | none =>
        obtain ⟨cursors, later, few⟩ :=
          ih others.length (Nat.lt_succ_self _) ⟨position + 1, Symbol.isNewline symbol, others⟩ rfl
        rw [sweep_of_find?_eq_none found]
        exact ⟨_, .pass found later, Nat.succ_le_succ few⟩
      | some taken =>
        have shorter := rest_lt_of_find? found
        obtain ⟨cursors, later, few⟩ := ih taken.rest.length shorter (jump _ taken) rfl
        rw [sweep_of_find?_eq_some found]
        exact ⟨_, .jump found later, Nat.succ_le_of_lt (Nat.lt_of_le_of_lt few shorter)⟩

/-- A search that stands in the text stands in it at each of its steps. -/
theorem Walk.forall_stands {cursor : Cursor α} {cursors : List (Cursor α)} {hits : List (Match β)}
    (walk : Walk anchor pattern cursor cursors hits) (stands : cursor.Stands text) :
    ∀ other ∈ cursors, other.Stands text := by
  -- Each step keeps it so, whether a match is jumped over or an element is passed.
  induction walk with
  | done => simp
  | jump found _ ih => exact List.forall_mem_cons.mpr ⟨stands, ih (stands.jump found)⟩
  | pass _ _ ih => exact List.forall_mem_cons.mpr ⟨stands, ih stands.pass⟩

end Cursor

omit [Symbol α] in
/-- Nothing is taken where no text is left. -/
theorem Pattern.take?_nil (pattern : Pattern α β) : pattern.take? [] = none := by
  -- What was used would be a part of it.
  rw [Option.eq_none_iff_forall_ne_some]
  intro taken found
  obtain ⟨whole, nonempty⟩ := pattern.progress found
  exact nonempty (List.append_eq_nil_iff.mp whole).1

namespace Match

/-- Whether a position lies in what was used for a match. -/
def Covers (hit : Match β) (position : Nat) : Prop :=
  hit.start ≤ position ∧ position < hit.stop

/-- A match is genuine if it is what the pattern takes from its start on, and the pattern may begin there. -/
structure Genuine (anchor : Anchor) (pattern : Pattern α β) (text : List α) (hit : Match β) : Prop where
  /-- The pattern may begin at its start. -/
  admitted : anchor.admits (isLineStart text hit.start) = true
  /-- The pattern takes its piece from there, and uses what comes before its end. -/
  taken : ∃ taken, pattern.take? (text.drop hit.start) = some taken ∧
    hit.stop = hit.start + taken.used.length ∧ hit.piece = taken.piece

namespace Genuine

variable {hit other : Match β}

/-- A match is not empty. -/
theorem start_lt_stop (genuine : hit.Genuine anchor pattern text) : hit.start < hit.stop := by
  -- A pattern uses at least one element.
  obtain ⟨taken, found, stop, _⟩ := genuine.taken
  have positive := List.length_pos_iff.mpr (pattern.progress found).2
  omega

/-- At one position there is only one match. -/
theorem eq_of_start_eq (genuine : hit.Genuine anchor pattern text) (also : other.Genuine anchor pattern text)
    (same : hit.start = other.start) : hit = other := by
  -- What the pattern takes is determined by where it begins.
  obtain ⟨taken, found, stop, piece⟩ := genuine.taken
  obtain ⟨again, refound, otherStop, otherPiece⟩ := also.taken
  rw [same, refound, Option.some.injEq] at found
  subst found
  cases hit
  cases other
  simp_all

end Genuine

/-- What is found at a cursor is a genuine match of the text that the cursor stands in. -/
theorem genuine_report {cursor : Cursor α} (stands : cursor.Stands text) {taken : Taken α β}
    (found : cursor.find? anchor pattern = some taken) :
    (cursor.report taken).Genuine anchor pattern text := by
  -- The cursor looks at the text itself, and its flag is right.
  rw [stands.find?_eq] at found
  obtain ⟨admitted, took⟩ := Option.ite_none_right_eq_some.mp found
  exact ⟨admitted, taken, took, rfl, rfl⟩

end Match

/-- The leftmost matches from a position on: they do not overlap, and wherever they leave room there is none. -/
structure LeftmostFrom (anchor : Anchor) (pattern : Pattern α β) (text : List α) (first : Nat)
    (hits : List (Match β)) : Prop where
  /-- None of them begins before the position. -/
  behind : ∀ hit ∈ hits, first ≤ hit.start
  /-- Each of them is what the pattern takes where it may begin. -/
  genuine : ∀ hit ∈ hits, hit.Genuine anchor pattern text
  /-- They begin one after the other, each where the one before it has ended or later. -/
  ordered : hits.Pairwise fun earlier later => earlier.start < later.start ∧ earlier.stop ≤ later.start
  /-- Wherever the pattern may begin outside of them, it takes nothing. -/
  complete : ∀ position, first ≤ position → anchor.admits (isLineStart text position) = true →
    (∀ hit ∈ hits, ¬ hit.Covers position) → pattern.take? (text.drop position) = none

namespace LeftmostFrom

variable {first : Nat} {hit other : Match β} {hits others : List (Match β)}

/-- There are no matches behind the text. -/
theorem nil_of_length_le (beyond : text.length ≤ first) : LeftmostFrom anchor pattern text first [] where
  behind := by simp
  genuine := by simp
  ordered := .nil
  complete := by
    -- The pattern takes nothing from what is left there.
    intro position behind _ _
    rw [List.drop_eq_nil_of_le (Nat.le_trans beyond behind), pattern.take?_nil]

/-- A match at the first position comes before those behind it. -/
theorem cons (genuine : hit.Genuine anchor pattern text) (later : LeftmostFrom anchor pattern text hit.stop hits) :
    LeftmostFrom anchor pattern text hit.start (hit :: hits) where
  behind := by
    -- The others begin behind its end.
    rw [List.forall_mem_cons]
    refine ⟨Nat.le_refl _, fun other member => ?_⟩
    exact Nat.le_trans (Nat.le_of_lt genuine.start_lt_stop) (later.behind other member)
  genuine := List.forall_mem_cons.mpr ⟨genuine, later.genuine⟩
  ordered := by
    refine .cons (fun other member => ?_) later.ordered
    have apart := later.behind other member
    exact ⟨Nat.lt_of_lt_of_le genuine.start_lt_stop apart, apart⟩
  complete := by
    intro position behind admitted outside
    rw [List.forall_mem_cons] at outside
    -- The position is not in the match, so it is behind it.
    have after : hit.stop ≤ position := Nat.le_of_not_lt fun before => outside.1 ⟨behind, before⟩
    exact later.complete position after admitted outside.2

/-- Where nothing is taken, the matches are those from the next position on. -/
theorem pass (missed : anchor.admits (isLineStart text first) = true → pattern.take? (text.drop first) = none)
    (later : LeftmostFrom anchor pattern text (first + 1) hits) : LeftmostFrom anchor pattern text first hits where
  behind := fun hit member => Nat.le_of_succ_le (later.behind hit member)
  genuine := later.genuine
  ordered := later.ordered
  complete := by
    -- The position is either the first one or behind it.
    intro position behind admitted outside
    rcases Nat.eq_or_lt_of_le behind with rfl | after
    · exact missed admitted
    · exact later.complete position after admitted outside

/-- The matches after one of them are leftmost from its end on. -/
theorem tail (leftmost : LeftmostFrom anchor pattern text first (hit :: hits)) :
    LeftmostFrom anchor pattern text hit.stop hits where
  behind := fun other member => ((List.pairwise_cons.mp leftmost.ordered).1 other member).2
  genuine := (List.forall_mem_cons.mp leftmost.genuine).2
  ordered := (List.pairwise_cons.mp leftmost.ordered).2
  complete := by
    -- A position behind the end of the match is not in it either.
    intro position behind admitted outside
    obtain ⟨isGenuine, _⟩ := List.forall_mem_cons.mp leftmost.genuine
    have start : first ≤ hit.start := leftmost.behind hit List.mem_cons_self
    have after : first ≤ position :=
      Nat.le_trans start (Nat.le_trans (Nat.le_of_lt isGenuine.start_lt_stop) behind)
    refine leftmost.complete position after admitted (List.forall_mem_cons.mpr ⟨?_, outside⟩)
    exact fun covers => Nat.not_lt.mpr behind covers.2

/-- No genuine match begins before the first of the leftmost ones. -/
theorem exists_start_le (leftmost : LeftmostFrom anchor pattern text first hits)
    (genuine : other.Genuine anchor pattern text) (behind : first ≤ other.start) :
    ∃ hit others, hits = hit :: others ∧ hit.start ≤ other.start := by
  -- Something is taken there, so one of them covers its start.
  have covered : ∃ hit ∈ hits, hit.Covers other.start := by
    refine Classical.byContradiction fun outside => ?_
    obtain ⟨taken, found, _⟩ := genuine.taken
    rw [leftmost.complete other.start behind genuine.admitted (by simpa using outside)] at found
    contradiction
  obtain ⟨hit, member, covers⟩ := covered
  cases hits with
  | nil => contradiction
  | cons head rest =>
    refine ⟨head, rest, rfl, ?_⟩
    -- If it is not the first one, the first one begins even earlier.
    rcases List.mem_cons.mp member with rfl | later
    · exact covers.1
    · have before := (List.pairwise_cons.mp leftmost.ordered).1 hit later
      exact Nat.le_trans (Nat.le_of_lt before.1) covers.1

/-- There is only one list of leftmost matches. -/
theorem eq (leftmost : LeftmostFrom anchor pattern text first hits)
    (also : LeftmostFrom anchor pattern text first others) : hits = others := by
  -- The first matches of both lists begin at the same position, and the others come behind them.
  induction hits generalizing first others with
  | nil =>
    cases others with
    | nil => rfl
    | cons head rest =>
      obtain ⟨_, _, same, _⟩ :=
        leftmost.exists_start_le (also.genuine head List.mem_cons_self) (also.behind head List.mem_cons_self)
      contradiction
  | cons head rest ih =>
    have genuine := leftmost.genuine head List.mem_cons_self
    obtain ⟨other, more, rfl, before⟩ := also.exists_start_le genuine (leftmost.behind head List.mem_cons_self)
    have otherGenuine := also.genuine other List.mem_cons_self
    obtain ⟨_, _, same, after⟩ := leftmost.exists_start_le otherGenuine (also.behind other List.mem_cons_self)
    obtain ⟨rfl, rfl⟩ := List.cons.inj same
    obtain rfl := genuine.eq_of_start_eq otherGenuine (Nat.le_antisymm after before)
    rw [ih leftmost.tail also.tail]

end LeftmostFrom

/-- What a search finds on its way are the leftmost matches from where it stands. -/
theorem Cursor.Walk.leftmost {cursor : Cursor α} {cursors : List (Cursor α)} {hits : List (Match β)}
    (walk : Walk anchor pattern cursor cursors hits) (stands : cursor.Stands text) :
    LeftmostFrom anchor pattern text cursor.position hits := by
  -- Backwards from the end of the text, each step adds its match or shows that there is none at its position.
  induction walk with
  | done empty =>
    apply LeftmostFrom.nil_of_length_le
    rw [← List.drop_eq_nil_iff, ← stands.rest, empty]
  | jump found _ ih => exact .cons (Match.genuine_report stands found) (ih (stands.jump found))
  | pass missed _ ih =>
    refine .pass ?_ (ih stands.pass)
    intro admitted
    rw [stands.find?_eq, if_pos admitted] at missed
    exact missed

/--
A search for any pattern comes to the end of the text, and what it finds is the one list of leftmost matches.

It takes no more steps than the text has elements, and at each of them it knows whether a line starts there. What it
gives back are the pieces of the matches in their order.
-/
theorem search_finds_leftmost_matches (pattern : Pattern α β) (anchor : Anchor) (text : List α) :
    (∃ cursors, Cursor.Walk anchor pattern (.start text) cursors (pattern.search anchor text) ∧
      cursors.length ≤ text.length ∧ ∀ cursor ∈ cursors, cursor.Stands text) ∧
    (∀ hits, LeftmostFrom anchor pattern text 0 hits ↔ hits = pattern.search anchor text) ∧
    pattern.pieces anchor text = (pattern.search anchor text).map Match.piece := by
  -- The search stands in the text at its start, and so it does all the way.
  obtain ⟨cursors, walk, few⟩ := Cursor.exists_walk anchor pattern (.start text)
  have leftmost : LeftmostFrom anchor pattern text 0 (pattern.search anchor text) :=
    walk.leftmost (Cursor.stands_start text)
  refine ⟨⟨cursors, walk, few, walk.forall_stands (Cursor.stands_start text)⟩, ?_, rfl⟩
  intro hits
  constructor
  · intro also
    exact also.eq leftmost
  · rintro rfl
    exact leftmost

example :
    (Pattern.braces.search .anywhere "\x7ba\x7db\x7b\x7bc\x7d\x7d\x7b".toList).map (fun hit => (hit.start, hit.stop)) =
      [(0, 3), (4, 8)] := by decide +kernel

end AnswerQuery
