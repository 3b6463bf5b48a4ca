import AnswerQuery.Proofs.Scan.Lines
import AnswerQuery.Proofs.Scan.Search
import AnswerQuery.Solver

/-! Labelled models line by line: a search for labels at the start of lines goes line by line. -/

namespace AnswerQuery

variable {α : Type} [Symbol α]

namespace Pattern

section LineStart

variable {β : Type} {pattern : Pattern α β}

/-- Where no line starts nothing may begin. -/
theorem piecesFrom_lineStart_cons (symbol : α) (others : List α) :
    pattern.piecesFrom .lineStart false (symbol :: others) =
      pattern.piecesFrom .lineStart (Symbol.isNewline symbol) others :=
  piecesFrom_cons_of_take?_eq_none (by simp [Anchor.admits])

/-- Inside a line nothing may begin, so the search goes on where the next line starts. -/
theorem piecesFrom_lineStart_append_newline {line : List α} (inside : IsLine line) {newline : α}
    (ends : Symbol.isNewline newline = true) (after : List α) :
    pattern.piecesFrom .lineStart false (line ++ newline :: after) =
      pattern.piecesFrom .lineStart true after := by
  -- No element before the line feed starts a line.
  induction line with
  | nil => rw [List.nil_append, piecesFrom_lineStart_cons, ends]
  | cons symbol line ih =>
    rw [isLine_cons] at inside
    rw [List.cons_append, piecesFrom_lineStart_cons, inside.1, ih inside.2]

/-- Inside the last line nothing may begin any more. -/
theorem piecesFrom_lineStart_of_isLine {line : List α} (inside : IsLine line) :
    pattern.piecesFrom .lineStart false line = [] := by
  -- None of its elements starts a line.
  induction line with
  | nil => simp
  | cons symbol line ih =>
    rw [isLine_cons] at inside
    rw [piecesFrom_lineStart_cons, inside.1, ih inside.2]

/-- A line at whose start nothing is found is passed. -/
theorem piecesFrom_lineStart_of_take?_eq_none {line : List α} (inside : IsLine line) {newline : α}
    (ends : Symbol.isNewline newline = true) {after : List α}
    (missed : pattern.take? (line ++ newline :: after) = none) :
    pattern.piecesFrom .lineStart true (line ++ newline :: after) =
      pattern.piecesFrom .lineStart true after := by
  -- After its first element the search is inside the line.
  cases line with
  | nil => rw [List.nil_append, piecesFrom_cons_of_take?_eq_none fun _ => missed, ends]
  | cons symbol line =>
    rw [isLine_cons] at inside
    rw [List.cons_append] at missed ⊢
    rw [piecesFrom_cons_of_take?_eq_none fun _ => missed, inside.1,
      piecesFrom_lineStart_append_newline inside.2 ends]

end LineStart

/-- A label without a line feed is split off a line without looking at what follows the line. -/
theorem splitLabel?_append_newline {label : Text} (plain : '\n' ∉ label) (line : List α)
    {newline : α} (ends : Symbol.isNewline newline = true) (after : List α) :
    splitLabel? label (line ++ newline :: after) =
      (splitLabel? label line).map fun (used, rest) => (used, rest ++ newline :: after) := by
  -- The label would have to go on with the line feed.
  induction label generalizing line with
  | nil => rfl
  | cons c label ih =>
    rw [List.mem_cons, not_or] at plain
    cases line with
    | nil =>
      have code : Symbol.code newline = '\n'.toNat := beq_iff_eq.mp ends
      have other : Symbol.is c newline = false := by
        rw [Symbol.is, code, beq_eq_false_iff_ne]
        exact fun same => plain.1 (Char.toNat_inj.mp same)
      simp [splitLabel?, other]
    | cons symbol line =>
      simp only [List.cons_append, splitLabel?]
      split
      · rw [ih plain.2]
        cases splitLabel? label line <;> rfl
      · rfl

end Pattern

/-- The model on a line with the label of stable models: what follows it, less one carriage return. -/
def labelledBlock? (line : List α) : Option (List α) :=
  (Pattern.splitLabel? "Stable Model:".toList line).map fun (_, rest) => Pattern.withoutReturn rest

namespace Pattern

/-- What is left of a line after a label is a line. -/
theorem isLine_of_splitLabel?_eq_some {label : Text} {line used rest : List α}
    (split : splitLabel? label line = some (used, rest)) (inside : IsLine line) : IsLine rest := by
  obtain ⟨rfl, _⟩ := splitLabel?_eq_some_iff.mp split
  exact (isLine_append.mp inside).2

/-- What a label takes from the front of a text lies in its first line. -/
theorem takeLabelled?_append_newline {line : List α} (inside : IsLine line) {newline : α}
    (ends : Symbol.isNewline newline = true) (after : List α) :
    takeLabelled? (line ++ newline :: after) =
      (labelledBlock? line).map fun block => ⟨block, line, newline :: after⟩ := by
  -- The rest of the line goes up to the line feed.
  rw [takeLabelled?, splitLabel?_append_newline (by decide) line ends, labelledBlock?]
  cases split : splitLabel? "Stable Model:".toList line with
  | none => rfl
  | some parts =>
    obtain ⟨used, rest⟩ := parts
    obtain ⟨whole, _⟩ := splitLabel?_eq_some_iff.mp split
    have inRest := isLine_of_splitLabel?_eq_some split inside
    simp [splitLine_append_newline inRest ends, whole]

/-- What a label takes from the last line is all of it. -/
theorem takeLabelled?_of_isLine {line : List α} (inside : IsLine line) :
    takeLabelled? line = (labelledBlock? line).map fun block => ⟨block, line, []⟩ := by
  -- No line feed ends the rest of it.
  rw [takeLabelled?, labelledBlock?]
  cases split : splitLabel? "Stable Model:".toList line with
  | none => rfl
  | some parts =>
    obtain ⟨used, rest⟩ := parts
    obtain ⟨whole, _⟩ := splitLabel?_eq_some_iff.mp split
    have inRest := isLine_of_splitLabel?_eq_some split inside
    simp [splitLine_of_isLine inRest, whole]

/-- No line feed is the last element of a line. -/
theorem getLast?_any_isNewline {line : List α} (inside : IsLine line) :
    line.getLast?.any Symbol.isNewline = false := by
  -- The last element is one of them.
  cases last : line.getLast? with
  | none => rfl
  | some symbol => exact inside symbol (List.mem_of_getLast? last)

/-- The search for labels takes the model of the first line, if any, and goes on with the next line. -/
theorem piecesFrom_labelled_line {line : List α} (inside : IsLine line) {newline : α}
    (ends : Symbol.isNewline newline = true) (after : List α) :
    labelled.piecesFrom .lineStart true (line ++ newline :: after) =
      (labelledBlock? line).toList ++ labelled.piecesFrom .lineStart true after := by
  -- Whether there is a match at the start of the line is decided by the line alone.
  have taken := takeLabelled?_append_newline inside ends after
  cases block : labelledBlock? line with
  | none =>
    rw [block] at taken
    rw [piecesFrom_lineStart_of_take?_eq_none inside ends taken]
    rfl
  | some model =>
    -- The match stops in front of the line feed, which is inside the line still.
    rw [block] at taken
    rw [piecesFrom_of_take?_eq_some rfl taken, getLast?_any_isNewline inside,
      piecesFrom_lineStart_cons, ends]
    rfl

/-- The search for labels takes the model of the last line, if any. -/
theorem piecesFrom_labelled_of_isLine {line : List α} (inside : IsLine line) :
    labelled.piecesFrom .lineStart true line = (labelledBlock? line).toList := by
  -- A match uses up the line, and without one nothing else may begin on it.
  have taken := takeLabelled?_of_isLine inside
  cases block : labelledBlock? line with
  | none =>
    rw [block] at taken
    cases line with
    | nil => simp
    | cons symbol line =>
      rw [isLine_cons] at inside
      rw [piecesFrom_cons_of_take?_eq_none fun _ => taken, inside.1,
        piecesFrom_lineStart_of_isLine inside.2]
      rfl
  | some model =>
    rw [block] at taken
    rw [piecesFrom_of_take?_eq_some rfl taken, piecesFrom_nil]
    rfl

end Pattern

/-- The labelled models of a text are those of its lines. -/
theorem piecesFrom_labelled_eq_filterMap (text : List α) :
    Pattern.labelled.piecesFrom .lineStart true text =
      (text.splitOnP Symbol.isNewline).filterMap labelledBlock? := by
  -- The search and the lines go on together.
  induction size : text.length using Nat.strongRecOn generalizing text with
  | _ size ih =>
    subst size
    rcases isLine_or_append_newline text with single | ⟨line, newline, after, rfl, inside, ends⟩
    · rw [Pattern.piecesFrom_labelled_of_isLine single, List.splitOnP_eq_singleton single]
      cases block : labelledBlock? text <;> simp [block]
    · have later := ih after.length (by simp; omega) after rfl
      rw [Pattern.piecesFrom_labelled_line inside ends, later,
        List.splitOnP_append_cons_of_forall_mem inside newline ends]
      cases block : labelledBlock? line <;> simp [block]

/-- In texts the model on a line is what follows the label itself. -/
theorem labelledBlock?_text (line : Text) :
    labelledBlock? line =
      if "Stable Model:".toList.isPrefixOf line then
        some (Pattern.withoutReturn (line.drop "Stable Model:".toList.length))
      else none := by
  -- Characters spell only themselves.
  rw [labelledBlock?]
  generalize "Stable Model:".toList = label
  split
  case isTrue front =>
    obtain ⟨rest, rfl⟩ := List.isPrefixOf_iff_prefix.mp front
    have split : Pattern.splitLabel? label (label ++ rest) = some (label, rest) :=
      Pattern.splitLabel?_eq_some_iff.mpr ⟨rfl, Pattern.spells_text_iff.mpr rfl⟩
    rw [split, Option.map_some, List.drop_left]
  case isFalse other =>
    rw [Option.map_eq_none_iff, Option.eq_none_iff_forall_ne_some]
    rintro ⟨used, rest⟩ split
    obtain ⟨rfl, spells⟩ := Pattern.splitLabel?_eq_some_iff.mp split
    obtain rfl := Pattern.spells_text_iff.mp spells
    exact other (List.isPrefixOf_iff_prefix.mpr (List.prefix_append used rest))

/-- A text less one carriage return is the text itself unless its last character is one. -/
theorem Pattern.withoutReturn_text (line : Text) :
    withoutReturn line = if line.getLast? = some '\r' then line.dropLast else line := by
  -- A carriage return is the only character with its code.
  unfold withoutReturn
  cases line.getLast? <;> simp

/--
The blocks of the solver that labels its stable models are what follows the label on the lines that
begin with it.

One carriage return at the end of a line does not belong to its block.
-/
theorem smodels_blocks_eq_map_filter (text : Text) :
    Solver.smodels.blocks text =
      ((text.splitOn '\n').filter "Stable Model:".toList.isPrefixOf).map fun line =>
        let model := line.drop "Stable Model:".toList.length
        if model.getLast? = some '\r' then model.dropLast else model := by
  -- The search for labels at the start of lines takes the model of each line, if it has one.
  have found : Solver.smodels.blocks text = (text.splitOn '\n').filterMap labelledBlock? := by
    rw [← splitOnP_isNewline_eq_splitOn]
    exact piecesFrom_labelled_eq_filterMap text
  rw [found, ← List.filterMap_eq_map, List.filterMap_filter]
  congr 1
  funext line
  rw [labelledBlock?_text, Pattern.withoutReturn_text]
  rfl

example :
    Solver.smodels.blocks
        "Stable Model: a\rb\r\n Stable Model: c\rStable Model:\nStable Model:".toList =
      [" a\rb".toList, []] := by decide +kernel

end AnswerQuery
