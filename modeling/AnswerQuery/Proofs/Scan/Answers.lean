import AnswerQuery.Proofs.Scan.Lines
import AnswerQuery.Proofs.Scan.Search
import AnswerQuery.Proofs.Text.Words
import AnswerQuery.Solver

/-! Numbered answers line by line: a header ends with a number, and the line after it is a model. -/

namespace AnswerQuery

variable {α : Type} [Symbol α]

/-- The parts of a header: its label, the spaces and tabs after the label, and the number at the end. -/
structure Heading (label spaces number : List α) : Prop where
  /-- The label is spelled as it should be. -/
  spelled : Pattern.Spells "Answer:".toList label
  /-- The label and the number are apart. -/
  apart : spaces ≠ []
  /-- Only spaces and tabs lie between them. -/
  blank : ∀ symbol ∈ spaces, Symbol.isSpace symbol = true
  /-- There is a number. -/
  numbered : number ≠ []
  /-- The number consists of digits. -/
  digits : ∀ symbol ∈ number, Symbol.isDigit symbol = true

/-- Whether a line consists of a heading, less one carriage return at its end. -/
def OpensAnswer (line : List α) : Prop :=
  ∃ label spaces number,
    Pattern.withoutReturn line = label ++ spaces ++ number ∧ Heading label spaces number

/-- Whether a line ends with a heading, less one carriage return and whatever comes before. -/
def IsHeader (line : List α) : Prop :=
  ∃ before label spaces number,
    Pattern.withoutReturn line = before ++ (label ++ spaces ++ number) ∧ Heading label spaces number

namespace Heading

variable {label spaces number : List α}

/-- None of the elements of a heading ends a line. -/
theorem isLine (heading : Heading label spaces number) : IsLine (label ++ spaces ++ number) := by
  -- The label has no line feed in it, and neither spaces nor digits are line feeds.
  intro symbol member
  simp only [List.mem_append] at member
  rcases member with (inLabel | inSpaces) | inNumber
  · have code := List.mem_map_of_mem (f := Symbol.code) inLabel
    rw [heading.spelled] at code
    simp only [Symbol.isNewline, Symbol.is, beq_eq_false_iff_ne, ne_eq]
    intro same
    rw [same] at code
    revert code
    decide
  · exact ((Symbol.kinds_disjoint symbol).2.1 (heading.blank symbol inSpaces)).2
  · exact ((Symbol.kinds_disjoint symbol).1 (heading.digits symbol inNumber)).2.2

/-- A heading does not end in a carriage return. -/
theorem withoutReturn_eq (heading : Heading label spaces number) (before : List α) :
    Pattern.withoutReturn (before ++ (label ++ spaces ++ number)) =
      before ++ (label ++ spaces ++ number) := by
  -- Its last element is a digit.
  rcases List.eq_nil_or_concat number with rfl | ⟨front, last, rfl⟩
  · exact absurd rfl heading.numbered
  · have digit := heading.digits last (by simp)
    have other := ((Symbol.kinds_disjoint last).1 digit).2.1
    simpa using Pattern.withoutReturn_append_of_not (before ++ (label ++ spaces ++ front)) other

/-- What comes before the number ends in a space or a tab. -/
theorem not_isDigit_of_getLast? (heading : Heading label spaces number) {before : List α} :
    ∀ last ∈ (before ++ label ++ spaces).getLast?, Symbol.isDigit last = false := by
  -- No space or tab is a digit.
  intro last ends
  rw [List.getLast?_append, List.getLast?_eq_some_getLast heading.apart, Option.some_or,
    Option.mem_some] at ends
  have space := heading.blank last (ends ▸ List.getLast_mem heading.apart)
  rw [Bool.eq_false_iff]
  intro digit
  rw [((Symbol.kinds_disjoint last).1 digit).1] at space
  contradiction

/-- What comes before the spaces and tabs ends in a colon. -/
theorem not_isSpace_of_getLast? (heading : Heading label spaces number) {before : List α} :
    ∀ last ∈ (before ++ label).getLast?, Symbol.isSpace last = false := by
  -- The last element has the code of the last character of the label.
  intro last ends
  have codes := congrArg List.getLast? heading.spelled
  have nonempty : label ≠ [] := by
    rintro rfl
    have size := congrArg List.length heading.spelled
    contradiction
  rw [List.getLast?_append, List.getLast?_eq_some_getLast nonempty, Option.some_or,
    Option.mem_some] at ends
  rw [List.getLast?_map, List.getLast?_eq_some_getLast nonempty, ends] at codes
  have colon : Symbol.code last = ':'.toNat := Option.some.inj codes
  simp only [Symbol.isSpace, Symbol.is, colon]
  decide

/-- A heading is not empty. -/
theorem ne_nil (heading : Heading label spaces number) : label ++ spaces ++ number ≠ [] := by
  simp [heading.numbered]

end Heading

/-- A line that a heading opens is no line without elements. -/
theorem OpensAnswer.ne_nil {line : List α} (opens : OpensAnswer line) : line ≠ [] := by
  rintro rfl
  obtain ⟨label, spaces, number, same, heading⟩ := opens
  exact heading.ne_nil same.symm

/-- A line without elements is no header. -/
theorem not_isHeader_nil : ¬ IsHeader ([] : List α) := by
  -- A heading would have to be in it.
  rintro ⟨before, label, spaces, number, same, heading⟩
  exact heading.ne_nil (List.append_eq_nil_iff.mp same.symm).2

/-- A line is a header if a heading opens it, or if it is one without its first element. -/
theorem isHeader_cons_iff (symbol : α) (line : List α) :
    IsHeader (symbol :: line) ↔ OpensAnswer (symbol :: line) ∨ IsHeader line := by
  -- Either nothing comes before the heading, or the first element does.
  constructor
  · rintro ⟨before, label, spaces, number, same, heading⟩
    cases before with
    | nil => exact .inl ⟨label, spaces, number, by simpa using same, heading⟩
    | cons first before =>
      -- What is left of the line is not empty, since the heading is in it.
      have nonempty : line ≠ [] := by
        rintro rfl
        have short := Pattern.length_withoutReturn_le [symbol]
        have positive := List.length_pos_iff.mpr heading.ne_nil
        rw [same] at short
        simp only [List.length_append, List.length_cons, List.length_nil] at short positive
        omega
      rw [← List.singleton_append, Pattern.withoutReturn_append nonempty] at same
      simp only [List.cons_append, List.nil_append, List.cons.injEq] at same
      exact .inr ⟨before, label, spaces, number, same.2, heading⟩
  · rintro (⟨label, spaces, number, same, heading⟩ |
      ⟨before, label, spaces, number, same, heading⟩)
    · exact ⟨[], label, spaces, number, by simpa using same, heading⟩
    · have nonempty : line ≠ [] := by
        rintro rfl
        exact not_isHeader_nil ⟨before, label, spaces, number, same, heading⟩
      refine ⟨symbol :: before, label, spaces, number, ?_, heading⟩
      rw [← List.singleton_append, Pattern.withoutReturn_append nonempty, same]
      simp

/-- Whether a line ends with a heading, found by dropping a number and then spaces and tabs. -/
def endsWithHeading (line : List α) : Bool :=
  let front := dropTrailing Symbol.isDigit line
  let stem := dropTrailing Symbol.isSpace front
  decide (front.length < line.length) && decide (stem.length < front.length) &&
    (stem.drop (stem.length - "Answer:".toList.length)).map Symbol.code ==
      "Answer:".toList.map Char.toNat

/-- A heading at the end of a line is found by dropping its number and its spaces and tabs. -/
theorem Heading.endsWithHeading_append {label spaces number : List α}
    (heading : Heading label spaces number) (before : List α) :
    endsWithHeading (before ++ (label ++ spaces ++ number)) = true := by
  -- The number ends where the spaces begin, and the spaces end at the colon of the label.
  have front : dropTrailing Symbol.isDigit (before ++ (label ++ spaces ++ number)) =
      before ++ label ++ spaces := by
    rw [← List.append_assoc, ← List.append_assoc, dropTrailing_append_run _ heading.digits]
    exact dropTrailing_of_getLast? heading.not_isDigit_of_getLast?
  have stem : dropTrailing Symbol.isSpace (before ++ label ++ spaces) = before ++ label := by
    rw [dropTrailing_append_run _ heading.blank]
    exact dropTrailing_of_getLast? heading.not_isSpace_of_getLast?
  -- What is left ends in as many elements as the label has characters.
  have size := congrArg List.length heading.spelled
  rw [List.length_map, List.length_map] at size
  have apart := List.length_pos_iff.mpr heading.apart
  have numbered := List.length_pos_iff.mpr heading.numbered
  simp only [endsWithHeading, front, stem, Bool.and_eq_true, decide_eq_true_eq, beq_iff_eq]
  refine ⟨⟨?_, ?_⟩, ?_⟩
  · simp only [List.length_append]
    omega
  · simp only [List.length_append]
    omega
  · rw [List.length_append, ← size, Nat.add_sub_cancel, List.drop_left]
    exact heading.spelled

/-- What dropping finds at the end of a line is a heading. -/
theorem exists_heading_of_endsWithHeading {line : List α} (ends : endsWithHeading line = true) :
    ∃ before label spaces number,
      line = before ++ (label ++ spaces ++ number) ∧ Heading label spaces number := by
  simp only [endsWithHeading, Bool.and_eq_true, decide_eq_true_eq, beq_iff_eq] at ends
  obtain ⟨⟨numbered, apart⟩, spelled⟩ := ends
  -- The two runs that are dropped are not empty, as each leaves less than there was.
  obtain ⟨number, parts, digits⟩ := exists_run_dropTrailing Symbol.isDigit line
  generalize dropTrailing Symbol.isDigit line = front at *
  obtain ⟨spaces, more, blank⟩ := exists_run_dropTrailing Symbol.isSpace front
  generalize dropTrailing Symbol.isSpace front = stem at *
  subst more parts
  refine ⟨stem.take (stem.length - "Answer:".toList.length),
    stem.drop (stem.length - "Answer:".toList.length), spaces, number, ?_,
    ⟨spelled, ?_, blank, ?_, digits⟩⟩
  · simp [← List.append_assoc]
  · rintro rfl
    simp at apart
  · rintro rfl
    simp at numbered

/-- Dropping finds a heading exactly where there is one. -/
theorem isHeader_iff (line : List α) :
    IsHeader line ↔ endsWithHeading (Pattern.withoutReturn line) = true := by
  constructor
  · rintro ⟨before, label, spaces, number, same, heading⟩
    rw [same]
    exact heading.endsWithHeading_append before
  · intro ends
    exact exists_heading_of_endsWithHeading ends

instance : DecidablePred (IsHeader (α := α)) := fun line =>
  decidable_of_iff _ (isHeader_iff line).symm

/-- In texts a header ends with the label itself, spaces or tabs, and decimal digits. -/
theorem isHeader_text_iff (line : Text) :
    IsHeader line ↔ ∃ before spaces number,
      Pattern.withoutReturn line = before ++ ("Answer:".toList ++ spaces ++ number) ∧
        (spaces ≠ [] ∧ ∀ c ∈ spaces, c = ' ' ∨ c = '\t') ∧
        (number ≠ [] ∧ ∀ c ∈ number, c.isDigit = true) := by
  -- Characters spell only themselves, and the kinds of characters are those of the core library.
  constructor
  · rintro ⟨before, label, spaces, number, same, heading⟩
    obtain rfl := Pattern.spells_text_iff.mp heading.spelled
    exact ⟨before, spaces, number, same,
      ⟨heading.apart, fun c member => (Symbol.isSpace_char c).mp (heading.blank c member)⟩,
      heading.numbered, fun c member => Symbol.isDigit_char c ▸ heading.digits c member⟩
  · rintro ⟨before, spaces, number, same, ⟨apart, blank⟩, numbered, digits⟩
    exact ⟨before, _, spaces, number, same, Pattern.spells_text_iff.mpr rfl, apart,
      fun c member => (Symbol.isSpace_char c).mpr (blank c member), numbered,
      fun c member => Symbol.isDigit_char c ▸ digits c member⟩

namespace Heading

variable {label spaces number : List α}

/-- The spaces and tabs of a heading are split off up to its number. -/
theorem splitRun?_isSpace (heading : Heading label spaces number) (rest : List α) :
    Pattern.splitRun? Symbol.isSpace (spaces ++ (number ++ rest)) = some (spaces, number ++ rest) := by
  -- The number begins with a digit, which is no space or tab.
  apply Pattern.splitRun?_append heading.apart heading.blank
  intro symbol first
  obtain ⟨digit, others, same⟩ := List.exists_cons_of_ne_nil heading.numbered
  obtain rfl : digit = symbol := by simpa [same] using first
  exact ((Symbol.kinds_disjoint digit).1 (heading.digits digit (by simp [same]))).1

/-- The number of a heading is split off up to the end of its line. -/
theorem splitRun?_isDigit (heading : Heading label spaces number) {ending : List α}
    (atMost : Pattern.AtMostReturn ending) {newline : α} (ends : Symbol.isNewline newline = true)
    (after : List α) :
    Pattern.splitRun? Symbol.isDigit (number ++ (ending ++ newline :: after)) =
      some (number, ending ++ newline :: after) := by
  -- A carriage return or a line feed follows it, and neither is a digit.
  apply Pattern.splitRun?_append heading.numbered heading.digits
  intro symbol first
  rw [Bool.eq_false_iff]
  intro digit
  obtain ⟨_, noReturn, noNewline⟩ := (Symbol.kinds_disjoint symbol).1 digit
  cases atMost with
  | none =>
    obtain rfl : newline = symbol := by simpa using first
    simp [ends] at noNewline
  | @one ending isReturn =>
    obtain rfl : ending = symbol := by simpa using first
    simp [isReturn] at noReturn

end Heading

namespace Pattern

/-- A line that a heading opens makes the line after it a model. -/
theorem takeNumbered?_of_opensAnswer {line : List α} (opens : OpensAnswer line) {newline : α}
    (ends : Symbol.isNewline newline = true) (after : List α) :
    ∃ taken, takeNumbered? (line ++ newline :: after) = some taken ∧
      taken.piece = withoutReturn (splitLine after).1 ∧ taken.rest = (splitLine after).2 := by
  -- Each part of the heading is split off as far as it goes, as the next part is of another kind.
  obtain ⟨label, spaces, number, same, heading⟩ := opens
  obtain ⟨ending, whole, atMost⟩ := exists_atMostReturn line
  rw [same] at whole
  have labelSplit : splitLabel? "Answer:".toList (line ++ newline :: after) =
      some (label, spaces ++ (number ++ (ending ++ newline :: after))) :=
    splitLabel?_eq_some_iff.mpr ⟨by simp [whole], heading.spelled⟩
  have spaceSplit := heading.splitRun?_isSpace (ending ++ newline :: after)
  have numberSplit := heading.splitRun?_isDigit atMost ends after
  refine ⟨⟨withoutReturn (splitLine after).1,
    label ++ spaces ++ number ++ (ending ++ [newline]) ++ (splitLine after).1, (splitLine after).2⟩,
    ?_, rfl, rfl⟩
  simp only [takeNumbered?, labelSplit, spaceSplit, numberSplit, splitLineEnd?_append atMost ends,
    Option.bind_eq_bind, Option.bind_some]

/-- Where a numbered answer is found, the text begins with a line that a heading opens. -/
theorem opensAnswer_of_takeNumbered?_eq_some {text : List α} {taken : Taken α (List α)}
    (found : takeNumbered? text = some taken) :
    ∃ line newline after, text = line ++ newline :: after ∧ OpensAnswer line ∧ IsLine line ∧
      Symbol.isNewline newline = true := by
  -- The line consists of the parts that were split off, up to the line feed.
  simp only [takeNumbered?, Option.bind_eq_bind, Option.bind_eq_some_iff, Option.some.injEq] at found
  obtain ⟨⟨label, afterLabel⟩, labelSplit, ⟨spaces, afterSpaces⟩, spaceSplit,
    ⟨number, afterNumber⟩, numberSplit, ⟨used, afterEnding⟩, endSplit, _⟩ := found
  obtain ⟨rfl, spelled⟩ := splitLabel?_eq_some_iff.mp labelSplit
  obtain ⟨rfl, apart, blank, _⟩ := splitRun?_eq_some spaceSplit
  obtain ⟨rfl, numbered, digits, _⟩ := splitRun?_eq_some numberSplit
  obtain ⟨ending, newline, rfl, ends, atMost⟩ := splitLineEnd?_parts endSplit
  have heading : Heading label spaces number :=
    ⟨spelled, apart, List.all_eq_true.mp (blank ▸ List.all_takeWhile), numbered,
      List.all_eq_true.mp (digits ▸ List.all_takeWhile)⟩
  have kept : withoutReturn (label ++ spaces ++ number) = label ++ spaces ++ number :=
    heading.withoutReturn_eq []
  exact ⟨label ++ spaces ++ number ++ ending, newline, afterEnding, by simp,
    ⟨label, spaces, number, withoutReturn_append_of_atMostReturn kept atMost, heading⟩,
    isLine_append.mpr ⟨heading.isLine, atMost.isLine⟩, ends⟩

/-- Nothing is found at the front of a line that no heading opens. -/
theorem takeNumbered?_eq_none {line : List α} (closed : ¬ OpensAnswer line) (inside : IsLine line)
    {newline : α} (ends : Symbol.isNewline newline = true) (after : List α) :
    takeNumbered? (line ++ newline :: after) = none := by
  -- The line up to the first line feed is determined by the text.
  rw [Option.eq_none_iff_forall_ne_some]
  intro taken found
  obtain ⟨other, another, more, same, opens, otherInside, otherEnds⟩ :=
    opensAnswer_of_takeNumbered?_eq_some found
  obtain ⟨rfl, _⟩ := cut_unique inside ends otherInside otherEnds same
  exact closed opens

/-- A line without elements is passed. -/
theorem piecesFrom_numbered_newline {newline : α} (ends : Symbol.isNewline newline = true)
    (after : List α) :
    numbered.piecesFrom .anywhere true (newline :: after) =
      numbered.piecesFrom .anywhere true after := by
  -- No heading opens it.
  have missed := takeNumbered?_eq_none (fun opens => opens.ne_nil rfl) isLine_nil ends after
  rw [piecesFrom_cons_of_take?_eq_none fun _ => missed, piecesFrom_anywhere]

/-- The line after a header is a model, and the search goes on after it; any other line is passed. -/
theorem piecesFrom_numbered_line {line : List α} (inside : IsLine line) {newline : α}
    (ends : Symbol.isNewline newline = true) (after : List α) :
    numbered.piecesFrom .anywhere true (line ++ newline :: after) =
      if IsHeader line then
        withoutReturn (splitLine after).1 :: numbered.piecesFrom .anywhere true (splitLine after).2
      else numbered.piecesFrom .anywhere true after := by
  -- The leftmost heading that ends the line is found, element by element.
  induction line with
  | nil => rw [if_neg not_isHeader_nil, List.nil_append, piecesFrom_numbered_newline ends]
  | cons symbol line ih =>
    have inLine := (isLine_cons.mp inside).2
    by_cases opens : OpensAnswer (symbol :: line)
    · obtain ⟨taken, found, piece, rest⟩ := takeNumbered?_of_opensAnswer opens ends after
      rw [if_pos ((isHeader_cons_iff symbol line).mpr (.inl opens)),
        piecesFrom_of_take?_eq_some rfl found, piece, rest, piecesFrom_anywhere]
    · have missed := takeNumbered?_eq_none opens inside ends after
      have same : IsHeader (symbol :: line) ↔ IsHeader line := by
        rw [isHeader_cons_iff, or_iff_right opens]
      rw [List.cons_append, piecesFrom_cons_of_take?_eq_none fun _ => missed, piecesFrom_anywhere,
        ih inLine]
      simp only [same]

/-- Nothing is found in a single line that no line feed ends. -/
theorem piecesFrom_numbered_of_isLine {line : List α} (inside : IsLine line) (startsLine : Bool) :
    numbered.piecesFrom .anywhere startsLine line = [] := by
  -- A model needs a header that a line feed ends.
  induction line generalizing startsLine with
  | nil => simp
  | cons symbol line ih =>
    have missed : takeNumbered? (symbol :: line) = none := by
      rw [Option.eq_none_iff_forall_ne_some]
      intro taken found
      obtain ⟨front, newline, after, same, _, _, ends⟩ := opensAnswer_of_takeNumbered?_eq_some found
      have noNewline := inside newline (by simp [same])
      simp [ends] at noNewline
    rw [piecesFrom_cons_of_take?_eq_none fun _ => missed, ih (isLine_cons.mp inside).2]

end Pattern

/-- The models among lines: the line after each header less one carriage return, never a header itself. -/
def answerBlocks : List (List α) → List (List α)
  | line :: next :: lines =>
    if IsHeader line then Pattern.withoutReturn next :: answerBlocks lines
    else answerBlocks (next :: lines)
  | _ => []

/-- The numbered answers of a text are the models among its lines. -/
theorem piecesFrom_numbered_eq_answerBlocks (text : List α) :
    Pattern.numbered.piecesFrom .anywhere true text =
      answerBlocks (text.splitOnP Symbol.isNewline) := by
  -- The search and the lines go on together, from the start of one line to the start of a later one.
  induction size : text.length using Nat.strongRecOn generalizing text with
  | _ size ih =>
    subst size
    rcases isLine_or_append_newline text with single | ⟨line, newline, after, rfl, inside, ends⟩
    · rw [Pattern.piecesFrom_numbered_of_isLine single, List.splitOnP_eq_singleton single,
        answerBlocks]
      simp
    · rw [Pattern.piecesFrom_numbered_line inside ends,
        List.splitOnP_append_cons_of_forall_mem inside newline ends]
      have later := ih after.length (by simp; omega) after rfl
      rcases isLine_or_append_newline after with
        last | ⟨next, another, rest, rfl, inNext, nextEnds⟩
      · rw [List.splitOnP_eq_singleton last] at later ⊢
        rw [later, Pattern.splitLine_of_isLine last]
        simp [answerBlocks]
      · have rest := ih rest.length (by simp; omega) rest rfl
        rw [List.splitOnP_append_cons_of_forall_mem inNext another nextEnds] at later ⊢
        rw [later, Pattern.splitLine_append_newline inNext nextEnds,
          Pattern.piecesFrom_numbered_newline nextEnds, rest, answerBlocks]

/-- The blocks of the solver that numbers its answers are the models among the lines of its output. -/
theorem clasp_blocks_eq_answerBlocks (text : Text) :
    Solver.clasp.blocks text = answerBlocks (text.splitOn '\n') := by
  -- It searches for numbered answers anywhere.
  rw [Solver.blocks, Pattern.pieces_eq_piecesFrom, ← splitOnP_isNewline_eq_splitOn]
  exact piecesFrom_numbered_eq_answerBlocks text

example : answerBlocks ("No Answer: 1\r\nAnswer: 2\n\n1 Answer:\t \nAnswer: 3".toList.splitOn '\n') =
    ["Answer: 2".toList] := by decide

end AnswerQuery
