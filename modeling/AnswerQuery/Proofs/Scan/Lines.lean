import AnswerQuery.Scan.Pattern

/-! What patterns split off the front of a text, seen from the lines that the text consists of. -/

namespace AnswerQuery

variable {α : Type} [Symbol α]

/-- Digits, spaces and tabs, and carriage returns are kept apart, and none of them ends a line. -/
theorem Symbol.kinds_disjoint (symbol : α) :
    (isDigit symbol = true →
        isSpace symbol = false ∧ is '\r' symbol = false ∧ isNewline symbol = false) ∧
      (isSpace symbol = true → is '\r' symbol = false ∧ isNewline symbol = false) ∧
      (is '\r' symbol = true → isNewline symbol = false) := by
  -- Their codes are different.
  simp only [isDigit, isSpace, isNewline, is, Bool.and_eq_true, Bool.or_eq_true, Bool.or_eq_false_iff,
    decide_eq_true_eq, beq_iff_eq, beq_eq_false_iff_ne, ne_eq, Char.reduceToNat]
  omega

/-- The space and the tab are the characters that are passed between a label and a number. -/
theorem Symbol.isSpace_char (c : Char) : isSpace c = true ↔ c = ' ' ∨ c = '\t' := by
  simp [isSpace]

/-- The digits are those of the core library. -/
theorem Symbol.isDigit_char (c : Char) : isDigit c = c.isDigit := by
  -- Characters are ordered by their codes.
  simp [isDigit, code, Char.isDigit, UInt32.le_iff_toNat_le]

omit [Symbol α] in
/-- What comes before the first element of a kind is determined by the list, and so is what follows. -/
theorem cut_unique {kind : α → Bool} {front other rest more : List α} {mark another : α}
    (outside : ∀ element ∈ front, kind element = false) (marks : kind mark = true)
    (otherOutside : ∀ element ∈ other, kind element = false) (otherMarks : kind another = true)
    (same : front ++ mark :: rest = other ++ another :: more) :
    front = other ∧ mark = another ∧ rest = more := by
  -- If one of the two were longer, the mark of the other would be in it.
  rcases List.append_eq_append_iff.mp same with ⟨between, longer, left⟩ | ⟨between, longer, left⟩
  · cases between with
    | nil =>
      obtain ⟨first, later⟩ := List.cons.inj left
      exact ⟨by simpa using longer.symm, first, later⟩
    | cons first between =>
      obtain ⟨rfl, _⟩ := List.cons.inj left
      have inside := otherOutside mark (by simp [longer])
      rw [marks] at inside
      contradiction
  · cases between with
    | nil =>
      obtain ⟨first, later⟩ := List.cons.inj left
      exact ⟨by simpa using longer, first.symm, later.symm⟩
    | cons first between =>
      obtain ⟨rfl, _⟩ := List.cons.inj left
      have inside := outside another (by simp [longer])
      rw [otherMarks] at inside
      contradiction

/-- A line has no line feed in it. -/
def IsLine (line : List α) : Prop :=
  ∀ symbol ∈ line, Symbol.isNewline symbol = false

instance : DecidablePred (IsLine (α := α)) := fun line =>
  inferInstanceAs (Decidable (∀ symbol ∈ line, Symbol.isNewline symbol = false))

/-- A text without elements is a line. -/
theorem isLine_nil : IsLine ([] : List α) := by
  simp [IsLine]

/-- A line begins with something other than a line feed, unless it is empty. -/
theorem isLine_cons {symbol : α} {line : List α} :
    IsLine (symbol :: line) ↔ Symbol.isNewline symbol = false ∧ IsLine line :=
  List.forall_mem_cons

/-- Texts that are put together are a line if each of them is one. -/
theorem isLine_append {front back : List α} : IsLine (front ++ back) ↔ IsLine front ∧ IsLine back :=
  List.forall_mem_append

/-- A text either is a single line or begins with a line that a line feed ends. -/
theorem isLine_or_append_newline (text : List α) :
    IsLine text ∨ ∃ line newline rest, text = line ++ newline :: rest ∧ IsLine line ∧
      Symbol.isNewline newline = true := by
  -- The first line goes up to the first line feed.
  induction text with
  | nil => exact .inl isLine_nil
  | cons first text ih =>
    cases ends : Symbol.isNewline first with
    | true => exact .inr ⟨[], first, text, rfl, isLine_nil, ends⟩
    | false =>
      rcases ih with single | ⟨line, newline, rest, rfl, inside, closes⟩
      · exact .inl (isLine_cons.mpr ⟨ends, single⟩)
      · exact .inr ⟨first :: line, newline, rest, rfl, isLine_cons.mpr ⟨ends, inside⟩, closes⟩

/-- The lines of a text lie between its line feeds. -/
theorem splitOnP_isNewline_eq_splitOn (text : Text) :
    text.splitOnP Symbol.isNewline = text.splitOn '\n' := by
  -- A line feed is the only character that ends a line.
  have same : (Symbol.isNewline : Char → Bool) = (· == '\n') := by
    funext c
    exact Symbol.is_char '\n' c
  rw [List.splitOn_eq_splitOnP, same]

namespace Pattern

/-- Elements spell a label if they have the codes of its characters. -/
def Spells (label : Text) (symbols : List α) : Prop :=
  symbols.map Symbol.code = label.map Char.toNat

/-- Characters spell nothing but themselves. -/
theorem spells_text_iff {label symbols : Text} : Spells label symbols ↔ symbols = label := by
  -- Code points tell characters apart.
  have injective : Function.Injective Char.toNat := fun _ _ same => Char.toNat_inj.mp same
  exact List.map_inj_right (f := Char.toNat) fun _ _ same => Char.toNat_inj.mp same

/-- A label is split off exactly if the text begins with elements that spell it. -/
theorem splitLabel?_eq_some_iff {label : Text} {text used rest : List α} :
    splitLabel? label text = some (used, rest) ↔ text = used ++ rest ∧ Spells label used := by
  -- One element goes with each character of the label.
  induction label generalizing text used with
  | nil =>
    simp only [splitLabel?, Spells, Option.some.injEq, Prod.mk.injEq, List.map_nil, List.map_eq_nil_iff]
    constructor
    · rintro ⟨rfl, rfl⟩
      exact ⟨rfl, rfl⟩
    · rintro ⟨rfl, rfl⟩
      exact ⟨rfl, rfl⟩
  | cons c label ih =>
    cases text with
    | nil =>
      simp only [splitLabel?, reduceCtorEq, false_iff]
      rintro ⟨whole, spells⟩
      have empty : used = [] := (List.append_eq_nil_iff.mp whole.symm).1
      simp [Spells, empty] at spells
    | cons symbol text =>
      simp only [splitLabel?]
      constructor
      · intro split
        split at split
        case isTrue same =>
          obtain ⟨⟨front, back⟩, found, parts⟩ := Option.map_eq_some_iff.mp split
          simp only [Prod.mk.injEq] at parts
          obtain ⟨rfl, rfl⟩ := parts
          obtain ⟨whole, spells⟩ := ih.mp found
          have first : Symbol.code symbol = c.toNat := by simpa [Symbol.is] using same
          have others : front.map Symbol.code = label.map Char.toNat := spells
          exact ⟨by simp [whole], by simp [Spells, first, others]⟩
        case isFalse => simp at split
      · rintro ⟨whole, spells⟩
        cases used with
        | nil => simp [Spells] at spells
        | cons first front =>
          simp only [List.cons_append, List.cons.injEq] at whole
          obtain ⟨rfl, whole⟩ := whole
          simp only [Spells, List.map_cons, List.cons.injEq] at spells
          have found := ih.mpr ⟨whole, spells.2⟩
          simp [Symbol.is, spells.1, found]

omit [Symbol α] in
/-- A run is split off as far as it goes. -/
theorem splitRun?_append {kind : α → Bool} {run rest : List α} (nonempty : run ≠ [])
    (inside : ∀ symbol ∈ run, kind symbol = true)
    (outside : ∀ symbol ∈ rest.head?, kind symbol = false) :
    splitRun? kind (run ++ rest) = some (run, rest) := by
  -- The run holds only elements of the kind, and what follows begins with another.
  have stops : rest.takeWhile kind = [] ∧ rest.dropWhile kind = rest := by
    cases rest with
    | nil => simp
    | cons first rest => simp [outside first (by simp)]
  have taken : (run ++ rest).takeWhile kind = run := by
    rw [List.takeWhile_append_of_pos inside, stops.1, List.append_nil]
  have left : (run ++ rest).dropWhile kind = rest := by
    rw [List.dropWhile_append_of_pos inside, stops.2]
  rw [splitRun?, taken, left]
  cases run with
  | nil => contradiction
  | cons first others => rfl

/-- The elements of a line are those that a search for its end passes. -/
theorem not_isNewline_of_isLine {line : List α} (inside : IsLine line) :
    ∀ symbol ∈ line, (!Symbol.isNewline symbol) = true := by
  intro symbol member
  rw [inside symbol member, Bool.not_false]

/-- A line that a line feed ends is split off in front of it. -/
theorem splitLine_append_newline {line : List α} (inside : IsLine line) {newline : α}
    (ends : Symbol.isNewline newline = true) (rest : List α) :
    splitLine (line ++ newline :: rest) = (line, newline :: rest) := by
  -- The line feed is the first one.
  have passed := not_isNewline_of_isLine inside
  rw [splitLine, List.takeWhile_append_of_pos passed, List.dropWhile_append_of_pos passed]
  simp [ends]

/-- A text without a line feed is a line. -/
theorem splitLine_of_isLine {line : List α} (inside : IsLine line) : splitLine line = (line, []) := by
  -- There is nothing else to be taken, and nothing is left.
  have passed := not_isNewline_of_isLine inside
  have taken : (line ++ []).takeWhile (fun symbol => !Symbol.isNewline symbol) = line ++ [] :=
    List.takeWhile_append_of_pos passed
  have left : (line ++ []).dropWhile (fun symbol => !Symbol.isNewline symbol) = [] :=
    List.dropWhile_append_of_pos passed
  rw [List.append_nil] at taken left
  rw [splitLine, taken, left]

/-- A line does not get longer. -/
theorem length_withoutReturn_le (line : List α) : (withoutReturn line).length ≤ line.length := by
  -- At most one element is left out.
  unfold withoutReturn
  split <;> simp

/-- A carriage return at the end of a line is left out. -/
theorem withoutReturn_append_return (front : List α) {last : α} (same : Symbol.is '\r' last = true) :
    withoutReturn (front ++ [last]) = front := by
  simp [withoutReturn, same]

/-- A line that does not end in a carriage return keeps all its elements. -/
theorem withoutReturn_append_of_not (front : List α) {last : α}
    (other : Symbol.is '\r' last = false) :
    withoutReturn (front ++ [last]) = front ++ [last] := by
  simp [withoutReturn, other]

/-- What comes before the end of a line is kept. -/
theorem withoutReturn_append {back : List α} (nonempty : back ≠ []) (front : List α) :
    withoutReturn (front ++ back) = front ++ withoutReturn back := by
  -- The last element is that of the back.
  rcases List.eq_nil_or_concat back with rfl | ⟨middle, last, rfl⟩
  · contradiction
  · cases ending : Symbol.is '\r' last <;>
      simp [withoutReturn, ending, ← List.append_assoc]

/-- At most one carriage return, which may stand in front of a line feed. -/
inductive AtMostReturn : List α → Prop where
  | none : AtMostReturn []
  | one {symbol : α} (same : Symbol.is '\r' symbol = true) : AtMostReturn [symbol]

/-- A carriage return ends no line on its own. -/
theorem AtMostReturn.isLine {ending : List α} (atMost : AtMostReturn ending) : IsLine ending := by
  -- It is no line feed.
  cases atMost with
  | none => exact isLine_nil
  | @one symbol same => exact isLine_cons.mpr ⟨(Symbol.kinds_disjoint symbol).2.2 same, isLine_nil⟩

/-- At most one carriage return is left out of a line, at its end. -/
theorem exists_atMostReturn (line : List α) :
    ∃ ending, line = withoutReturn line ++ ending ∧ AtMostReturn ending := by
  -- Only the last element is looked at.
  rcases List.eq_nil_or_concat line with rfl | ⟨front, last, rfl⟩
  · exact ⟨[], rfl, .none⟩
  · cases ending : Symbol.is '\r' last with
    | true => exact ⟨[last], by simp [withoutReturn, ending], .one ending⟩
    | false => exact ⟨[], by simp [withoutReturn, ending], .none⟩

/-- A carriage return at the end is left out of a line, and nothing else. -/
theorem withoutReturn_append_of_atMostReturn {front ending : List α}
    (kept : withoutReturn front = front) (atMost : AtMostReturn ending) :
    withoutReturn (front ++ ending) = front := by
  -- There is either nothing to be left out or one element.
  cases atMost with
  | none => rw [List.append_nil, kept]
  | one same => simp [withoutReturn, same]

/-- A line without carriage returns keeps all its elements. -/
theorem withoutReturn_of_not {line : List α}
    (plain : ∀ symbol ∈ line, Symbol.is '\r' symbol = false) :
    withoutReturn line = line := by
  -- None can be left out.
  obtain ⟨ending, parts, atMost⟩ := exists_atMostReturn line
  cases atMost with
  | none => rw [List.append_nil] at parts; exact parts.symm
  | @one symbol same =>
    have other := plain symbol (by rw [parts]; simp)
    rw [same] at other
    contradiction

/-- A line feed ends a line, and a carriage return may come before it. -/
theorem splitLineEnd?_append {ending : List α} (atMost : AtMostReturn ending) {newline : α}
    (ends : Symbol.isNewline newline = true) (rest : List α) :
    splitLineEnd? (ending ++ newline :: rest) = some (ending ++ [newline], rest) := by
  -- A carriage return is not taken for a line feed, so the second spelling is tried.
  have isFeed : Symbol.is '\n' newline = true := ends
  cases atMost with
  | none => simp [splitLineEnd?, splitLabel?, isFeed]
  | @one symbol same =>
    have other : Symbol.is '\n' symbol = false := (Symbol.kinds_disjoint symbol).2.2 same
    simp [splitLineEnd?, splitLabel?, other, same, isFeed]

/-- A line ending is a line feed, and a carriage return may come before it. -/
theorem splitLineEnd?_parts {text used rest : List α}
    (split : splitLineEnd? text = some (used, rest)) :
    ∃ ending newline, text = ending ++ newline :: rest ∧ Symbol.isNewline newline = true ∧
      AtMostReturn ending := by
  -- The two spellings are tried one after the other.
  unfold splitLineEnd? at split
  rcases Option.or_eq_some_iff.mp split with short | ⟨_, long⟩
  · obtain ⟨rfl, spells⟩ := splitLabel?_eq_some_iff.mp short
    have codes : used.map Symbol.code = ['\n'.toNat] := spells
    obtain ⟨newline, rfl, ends⟩ := List.map_eq_singleton_iff.mp codes
    exact ⟨[], newline, rfl, beq_iff_eq.mpr ends, .none⟩
  · obtain ⟨rfl, spells⟩ := splitLabel?_eq_some_iff.mp long
    have codes : used.map Symbol.code = ['\r'.toNat, '\n'.toNat] := spells
    obtain ⟨symbol, others, rfl, same, codes⟩ := List.map_eq_cons_iff.mp codes
    obtain ⟨newline, rfl, ends⟩ := List.map_eq_singleton_iff.mp codes
    exact ⟨[symbol], newline, rfl, beq_iff_eq.mpr ends, .one (beq_iff_eq.mpr same)⟩

end Pattern

end AnswerQuery
