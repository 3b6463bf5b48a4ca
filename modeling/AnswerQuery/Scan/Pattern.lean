import AnswerQuery.Scan.Symbol

/-! How each convention marks a model: patterns that take a piece off the front of a text. -/

namespace AnswerQuery

/-- A piece found at the front of a text, what it was found in, and what follows. -/
structure Taken (α β : Type) where
  /-- What was found. -/
  piece : β
  /-- The front of the text, up to where the search goes on. -/
  used : List α
  /-- The text after it. -/
  rest : List α

/-- A way to take a piece off the front of a text, which uses up at least one element whenever it succeeds. -/
structure Pattern (α β : Type) where
  /-- Take a piece off the front, if the text begins with one. -/
  take? : List α → Option (Taken α β)
  /-- What was used and what follows make up the text, and something was used. -/
  progress : ∀ {text taken}, take? text = some taken → taken.used ++ taken.rest = text ∧ taken.used ≠ []

namespace Pattern

variable {α : Type}

/-- Split off the longest front whose elements are all of a kind, unless it is empty. -/
def splitRun? (kind : α → Bool) (text : List α) : Option (List α × List α) :=
  match text.takeWhile kind with
  | [] => none
  | first :: others => some (first :: others, text.dropWhile kind)

/-- A run that was split off holds only elements of its kind, one at least, and nothing is lost. -/
theorem splitRun?_eq_some {kind : α → Bool} {text used rest : List α}
    (split : splitRun? kind text = some (used, rest)) :
    used ++ rest = text ∧ used ≠ [] ∧ used = text.takeWhile kind ∧ rest = text.dropWhile kind := by
  -- The run is the longest front of its kind.
  unfold splitRun? at split
  split at split
  · simp at split
  · rename_i first others run
    simp only [Option.some.injEq, Prod.mk.injEq] at split
    obtain ⟨rfl, rfl⟩ := split
    exact ⟨run ▸ List.takeWhile_append_dropWhile, by simp, run.symm, rfl⟩

variable [Symbol α]

/-- Split a label off the front of a text. -/
def splitLabel? : Text → List α → Option (List α × List α)
  | [], text => some ([], text)
  | _ :: _, [] => none
  | c :: label, symbol :: text =>
    if Symbol.is c symbol then (splitLabel? label text).map fun (used, rest) => (symbol :: used, rest)
    else none

/-- Split a line ending off the front: a line feed, or a carriage return and a line feed. -/
def splitLineEnd? (text : List α) : Option (List α × List α) :=
  (splitLabel? "\n".toList text).or (splitLabel? "\r\n".toList text)

/-- A line less one carriage return at its end. -/
def withoutReturn (line : List α) : List α :=
  if line.getLast?.any (Symbol.is '\r') then line.dropLast else line

/-- The front of a text up to its first line feed, and the rest, which begins with it if there is one. -/
def splitLine (text : List α) : List α × List α :=
  (text.takeWhile (fun symbol => !Symbol.isNewline symbol), text.dropWhile (fun symbol => !Symbol.isNewline symbol))

/-- What lies between an opening brace and the first closing brace after it. -/
def takeBraces? : List α → Option (Taken α (List α))
  | [] => none
  | first :: text =>
    if Symbol.is '{' first then
      match text.dropWhile (fun symbol => !Symbol.is '}' symbol) with
      | [] => none
      | last :: rest =>
        let block := text.takeWhile (fun symbol => !Symbol.is '}' symbol)
        some ⟨block, first :: block ++ [last], rest⟩
    else none

/-- What follows the label of a stable model on its line. -/
def takeLabelled? (text : List α) : Option (Taken α (List α)) := do
  let (label, afterLabel) ← splitLabel? "Stable Model:".toList text
  let (line, rest) := splitLine afterLabel
  some ⟨withoutReturn line, label ++ line, rest⟩

/-- The line after one that ends with the label of an answer and its number. -/
def takeNumbered? (text : List α) : Option (Taken α (List α)) := do
  let (label, afterLabel) ← splitLabel? "Answer:".toList text
  let (spaces, afterSpaces) ← splitRun? Symbol.isSpace afterLabel
  let (number, afterNumber) ← splitRun? Symbol.isDigit afterSpaces
  let (ending, afterEnding) ← splitLineEnd? afterNumber
  let (line, rest) := splitLine afterEnding
  some ⟨withoutReturn line, label ++ spaces ++ number ++ ending ++ line, rest⟩

/-- A label that was split off is as long as it should be, and nothing is lost. -/
theorem splitLabel?_eq_some {label : Text} {text used rest : List α}
    (split : splitLabel? label text = some (used, rest)) :
    used ++ rest = text ∧ used.length = label.length := by
  -- One element goes with each character of the label.
  induction label generalizing text used with
  | nil =>
    simp only [splitLabel?, Option.some.injEq, Prod.mk.injEq] at split
    obtain ⟨rfl, rfl⟩ := split
    exact ⟨rfl, rfl⟩
  | cons c label ih =>
    cases text with
    | nil => simp [splitLabel?] at split
    | cons symbol text =>
      simp only [splitLabel?] at split
      split at split
      · obtain ⟨⟨front, back⟩, found, same⟩ := Option.map_eq_some_iff.mp split
        simp only [Prod.mk.injEq] at same
        obtain ⟨rfl, rfl⟩ := same
        obtain ⟨whole, count⟩ := ih found
        exact ⟨by simp [whole], by simp [count]⟩
      · simp at split

/-- A line ending that was split off is not empty, and nothing is lost. -/
theorem splitLineEnd?_eq_some {text used rest : List α} (split : splitLineEnd? text = some (used, rest)) :
    used ++ rest = text ∧ used ≠ [] := by
  -- Both spellings are labels of one or two characters.
  unfold splitLineEnd? at split
  rcases Option.or_eq_some_iff.mp split with short | ⟨_, long⟩
  · obtain ⟨whole, count⟩ := splitLabel?_eq_some short
    exact ⟨whole, by rintro rfl; simp at count⟩
  · obtain ⟨whole, count⟩ := splitLabel?_eq_some long
    exact ⟨whole, by rintro rfl; simp at count⟩

/-- A line and what follows it make up the text. -/
theorem splitLine_append (text : List α) : (splitLine text).1 ++ (splitLine text).2 = text := by
  -- The line is the longest front without a line feed.
  simp [splitLine]

/-- Models between braces. -/
def braces : Pattern α (List α) where
  take? := takeBraces?
  progress := by
    -- The opening brace is always used, and the closing one is the head of what the block leaves.
    intro text taken found
    cases text with
    | nil => simp [takeBraces?] at found
    | cons first text =>
      simp only [takeBraces?] at found
      split at found
      · split at found
        · simp at found
        · rename_i last rest after
          simp only [Option.some.injEq] at found
          subst found
          refine ⟨?_, by simp⟩
          have whole := List.takeWhile_append_dropWhile (p := fun symbol => !Symbol.is '}' symbol) (l := text)
          rw [after] at whole
          simpa using whole
      · simp at found

/-- Models on lines with a label. -/
def labelled : Pattern α (List α) where
  take? := takeLabelled?
  progress := by
    -- The label is not empty.
    intro text taken found
    simp only [takeLabelled?, Option.bind_eq_bind, Option.bind_eq_some_iff, Option.some.injEq] at found
    obtain ⟨⟨label, afterLabel⟩, split, same⟩ := found
    obtain ⟨whole, count⟩ := splitLabel?_eq_some split
    subst same
    refine ⟨by simp [splitLine_append, whole], ?_⟩
    cases label with
    | nil => simp at count
    | cons first others => simp

/-- Models on the line after a numbered header. -/
def numbered : Pattern α (List α) where
  take? := takeNumbered?
  progress := by
    -- The label is not empty, and each part begins where the one before it ends.
    intro text taken found
    simp only [takeNumbered?, Option.bind_eq_bind, Option.bind_eq_some_iff, Option.some.injEq] at found
    obtain ⟨⟨label, afterLabel⟩, labelSplit, ⟨spaces, afterSpaces⟩, spaceSplit, ⟨number, afterNumber⟩,
      numberSplit, ⟨ending, afterEnding⟩, endSplit, same⟩ := found
    obtain ⟨labelWhole, count⟩ := splitLabel?_eq_some labelSplit
    obtain ⟨spaceWhole, _⟩ := splitRun?_eq_some spaceSplit
    obtain ⟨numberWhole, _⟩ := splitRun?_eq_some numberSplit
    obtain ⟨endWhole, _⟩ := splitLineEnd?_eq_some endSplit
    subst same
    refine ⟨by simp [splitLine_append, endWhole, numberWhole, spaceWhole, labelWhole], ?_⟩
    cases label with
    | nil => simp at count
    | cons first others => simp

end Pattern

end AnswerQuery
