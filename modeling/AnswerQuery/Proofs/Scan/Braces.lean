import AnswerQuery.Proofs.Scan.Lines
import AnswerQuery.Proofs.Scan.Search
import AnswerQuery.Solver
import Mathlib.Data.List.TakeWhile

/-! Models between braces: a search passes what is outside of braces and takes what is inside. -/

namespace AnswerQuery

variable {α : Type} [Symbol α]

namespace Pattern

/-- An opening brace and the first closing brace after it are the bounds of a block. -/
theorem takeBraces?_append {opening closing : α} (opens : Symbol.is '{' opening = true)
    {block : List α} (inside : ∀ symbol ∈ block, Symbol.is '}' symbol = false)
    (closes : Symbol.is '}' closing = true) (rest : List α) :
    takeBraces? (opening :: (block ++ closing :: rest)) =
      some ⟨block, opening :: block ++ [closing], rest⟩ := by
  -- The closing brace is the first one.
  have others : ∀ symbol ∈ block, (!Symbol.is '}' symbol) = true := by simpa using inside
  have left : (block ++ closing :: rest).dropWhile (fun symbol => !Symbol.is '}' symbol) =
      closing :: rest := by
    rw [List.dropWhile_append_of_pos others]
    simp [closes]
  have taken : (block ++ closing :: rest).takeWhile (fun symbol => !Symbol.is '}' symbol) = block := by
    rw [List.takeWhile_append_of_pos others]
    simp [closes]
  simp [takeBraces?, opens, left, taken]

/-- Text without opening braces is passed. -/
theorem piecesFrom_braces_append_of_not {between : List α}
    (outside : ∀ symbol ∈ between, Symbol.is '{' symbol = false) (rest : List α) :
    braces.piecesFrom .anywhere true (between ++ rest) = braces.piecesFrom .anywhere true rest := by
  -- Nothing is found at an element that is no opening brace.
  induction between with
  | nil => rfl
  | cons symbol between ih =>
    rw [List.forall_mem_cons] at outside
    have missed : takeBraces? (symbol :: (between ++ rest)) = none := by simp [takeBraces?, outside.1]
    rw [List.cons_append, piecesFrom_cons_of_take?_eq_none fun _ => missed, piecesFrom_anywhere,
      ih outside.2]

/-- A block between braces is found, and the search goes on after the closing brace. -/
theorem piecesFrom_braces_block {opening closing : α} (opens : Symbol.is '{' opening = true)
    {block : List α} (inside : ∀ symbol ∈ block, Symbol.is '}' symbol = false)
    (closes : Symbol.is '}' closing = true) (rest : List α) :
    braces.piecesFrom .anywhere true (opening :: (block ++ closing :: rest)) =
      block :: braces.piecesFrom .anywhere true rest := by
  -- What comes before the closing brace is used, whether or not it begins lines.
  rw [piecesFrom_of_take?_eq_some rfl (takeBraces?_append opens inside closes rest),
    piecesFrom_anywhere]

end Pattern

/-- No opening brace is closed: no closing brace comes anywhere after one. -/
def Unclosed (text : List α) : Prop :=
  ∀ front opening back, text = front ++ opening :: back → Symbol.is '{' opening = true →
    ∀ symbol ∈ back, Symbol.is '}' symbol = false

/-- An element in front closes nothing, and it is not closed by what follows if it is an opening brace. -/
theorem unclosed_cons_iff {symbol : α} {text : List α} :
    Unclosed (symbol :: text) ↔
      (Symbol.is '{' symbol = true → ∀ other ∈ text, Symbol.is '}' other = false) ∧ Unclosed text := by
  -- An opening brace is either the element in front or one of the others.
  constructor
  · intro unclosed
    refine ⟨unclosed [] symbol text rfl, ?_⟩
    intro front opening back same
    exact unclosed (symbol :: front) opening back (by rw [same, List.cons_append])
  · rintro ⟨first, others⟩ front opening back same opens
    cases front with
    | nil =>
      obtain ⟨rfl, rfl⟩ := List.cons.inj same
      exact first opens
    | cons other front =>
      obtain ⟨rfl, rfl⟩ := List.cons.inj same
      exact others front opening back rfl opens

/-- Where there is no closing brace, nothing is closed. -/
theorem unclosed_of_not_closing {text : List α}
    (inside : ∀ symbol ∈ text, Symbol.is '}' symbol = false) : Unclosed text := by
  rintro front opening back rfl _ symbol member
  exact inside symbol (by simp [member])

/-- Text without opening braces may come first. -/
theorem Unclosed.append {before text : List α} (unclosed : Unclosed text)
    (outside : ∀ symbol ∈ before, Symbol.is '{' symbol = false) : Unclosed (before ++ text) := by
  -- None of its elements has to be closed.
  induction before with
  | nil => exact unclosed
  | cons symbol before ih =>
    rw [List.forall_mem_cons] at outside
    rw [List.cons_append, unclosed_cons_iff]
    refine ⟨?_, ih outside.2⟩
    intro opens
    rw [outside.1] at opens
    contradiction

/--
What braces make of a text, from left to right.

A block lies between the leftmost opening brace and the first closing brace after it.
-/
inductive Braced : List α → List (List α) → Prop where
  /-- A text in which nothing is closed holds no block. -/
  | unclosed {text : List α} (unclosed : Unclosed text) : Braced text []
  /-- The first block comes before those of the text after it. -/
  | block {before block rest : List α} {opening closing : α} {blocks : List (List α)}
      (outside : ∀ symbol ∈ before, Symbol.is '{' symbol = false)
      (opens : Symbol.is '{' opening = true)
      (inside : ∀ symbol ∈ block, Symbol.is '}' symbol = false)
      (closes : Symbol.is '}' closing = true) (others : Braced rest blocks) :
      Braced (before ++ opening :: (block ++ closing :: rest)) (block :: blocks)

/-- Every text consists of blocks and of what is outside of them. -/
theorem exists_braced (text : List α) : ∃ blocks, Braced text blocks := by
  -- The text is cut at its first opening brace, and after the first closing brace from there.
  induction size : text.length using Nat.strongRecOn generalizing text with
  | _ size ih =>
    subst size
    cases opened : text.find? (Symbol.is '{') with
    | none =>
      have outside : ∀ symbol ∈ text, Symbol.is '{' symbol = false := by
        simpa using List.find?_eq_none.mp opened
      have unclosed : Unclosed (text ++ []) :=
        Unclosed.append (unclosed_of_not_closing (by simp)) outside
      exact ⟨[], .unclosed (by rwa [List.append_nil] at unclosed)⟩
    | some opening =>
      obtain ⟨opens, before, after, rfl, outside⟩ := List.find?_eq_some_iff_append.mp opened
      have outside : ∀ symbol ∈ before, Symbol.is '{' symbol = false := by simpa using outside
      cases closed : after.find? (Symbol.is '}') with
      | none =>
        have inside : ∀ symbol ∈ after, Symbol.is '}' symbol = false := by
          simpa using List.find?_eq_none.mp closed
        have last : Unclosed (opening :: after) :=
          unclosed_cons_iff.mpr ⟨fun _ => inside, unclosed_of_not_closing inside⟩
        exact ⟨[], .unclosed (last.append outside)⟩
      | some closing =>
        obtain ⟨closes, block, rest, rfl, inside⟩ := List.find?_eq_some_iff_append.mp closed
        have inside : ∀ symbol ∈ block, Symbol.is '}' symbol = false := by simpa using inside
        obtain ⟨blocks, others⟩ := ih rest.length (by simp; omega) rest rfl
        exact ⟨block :: blocks, .block outside opens inside closes others⟩

namespace Pattern

/-- Nothing is found where no opening brace is closed. -/
theorem piecesFrom_braces_of_unclosed {text : List α} (unclosed : Unclosed text) :
    braces.piecesFrom .anywhere true text = [] := by
  -- At an opening brace the search for a closing one comes to the end of the text.
  induction text with
  | nil => simp
  | cons symbol text ih =>
    obtain ⟨first, others⟩ := unclosed_cons_iff.mp unclosed
    have missed : takeBraces? (symbol :: text) = none := by
      cases opens : Symbol.is '{' symbol with
      | false => simp [takeBraces?, opens]
      | true =>
        have passed : ∀ other ∈ text, (!Symbol.is '}' other) = true := by simpa using first opens
        simp [takeBraces?, opens, List.dropWhile_eq_nil_iff.mpr passed]
    rw [piecesFrom_cons_of_take?_eq_none fun _ => missed, piecesFrom_anywhere, ih others]

/-- The search for braces finds the blocks of a text, and no others. -/
theorem piecesFrom_braces_of_braced {text : List α} {blocks : List (List α)}
    (braced : Braced text blocks) : braces.piecesFrom .anywhere true text = blocks := by
  -- Each block is found after what is outside has been passed.
  induction braced with
  | unclosed unclosed => exact piecesFrom_braces_of_unclosed unclosed
  | block outside opens inside closes _ ih =>
    rw [piecesFrom_braces_append_of_not outside, piecesFrom_braces_block opens inside closes, ih]

end Pattern

/-- A block between braces, and what comes before it without opening one. -/
@[ext] structure BracedPart where
  /-- What comes before the opening brace. -/
  before : Text
  /-- What lies between the braces. -/
  block : Text
  /-- The opening brace is the first one. -/
  outside : '{' ∉ before
  /-- The closing brace is the first one after it. -/
  inside : '}' ∉ block

/-- A part as it stands in the text. -/
def BracedPart.text (part : BracedPart) : Text :=
  part.before ++ '{' :: (part.block ++ ['}'])

/-- A way to take a text apart at its braces. -/
@[ext] structure Bracing (text : Text) where
  /-- The blocks, each with what comes before it. -/
  parts : List BracedPart
  /-- What comes after the last block. -/
  tail : Text
  /-- No closing brace comes after an opening one any more. -/
  unclosed : ∀ front back, tail = front ++ '{' :: back → '}' ∉ back
  /-- Nothing is left out. -/
  whole : parts.flatMap BracedPart.text ++ tail = text

/-- The blocks of a text that was taken apart, in order. -/
def Bracing.blocks {text : Text} (bracing : Bracing text) : List Text :=
  bracing.parts.map BracedPart.block

/-- None of the characters of a text is a given one exactly if that one is not in the text. -/
theorem Symbol.forall_is_eq_false_iff (c : Char) (text : Text) :
    (∀ symbol ∈ text, is c symbol = false) ↔ c ∉ text := by
  simp only [is_char, beq_eq_false_iff_ne, ne_eq]
  exact ⟨fun none member => none c member rfl, fun none symbol member same => none (same ▸ member)⟩

/-- In texts nothing is closed if no closing brace comes after an opening one. -/
theorem unclosed_text_iff (text : Text) :
    Unclosed text ↔ ∀ front back, text = front ++ '{' :: back → '}' ∉ back := by
  -- There is only one character for each brace.
  constructor
  · intro unclosed front back same
    exact (Symbol.forall_is_eq_false_iff '}' back).mp (unclosed front '{' back same (by decide))
  · intro unclosed front opening back same opens
    obtain rfl : opening = '{' := by simpa using opens
    exact (Symbol.forall_is_eq_false_iff '}' back).mpr (unclosed front back same)

namespace BracedPart

/-- No character before the opening brace is one. -/
theorem is_outside (part : BracedPart) : ∀ c ∈ part.before, Symbol.is '{' c = false :=
  (Symbol.forall_is_eq_false_iff '{' part.before).mpr part.outside

/-- No character between the braces is a closing brace. -/
theorem is_inside (part : BracedPart) : ∀ c ∈ part.block, Symbol.is '}' c = false :=
  (Symbol.forall_is_eq_false_iff '}' part.block).mpr part.inside

end BracedPart

namespace Bracing

variable {text : Text}

/-- The blocks of a text that was taken apart are those that its braces make. -/
theorem braced (bracing : Bracing text) : Braced text bracing.blocks := by
  -- The parts stand one after the other.
  obtain ⟨parts, tail, unclosed, rfl⟩ := bracing
  induction parts with
  | nil => exact .unclosed ((unclosed_text_iff tail).mpr unclosed)
  | cons part parts ih =>
    have opens : Symbol.is '{' '{' = true := by decide
    have closes : Symbol.is '}' '}' = true := by decide
    simpa [blocks, BracedPart.text] using
      Braced.block part.is_outside opens part.is_inside closes ih

/-- A block that comes first is added to those of a text that was taken apart. -/
theorem exists_cons (bracing : Bracing text) (part : BracedPart) :
    ∃ longer : Bracing (part.text ++ text), longer.blocks = part.block :: bracing.blocks := by
  -- What comes after the last block stays what it is.
  refine ⟨⟨part :: bracing.parts, bracing.tail, bracing.unclosed, ?_⟩, rfl⟩
  rw [List.flatMap_cons, List.append_assoc, bracing.whole]

/-- What braces make of a text is a way to take it apart. -/
theorem exists_of_braced {blocks : List Text} (braced : Braced text blocks) :
    ∃ bracing : Bracing text, bracing.blocks = blocks := by
  -- One part is added for each block.
  induction braced with
  | unclosed unclosed => exact ⟨⟨[], _, (unclosed_text_iff _).mp unclosed, rfl⟩, rfl⟩
  | @block before block rest opening closing blocks outside opens inside closes _ ih =>
    obtain ⟨bracing, rfl⟩ := ih
    obtain rfl : opening = '{' := by simpa using opens
    obtain rfl : closing = '}' := by simpa using closes
    rw [Symbol.forall_is_eq_false_iff] at outside inside
    obtain ⟨longer, same⟩ := bracing.exists_cons ⟨before, block, outside, inside⟩
    have stands : BracedPart.text ⟨before, block, outside, inside⟩ ++ rest =
        before ++ '{' :: (block ++ '}' :: rest) := by
      simp [BracedPart.text]
    exact stands ▸ ⟨longer, same⟩

end Bracing

namespace BracedPart

/-- The first part of a text is determined by the text. -/
theorem text_append_inj {part other : BracedPart} {rest more : Text}
    (same : part.text ++ rest = other.text ++ more) : part = other ∧ rest = more := by
  -- The opening brace is the first one in either, and so is the closing brace from there.
  simp only [text, List.append_assoc, List.cons_append, List.nil_append] at same
  obtain ⟨before, _, after⟩ := cut_unique part.is_outside rfl other.is_outside rfl same
  obtain ⟨block, _, rest⟩ := cut_unique part.is_inside rfl other.is_inside rfl after
  exact ⟨BracedPart.ext before block, rest⟩

/-- A text that begins with a part holds an opening brace that is closed. -/
theorem not_unclosed_text_append (part : BracedPart) (rest : Text) :
    ¬ Unclosed (part.text ++ rest) := by
  -- It is the opening brace of the part.
  intro unclosed
  have none := (unclosed_text_iff _).mp unclosed part.before (part.block ++ '}' :: rest)
  exact none (by simp [text]) (by simp)

/-- Parts and what comes after the last of them are determined by the text. -/
theorem flatMap_text_append_inj {parts others : List BracedPart} {tail other : Text}
    (unclosed : Unclosed tail) (otherUnclosed : Unclosed other)
    (same : parts.flatMap text ++ tail = others.flatMap text ++ other) :
    parts = others ∧ tail = other := by
  -- The parts are compared from left to right, and no part begins what comes after the last one.
  induction parts generalizing others with
  | nil =>
    cases others with
    | nil => exact ⟨rfl, same⟩
    | cons part others =>
      rw [List.flatMap_nil, List.nil_append, List.flatMap_cons, List.append_assoc] at same
      exact absurd (same ▸ unclosed) (part.not_unclosed_text_append _)
  | cons part parts ih =>
    cases others with
    | nil =>
      rw [List.flatMap_nil, List.nil_append, List.flatMap_cons, List.append_assoc] at same
      exact absurd (same ▸ otherUnclosed) (part.not_unclosed_text_append _)
    | cons another others =>
      rw [List.flatMap_cons, List.append_assoc, List.flatMap_cons, List.append_assoc] at same
      obtain ⟨rfl, later⟩ := text_append_inj same
      obtain ⟨rfl, rfl⟩ := ih later
      exact ⟨rfl, rfl⟩

end BracedPart

/-- There is only one way to take a text apart. -/
theorem Bracing.eq {text : Text} (first second : Bracing text) : first = second := by
  -- Both ways make up the same text.
  have unclosed := (unclosed_text_iff first.tail).mpr first.unclosed
  have otherUnclosed := (unclosed_text_iff second.tail).mpr second.unclosed
  obtain ⟨parts, tail⟩ := BracedPart.flatMap_text_append_inj unclosed otherUnclosed
    (first.whole.trans second.whole.symm)
  exact Bracing.ext parts tail

/--
The blocks of the solver that prints models in braces are those of the text taken apart at its braces.

There is exactly one way to take a text apart.
-/
theorem dlv_blocks_eq_iff_bracing (text : Text) :
    (∀ blocks : List Text,
        Solver.dlv.blocks text = blocks ↔ ∃ bracing : Bracing text, bracing.blocks = blocks) ∧
      ∃ bracing : Bracing text, ∀ other : Bracing text, other = bracing := by
  -- There is a way to take the text apart, and the search finds the blocks of any such way.
  obtain ⟨found, braced⟩ := exists_braced text
  obtain ⟨bracing, same⟩ := Bracing.exists_of_braced braced
  have blocks : ∀ other : Bracing text, Solver.dlv.blocks text = other.blocks := fun other =>
    Pattern.piecesFrom_braces_of_braced other.braced
  refine ⟨?_, bracing, fun other => other.eq bracing⟩
  intro expected
  constructor
  · rintro rfl
    exact ⟨bracing, (blocks bracing).symm⟩
  · rintro ⟨other, rfl⟩
    exact blocks other

example :
    Solver.dlv.blocks "\x7b\x7d a\x7d\n\x7bb, \x7bc\x7d\x7d\x7bd".toList =
      [[], "b, \x7bc".toList] := by decide +kernel

end AnswerQuery
