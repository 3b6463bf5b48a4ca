import AnswerQuery.Proofs.Datastore.Boundaries
import AnswerQuery.Proofs.Scan.Answers
import AnswerQuery.Proofs.Scan.Braces
import AnswerQuery.Proofs.Scan.Labels

/-! Models are read back from what solvers print, by whichever convention they are printed. -/

namespace AnswerQuery

/-- A literal that every convention can print: it closes no brace, and it is no delimiter. -/
structure Printable (literal : Text) : Prop extends IsToken literal where
  /-- It holds no closing brace. -/
  unclosed : '}' ∉ literal
  /-- It is no delimiter of a listing. -/
  plain : Format.isDelimiter literal = false

instance : DecidablePred Printable := fun literal =>
  decidable_of_iff (IsToken literal ∧ '}' ∉ literal ∧ Format.isDelimiter literal = false)
    ⟨fun ⟨isToken, unclosed, plain⟩ => ⟨isToken, unclosed, plain⟩,
      fun printable => ⟨printable.toIsToken, printable.unclosed, printable.plain⟩⟩

/-- The line that opens an answer, without its line feed. -/
def answerLine (number : Nat) : Text :=
  "Answer: ".toList ++ decimal number

namespace Solver

/-- What a solver prints between the marks of a model that is given by its literals. -/
def printBlock : Solver → List Text → Text
  | dlv, literals => ", ".toList.intercalate literals
  | smodels, literals => ' ' :: literals.flatMap (· ++ [' '])
  | clasp, literals => " ".toList.intercalate literals

/-- What a solver prints for a model with a number. -/
def printModel (solver : Solver) (number : Nat) (literals : List Text) : Text :=
  match solver with
  | dlv => '{' :: (dlv.printBlock literals ++ ['}', '\n'])
  | smodels =>
    answerLine number ++ '\n' :: ("Stable Model:".toList ++ smodels.printBlock literals ++ ['\n'])
  | clasp => answerLine number ++ '\n' :: (clasp.printBlock literals ++ ['\n'])

/-- What a solver prints for models that are numbered in order from a number on. -/
def print (solver : Solver) : Nat → List (List Text) → Text
  | _, [] => []
  | number, literals :: models => solver.printModel number literals ++ solver.print (number + 1) models

end Solver

/-- The number of an answer is its heading. -/
theorem heading_answerLine (number : Nat) : Heading "Answer:".toList [' '] (decimal number) where
  spelled := Pattern.spells_text_iff.mpr rfl
  apart := by simp
  blank := by simp [Symbol.isSpace]
  numbered := Nat.toDigits_ne_nil
  digits := by
    -- A number is written in digits.
    intro c member
    rw [Symbol.isDigit_char]
    exact Nat.isDigit_of_mem_toDigits (by decide) (by decide) member

/-- A line that opens an answer holds no line feed. -/
theorem isLine_answerLine (number : Nat) : IsLine (answerLine number) :=
  (heading_answerLine number).isLine

/-- A line that opens an answer is a header. -/
theorem isHeader_answerLine (number : Nat) : IsHeader (answerLine number) :=
  ⟨[], _, _, _, (heading_answerLine number).withoutReturn_eq [], heading_answerLine number⟩

/-- A line that opens an answer has no labelled model on it. -/
theorem labelledBlock?_answerLine (number : Nat) : labelledBlock? (answerLine number) = none := rfl

namespace Solver

variable {literals : List Text} {models : List (List Text)}

/-- A block holds characters of the literals, and the separators between them. -/
theorem mem_printBlock {solver : Solver} {c : Char} (member : c ∈ solver.printBlock literals) :
    c = ',' ∨ c = ' ' ∨ ∃ literal ∈ literals, c ∈ literal := by
  -- Two solvers separate the literals, and one ends each of them.
  cases solver with
  | dlv =>
    rcases mem_intercalate member with separator | inside
    · have either : c = ',' ∨ c = ' ' := by simpa using separator
      exact either.imp_right .inl
    · exact .inr (.inr inside)
  | smodels =>
    rcases List.mem_cons.mp member with rfl | inside
    · exact .inr (.inl rfl)
    · obtain ⟨literal, among, part⟩ := List.mem_flatMap.mp inside
      rcases List.mem_append.mp part with inLiteral | blank
      · exact .inr (.inr ⟨literal, among, inLiteral⟩)
      · exact .inr (.inl (List.mem_singleton.mp blank))
  | clasp =>
    rcases mem_intercalate member with separator | inside
    · exact .inr (.inl (List.mem_singleton.mp separator))
    · exact .inr (.inr inside)

/-- A block of printable literals ends neither a line nor a pair of braces. -/
theorem plain_of_mem_printBlock {solver : Solver}
    (printable : ∀ literal ∈ literals, Printable literal) {c : Char}
    (member : c ∈ solver.printBlock literals) : c ≠ '\n' ∧ c ≠ '\r' ∧ c ≠ '}' := by
  -- The separators do not, and the literals hold neither blanks nor closing braces.
  rcases mem_printBlock member with rfl | rfl | ⟨literal, among, inside⟩
  · decide
  · decide
  · have solid := (printable literal among).solid c inside
    refine ⟨?_, ?_, ?_⟩
    · rintro rfl
      exact absurd solid (by decide)
    · rintro rfl
      exact absurd solid (by decide)
    · rintro rfl
      exact (printable literal among).unclosed inside

/-- The literals of a block are those that it was printed from. -/
theorem blockLiterals_printBlock (solver : Solver)
    (printable : ∀ literal ∈ literals, Printable literal) :
    blockLiterals (solver.printBlock literals) = literals := by
  -- Literals are separated by blanks, and by commas before them.
  have areTokens : ∀ literal ∈ literals, IsToken literal := fun literal among =>
    (printable literal among).toIsToken
  cases solver with
  | dlv =>
    have areCommas : ∀ c ∈ [','], c = ',' := by simp
    exact blockLiterals_intercalate areTokens areCommas
  | smodels =>
    have blank : isBlank ' ' = true := by decide
    have first := blockLiterals_append_blank blank [] (literals.flatMap (· ++ [' ']))
    rw [printBlock, ← List.nil_append (' ' :: _), first, blockLiterals_nil,
      blockLiterals_flatMap_blank areTokens]
    rfl
  | clasp =>
    have areCommas : ∀ c ∈ [], c = ',' := by simp
    exact blockLiterals_intercalate areTokens areCommas

/-- A block between braces is the first one, and the line feed after it is passed. -/
theorem dlv_blocks_append {block : Text} (inside : ∀ c ∈ block, c ≠ '}') (rest : Text) :
    dlv.blocks ('{' :: (block ++ '}' :: '\n' :: rest)) = block :: dlv.blocks rest := by
  -- The line feed is no opening brace.
  have inBraces : ∀ c ∈ block, Symbol.is '}' c = false := by simpa using inside
  have isOpening : Symbol.is '{' '{' = true := by decide
  have isClosing : Symbol.is '}' '}' = true := by decide
  have found := Pattern.piecesFrom_braces_block isOpening inBraces isClosing ('\n' :: rest)
  have outside : ∀ c ∈ ['\n'], Symbol.is '{' c = false := by simp
  have passed := Pattern.piecesFrom_braces_append_of_not outside rest
  exact found.trans (congrArg (block :: ·) passed)

/-- A block that holds neither line feeds nor carriage returns is kept whole on its line. -/
theorem isLine_of_plain {block : Text} (inside : ∀ c ∈ block, c ≠ '\n' ∧ c ≠ '\r') :
    IsLine block ∧ Pattern.withoutReturn block = block := by
  -- The two characters are the only ones that matter.
  constructor
  · intro c member
    simpa [Symbol.isNewline] using (inside c member).1
  · apply Pattern.withoutReturn_of_not
    intro c member
    simpa using (inside c member).2

/-- A block after the label of a stable model is the first one. -/
theorem smodels_blocks_append (number : Nat) {block : Text}
    (inside : ∀ c ∈ block, c ≠ '\n' ∧ c ≠ '\r') (rest : Text) :
    smodels.blocks
        (answerLine number ++ '\n' :: ("Stable Model:".toList ++ block ++ '\n' :: rest)) =
      block :: smodels.blocks rest := by
  -- The search passes the line that opens the answer, and takes the block from the line after it.
  have ends : Symbol.isNewline '\n' = true := by decide
  obtain ⟨isLine, kept⟩ := isLine_of_plain inside
  have isLabel : IsLine "Stable Model:".toList := by decide
  have inLine : IsLine ("Stable Model:".toList ++ block) := isLine_append.mpr ⟨isLabel, isLine⟩
  have taken : labelledBlock? ("Stable Model:".toList ++ block) = some block := by
    rw [labelledBlock?, Pattern.splitLabel?_eq_some_iff.mpr ⟨rfl, Pattern.spells_text_iff.mpr rfl⟩]
    exact congrArg some kept
  have passed := Pattern.piecesFrom_labelled_line (isLine_answerLine number) ends
    ("Stable Model:".toList ++ block ++ '\n' :: rest)
  rw [labelledBlock?_answerLine, Pattern.piecesFrom_labelled_line inLine ends, taken] at passed
  exact passed

/-- A block on the line after one that opens an answer is the first one. -/
theorem clasp_blocks_append (number : Nat) {block : Text}
    (inside : ∀ c ∈ block, c ≠ '\n' ∧ c ≠ '\r') (rest : Text) :
    clasp.blocks (answerLine number ++ '\n' :: (block ++ '\n' :: rest)) =
      block :: clasp.blocks rest := by
  -- The line that opens the answer is a header, and the line feed after the block is passed.
  have ends : Symbol.isNewline '\n' = true := by decide
  obtain ⟨isLine, kept⟩ := isLine_of_plain inside
  have found := Pattern.piecesFrom_numbered_line (isLine_answerLine number) ends
    (block ++ '\n' :: rest)
  rw [if_pos (isHeader_answerLine number), Pattern.splitLine_append_newline isLine ends, kept,
    Pattern.piecesFrom_numbered_newline ends] at found
  exact found

/-- The first block in what a solver printed is that of the first model. -/
theorem blocks_printModel_append (solver : Solver) (number : Nat)
    (printable : ∀ literal ∈ literals, Printable literal) (rest : Text) :
    solver.blocks (solver.printModel number literals ++ rest) =
      solver.printBlock literals :: solver.blocks rest := by
  -- The marks of a model bound its block, since they do not occur in it.
  have inLine : ∀ c ∈ solver.printBlock literals, c ≠ '\n' ∧ c ≠ '\r' := by
    intro c member
    have plain := plain_of_mem_printBlock printable member
    exact ⟨plain.1, plain.2.1⟩
  cases solver with
  | dlv =>
    have inBraces : ∀ c ∈ dlv.printBlock literals, c ≠ '}' := fun c member =>
      (plain_of_mem_printBlock printable member).2.2
    simpa [printModel] using dlv_blocks_append inBraces rest
  | smodels => simpa [printModel] using smodels_blocks_append number inLine rest
  | clasp => simpa [printModel] using clasp_blocks_append number inLine rest

/-- The blocks in what a solver printed are those of the models. -/
theorem blocks_print (solver : Solver)
    (printable : ∀ literals ∈ models, ∀ literal ∈ literals, Printable literal) (first : Nat) :
    solver.blocks (solver.print first models) = models.map solver.printBlock := by
  -- The numbers of the answers do not matter.
  induction models generalizing first with
  | nil => exact Pattern.piecesFrom_nil true
  | cons literals models ih =>
    rw [List.forall_mem_cons] at printable
    rw [print, blocks_printModel_append solver first printable.1, ih printable.2, List.map_cons]

/-- The literals of the blocks in what a solver printed are those of the models. -/
theorem map_blockLiterals_blocks_print (solver : Solver)
    (printable : ∀ literals ∈ models, ∀ literal ∈ literals, Printable literal) (first : Nat) :
    (solver.blocks (solver.print first models)).map blockLiterals = models := by
  -- Each block gives back the literals it was printed from.
  rw [blocks_print solver printable, List.map_map]
  conv => rhs; rw [← List.map_id models]
  apply List.map_congr_left
  intro literals among
  exact blockLiterals_printBlock solver (printable literals among)

end Solver

/--
Models of printable literals are read back from what any solver prints for them.

Their listings do not depend on the solver, and in both formats they record the models.
-/
theorem print_listing_records_models {models : List (List Text)}
    (printable : ∀ literals ∈ models, ∀ literal ∈ literals, Printable literal) (solver : Solver)
    (first : Nat) :
    let blocks := solver.blocks (solver.print first models)
    blocks.map blockLiterals = models ∧
      ∀ format : Format,
        (∀ other : Solver,
            format.listing blocks = format.listing (other.blocks (other.print first models))) ∧
          (Datastore.ofText (Utf8.decode (format.listing blocks))).Records models := by
  -- The blocks differ from solver to solver, but the literals in them do not.
  intro blocks
  have literals : blocks.map blockLiterals = models :=
    solver.map_blockLiterals_blocks_print printable first
  refine ⟨literals, ?_⟩
  intro format
  constructor
  · -- A listing is determined by the literals of the blocks.
    intro other
    rw [Format.listing_eq_encode, Format.listing_eq_encode, literals,
      other.map_blockLiterals_blocks_print printable first]
  · -- No printable literal ends a model, not even where it is listed bare.
    cases format with
    | code =>
      rw [Datastore.ofText_decode_listing_code, literals]
      exact Datastore.records_ofModels models
    | text =>
      have plain : ∀ literals ∈ models, ∀ literal ∈ literals, Format.isDelimiter literal = false := by
        intro literals among literal inside
        exact (printable literals among literal inside).plain
      rw [Datastore.ofText_decode_listing_text, literals, Datastore.flatMap_bareModels_eq_self plain]
      exact Datastore.records_ofModels models

/-- Literals that look like the marks of models, and empty models around them, are read back as they are. -/
theorem marks_among_literals_are_read_back :
    let models := [[], ["Stable", "Model:", "p(\x7b"], ["Answer:", "2"], ["-q(\"a,b\")"], []].map
      (·.map String.toList)
    let blocks := Solver.clasp.blocks (Solver.clasp.print 1 models)
    (∀ literals ∈ models, ∀ literal ∈ literals, Printable literal) ∧
      blocks.map blockLiterals = models ∧
      ∀ format : Format,
        (∀ other : Solver,
            format.listing blocks = format.listing (other.blocks (other.print 1 models))) ∧
          (Datastore.ofText (Utf8.decode (format.listing blocks))).Records models := by
  intro models blocks
  have printable : ∀ literals ∈ models, ∀ literal ∈ literals, Printable literal := by decide
  exact ⟨printable, print_listing_records_models printable .clasp 1⟩

end AnswerQuery
