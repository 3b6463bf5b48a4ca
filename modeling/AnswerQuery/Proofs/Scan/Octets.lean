import AnswerQuery.Proofs.Scan.Answers
import AnswerQuery.Proofs.Scan.Braces
import AnswerQuery.Proofs.Scan.Labels
import AnswerQuery.Proofs.Text.Ascii

/-! Models among octets: a search of octets finds what a search of the text they are read as finds. -/

namespace AnswerQuery

open Utf8 (charOf decode)

namespace Symbol

/-- An octet and the character with its code are the same to a test of codes. -/
theorem is_charOf (c : Char) (octet : UInt8) : is c (charOf octet) = is c octet := by
  simp only [is, Utf8.code_charOf]

/-- An octet is a space or a tab if the character with its code is. -/
theorem isSpace_charOf (octet : UInt8) : isSpace (charOf octet) = isSpace octet := by
  simp only [isSpace, is_charOf]

/-- An octet is a digit if the character with its code is. -/
theorem isDigit_charOf (octet : UInt8) : isDigit (charOf octet) = isDigit octet := by
  simp only [isDigit, Utf8.code_charOf]

/-- Only elements of ASCII have the code of a character of ASCII. -/
theorem code_lt_of_is {α : Type} [Symbol α] {c : Char} (ascii : c.toNat < 0x80) {symbol : α}
    (same : is c symbol = true) : code symbol < 0x80 := by
  rw [is, beq_iff_eq] at same
  rwa [same]

/-- A character of ASCII is in a text only if an octet that the text is read from has its code. -/
theorem forall_is_decode {c : Char} (ascii : c.toNat < 0x80) {octets : Bytes}
    (none : ∀ octet ∈ octets, is c octet = false) : ∀ d ∈ decode octets, is c d = false := by
  -- It is read from this octet.
  intro d member
  rw [Bool.eq_false_iff]
  intro same
  obtain ⟨front, back, read⟩ := List.append_of_mem member
  obtain ⟨before, octet, after, rfl, rfl, _⟩ :=
    Utf8.exists_of_decode_eq_append_cons read (code_lt_of_is ascii same)
  have other := none octet (by simp)
  rw [is_charOf, other] at same
  contradiction

end Symbol

/-- Octets in which nothing is closed are read as a text in which nothing is closed. -/
theorem Unclosed.decode {octets : Bytes} (unclosed : Unclosed octets) : Unclosed (decode octets) := by
  -- An opening brace and what follows it are read from an opening brace and what follows it.
  intro front opening back read opens
  obtain ⟨before, octet, after, rfl, rfl, _, rfl⟩ :=
    Utf8.exists_of_decode_eq_append_cons read (Symbol.code_lt_of_is (by decide) opens)
  rw [Symbol.is_charOf] at opens
  exact Symbol.forall_is_decode (by decide) (unclosed before octet after rfl opens)

/-- The blocks that braces make of octets are read as those that they make of the text. -/
theorem Braced.decode {octets : Bytes} {blocks : List Bytes} (braced : Braced octets blocks) :
    Braced (decode octets) (blocks.map Utf8.decode) := by
  -- What comes before a brace and what follows it are read apart from each other.
  induction braced with
  | unclosed unclosed => exact .unclosed unclosed.decode
  | block outside opens inside closes _ ih =>
    rw [Utf8.decode_append_cons (Symbol.code_lt_of_is (by decide) opens),
      Utf8.decode_append_cons (Symbol.code_lt_of_is (by decide) closes), List.map_cons]
    rw [← Symbol.is_charOf] at opens closes
    exact .block (Symbol.forall_is_decode (by decide) outside) opens
      (Symbol.forall_is_decode (by decide) inside) closes ih

/-- A line is read as a line. -/
theorem IsLine.decode {line : Bytes} (inside : IsLine line) : IsLine (decode line) :=
  Symbol.forall_is_decode (by decide) inside

/-- The lines of the text that octets are read as are read from their lines. -/
theorem splitOnP_isNewline_decode (octets : Bytes) :
    (decode octets).splitOnP Symbol.isNewline =
      (octets.splitOnP Symbol.isNewline).map decode := by
  -- What comes before a line feed and what follows it are read apart from each other.
  induction size : octets.length using Nat.strongRecOn generalizing octets with
  | _ size ih =>
    subst size
    rcases isLine_or_append_newline octets with single | ⟨line, newline, after, rfl, inside, ends⟩
    · rw [List.splitOnP_eq_singleton single, List.splitOnP_eq_singleton single.decode,
        List.map_singleton]
    · have later := ih after.length (by simp; omega) after rfl
      have closes : Symbol.isNewline (charOf newline) = true := by
        rw [← ends]
        exact Symbol.is_charOf '\n' newline
      rw [Utf8.decode_append_cons (Symbol.code_lt_of_is (by decide) ends),
        List.splitOnP_append_cons_of_forall_mem inside newline ends,
        List.splitOnP_append_cons_of_forall_mem inside.decode _ closes, later, List.map_cons]

namespace Pattern

/-- A carriage return at the end of a line is left out before or after the line is read. -/
theorem withoutReturn_decode (line : Bytes) :
    withoutReturn (decode line) = decode (withoutReturn line) := by
  -- The text ends in a carriage return exactly if the octets do.
  rcases List.eq_nil_or_concat line with rfl | ⟨front, last, rfl⟩
  · rfl
  · rw [List.concat_eq_append]
    cases ending : Symbol.is '\r' last with
    | true =>
      have read := Utf8.decode_append_cons (Symbol.code_lt_of_is (by decide) ending) front []
      have isReturn : Symbol.is '\r' (charOf last) = true := by rw [Symbol.is_charOf, ending]
      rw [read, Utf8.decode_nil, withoutReturn_append_return _ isReturn,
        withoutReturn_append_return _ ending]
    | false =>
      rw [withoutReturn_append_of_not front ending]
      rcases List.eq_nil_or_concat (decode (front ++ [last])) with empty | ⟨before, c, read⟩
      · rw [empty]
        rfl
      · rw [List.concat_eq_append] at read
        cases isReturn : Symbol.is '\r' c with
        | false => rw [read, withoutReturn_append_of_not before isReturn]
        | true =>
          have ascii : ∀ d ∈ [c], Symbol.code d < 0x80 := by
            simpa using Symbol.code_lt_of_is (by decide) isReturn
          obtain ⟨others, used, whole, _, same⟩ := Utf8.exists_of_decode_eq_append_ascii ascii read
          obtain ⟨octet, rfl, rfl⟩ := List.map_eq_singleton_iff.mp same
          obtain ⟨_, rfl⟩ := List.append_singleton_inj.mp whole
          rw [Symbol.is_charOf, ending] at isReturn
          contradiction

/-- Octets spell a label if the characters with their codes do. -/
theorem spells_map_charOf {label : Text} {symbols : Bytes} :
    Spells label (symbols.map charOf) ↔ Spells label symbols := by
  have same : Symbol.code ∘ charOf = Symbol.code := funext Utf8.code_charOf
  rw [Spells, List.map_map, same, Spells]

/-- Elements that spell a label of ASCII are of ASCII. -/
theorem Spells.code_lt {α : Type} [Symbol α] {label : Text} {symbols : List α}
    (spells : Spells label symbols) (ascii : label.all (·.toNat < 0x80) = true) :
    ∀ symbol ∈ symbols, Symbol.code symbol < 0x80 := by
  -- Each of them has the code of a character of the label.
  intro symbol member
  have code := List.mem_map_of_mem (f := Symbol.code) member
  rw [spells] at code
  obtain ⟨c, among, same⟩ := List.mem_map.mp code
  exact same ▸ of_decide_eq_true (List.all_eq_true.mp ascii c among)

/-- A label of ASCII is split off before or after a line is read. -/
theorem splitLabel?_decode {label : Text} (ascii : label.all (·.toNat < 0x80) = true)
    (line : Bytes) :
    splitLabel? label (decode line) =
      (splitLabel? label line).map fun (used, rest) => (used.map charOf, decode rest) := by
  cases split : splitLabel? label line with
  | some parts =>
    -- Octets of ASCII in front are read by themselves.
    obtain ⟨used, rest⟩ := parts
    obtain ⟨rfl, spells⟩ := splitLabel?_eq_some_iff.mp split
    exact splitLabel?_eq_some_iff.mpr
      ⟨Utf8.decode_append_of_ascii (spells.code_lt ascii) rest, spells_map_charOf.mpr spells⟩
  | none =>
    -- A label that is read would be that of the octets it is read from.
    rw [Option.map_none, Option.eq_none_iff_forall_ne_some]
    rintro ⟨used, rest⟩ found
    obtain ⟨read, spells⟩ := splitLabel?_eq_some_iff.mp found
    obtain ⟨front, back, rfl, rfl, _⟩ :=
      Utf8.exists_of_decode_eq_append (spells.code_lt ascii) read
    have other : splitLabel? label (front ++ back) = some (front, back) :=
      splitLabel?_eq_some_iff.mpr ⟨rfl, spells_map_charOf.mp spells⟩
    rw [split] at other
    contradiction

end Pattern

/-- The model on a line is read as the model on the line that is read. -/
theorem labelledBlock?_decode (line : Bytes) :
    labelledBlock? (decode line) = (labelledBlock? line).map decode := by
  rw [labelledBlock?, Pattern.splitLabel?_decode (by decide), labelledBlock?]
  cases Pattern.splitLabel? "Stable Model:".toList line with
  | none => rfl
  | some parts => simp [Pattern.withoutReturn_decode]

/-- Octets are the parts of a header if the characters with their codes are. -/
theorem heading_map_charOf_iff {label spaces number : Bytes} :
    Heading (label.map charOf) (spaces.map charOf) (number.map charOf) ↔
      Heading label spaces number := by
  -- What is asked of a header is asked of the codes of its symbols.
  constructor
  · rintro ⟨spelled, apart, blank, numbered, digits⟩
    simp only [ne_eq, List.map_eq_nil_iff, List.forall_mem_map, Symbol.isSpace_charOf,
      Symbol.isDigit_charOf] at apart blank numbered digits
    exact ⟨Pattern.spells_map_charOf.mp spelled, apart, blank, numbered, digits⟩
  · rintro ⟨spelled, apart, blank, numbered, digits⟩
    refine ⟨Pattern.spells_map_charOf.mpr spelled, by simpa using apart, ?_, by simpa using numbered, ?_⟩
    · simpa [Symbol.isSpace_charOf] using blank
    · simpa [Symbol.isDigit_charOf] using digits

/-- The parts of a header are of ASCII. -/
theorem Heading.code_lt {α : Type} [Symbol α] {label spaces number : List α}
    (heading : Heading label spaces number) :
    ∀ symbol ∈ label ++ spaces ++ number, Symbol.code symbol < 0x80 := by
  intro symbol member
  simp only [List.mem_append] at member
  -- The label is spelled so, and blanks and digits are of ASCII.
  rcases member with (inLabel | inSpaces) | inNumber
  · exact heading.spelled.code_lt (by decide) symbol inLabel
  · have space := heading.blank symbol inSpaces
    rw [Symbol.isSpace, Bool.or_eq_true] at space
    rcases space with same | same
    · exact Symbol.code_lt_of_is (by decide) same
    · exact Symbol.code_lt_of_is (by decide) same
  · have digit := heading.digits symbol inNumber
    simp only [Symbol.isDigit, Bool.and_eq_true, decide_eq_true_eq, Char.reduceToNat] at digit
    omega

/-- A line is read as a header exactly if it is one. -/
theorem isHeader_decode_iff (line : Bytes) : IsHeader (decode line) ↔ IsHeader line := by
  -- The parts of the header are of ASCII and come last.
  simp only [IsHeader, Pattern.withoutReturn_decode]
  constructor
  · rintro ⟨before, label, spaces, number, read, heading⟩
    obtain ⟨front, used, whole, _, same⟩ :=
      Utf8.exists_of_decode_eq_append_ascii heading.code_lt read
    obtain ⟨others, digits, rfl, parts, rfl⟩ := List.map_eq_append_iff.mp same
    obtain ⟨letters, blanks, rfl, rfl, rfl⟩ := List.map_eq_append_iff.mp parts
    exact ⟨front, letters, blanks, digits, whole, heading_map_charOf_iff.mp heading⟩
  · rintro ⟨before, label, spaces, number, same, heading⟩
    refine ⟨decode before, label.map charOf, spaces.map charOf, number.map charOf, ?_,
      heading_map_charOf_iff.mpr heading⟩
    rw [same, Utf8.decode_append_ascii before heading.code_lt, List.map_append, List.map_append]

/-- The models among lines are read as those among the lines that are read. -/
theorem answerBlocks_map_decode (lines : List Bytes) :
    answerBlocks (lines.map decode) = (answerBlocks lines).map decode := by
  -- Each line is a header before and after it is read.
  induction lines using answerBlocks.induct with
  | case1 line next lines header ih =>
    simp only [List.map_cons, answerBlocks, isHeader_decode_iff, if_pos header, ih,
      Pattern.withoutReturn_decode]
  | case2 line next lines other ih =>
    rw [List.map_cons] at ih
    simp only [List.map_cons, answerBlocks, isHeader_decode_iff, if_neg other, ih]
  | case3 lines short =>
    rcases lines with _ | ⟨line, _ | ⟨next, lines⟩⟩
    · rfl
    · rfl
    · exact (short line next lines rfl).elim

/--
The blocks of what a solver printed are found among its octets, and then read.

Octets that encode no character hide, merge, split and add no blocks, and texts are read back from
their octets.
-/
theorem blocks_decode_eq_map (solver : Solver) :
    (∀ octets : Bytes, solver.blocks (decode octets) = (solver.blocks octets).map decode) ∧
      ∀ text : Text, decode (Utf8.encode text) = text := by
  -- What each solver's marks find is known from the braces or the lines of a text.
  refine ⟨?_, Utf8.decode_encode⟩
  intro octets
  cases solver with
  | dlv =>
    obtain ⟨blocks, braced⟩ := exists_braced octets
    have found : Solver.dlv.blocks octets = blocks := Pattern.piecesFrom_braces_of_braced braced
    rw [found]
    exact Pattern.piecesFrom_braces_of_braced braced.decode
  | smodels =>
    have models := piecesFrom_labelled_eq_filterMap (decode octets)
    have read : labelledBlock? ∘ decode = fun line => (labelledBlock? line).map decode :=
      funext labelledBlock?_decode
    rw [splitOnP_isNewline_decode, List.filterMap_map, read, ← List.map_filterMap,
      ← piecesFrom_labelled_eq_filterMap] at models
    exact models
  | clasp =>
    have models := piecesFrom_numbered_eq_answerBlocks (decode octets)
    rw [splitOnP_isNewline_decode, answerBlocks_map_decode,
      ← piecesFrom_numbered_eq_answerBlocks] at models
    exact models

end AnswerQuery
