import AnswerQuery.Proofs.Datastore.Clauses
import AnswerQuery.Proofs.Datastore.Literals
import AnswerQuery.Proofs.Datastore.Positions
import AnswerQuery.Proofs.Text.Words

/-! Datastores as they are written: one line for each fact, which is read back, and a last line with the count. -/

namespace AnswerQuery

/-- A text of lines that each end in a line feed is split into the lines, with nothing after the last one. -/
theorem splitOn_flatMap_newline {lines : List Text} (inside : ∀ line ∈ lines, '\n' ∉ line) :
    (lines.flatMap (· ++ ['\n'])).splitOn '\n' = lines ++ [[]] := by
  -- The line feed after the first line is the first one.
  induction lines with
  | nil => rfl
  | cons line lines ih =>
    rw [List.forall_mem_cons] at inside
    rw [List.flatMap_cons, List.append_assoc, List.singleton_append,
      List.splitOn_append_cons_self_of_not_mem inside.1, ih inside.2, List.cons_append]

/-- Digits are no blanks. -/
theorem isBlank_of_isDigit {c : Char} (digit : c.isDigit = true) : isBlank c = false := by
  -- Their codes lie between 48 and 57.
  have range : 48 ≤ c.toNat ∧ c.toNat ≤ 57 := by
    simpa [Char.isDigit, UInt32.le_iff_toNat_le] using digit
  simp only [isBlank, Bool.or_eq_false_iff, Bool.and_eq_false_iff, decide_eq_false_iff_not, beq_eq_false_iff_ne]
  omega

/-- The atom of a literal is a word if the literal is read from one. -/
theorem Literal.isWord_atom {token : Text} {literal : Literal} (isWord : IsWord token)
    (parsed : ofToken? token = some literal) : IsWord literal.atom := by
  -- It stands in the token, behind the mark and in front of the terminators.
  obtain ⟨wellFormed, run, rfl, -⟩ := ofToken?_eq_some_iff.mp parsed
  refine ⟨wellFormed.nonempty, fun c member => isWord.solid c ?_⟩
  exact List.mem_append_left run (List.mem_append_right literal.polarity.mark member)

/-- A stated fact comes from one of the tokens. -/
theorem exists_token_of_mem_statedFacts {first : Nat} {tokens : List Text} {fact : Fact}
    (stated : fact ∈ statedFacts first tokens) :
    ∃ token ∈ tokens, Literal.ofToken? token = some fact.literal := by
  obtain ⟨⟨before, token⟩, member, same⟩ := List.mem_filterMap.mp stated
  simp only [statedFact?, Option.ite_none_left_eq_some, Option.map_eq_some_iff] at same
  obtain ⟨_, literal, parsed, rfl⟩ := same
  exact ⟨token, (List.of_mem_zip member).2, parsed⟩

/-- The atoms in the datastore of a text are words. -/
theorem Datastore.isWord_atom_of_mem_ofText {text : Text} {fact : Fact}
    (member : fact ∈ (ofText text).facts) : IsWord fact.literal.atom := by
  -- They are read from the words of the text.
  rw [ofText, ofTokens_eq, List.mem_mergeSort] at member
  obtain ⟨token, among, parsed⟩ := exists_token_of_mem_statedFacts member
  exact Literal.isWord_atom (isWord_of_mem_words among) parsed

/-- A clause is a word if its atom is. -/
theorem Fact.isWord_render {fact : Fact} (isWord : IsWord fact.literal.atom) : IsWord fact.render := by
  -- Neither the functor nor the number of the model holds a blank.
  obtain ⟨model, atom, polarity⟩ := fact
  have number : ∀ c ∈ decimal model, isBlank c = false :=
    fun c member => isBlank_of_isDigit (isDigit_of_mem_decimal member)
  have functor : polarity.functor.all (fun c => isBlank c == false) := by
    cases polarity <;> decide
  have opening : isBlank '(' = false := by decide
  have comma : isBlank ',' = false := by decide
  have closing : [')', '.'].all (fun c => isBlank c == false) := by decide
  rw [render_eq]
  refine ⟨by simp, ?_⟩
  simp only [List.mem_append, List.mem_cons]
  rintro c (inFunctor | rfl | inNumber | rfl | inAtom | atEnd)
  · exact eq_of_beq (List.all_eq_true.mp functor c inFunctor)
  · exact opening
  · exact number c inNumber
  · exact comma
  · exact isWord.solid c inAtom
  · exact eq_of_beq (List.all_eq_true.mp closing c (by simpa using atEnd))

/-- Words hold no line feeds. -/
theorem IsWord.newline_not_mem {word : Text} (isWord : IsWord word) : '\n' ∉ word := by
  intro member
  exact absurd (isWord.solid '\n' member) (by decide)

namespace Datastore

/-- The lines of a datastore as it is written. -/
def lines (datastore : Datastore) : List Text :=
  datastore.facts.map Fact.render ++ [countClause datastore.models]

/-- A datastore is written line by line. -/
theorem render_eq_flatMap_lines (datastore : Datastore) :
    datastore.render = datastore.lines.flatMap (· ++ ['\n']) := by
  simp [render, lines, List.flatMap_map]

/-- The line with the number of models is a word. -/
theorem isWord_countClause (models : Nat) : IsWord (countClause models) := by
  -- Digits are no blanks, and neither is what stands around them.
  have front : IsWord "number_of_models(".toList := by decide
  have back : IsWord ").".toList := by decide
  have number : ∀ c ∈ decimal models, isBlank c = false :=
    fun c member => isBlank_of_isDigit (isDigit_of_mem_decimal member)
  exact (front.append number).append back.solid

/-- Lines with different numbers of models are different. -/
theorem countClause_inj {models others : Nat} : countClause models = countClause others ↔ models = others := by
  -- The number is read back from its numeral.
  constructor
  · intro same
    have numerals : decimal models = decimal others :=
      List.append_cancel_left (List.append_cancel_right same)
    have read := congrArg readDecimal? numerals
    rwa [readDecimal?_decimal, readDecimal?_decimal, Option.some_inj] at read
  · rintro rfl
    rfl

/-- The lines of the datastore of a text are words, because its atoms are. -/
theorem isWord_of_mem_lines_ofText {text line : Text} (member : line ∈ (ofText text).lines) : IsWord line := by
  rcases List.mem_append.mp member with isClause | isCount
  · obtain ⟨fact, among, rfl⟩ := List.mem_map.mp isClause
    exact Fact.isWord_render (isWord_atom_of_mem_ofText among)
  · rw [List.mem_singleton.mp isCount]
    exact isWord_countClause _

/-- The datastore of a text is split into its lines at the line feeds. -/
theorem splitOn_render_ofText (text : Text) :
    (ofText text).render.splitOn '\n' = (ofText text).lines ++ [[]] := by
  -- No line has a line feed of its own.
  rw [render_eq_flatMap_lines]
  exact splitOn_flatMap_newline fun line member => (isWord_of_mem_lines_ofText member).newline_not_mem

/-- The words of the datastore of a text as it is written are its lines. -/
theorem words_render_ofText (text : Text) : words (ofText text).render = (ofText text).lines := by
  rw [render_eq_flatMap_lines]
  exact words_flatMap_blank (fun line member => isWord_of_mem_lines_ofText member) (by decide)

/-- Datastores with the same lines are the same. -/
theorem eq_of_lines_eq {first second : Datastore} (same : first.lines = second.lines) : first = second := by
  -- The last line tells the number of models, and each other line its fact.
  obtain ⟨clauses, counts⟩ := List.append_inj' same rfl
  have models : first.models = second.models := countClause_inj.mp (List.singleton_inj.mp counts)
  have facts : first.facts = second.facts := by
    have read := congrArg (List.map Fact.ofClause?) clauses
    simpa [Function.comp_def, Fact.ofClause?_render, List.map_inj_right] using read
  cases first
  cases second
  simp_all

end Datastore

/-- The clause of a fact does not begin like the line with the number of models. -/
theorem Fact.not_count_isPrefix_render (fact : Fact) : ¬ "number_of_models(".toList <+: fact.render := by
  -- The functors differ from its functor in the first or in the second letter.
  obtain ⟨model, atom, polarity⟩ := fact
  rw [render_eq]
  cases polarity <;> simp [Polarity.functor]

/--
The datastore of a text is written as a line for each fact and a last one with the number of models.

It ends in a line feed and is split at line feeds into those lines, the last of which alone begins like
that. The others are read back as the facts in order, so that no other datastore is written alike.
-/
theorem written_datastore_is_read_back (text : Text) :
    let datastore := Datastore.ofText text
    let written := datastore.render
    written.getLast? = some '\n' ∧
      (∃ clauses : List Text,
        written.splitOn '\n' = clauses ++ [Datastore.countClause datastore.models, []] ∧
        clauses.length = datastore.facts.length ∧
        (∀ clause ∈ clauses, ¬ "number_of_models(".toList <+: clause) ∧
        clauses.map Fact.ofClause? = datastore.facts.map some) ∧
      ∀ other, (Datastore.ofText other).render = written →
        (Datastore.ofText other).facts = datastore.facts ∧
          (Datastore.ofText other).models = datastore.models := by
  -- The text is split into the lines that it was put together from.
  intro datastore written
  have split : written.splitOn '\n' = datastore.lines ++ [[]] := Datastore.splitOn_render_ofText text
  refine ⟨?_, ⟨datastore.facts.map Fact.render, ?_, ?_, ?_, ?_⟩, ?_⟩
  · simp [written, Datastore.render]
  · simp [split, Datastore.lines]
  · simp
  · intro clause member
    obtain ⟨fact, _, rfl⟩ := List.mem_map.mp member
    exact fact.not_count_isPrefix_render
  · simp [Function.comp_def, Fact.ofClause?_render]
  · intro other same
    have lines := congrArg (List.splitOn '\n') same
    rw [Datastore.splitOn_render_ofText, split, List.append_cancel_right_eq] at lines
    have equal := Datastore.eq_of_lines_eq lines
    exact ⟨congrArg Datastore.facts equal, congrArg Datastore.models equal⟩

end AnswerQuery
