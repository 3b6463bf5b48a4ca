import AnswerQuery.Format

/-! Words of texts that are put together, and the literals of blocks, whatever separates them. -/

namespace AnswerQuery

section Trailing

variable {α : Type} {kind : α → Bool}

/-- Dropping elements from the end leaves a front. -/
theorem dropTrailing_isPrefix (kind : α → Bool) (list : List α) :
    dropTrailing kind list <+: list := by
  -- Turned round, what is left is a suffix of the reverse.
  have suffix := List.dropWhile_suffix kind (l := list.reverse)
  rw [← List.reverse_prefix] at suffix
  simpa [dropTrailing] using suffix

/-- What is left does not end in an element of the kind. -/
theorem not_kind_of_getLast?_dropTrailing (kind : α → Bool) {list : List α} {last : α}
    (ends : (dropTrailing kind list).getLast? = some last) : kind last = false := by
  -- The last element is the first one at which dropping from the reverse stops.
  rw [dropTrailing, List.getLast?_reverse] at ends
  have stops := List.head?_dropWhile_not kind list.reverse
  rw [ends] at stops
  simpa using stops

/-- A list that does not end in an element of the kind is kept as it is. -/
theorem dropTrailing_of_getLast? {list : List α}
    (ends : ∀ last ∈ list.getLast?, kind last = false) :
    dropTrailing kind list = list := by
  -- Without a last element there is nothing to drop.
  rcases List.eq_nil_or_concat list with rfl | ⟨front, last, same⟩
  · rfl
  · rw [List.concat_eq_append] at same
    subst same
    exact dropTrailing_append_of_not front (ends last (by simp))

/-- Elements of the kind at the end are all dropped. -/
theorem dropTrailing_append_run (front : List α) {run : List α}
    (inside : ∀ element ∈ run, kind element = true) :
    dropTrailing kind (front ++ run) = dropTrailing kind front := by
  -- Turned round, they come first.
  have others : ∀ element ∈ run.reverse, kind element = true := by simpa using inside
  rw [dropTrailing, List.reverse_append, List.dropWhile_append_of_pos others, dropTrailing]

/-- What is dropped from the end consists of elements of the kind. -/
theorem exists_run_dropTrailing (kind : α → Bool) (list : List α) :
    ∃ run, list = dropTrailing kind list ++ run ∧ ∀ element ∈ run, kind element = true := by
  -- It is what is taken from the front of the reverse.
  refine ⟨(list.reverse.takeWhile kind).reverse, ?_, ?_⟩
  · rw [dropTrailing, ← List.reverse_append, List.takeWhile_append_dropWhile, List.reverse_reverse]
  · intro element member
    exact List.all_eq_true.mp List.all_takeWhile element (List.mem_reverse.mp member)

/-- What is left is the one front that does not end in an element of the kind and has only such elements behind it. -/
theorem dropTrailing_eq_iff {list front : List α} :
    dropTrailing kind list = front ↔
      (∀ last ∈ front.getLast?, kind last = false) ∧
        ∃ run, list = front ++ run ∧ ∀ element ∈ run, kind element = true := by
  constructor
  · rintro rfl
    exact ⟨fun last ends => not_kind_of_getLast?_dropTrailing kind ends, exists_run_dropTrailing kind list⟩
  · rintro ⟨ends, run, rfl, inside⟩
    rw [dropTrailing_append_run front inside, dropTrailing_of_getLast? ends]

end Trailing

/-- The pieces that a list is split into hold none of the elements it is split at. -/
theorem not_kind_of_mem_splitOnP {α : Type} {kind : α → Bool} (list : List α) :
    ∀ piece ∈ list.splitOnP kind, ∀ element ∈ piece, kind element = false := by
  -- An element in front either is split at or joins the first piece of the rest.
  induction list with
  | nil => simp
  | cons first list ih =>
    obtain ⟨head, pieces, parts⟩ := List.exists_cons_of_ne_nil (List.splitOnP_ne_nil kind list)
    rw [parts, List.forall_mem_cons] at ih
    rw [List.splitOnP_cons_eq_if_modifyHead, parts]
    cases splits : kind first with
    | true => simpa using ih
    | false => simpa [splits] using ih

/-- A list is split into one piece more than it holds elements to split at. -/
theorem length_splitOnP {α : Type} (kind : α → Bool) (list : List α) :
    (list.splitOnP kind).length = list.countP kind + 1 := by
  -- Only an element to split at makes a piece of its own.
  induction list with
  | nil => rfl
  | cons first list ih =>
    rw [List.splitOnP_cons_eq_if_modifyHead]
    cases splits : kind first <;> simp [splits, ih]

/-- A text that is a single word: it is not empty, and it holds no blank. -/
structure IsWord (text : Text) : Prop where
  /-- It holds a character. -/
  nonempty : text ≠ []
  /-- None of its characters is a blank. -/
  solid : ∀ c ∈ text, isBlank c = false

instance : DecidablePred IsWord := fun text =>
  decidable_of_iff (text ≠ [] ∧ text.all (fun c => !isBlank c) = true)
    ⟨fun ⟨nonempty, solid⟩ => ⟨nonempty, by simpa using solid⟩,
      fun isWord => ⟨isWord.nonempty, by simpa using isWord.solid⟩⟩

/-- A word with more characters that are no blanks is a word. -/
theorem IsWord.append {word : Text} (isWord : IsWord word) {more : Text}
    (solid : ∀ c ∈ more, isBlank c = false) : IsWord (word ++ more) where
  nonempty := by simp [isWord.nonempty]
  solid := by
    -- Each character comes from one of the two.
    intro c member
    rcases List.mem_append.mp member with inWord | inMore
    · exact isWord.solid c inWord
    · exact solid c inMore

/-- A part of a word is a word unless it is empty. -/
theorem IsWord.of_isPrefix {word front : Text} (isWord : IsWord word) (before : front <+: word)
    (nonempty : front ≠ []) : IsWord front :=
  -- Its characters are characters of the word.
  ⟨nonempty, fun c member => isWord.solid c (before.subset member)⟩

/-- Words do not reach over a blank. -/
theorem words_append_blank {blank : Char} (isBlank : isBlank blank = true) (front back : Text) :
    words (front ++ blank :: back) = words front ++ words back := by
  -- The text is split at the blank, whatever lies around it.
  rw [words, List.splitOnP_append_cons front back isBlank, List.filter_append]
  rfl

/-- A single word is all the words it has. -/
theorem words_of_isWord {word : Text} (isWord : IsWord word) : words word = [word] := by
  -- There is no blank to split it at.
  rw [words, List.splitOnP_eq_singleton isWord.solid]
  simp [isWord.nonempty]

/-- A word that a blank ends is the first of the words. -/
theorem words_append_of_isWord {word : Text} (isWord : IsWord word) {blank : Char}
    (isBlank : isBlank blank = true) (rest : Text) :
    words (word ++ blank :: rest) = word :: words rest := by
  -- In front of the blank there is one word only.
  rw [words_append_blank isBlank, words_of_isWord isWord]
  rfl

/-- Words with a blank after each are the words of a text. -/
theorem words_flatMap_blank {list : List Text} (areWords : ∀ word ∈ list, IsWord word) {blank : Char}
    (isBlank : isBlank blank = true) : words (list.flatMap (· ++ [blank])) = list := by
  -- The blank after the first word ends it.
  induction list with
  | nil => exact words_nil
  | cons word list ih =>
    rw [List.forall_mem_cons] at areWords
    rw [List.flatMap_cons, List.append_assoc, List.singleton_append, words_append_of_isWord areWords.1 isBlank,
      ih areWords.2]

/-- Each of the words of a text is a word. -/
theorem isWord_of_mem_words {text word : Text} (member : word ∈ words text) : IsWord word := by
  -- Empty pieces are left out.
  obtain ⟨piece, nonempty⟩ := List.mem_filter.mp member
  exact ⟨by simpa using nonempty, not_kind_of_mem_splitOnP text word piece⟩

/-- A word as literals are listed: it does not end in a comma. -/
structure IsToken (text : Text) : Prop extends IsWord text where
  /-- The last character is no comma. -/
  unseparated : ∀ last ∈ text.getLast?, (last == ',') = false

instance : DecidablePred IsToken := fun text =>
  decidable_of_iff (IsWord text ∧ text.getLast? ≠ some ',')
    ⟨fun ⟨isWord, apart⟩ =>
        ⟨isWord, fun last ends => beq_false_of_ne fun same => apart (same ▸ ends)⟩,
      fun isToken => ⟨isToken.toIsWord, fun ends => absurd (isToken.unseparated ',' ends) (by decide)⟩⟩

/-- A literal keeps all its characters when commas are dropped from its end. -/
theorem IsToken.dropTrailing_eq {token : Text} (isToken : IsToken token) :
    dropTrailing (· == ',') token = token :=
  dropTrailing_of_getLast? isToken.unseparated

/-- Each of the literals of a block is a word that does not end in a comma. -/
theorem isToken_of_mem_blockLiterals {block token : Text} (member : token ∈ blockLiterals block) :
    IsToken token := by
  -- It is what dropping commas leaves of a word.
  obtain ⟨inside, nonempty⟩ := List.mem_filter.mp member
  obtain ⟨word, isWord, rfl⟩ := List.mem_map.mp inside
  have part := dropTrailing_isPrefix (· == ',') word
  refine ⟨(isWord_of_mem_words isWord).of_isPrefix part (by simpa using nonempty), ?_⟩
  intro last ends
  exact not_kind_of_getLast?_dropTrailing (· == ',') ends

/-- Literals do not reach over a blank. -/
theorem blockLiterals_append_blank {blank : Char} (isBlank : isBlank blank = true) (front back : Text) :
    blockLiterals (front ++ blank :: back) = blockLiterals front ++ blockLiterals back := by
  simp [blockLiterals, words_append_blank isBlank]

/-- A text without literals: there is nothing in it but blanks and commas. -/
def Idle (text : Text) : Prop :=
  ∀ c ∈ text, c = ',' ∨ isBlank c = true

instance : DecidablePred Idle := fun text =>
  decidable_of_iff (text.all (fun c => c == ',' || isBlank c) = true) (by simp [Idle])

/-- Without blanks there is at most one literal, which is what is left without the commas at the end. -/
theorem blockLiterals_of_solid {word : Text} (solid : ∀ c ∈ word, isBlank c = false) :
    blockLiterals word = [dropTrailing (· == ',') word].filter fun literal => !literal.isEmpty := by
  -- The text is a word, or there is none.
  by_cases nonempty : word = []
  · subst nonempty
    rfl
  · rw [blockLiterals, words_of_isWord ⟨nonempty, solid⟩, List.map_singleton]

/-- Blanks and commas behind a text without blanks add no literal to it and belong to none. -/
theorem blockLiterals_append_idle {word after : Text} (solid : ∀ c ∈ word, isBlank c = false) (idle : Idle after) :
    blockLiterals (word ++ after) = blockLiterals word := by
  -- Commas are part of the word up to the first blank, which ends it.
  induction after generalizing word with
  | nil => rw [List.append_nil]
  | cons c after ih =>
    obtain ⟨first, others⟩ := List.forall_mem_cons.mp idle
    rcases first with rfl | blank
    · have comma : isBlank ',' = false := by decide
      have longer : ∀ c ∈ word ++ [','], isBlank c = false :=
        List.forall_mem_append.mpr ⟨solid, by simpa using comma⟩
      have dropped : dropTrailing (· == ',') (word ++ [',']) = dropTrailing (· == ',') word :=
        dropTrailing_append_of_kind word rfl
      rw [List.append_cons, ih longer others, blockLiterals_of_solid longer, blockLiterals_of_solid solid, dropped]
    · have none : blockLiterals ([] ++ after) = blockLiterals [] := ih (by simp) others
      rw [blockLiterals_append_blank blank, ← List.nil_append after, none, blockLiterals_nil, List.append_nil]

/-- A text of blanks and commas holds no literals. -/
theorem Idle.blockLiterals_eq_nil {text : Text} (idle : Idle text) : blockLiterals text = [] := by
  -- In front of it there is nothing.
  have none : blockLiterals ([] ++ text) = blockLiterals [] := blockLiterals_append_idle (by simp) idle
  rwa [List.nil_append, blockLiterals_nil] at none

/-- A literal on its own is all the literals of a block. -/
theorem blockLiterals_of_isToken {token : Text} (isToken : IsToken token) :
    blockLiterals token = [token] := by
  -- It does not end in a comma, so that all of it is left.
  rw [blockLiterals_of_solid isToken.solid, isToken.dropTrailing_eq]
  simp [isToken.nonempty]

/-- Commas after a literal do not belong to it. -/
theorem blockLiterals_append_commas {token : Text} (isToken : IsToken token) {commas : Text}
    (areCommas : ∀ c ∈ commas, c = ',') : blockLiterals (token ++ commas) = [token] := by
  have idle : Idle commas := fun c member => .inl (areCommas c member)
  rw [blockLiterals_append_idle isToken.solid idle, blockLiterals_of_isToken isToken]

/-- Literals with commas and a blank between them are the literals of a block. -/
theorem blockLiterals_intercalate {literals : List Text}
    (areTokens : ∀ literal ∈ literals, IsToken literal) {commas : Text}
    (areCommas : ∀ c ∈ commas, c = ',') :
    blockLiterals ((commas ++ [' ']).intercalate literals) = literals := by
  -- A blank comes after each literal but the last.
  induction literals with
  | nil => rw [List.intercalate_nil, blockLiterals_nil]
  | cons literal literals ih =>
    rw [List.forall_mem_cons] at areTokens
    cases literals with
    | nil => rw [List.intercalate_singleton, blockLiterals_of_isToken areTokens.1]
    | cons next others =>
      rw [List.intercalate_cons_cons, ← List.append_assoc, List.append_assoc, List.singleton_append,
        blockLiterals_append_blank (by decide), blockLiterals_append_commas areTokens.1 areCommas,
        ih areTokens.2]
      rfl

/-- Literals with a blank after each are the literals of a block. -/
theorem blockLiterals_flatMap_blank {literals : List Text}
    (areTokens : ∀ literal ∈ literals, IsToken literal) :
    blockLiterals (literals.flatMap (· ++ [' '])) = literals := by
  -- The blank after the first literal ends it.
  induction literals with
  | nil => exact blockLiterals_nil
  | cons literal literals ih =>
    rw [List.forall_mem_cons] at areTokens
    rw [List.flatMap_cons, List.append_assoc, List.singleton_append,
      blockLiterals_append_blank (by decide), blockLiterals_of_isToken areTokens.1, ih areTokens.2]
    rfl

/-- What is put between lists and the lists themselves are all that is there. -/
theorem mem_intercalate {α : Type} {separator : List α} {lists : List (List α)} {element : α}
    (member : element ∈ separator.intercalate lists) :
    element ∈ separator ∨ ∃ list ∈ lists, element ∈ list := by
  -- The first list and the separator come before the others.
  induction lists with
  | nil => simp at member
  | cons list lists ih =>
    cases lists with
    | nil => exact .inr ⟨list, by simp, by simpa using member⟩
    | cons next others =>
      rw [List.intercalate_cons_cons, List.mem_append, List.mem_append] at member
      rcases member with (inList | inSeparator) | later
      · exact .inr ⟨list, by simp, inList⟩
      · exact .inl inSeparator
      · rcases ih later with inSeparator | ⟨other, among, inOther⟩
        · exact .inl inSeparator
        · exact .inr ⟨other, List.mem_cons_of_mem list among, inOther⟩

/-- What separates a literal from the next one: commas, or none, and then blanks. -/
structure Separator where
  /-- How many commas there are. -/
  commas : Nat
  /-- What comes after them. -/
  blanks : Text
  /-- It is not empty. -/
  nonempty : blanks ≠ []
  /-- It holds blanks only. -/
  blank : ∀ c ∈ blanks, isBlank c = true

/-- A separator as it stands in a block. -/
def Separator.text (separator : Separator) : Text :=
  List.replicate separator.commas ',' ++ separator.blanks

/-- Literals one after the other, and behind each but the last one the separator of its number. -/
def separated (separators : Nat → Separator) : List Text → Text
  | [] => []
  | [literal] => literal
  | literal :: next :: literals =>
    literal ++ (separators 0).text ++ separated (fun number => separators (number + 1)) (next :: literals)

/-- Blanks and commas in front that do not end in a comma add no literal to a text and belong to none. -/
theorem blockLiterals_idle_append {before : Text} (idle : Idle before) (apart : before.getLast? ≠ some ',')
    (rest : Text) : blockLiterals (before ++ rest) = blockLiterals rest := by
  -- Unless there are none, they end in a blank.
  rcases List.eq_nil_or_concat before with rfl | ⟨front, last, rfl⟩
  · rw [List.nil_append]
  · rw [List.concat_eq_append] at *
    obtain ⟨idleFront, ending⟩ := List.forall_mem_append.mp idle
    have blank : isBlank last = true := by
      rcases ending last List.mem_cons_self with rfl | blank
      · simp at apart
      · exact blank
    rw [List.append_assoc, List.singleton_append, blockLiterals_append_blank blank,
      Idle.blockLiterals_eq_nil idleFront, List.nil_append]

/-- A separator consists of blanks and commas, and it ends in a blank. -/
theorem Separator.exists_idle (separator : Separator) :
    ∃ idle blank, separator.text = idle ++ [blank] ∧ Idle idle ∧ isBlank blank = true := by
  -- The last of its blanks is split off.
  obtain ⟨commas, blanks, nonempty, areBlanks⟩ := separator
  obtain ⟨front, last, rfl⟩ : ∃ front last, blanks = front ++ [last] :=
    ⟨_, _, (List.dropLast_concat_getLast nonempty).symm⟩
  obtain ⟨inFront, ending⟩ := List.forall_mem_append.mp areBlanks
  refine ⟨List.replicate commas ',' ++ front, last, by simp [text], ?_, ending last List.mem_cons_self⟩
  refine List.forall_mem_append.mpr ⟨fun c member => ?_, fun c member => .inr (inFront c member)⟩
  exact .inl (List.eq_of_mem_replicate member)

/-- A separator ends a literal, and belongs neither to it nor to what comes next. -/
theorem blockLiterals_append_separator {literal : Text} (isToken : IsToken literal) (separator : Separator)
    (rest : Text) : blockLiterals (literal ++ separator.text ++ rest) = literal :: blockLiterals rest := by
  -- Up to the last blank nothing is added to the literal, and the literals of the rest begin behind that blank.
  obtain ⟨idle, blank, same, isIdle, isBlank⟩ := separator.exists_idle
  rw [same, ← List.append_assoc, List.append_assoc, List.singleton_append, blockLiterals_append_blank isBlank,
    blockLiterals_append_idle isToken.solid isIdle, blockLiterals_of_isToken isToken]
  rfl

/-- Literals with separators between them are the literals of the text, whatever blanks and commas come after them. -/
theorem blockLiterals_separated_append (separators : Nat → Separator) {literals : List Text}
    (areTokens : ∀ literal ∈ literals, IsToken literal) {after : Text} (idle : Idle after) :
    blockLiterals (separated separators literals ++ after) = literals := by
  -- The separator behind the first literal ends it.
  induction literals generalizing separators with
  | nil => exact idle.blockLiterals_eq_nil
  | cons literal literals ih =>
    rw [List.forall_mem_cons] at areTokens
    cases literals with
    | nil => rw [separated, blockLiterals_append_idle areTokens.1.solid idle, blockLiterals_of_isToken areTokens.1]
    | cons next others =>
      rw [separated, List.append_assoc, blockLiterals_append_separator areTokens.1, ih _ areTokens.2]

/--
The literals of a block are not empty, hold no blanks, and end in no comma, and they can be separated at will.

Any separators between them give back the same literals, also with blanks and commas that stand alone before and
after them. A blank between two blocks parts their literals.
-/
theorem literals_do_not_depend_on_separators (block : Text) :
    (∀ literal ∈ blockLiterals block,
      literal ≠ [] ∧ (∀ c ∈ literal, isBlank c = false) ∧ literal.getLast? ≠ some ',') ∧
    (∀ (separators : Nat → Separator) (before after : Text),
      Idle before → before.getLast? ≠ some ',' → Idle after →
        blockLiterals (before ++ separated separators (blockLiterals block) ++ after) = blockLiterals block) ∧
    ∀ (other : Text) (blank : Char), isBlank blank = true →
      blockLiterals (block ++ blank :: other) = blockLiterals block ++ blockLiterals other := by
  -- What is known of the literals of a block is what it takes to read them back.
  have areTokens : ∀ literal ∈ blockLiterals block, IsToken literal := fun _ member =>
    isToken_of_mem_blockLiterals member
  refine ⟨?_, ?_, fun other blank isBlank => blockLiterals_append_blank isBlank block other⟩
  · intro literal member
    have isToken := areTokens literal member
    refine ⟨isToken.nonempty, isToken.solid, ?_⟩
    intro ends
    exact absurd (isToken.unseparated ',' ends) (by decide)
  · intro separators before after idleBefore apart idleAfter
    rw [List.append_assoc, blockLiterals_idle_append idleBefore apart,
      blockLiterals_separated_append separators areTokens idleAfter]

/-- Two literals with commas in them are the same between commas, line feeds and an em space as they were in the block they
come from. -/
theorem literals_between_mixed_separators :
    let block := "p(1,2),-q ,\t,r".toList
    let wide : Separator := ⟨2, "\u2003".toList, by decide, List.all_eq_true.mp (by decide)⟩
    let lineEnd : Separator := ⟨0, "\r\n".toList, by decide, List.all_eq_true.mp (by decide)⟩
    let separators := fun number => if number = 0 then wide else lineEnd
    let before := ", ,\u0085".toList
    let after := ",, ,".toList
    let literals := ["p(1,2),-q", ",r"].map String.toList
    blockLiterals block = literals ∧ blockLiterals (before ++ separated separators literals ++ after) = literals ∧
      Idle before ∧ before.getLast? ≠ some ',' ∧ Idle after ∧
      blockLiterals (before ++ separated separators (blockLiterals block) ++ after) = blockLiterals block ∧
      isBlank '\n' = true ∧ blockLiterals (block ++ '\n' :: after) = blockLiterals block ++ blockLiterals after := by
  intro block wide lineEnd separators before after literals
  have held : blockLiterals block = literals := by decide
  have idleBefore : Idle before := by decide
  have apart : before.getLast? ≠ some ',' := by decide
  have idleAfter : Idle after := by decide
  have blank : isBlank '\n' = true := by decide
  obtain ⟨_, between, across⟩ := literals_do_not_depend_on_separators block
  have kept := between separators before after idleBefore apart idleAfter
  exact ⟨held, held ▸ kept, idleBefore, apart, idleAfter, kept, blank, across after '\n' blank⟩

end AnswerQuery
