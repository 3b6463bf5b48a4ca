import AnswerQuery.Proofs.Text.Words
import AnswerQuery.Stage

/-! The shell form of a pipeline is read back, by the rules a POSIX shell has for tokens and quotes, as that pipeline. -/

namespace AnswerQuery

/-- A token of a shell command. -/
inductive ShellToken where
  /-- A word, without the quotes and backslashes it was written with. -/
  | word (text : Text)
  /-- A bar that stands bare: what is written before it is read after it. -/
  | bar
  /-- An angle that stands bare: the next word names the output. -/
  | angle
  deriving DecidableEq, Repr

/-- How the next character of a shell command is taken. -/
inductive Quoting where
  /-- For what it means to the shell. -/
  | bare
  /-- As it stands, between single quotes. -/
  | quoted
  /-- As it stands, after a backslash. -/
  | escaped
  deriving DecidableEq, Repr

/-- Whether a character separates words where it stands bare. -/
def isShellBlank (c : Char) : Bool :=
  c == ' ' || c == '\t'

/-- The characters that have another meaning where they stand bare: other quotes, expansions, patterns, comments, groups,
and operators that are neither a bar nor an angle to the right. -/
def shellSpecials : Text :=
  -- What an equals sign may mean in front of a command is a matter of whole words, not of characters.
  "\"$\x60&;<()*?[]#~!^\x7b\x7d\n".toList

/-- The word that has begun, if any, as a token. -/
def wordBegun : Option Text → List ShellToken
  | some word => [.word word]
  | none => []

/-- Read the tokens of a shell command. A quote begins a word even if nothing is in it, and parts that stand next to each
other are one word. -/
def shellTokensFrom : Quoting → Option Text → Text → Option (List ShellToken)
  | .bare, word, [] => some (wordBegun word)
  | .bare, word, c :: rest =>
    if c = '\'' then shellTokensFrom .quoted (some (word.getD [])) rest
    else if c = '\\' then shellTokensFrom .escaped (some (word.getD [])) rest
    else if isShellBlank c then (shellTokensFrom .bare none rest).map (wordBegun word ++ ·)
    else if c = '|' then (shellTokensFrom .bare none rest).map (wordBegun word ++ .bar :: ·)
    else if c = '>' then (shellTokensFrom .bare none rest).map (wordBegun word ++ .angle :: ·)
    else if shellSpecials.contains c then none
    else shellTokensFrom .bare (some (word.getD [] ++ [c])) rest
  | .quoted, _, [] => none
  | .quoted, word, c :: rest =>
    if c = '\'' then shellTokensFrom .bare word rest
    else shellTokensFrom .quoted (some (word.getD [] ++ [c])) rest
  | .escaped, _, [] => none
  | .escaped, word, c :: rest => shellTokensFrom .bare (some (word.getD [] ++ [c])) rest

/-- The tokens of a shell command, from its beginning. -/
def shellTokens (command : Text) : Option (List ShellToken) :=
  shellTokensFrom .bare none command

/-- The text of a token that is a word. -/
def ShellToken.text? : ShellToken → Option Text
  | .word text => some text
  | _ => none

/-- A stage as its words name it: a program, and its arguments. -/
def Stage.ofTokens? (tokens : List ShellToken) : Option Stage :=
  match tokens.mapM ShellToken.text? with
  | some (program :: arguments) => some ⟨program, arguments⟩
  | _ => none

/-- Stages between bars. -/
def stagesOfTokens? (tokens : List ShellToken) : Option (List Stage) :=
  (tokens.splitOn .bar).mapM Stage.ofTokens?

/-- A pipeline as its tokens describe it: stages between bars, then at most one angle with the word that names the
output. -/
def Pipeline.ofTokens? (tokens : List ShellToken) : Option Pipeline :=
  match tokens.splitOn .angle with
  | [commands] => (stagesOfTokens? commands).map (⟨·, none⟩)
  | [commands, [.word path]] => (stagesOfTokens? commands).map (⟨·, some path⟩)
  | _ => none

/-- Read a shell command as a pipeline. -/
def Pipeline.ofShellForm? (command : Text) : Option Pipeline :=
  (shellTokens command).bind Pipeline.ofTokens?

example : Pipeline.ofShellForm? "a\\|b''c   'd'\"e\"".toList = none := by decide

example : Pipeline.ofShellForm? "a\\|b''c   '' | x>y".toList =
    some ⟨[⟨"a|bc".toList, [[]]⟩, ⟨['x'], []⟩], some ['y']⟩ := by decide

/-- A plain character means nothing but itself to a shell. -/
theorem isPlain_bare {c : Char} (plain : isPlain c = true) :
    c ≠ '\'' ∧ c ≠ '\\' ∧ isShellBlank c = false ∧ c ≠ '|' ∧ c ≠ '>' ∧ c ∉ shellSpecials := by
  -- No character that means something is plain, so that this one differs from each of them.
  have meant : ("'\\ \t|>".toList ++ shellSpecials).all (fun other => !isPlain other) = true := by decide
  have differs : ∀ other ∈ "'\\ \t|>".toList ++ shellSpecials, c ≠ other := by
    rintro _ member rfl
    have notPlain := List.all_eq_true.mp meant c member
    rw [plain] at notPlain
    contradiction
  refine ⟨differs _ (by decide), differs _ (by decide), ?_, differs _ (by decide), differs _ (by decide), ?_⟩
  · simp [isShellBlank, differs ' ' (by decide), differs '\t' (by decide)]
  · exact fun member => differs c (List.mem_append_right _ member) rfl

/-- A plain character goes on with the word. -/
theorem shellTokensFrom_plain {c : Char} (plain : isPlain c = true) (word : Option Text) (rest : Text) :
    shellTokensFrom .bare word (c :: rest) = shellTokensFrom .bare (some (word.getD [] ++ [c])) rest := by
  -- None of the characters that end a word, quote, or mean something else is this one.
  obtain ⟨noQuote, noBackslash, noBlank, noBar, noAngle, noSpecial⟩ := isPlain_bare plain
  simp [shellTokensFrom, noQuote, noBackslash, noBlank, noBar, noAngle, noSpecial]

/-- Plain characters go on with the word one by one. -/
theorem shellTokensFrom_plain_append {text : Text} (plain : ∀ c ∈ text, isPlain c = true) (begun rest : Text) :
    shellTokensFrom .bare (some begun) (text ++ rest) = shellTokensFrom .bare (some (begun ++ text)) rest := by
  -- The word that has begun grows by a character at a time.
  induction text generalizing begun with
  | nil => rw [List.nil_append, List.append_nil]
  | cons c text ih =>
    rw [List.forall_mem_cons] at plain
    rw [List.cons_append, shellTokensFrom_plain plain.1, Option.getD_some, ih plain.2, List.append_assoc,
      List.singleton_append]

/-- What is quoted is read as it was, up to the quote that ends it. -/
theorem shellTokensFrom_quoteBody (text begun rest : Text) :
    shellTokensFrom .quoted (some begun) (quoteBody text ++ '\'' :: rest) =
      shellTokensFrom .bare (some (begun ++ text)) rest := by
  -- Only a quote is written in another way than it is read.
  induction text generalizing begun with
  | nil => simp [shellTokensFrom]
  | cons c text ih =>
    by_cases quote : c = '\''
    · -- The quotes are closed, a quote stands behind a backslash, and they are opened again.
      simp [quoteBody, quote, shellTokensFrom, ih]
    · simp [quoteBody, quote, shellTokensFrom, ih]

/-- A word is read from its quoted or bare form as it was, even if it is empty. -/
theorem shellTokensFrom_shellWord (word rest : Text) :
    shellTokensFrom .bare none (shellWord word ++ rest) = shellTokensFrom .bare (some word) rest := by
  rw [shellWord]
  split
  case isTrue bare =>
    -- A bare word has a first character, with which it begins.
    cases word with
    | nil => simp at bare
    | cons c word =>
      obtain ⟨first, others⟩ : isPlain c = true ∧ ∀ c ∈ word, isPlain c = true := by simpa using bare
      rw [List.cons_append, shellTokensFrom_plain first, shellTokensFrom_plain_append others]
      rfl
  case isFalse =>
    -- A quoted word begins with its quote.
    have opened (more : Text) :
        shellTokensFrom .bare none ('\'' :: more) = shellTokensFrom .quoted (some []) more := by
      simp [shellTokensFrom]
    rw [List.append_assoc, List.cons_append, opened, List.singleton_append, shellTokensFrom_quoteBody,
      List.nil_append]

/-- No tokens are in no text. -/
@[simp] theorem shellTokens_nil : shellTokens [] = some [] := rfl

/-- A blank between tokens is passed over. -/
@[simp] theorem shellTokens_space (rest : Text) : shellTokens (' ' :: rest) = shellTokens rest := by
  simp [shellTokens, shellTokensFrom, isShellBlank, wordBegun]

/-- A bar is a token. -/
@[simp] theorem shellTokens_bar (rest : Text) : shellTokens ('|' :: rest) = (shellTokens rest).map (.bar :: ·) := by
  simp [shellTokens, shellTokensFrom, isShellBlank, wordBegun]

/-- An angle is a token. -/
@[simp] theorem shellTokens_angle (rest : Text) :
    shellTokens ('>' :: rest) = (shellTokens rest).map (.angle :: ·) := by
  simp [shellTokens, shellTokensFrom, isShellBlank, wordBegun]

/-- Where a word ends: at the end of the command, or in front of a blank. -/
def EndsWord (rest : Text) : Prop :=
  ∀ c ∈ rest.head?, c = ' '

/-- A word is one token where it ends. -/
theorem shellTokens_shellWord_append (word : Text) {rest : Text} (ends : EndsWord rest) :
    shellTokens (shellWord word ++ rest) = (shellTokens rest).map (.word word :: ·) := by
  rw [shellTokens, shellTokensFrom_shellWord]
  -- The word ends with the command, or at the blank behind it.
  cases rest with
  | nil => rfl
  | cons c rest =>
    obtain rfl : c = ' ' := ends c rfl
    simp [shellTokens, shellTokensFrom, isShellBlank, wordBegun]

/-- The tokens of a stage: a word for its program and one for each of its arguments. -/
def Stage.tokens (stage : Stage) : List ShellToken :=
  (stage.program :: stage.arguments).map .word

/-- Words with a blank between them are one token each. -/
theorem shellTokens_words_append (first : Text) (others : List Text) {rest : Text} (ends : EndsWord rest) :
    shellTokens ([' '].intercalate ((first :: others).map shellWord) ++ rest) =
      (shellTokens rest).map ((first :: others).map .word ++ ·) := by
  -- Each word but the last ends in front of the blank that parts it from the next.
  induction others generalizing first with
  | nil => simpa using shellTokens_shellWord_append first ends
  | cons second others ih =>
    have parted (more : Text) : EndsWord (' ' :: more) := by simp [EndsWord]
    rw [List.map_cons, List.map_cons, List.intercalate_cons_cons, List.append_assoc, List.append_assoc,
      List.singleton_append, shellTokens_shellWord_append first (parted _), shellTokens_space, ← List.map_cons,
      ih second, Option.map_map]
    rfl

/-- A stage is read as its words. -/
theorem shellTokens_stage_append (stage : Stage) {rest : Text} (ends : EndsWord rest) :
    shellTokens (stage.shellForm ++ rest) = (shellTokens rest).map (stage.tokens ++ ·) :=
  shellTokens_words_append stage.program stage.arguments ends

/-- Stages with bars between them are read as their words, with those bars. -/
theorem shellTokens_stages_append (first : Stage) (others : List Stage) {rest : Text} (ends : EndsWord rest) :
    shellTokens (" | ".toList.intercalate ((first :: others).map Stage.shellForm) ++ rest) =
      (shellTokens rest).map ([.bar].intercalate ((first :: others).map Stage.tokens) ++ ·) := by
  -- The blanks around a bar end the word in front of it and are passed over.
  have parted (more : Text) : EndsWord (" | ".toList ++ more) := by simp [EndsWord]
  have barred (more : Text) : shellTokens (" | ".toList ++ more) = (shellTokens more).map (.bar :: ·) := by simp
  induction others generalizing first with
  | nil => simpa using shellTokens_stage_append first ends
  | cons second others ih =>
    rw [List.map_cons, List.map_cons, List.intercalate_cons_cons, List.append_assoc, List.append_assoc,
      shellTokens_stage_append first (parted _), barred, ← List.map_cons, ih second, Option.map_map, Option.map_map]
    simp [Function.comp_def, List.intercalate_cons_cons]

/-- The tokens of a pipeline: its stages with bars between them, and the output behind an angle. -/
def Pipeline.tokens (pipeline : Pipeline) : List ShellToken :=
  [.bar].intercalate (pipeline.stages.map Stage.tokens) ++
    (match pipeline.output with
    | some path => [.angle, .word path]
    | none => [])

/-- The shell form of a pipeline is read as its tokens. -/
theorem shellTokens_shellForm {pipeline : Pipeline} (nonempty : pipeline.stages ≠ []) :
    shellTokens pipeline.shellForm = some pipeline.tokens := by
  obtain ⟨stages, output⟩ := pipeline
  obtain ⟨first, others, rfl⟩ := List.exists_cons_of_ne_nil nonempty
  cases output with
  | none => exact shellTokens_stages_append first others (by simp [EndsWord])
  | some path =>
    -- The last stage ends in front of the angle, and the path at the end of the command.
    have ends : EndsWord (" > ".toList ++ shellWord path) := by simp [EndsWord]
    have atEnd : EndsWord [] := by simp [EndsWord]
    have named : shellTokens (shellWord path) = some [.word path] := by
      simpa using shellTokens_shellWord_append path atEnd
    have read := shellTokens_stages_append first others ends
    simpa [Pipeline.shellForm, Pipeline.tokens, named] using read

/-- What is undone for each element is undone for all of them. -/
theorem mapM_map_of_inverse {α β : Type} {write : α → β} {read? : β → Option α}
    (inverse : ∀ element, read? (write element) = some element) (list : List α) :
    (list.map write).mapM read? = some list := by
  induction list with
  | nil => rfl
  | cons element list ih => simp [inverse, ih]

/-- A stage is made up of its words again. -/
theorem Stage.ofTokens?_tokens (stage : Stage) : Stage.ofTokens? stage.tokens = some stage := by
  have texts (word : Text) : (ShellToken.word word).text? = some word := rfl
  rw [Stage.ofTokens?, Stage.tokens, mapM_map_of_inverse texts]

/-- The tokens of a stage are words. -/
theorem Stage.not_mem_tokens {token : ShellToken} (noWord : token.text? = none) (stage : Stage) :
    token ∉ stage.tokens := by
  intro member
  obtain ⟨word, -, rfl⟩ := List.mem_map.mp member
  contradiction

/-- Between bars there are no angles. -/
theorem angle_not_mem_stages (stages : List Stage) :
    ShellToken.angle ∉ [.bar].intercalate (stages.map Stage.tokens) := by
  intro member
  -- An angle would be a bar, or one of the words of a stage.
  rcases mem_intercalate member with separator | ⟨tokens, among, inside⟩
  · simp at separator
  · obtain ⟨stage, -, rfl⟩ := List.mem_map.mp among
    exact stage.not_mem_tokens rfl inside

/-- Stages are made up of the words between bars. -/
theorem stagesOfTokens?_tokens {stages : List Stage} (nonempty : stages ≠ []) :
    stagesOfTokens? ([.bar].intercalate (stages.map Stage.tokens)) = some stages := by
  -- The tokens of a stage are words, so that no other bars are there.
  have noBar : ∀ tokens ∈ stages.map Stage.tokens, ShellToken.bar ∉ tokens := by
    intro tokens member
    obtain ⟨stage, -, rfl⟩ := List.mem_map.mp member
    exact stage.not_mem_tokens rfl
  rw [stagesOfTokens?, List.splitOn_intercalate _ noBar (by simpa using nonempty),
    mapM_map_of_inverse Stage.ofTokens?_tokens]

/-- A pipeline is made up of its tokens again. -/
theorem Pipeline.ofTokens?_tokens {pipeline : Pipeline} (nonempty : pipeline.stages ≠ []) :
    Pipeline.ofTokens? pipeline.tokens = some pipeline := by
  obtain ⟨stages, output⟩ := pipeline
  -- An angle stands behind the stages if there is an output, and nowhere else.
  have commands := List.splitOn_eq_singleton (angle_not_mem_stages stages)
  cases output with
  | none => simp [Pipeline.ofTokens?, Pipeline.tokens, commands, stagesOfTokens?_tokens nonempty]
  | some path =>
    -- The angle parts the stages from the output.
    have split : List.splitOn .angle ([.bar].intercalate (stages.map Stage.tokens) ++ [.angle, .word path]) =
        [[.bar].intercalate (stages.map Stage.tokens), [.word path]] := by
      rw [List.splitOn_eq_splitOnP, List.splitOnP_append_cons _ _ (by decide), ← List.splitOn_eq_splitOnP, commands]
      rfl
    simp [Pipeline.ofTokens?, Pipeline.tokens, split, stagesOfTokens?_tokens nonempty]

/-- The shell form of a pipeline with a stage is read as that pipeline, whatever its programs, arguments, and output are
called, so that no other pipeline with a stage has the same shell form. -/
theorem Pipeline.shellForm_is_read_back (pipeline : Pipeline) (nonempty : pipeline.stages ≠ []) :
    Pipeline.ofShellForm? pipeline.shellForm = some pipeline ∧
      ∀ other : Pipeline, other.stages ≠ [] → other.shellForm = pipeline.shellForm → other = pipeline := by
  have readBack : ∀ each : Pipeline, each.stages ≠ [] → Pipeline.ofShellForm? each.shellForm = some each := by
    intro each nonempty
    rw [Pipeline.ofShellForm?, shellTokens_shellForm nonempty, Option.bind_some, Pipeline.ofTokens?_tokens nonempty]
  refine ⟨readBack pipeline nonempty, ?_⟩
  intro other otherNonempty same
  -- Both pipelines are read from the same shell form.
  have read := readBack other otherNonempty
  rw [same, readBack pipeline nonempty, Option.some_inj] at read
  exact read.symm

/-- A pipeline with an empty program, a program of quotes, arguments that look like operators, and an output in quotes. -/
def disguisedPipeline : Pipeline :=
  ⟨[⟨[], ["|".toList, "> x".toList]⟩, ⟨"'''".toList, ["\\\n$".toList]⟩], some "'>'".toList⟩

/-- What looks like quotes and operators is read back as words. -/
theorem disguised_words_are_read_back :
    disguisedPipeline.stages ≠ [] ∧
    Pipeline.ofShellForm? "'' '|' '> x' | ''\\'''\\'''\\''' '\\\n$' > ''\\''>'\\'''".toList = some disguisedPipeline ∧
    ∀ other : Pipeline, other.stages ≠ [] → other.shellForm = disguisedPipeline.shellForm →
      other = disguisedPipeline :=
  ⟨by decide, Pipeline.shellForm_is_read_back disguisedPipeline (by decide)⟩

end AnswerQuery
