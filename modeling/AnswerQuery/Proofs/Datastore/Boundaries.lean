import AnswerQuery.Proofs.Datastore.Models
import AnswerQuery.Proofs.Listing
import AnswerQuery.Solver

/-! Which models a datastore finds in a listing, in code and where literals are listed bare. -/

namespace AnswerQuery

/-- A period at the end of a literal does not belong to it. -/
theorem Literal.ofToken?_append_period (token : Text) : ofToken? (token ++ ['.']) = ofToken? token := by
  -- It is dropped as a terminator.
  rw [ofToken?, dropTrailing_append_of_kind token (by decide), ofToken?]

/-- A text that ends in a period is no delimiter. -/
theorem Format.isDelimiter_append_period (token : Text) : isDelimiter (token ++ ['.']) = false := by
  -- Both delimiters end in a letter.
  rw [Bool.eq_false_iff]
  intro ends
  simp only [isDelimiter, all, List.any_cons, List.any_nil, Bool.or_false, Bool.or_eq_true,
    beq_iff_eq] at ends
  rcases ends with same | same
  all_goals
    have last := congrArg List.getLast? same
    rw [List.getLast?_concat] at last
    revert last
    decide

/-- Periods after the literals of a model change none of its facts. -/
theorem literalFacts_append_period (model : Nat) (tokens : List Text) :
    literalFacts model (tokens.map (· ++ ['.'])) = literalFacts model tokens := by
  -- Each token is read as the same literal.
  rw [literalFacts, literalFacts, List.filterMap_map]
  congr 1
  funext token
  rw [Function.comp_apply, Literal.ofToken?_append_period]

/-- Periods after the literals of models change none of their facts. -/
theorem numberedFacts_append_period (first : Nat) (models : List (List Text)) :
    numberedFacts first (models.map fun tokens => tokens.map (· ++ ['.'])) =
      numberedFacts first models := by
  -- The numbers of the models stay as they are.
  induction models generalizing first with
  | nil => rfl
  | cons tokens models ih =>
    rw [List.map_cons, numberedFacts_cons, numberedFacts_cons, literalFacts_append_period, ih]

namespace Datastore

/-- The datastore of models that are given by their tokens. -/
def ofModels (models : List (List Text)) : Datastore :=
  ⟨(modelFacts models).mergeSort inOrder, models.length⟩

/-- What it means that a datastore records models: it counts them and states each of their facts. -/
structure Records (datastore : Datastore) (models : List (List Text)) : Prop where
  /-- There are as many models. -/
  count : datastore.models = models.length
  /-- The facts are those of the literals of the models, each as often. -/
  facts : datastore.facts.Perm (modelFacts models)
  /-- The clauses are in the order of their octets. -/
  sorted : datastore.facts.Pairwise fun first second =>
    Utf8.encode first.render ≤ Utf8.encode second.render

/-- The datastore of models records them. -/
theorem records_ofModels (models : List (List Text)) : (ofModels models).Records models where
  count := rfl
  facts := List.mergeSort_perm _ _
  sorted := pairwise_mergeSort_inOrder (modelFacts models)

/-- Models with a delimiter after each, and without any other, have the datastore of models. -/
theorem ofTokens_models {models : List (List Text)} {delimiter : Text}
    (ends : Format.isDelimiter delimiter = true)
    (plain : ∀ tokens ∈ models, ∀ token ∈ tokens, Format.isDelimiter token = false) :
    ofTokens (models.flatMap fun tokens => tokens ++ [delimiter]) = ofModels models := by
  -- Reading them begins with the number zero.
  have read := collect_models ends plain 0
  rw [Nat.zero_add] at read
  simp [ofTokens, ofModels, modelFacts, read]

/-- A listing in code has the datastore of the models that were listed. -/
theorem ofTokens_code (models : List (List Text)) :
    ofTokens (Format.code.tokens models) = ofModels models := by
  -- No literal with a period after it is a delimiter, and the period does not belong to the literal.
  have marked : Format.code.tokens models =
      (models.map fun tokens => tokens.map (· ++ ['.'])).flatMap fun tokens =>
        tokens ++ [Format.code.delimiter] := by
    simp [Format.tokens, Format.literalMark, List.flatMap_map]
  rw [marked, ofTokens_models (Format.isDelimiter_delimiter _)]
  · simp [ofModels, modelFacts, numberedFacts_append_period]
  · simp [Format.isDelimiter_append_period]

/-- The models that bare literals are read as, which end where a literal is a delimiter. -/
def bareModels (literals : List Text) : List (List Text) :=
  literals.splitOnP Format.isDelimiter

/-- None of the models that bare literals are read as holds a delimiter. -/
theorem not_isDelimiter_of_mem_bareModels {models : List (List Text)} :
    ∀ tokens ∈ models.flatMap bareModels, ∀ token ∈ tokens, Format.isDelimiter token = false := by
  -- Literals are split at the delimiters.
  intro tokens member
  obtain ⟨literals, _, inside⟩ := List.mem_flatMap.mp member
  exact not_kind_of_mem_splitOnP literals tokens inside

/-- Bare literals and a delimiter are read as the models they are split into. -/
theorem collect_bareModels {delimiter : Text} (ends : Format.isDelimiter delimiter = true)
    {rest others : List Text} (same : ∀ model, collect model rest = collect model others)
    (literals : List Text) (model : Nat) :
    collect model (literals ++ delimiter :: rest) =
      collect model ((bareModels literals).flatMap (fun tokens => tokens ++ [delimiter]) ++ others) := by
  -- A literal that is a delimiter ends a model with either spelling.
  have closed : Token.read delimiter = .delimiter := by simp [Token.read, ends]
  induction literals generalizing model with
  | nil => simpa [bareModels] using collect_cons_congr same model delimiter
  | cons literal literals ih =>
    obtain ⟨head, models, parts⟩ :=
      List.exists_cons_of_ne_nil (List.splitOnP_ne_nil Format.isDelimiter literals)
    simp only [bareModels, parts] at ih
    rw [bareModels, List.splitOnP_cons_eq_if_modifyHead, parts]
    cases forged : Format.isDelimiter literal with
    | true =>
      have read : Token.read literal = .delimiter := by simp [Token.read, forged]
      rw [List.cons_append, collect_delimiter read, ih]
      simp [collect_delimiter closed]
    | false => simpa using collect_cons_congr ih model literal

/-- A listing of bare literals has the datastore of the models that the literals are read as. -/
theorem ofTokens_text (models : List (List Text)) :
    ofTokens (Format.text.tokens models) = ofModels (models.flatMap bareModels) := by
  -- Each model is read as those that it is split into, whatever comes after it.
  rw [← ofTokens_models (Format.isDelimiter_delimiter .text) not_isDelimiter_of_mem_bareModels]
  apply ofTokens_congr
  have read : ∀ model, collect model (Format.text.tokens models) = collect model
      ((models.flatMap bareModels).flatMap fun tokens => tokens ++ [Format.text.delimiter]) := by
    induction models with
    | nil => simp [Format.tokens]
    | cons literals models ih =>
      intro model
      have first := collect_bareModels (Format.isDelimiter_delimiter .text) ih literals model
      simpa [Format.tokens, Format.literalMark] using first
  exact read 0

/-- Each literal that is a delimiter adds a model. -/
theorem length_flatMap_bareModels (models : List (List Text)) :
    (models.flatMap bareModels).length = models.length + models.flatten.countP Format.isDelimiter := by
  -- A list is split into one piece more than it holds delimiters.
  induction models with
  | nil => rfl
  | cons literals models ih =>
    have pieces := length_splitOnP Format.isDelimiter literals
    simp only [List.flatMap_cons, List.length_append, ih, bareModels, pieces, List.length_cons,
      List.flatten_cons, List.countP_append]
    omega

/-- Models without a literal that is a delimiter are read as they are. -/
theorem flatMap_bareModels_eq_self {models : List (List Text)}
    (plain : ∀ literals ∈ models, ∀ literal ∈ literals, Format.isDelimiter literal = false) :
    models.flatMap bareModels = models := by
  -- There is nothing to split them at.
  induction models with
  | nil => rfl
  | cons literals models ih =>
    rw [List.forall_mem_cons] at plain
    rw [List.flatMap_cons, ih plain.2, bareModels, List.splitOnP_eq_singleton plain.1]
    rfl

/-- Models that are read as no more models than they are hold no literal that is a delimiter. -/
theorem not_isDelimiter_of_length_flatMap_bareModels {models : List (List Text)}
    (short : (models.flatMap bareModels).length = models.length) :
    ∀ literals ∈ models, ∀ literal ∈ literals, Format.isDelimiter literal = false := by
  -- Each of them would add a model.
  intro literals member literal inside
  rw [length_flatMap_bareModels] at short
  have none := List.countP_eq_zero.mp (Nat.add_eq_left.mp short) literal
    (List.mem_flatten.mpr ⟨literals, member, inside⟩)
  simpa using none

/-- The datastore of a listing of blocks in code. -/
theorem ofText_decode_listing_code (blocks : List Text) :
    ofText (Utf8.decode (Format.code.listing blocks)) = ofModels (blocks.map blockLiterals) := by
  rw [ofText, Format.words_decode_listing, ofTokens_code]

/-- The datastore of a listing of blocks as bare literals. -/
theorem ofText_decode_listing_text (blocks : List Text) :
    ofText (Utf8.decode (Format.text.listing blocks)) =
      ofModels ((blocks.map blockLiterals).flatMap bareModels) := by
  rw [ofText, Format.words_decode_listing, ofTokens_text]

end Datastore

/-- Whatever octets a solver printed, the listing of its blocks in code records their literals. -/
theorem code_listing_records_models (solver : Solver) (octets : Bytes) :
    let blocks := solver.blocks (Utf8.decode octets)
    (Datastore.ofText (Utf8.decode (Format.code.listing blocks))).Records (blocks.map blockLiterals) := by
  -- The tokens of the listing are the literals of the blocks, each with a period.
  intro blocks
  rw [Datastore.ofText_decode_listing_code]
  exact Datastore.records_ofModels _

/--
A listing of bare literals records the models that the blocks fall into at literals that are delimiters.

These are the blocks themselves, as a listing in code records them, exactly if no literal is one.
-/
theorem text_listing_records_models_iff (blocks : List Text) :
    let models := blocks.map blockLiterals
    let datastore := Datastore.ofText (Utf8.decode (Format.text.listing blocks))
    let plain := ∀ literals ∈ models, ∀ literal ∈ literals, Format.isDelimiter literal = false
    datastore.Records (models.flatMap Datastore.bareModels) ∧
      datastore.models = blocks.length + models.flatten.countP Format.isDelimiter ∧
      (datastore.Records models ↔ plain) ∧
      (datastore = Datastore.ofText (Utf8.decode (Format.code.listing blocks)) ↔ plain) := by
  -- Everything follows from how bare literals are read, whatever they are.
  intro models datastore plain
  have bare : datastore = Datastore.ofModels (models.flatMap Datastore.bareModels) :=
    Datastore.ofText_decode_listing_text blocks
  have records : datastore.Records (models.flatMap Datastore.bareModels) :=
    bare ▸ Datastore.records_ofModels _
  have kept : plain → datastore = Datastore.ofModels models := by
    intro isPlain
    rw [bare, Datastore.flatMap_bareModels_eq_self isPlain]
  -- The number of models alone tells whether a block was split.
  have split : datastore.models = models.length → plain := by
    intro same
    exact Datastore.not_isDelimiter_of_length_flatMap_bareModels (records.count ▸ same)
  refine ⟨records, ?_, ⟨?_, ?_⟩, ⟨?_, ?_⟩⟩
  · rw [records.count, Datastore.length_flatMap_bareModels, List.length_map]
  · intro recorded
    exact split recorded.count
  · intro isPlain
    exact kept isPlain ▸ Datastore.records_ofModels models
  · intro same
    rw [Datastore.ofText_decode_listing_code] at same
    exact split (congrArg Datastore.models same)
  · intro isPlain
    rw [Datastore.ofText_decode_listing_code]
    exact kept isPlain

/-- A string constant with a delimiter between blanks ends its model early. -/
theorem quoted_delimiter_splits_model :
    let blocks := Solver.dlv.blocks "\x7bp(\"a ::endmodel b\")\x7d\n\x7bq\x7d\n".toList
    let datastore := Datastore.ofText (Utf8.decode (Format.text.listing blocks))
    blocks.length = 2 ∧ datastore.models = 3 ∧ ¬ datastore.Records (blocks.map blockLiterals) := by
  -- The number of models is wrong already.
  have blocks : (Solver.dlv.blocks "\x7bp(\"a ::endmodel b\")\x7d\n\x7bq\x7d\n".toList).length = 2 := by decide +kernel
  have models : (Datastore.ofText (Utf8.decode (Format.text.listing
      (Solver.dlv.blocks "\x7bp(\"a ::endmodel b\")\x7d\n\x7bq\x7d\n".toList)))).models = 3 := by decide +kernel
  refine ⟨blocks, models, ?_⟩
  intro records
  have same := records.count
  rw [List.length_map, blocks, models] at same
  contradiction

end AnswerQuery
