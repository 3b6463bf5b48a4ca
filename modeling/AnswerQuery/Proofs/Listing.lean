import AnswerQuery.Format
import AnswerQuery.Proofs.Text.Utf8
import AnswerQuery.Proofs.Text.Words

/-! Listings are written piece by piece, and their words are the literals and the delimiters. -/

namespace AnswerQuery

/-- Going through lists that were put together is going through one after the other. -/
theorem foldlM_flatMap {m : Type → Type} [Monad m] [LawfulMonad m] {α β σ : Type}
    (step : σ → β → m σ) (parts : α → List β) (list : List α) (state : σ) :
    (list.flatMap parts).foldlM step state =
      list.foldlM (fun state element => (parts element).foldlM step state) state := by
  -- The parts of the first element come first.
  induction list generalizing state with
  | nil => rfl
  | cons first list ih => simp [List.foldlM_cons, ih]

namespace Sink

/-- Write a text. -/
def putText (sink : Sink) (text : Text) : Except Sink Sink :=
  sink.put (Utf8.encode text)

/-- An output without a limit takes all texts, one after the other. -/
theorem foldlM_putText_unlimited (texts : List Text) (pieces : List Bytes) :
    texts.foldlM putText ⟨none, pieces⟩ =
      .ok ⟨none, (texts.map Utf8.encode).reverse ++ pieces⟩ := by
  -- Each text becomes the last piece.
  induction texts generalizing pieces with
  | nil => rfl
  | cons text texts ih =>
    have rest := ih (Utf8.encode text :: pieces)
    simp only [List.foldlM_cons, putText, put_unlimited]
    simpa [bind, Except.bind] using rest

end Sink

/-- The octets of texts that are put together. -/
theorem Utf8.encode_flatten (texts : List Text) :
    encode texts.flatten = (texts.map encode).flatten := by
  -- Texts are encoded one after the other.
  induction texts with
  | nil => rfl
  | cons text texts ih => simp [encode_append, ih]

namespace Format

/-- The pieces that a literal is written in. -/
def literalPieces (format : Format) (literal : Text) : List Text :=
  [literal, format.literalEnd]

/-- The pieces that a model is written in. -/
def modelPieces (format : Format) (literals : List Text) : List Text :=
  literals.flatMap format.literalPieces ++ [format.delimiter, ['\n']]

/-- Writing a literal is writing its pieces. -/
theorem writeLiteral_eq_foldlM (format : Format) (sink : Sink) (literal : Text) :
    format.writeLiteral sink literal = (format.literalPieces literal).foldlM Sink.putText sink := by
  -- The two pieces are written in order.
  simp [writeLiteral, literalPieces, Sink.putText]

/-- Writing a block is writing the pieces of its model. -/
theorem writeBlock_eq_foldlM (format : Format) (sink : Sink) (block : Text) :
    format.writeBlock sink block =
      (format.modelPieces (blockLiterals block)).foldlM Sink.putText sink := by
  -- The literals come first, and the delimiter line is made of two pieces.
  have literals : format.writeLiteral =
      fun sink literal => (format.literalPieces literal).foldlM Sink.putText sink := by
    funext sink literal
    exact writeLiteral_eq_foldlM format sink literal
  simp [writeBlock, modelPieces, foldlM_flatMap, literals, Sink.putText]

/-- Writing blocks is writing the pieces of all their models, up to the first that does not fit. -/
theorem writeBlocks_eq_foldlM (format : Format) (blocks : List Text) (sink : Sink) :
    format.writeBlocks blocks sink =
      (blocks.flatMap (fun block => format.modelPieces (blockLiterals block))).foldlM Sink.putText
        sink := by
  -- Blocks are written one after the other.
  rw [writeBlocks, foldlM_flatMap]
  congr 1
  funext sink block
  exact writeBlock_eq_foldlM format sink block

/-- The text of a listing of models. -/
def listingText (format : Format) (models : List (List Text)) : Text :=
  (models.flatMap format.modelPieces).flatten

/-- A listing is the octets of its text. -/
theorem listing_eq_encode (format : Format) (blocks : List Text) :
    format.listing blocks = Utf8.encode (format.listingText (blocks.map blockLiterals)) := by
  -- Every piece is written, and the contents of the output are its pieces in order.
  have written := Sink.foldlM_putText_unlimited
    (blocks.flatMap (fun block => format.modelPieces (blockLiterals block))) []
  simp only [listing, writeBlocks_eq_foldlM, Sink.empty, written]
  simp [Sink.contents, listingText, Utf8.encode_flatten, List.flatMap_map]

/-- What stands between a literal and the end of its line. -/
def literalMark : Format → Text
  | text => []
  | code => ['.']

/-- The mark and a line feed end a literal. -/
theorem literalEnd_eq (format : Format) : format.literalEnd = format.literalMark ++ ['\n'] := by
  cases format <;> rfl

/-- A literal with its mark is a word. -/
theorem isWord_append_literalMark (format : Format) {literal : Text} (isWord : IsWord literal) :
    IsWord (literal ++ format.literalMark) := by
  -- A period is no blank.
  apply isWord.append
  cases format with
  | text => simp [literalMark]
  | code =>
    have solid : isBlank '.' = false := by decide
    simpa [literalMark] using solid

/-- A delimiter is a word. -/
theorem isWord_delimiter (format : Format) : IsWord format.delimiter := by
  cases format <;> decide

/-- The tokens of a listing: the marked literals of each model and its delimiter. -/
def tokens (format : Format) (models : List (List Text)) : List Text :=
  models.flatMap fun literals => literals.map (· ++ format.literalMark) ++ [format.delimiter]

/-- The words of listed literals are the literals with their marks. -/
theorem words_literals_append (format : Format) {literals : List Text}
    (areWords : ∀ literal ∈ literals, IsWord literal) (rest : Text) :
    words ((literals.flatMap format.literalPieces).flatten ++ rest) =
      literals.map (· ++ format.literalMark) ++ words rest := by
  -- A line feed ends each of them.
  induction literals with
  | nil => rfl
  | cons literal literals ih =>
    rw [List.forall_mem_cons] at areWords
    have later := ih areWords.2
    have blank : isBlank '\n' = true := by decide
    have first := words_append_of_isWord (isWord_append_literalMark format areWords.1) blank
    simp only [List.flatMap_cons, literalPieces, literalEnd_eq, List.flatten_cons, List.map_cons,
      List.append_assoc, List.cons_append, List.nil_append]
    rw [← List.append_assoc literal, first]
    exact congrArg (_ :: ·) later

/-- The words of a listing are its tokens. -/
theorem words_listingText (format : Format) {models : List (List Text)}
    (areWords : ∀ literals ∈ models, ∀ literal ∈ literals, IsWord literal) :
    words (format.listingText models) = format.tokens models := by
  -- The literals of a model and its delimiter end where the next model begins.
  induction models with
  | nil => simp [listingText, tokens]
  | cons literals models ih =>
    rw [List.forall_mem_cons] at areWords
    have later := ih areWords.2
    have blank : isBlank '\n' = true := by decide
    have closed := words_append_of_isWord (isWord_delimiter format) blank
    simp only [listingText, tokens] at later
    simp only [listingText, tokens, List.flatMap_cons, modelPieces, List.flatten_append, List.flatten_cons,
      List.append_assoc, List.cons_append, List.nil_append]
    rw [words_literals_append format areWords.1, closed, ← later]

/-- The words of the listing of blocks are the tokens of the literals in them. -/
theorem words_decode_listing (format : Format) (blocks : List Text) :
    words (Utf8.decode (format.listing blocks)) = format.tokens (blocks.map blockLiterals) := by
  -- A listing is read back as its text, and the literals of blocks are words.
  rw [listing_eq_encode, Utf8.decode_encode, words_listingText]
  intro literals member literal inside
  obtain ⟨block, _, rfl⟩ := List.mem_map.mp member
  exact (isToken_of_mem_blockLiterals inside).toIsWord

end Format

end AnswerQuery
