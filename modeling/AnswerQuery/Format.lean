import AnswerQuery.Sink
import AnswerQuery.Text.Basic

/-! Listings of models: the literals of a block, one a line, and a delimiter line after each model. -/

namespace AnswerQuery

/-- The literals of a block as they were written, in order and without the commas that follow them. -/
def blockLiterals (block : Text) : List Text :=
  -- A word of commas only is no literal.
  ((words block).map (dropTrailing (· == ','))).filter (fun literal => !literal.isEmpty)

/-- A block without characters holds no literals. -/
@[simp] theorem blockLiterals_nil : blockLiterals [] = [] := by
  -- It has no words.
  simp [blockLiterals]

/-- How the models are listed. -/
inductive Format where
  /-- Bare literals. -/
  | text
  /-- Literals as facts of a logic program. -/
  | code
  deriving DecidableEq, Repr

namespace Format

/-- Every format. -/
def all : List Format := [text, code]

/-- The name of a format. -/
def name : Format → Text
  | text => "text".toList
  | code => "code".toList

/-- The line that ends a model. -/
def delimiter : Format → Text
  | text => "::endmodel".toList
  | code => "%%endmodel".toList

/-- What follows each literal, its line ending included. -/
def literalEnd : Format → Text
  | text => "\n".toList
  | code => ".\n".toList

/-- Whether a token is the delimiter of some format. -/
def isDelimiter (token : Text) : Bool :=
  all.any (fun format => format.delimiter == token)

/-- Write a literal and what follows it. -/
def writeLiteral (format : Format) (sink : Sink) (literal : Text) : Except Sink Sink := do
  let sink ← sink.put (Utf8.encode literal)
  sink.put (Utf8.encode format.literalEnd)

/-- Write the literals of a block and the delimiter line. -/
def writeBlock (format : Format) (sink : Sink) (block : Text) : Except Sink Sink := do
  let sink ← (blockLiterals block).foldlM format.writeLiteral sink
  let sink ← sink.put (Utf8.encode format.delimiter)
  sink.put (Utf8.encode "\n".toList)

/-- Write blocks one after the other, up to the first piece that does not fit. -/
def writeBlocks (format : Format) (blocks : List Text) (sink : Sink) : Except Sink Sink :=
  blocks.foldlM format.writeBlock sink

/-- The octets written for blocks when there is room for all of them. -/
def listing (format : Format) (blocks : List Text) : Bytes :=
  -- Without a limit there is no error, and an output handed back as one would say the same.
  match format.writeBlocks blocks (.empty none) with
  | .ok sink => sink.contents
  | .error sink => sink.contents

/-- The error of an output that cannot take a piece whole. -/
def noRoomMessage : Text := "failed to write whole buffer".toList

/-- Every format's own delimiter is a delimiter. -/
@[simp] theorem isDelimiter_delimiter (format : Format) : isDelimiter format.delimiter = true := by
  cases format <;> decide

end Format

end AnswerQuery
