import AnswerQuery.Text.Basic

/-! Stages and pipelines: programs with arguments, each reading what the one before it writes. Shown as shell commands,
their words are quoted where a shell would take them for something else. -/

namespace AnswerQuery

/-- Whether a shell takes a character for itself. -/
def isPlain (c : Char) : Bool :=
  c.isAlphanum || "-_./=:,+%@".toList.contains c

/-- The characters of a quoted word; a quote is written outside the quotes, behind a backslash. -/
def quoteBody : Text → Text
  | [] => []
  | c :: rest => if c == '\'' then "'\\''".toList ++ quoteBody rest else c :: quoteBody rest

/-- A word as a shell reads it: bare if it is not empty and all plain, in quotes otherwise. -/
def shellWord (word : Text) : Text :=
  if !word.isEmpty && word.all isPlain then word else '\'' :: quoteBody word ++ ['\'']

/-- The body of no characters is empty. -/
@[simp] theorem quoteBody_nil : quoteBody [] = [] := rfl

/-- A program to be run and its arguments. -/
structure Stage where
  /-- The name or path of the program. -/
  program : Text
  /-- Its arguments. -/
  arguments : List Text := []
  deriving DecidableEq, Repr

/-- A stage with one argument more. -/
def Stage.withArgument (stage : Stage) (argument : Text) : Stage :=
  { stage with arguments := stage.arguments ++ [argument] }

/-- A stage as a shell command. -/
def Stage.shellForm (stage : Stage) : Text :=
  [' '].intercalate ((stage.program :: stage.arguments).map shellWord)

/-- Stages connected by pipes, the last of which may write to a file. -/
structure Pipeline where
  /-- The stages, from the first reader to the last writer. -/
  stages : List Stage := []
  /-- The file that is overwritten with what the last stage writes. -/
  output : Option Text := none
  deriving DecidableEq, Repr

/-- A pipeline with one stage more at its end. -/
def Pipeline.followedBy (pipeline : Pipeline) (stage : Stage) : Pipeline :=
  { pipeline with stages := pipeline.stages ++ [stage] }

/-- A pipeline that writes to a file. -/
def Pipeline.writingTo (pipeline : Pipeline) (path : Text) : Pipeline :=
  { pipeline with output := some path }

/-- A pipeline as a shell command. -/
def Pipeline.shellForm (pipeline : Pipeline) : Text :=
  " | ".toList.intercalate (pipeline.stages.map Stage.shellForm) ++
    (match pipeline.output with
    | some path => " > ".toList ++ shellWord path
    | none => [])

/-- Where a pipeline writes changes nothing about its stages. -/
@[simp] theorem Pipeline.stages_writingTo (pipeline : Pipeline) (path : Text) :
    (pipeline.writingTo path).stages = pipeline.stages := rfl

/-- The stages of a longer pipeline. -/
@[simp] theorem Pipeline.stages_followedBy (pipeline : Pipeline) (stage : Stage) :
    (pipeline.followedBy stage).stages = pipeline.stages ++ [stage] := rfl

end AnswerQuery
