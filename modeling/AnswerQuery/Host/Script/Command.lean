import AnswerQuery.Host.Octets

/-! Commands of shell scripts and the words they are made of, as they are read and before anything is replaced. -/

namespace AnswerQuery.Host.Script

/-- A dialect of shell scripts. -/
inductive Dialect where
  /-- What shells have in common. -/
  | plain
  /-- One with lists, with conditions in double brackets, and with formulas as commands. -/
  | rich
  deriving DecidableEq, Repr

/-- What is done with a parameter. -/
inductive Treatment where
  /-- There is no such thing. -/
  | unknown
  /-- Its value is taken. -/
  | value
  /-- A word stands for a missing value. -/
  | default
  /-- A word stands for a value. -/
  | instead
  /-- A missing value is an error. -/
  | required
  /-- A word stands for a missing value and becomes the value. -/
  | assigned
  /-- What fits a pattern is cut off at the end. -/
  | cutEnd (longest : Bool)
  /-- What fits a pattern is cut off at the front. -/
  | cutFront (longest : Bool)
  /-- Its length is taken. -/
  | length
  deriving DecidableEq, Repr

/-- How a descriptor is redirected. -/
inductive Way where
  /-- To a file that is read. -/
  | input
  /-- To a file that is emptied and written. -/
  | output
  /-- To a file that is emptied and written, even if that is not usual. -/
  | force
  /-- To a file that is written at its end. -/
  | append
  /-- To a file that is read and written. -/
  | update
  /-- To what another descriptor stands for; a minus closes the descriptor. -/
  | same
  /-- To the document of a number, which may be expanded. -/
  | document (number : Nat) (expands : Bool)
  /-- To a line that a word makes. -/
  | line
  deriving DecidableEq, Repr

/-- Where something in a text is replaced. -/
inductive Spot where
  | first
  | everywhere
  | atFront
  | atEnd
  deriving DecidableEq, Repr

/-- How letters are changed. -/
inductive Lettering where
  | upper
  | lower
  | other
  deriving DecidableEq, Repr

/-- What follows an arm of a choice. -/
inductive Sequel where
  /-- What follows the choice. -/
  | leaves
  /-- The next arm, whatever its patterns are. -/
  | falls
  /-- The next arm with a pattern that fits. -/
  | goesOn
  deriving DecidableEq, Repr

mutual

/-- A piece of a word. -/
inductive Piece where
  /-- A character. -/
  | plain (c : Char)
  /-- A character that stands for itself. -/
  | escaped (c : Char)
  /-- Quotes begin or end. -/
  | mark
  /-- A parameter; unless its value is all that is wanted, a word follows. -/
  | parameter (name : Raw) (treatment : Treatment) (nullToo : Bool)
  /-- The word of a parameter ends. -/
  | close
  /-- What a command writes. -/
  | command (body : Command)
  /-- A formula begins. -/
  | formula
  /-- A formula ends. -/
  | closeFormula
  /-- A parameter that is looked at more closely. -/
  | reference (reference : Reference)
  /-- The elements of a list. -/
  | elements (words : List (List Piece))
  /-- The path of a pipe that a command reads from, or writes to. -/
  | channel (reads : Bool) (body : Command)

/-- What is done with the values of a parameter, or with the parameter itself. -/
inductive Operation where
  /-- The values are taken. -/
  | values
  /-- The length of the value is taken, or the number of the values. -/
  | length
  /-- The places of the values are taken. -/
  | places
  /-- The names of all variables that begin so are taken. -/
  | names
  /-- A word stands for a value, or for a missing one. -/
  | substituted (treatment : Treatment) (nullToo : Bool) (word : List Piece)
  /-- What fits a pattern is cut off. -/
  | cut (treatment : Treatment) (pattern : List Piece)
  /-- A part is taken from a place on. -/
  | slice (start : List Piece) (count : Option (List Piece))
  /-- What fits a pattern is replaced. -/
  | replaced (spot : Spot) (pattern replacement : List Piece)
  /-- The letters that fit a pattern are changed. -/
  | relettered (lettering : Lettering) (everywhere : Bool) (pattern : List Piece)
  /-- The value is shown in a way that has a letter. -/
  | shown (letter : Char)
  /-- There is no such thing as is written. -/
  | unknown (text : Raw)

/-- A parameter, of which a part may be meant, and which may only tell the name of the one that is meant. -/
inductive Reference where
  | mk (name : Raw) (part : Option (List Piece)) (indirect : Bool) (operation : Operation)

/-- A condition in double brackets. -/
inductive Decision where
  /-- An operator tests what follows it. -/
  | single (operator : Raw) (operand : List Piece)
  /-- An operator tests what it stands between. -/
  | double (operator : Raw) (first second : List Piece)
  | negated (body : Decision)
  | both (first second : Decision)
  | either (first second : Decision)

/-- A redirection of a descriptor. -/
inductive Redirection where
  | mk (descriptor : Nat) (way : Way) (word : List Piece)

/-- An arm of a choice: patterns, what is done, and what follows then. -/
inductive Arm where
  | mk (patterns : List (List Piece)) (body : Command) (sequel : Sequel)

/-- A command, with the line it is on where that matters. -/
inductive Command where
  /-- Nothing is done. -/
  | nothing
  /-- Variables are set, and a program is run if there is a word left. -/
  | simple (line : Nat) (settings words : List (List Piece)) (redirections : List Redirection)
  /-- What each command writes, the next one reads; they may not be waited for. -/
  | pipeline (awaited : Bool) (commands : List Command)
  /-- The redirections hold for all of the command. -/
  | redirected (line : Nat) (body : Command) (redirections : List Redirection)
  /-- The command is run in a process of its own. -/
  | subshell (line : Nat) (body : Command) (redirections : List Redirection)
  /-- The command is run in a process of its own that is not waited for. -/
  | background (line : Nat) (body : Command) (redirections : List Redirection)
  /-- The second follows if the first succeeds. -/
  | both (first second : Command)
  /-- The second follows if the first fails. -/
  | either (first second : Command)
  /-- The second follows the first. -/
  | sequence (first second : Command)
  /-- A test decides which of two follows; the second may be missing. -/
  | conditional (test body : Command) (otherwise : Option Command)
  /-- The body is repeated while the test succeeds, or until it does. -/
  | repeated (untilSuccess : Bool) (test body : Command)
  /-- The body is repeated for each of some words. -/
  | each (line : Nat) (name : Raw) (words : List (List Piece)) (body : Command)
  /-- The first arm with a pattern that the word fits is taken. -/
  | choice (line : Nat) (word : List Piece) (arms : List Arm)
  /-- A function is defined. -/
  | definition (line : Nat) (name : Raw) (body : Command)
  /-- The status is turned round. -/
  | negated (body : Command)
  /-- A condition decides on the status. -/
  | decision (line : Nat) (condition : Decision)
  /-- The value of a formula decides on the status. -/
  | calculation (line : Nat) (formula : List Piece)
  /-- The body is repeated while the value of a formula is not zero; one formula is calculated first, and one after each
  round. -/
  | counted (line : Nat) (start test step : List Piece) (body : Command)

end

instance : Inhabited Command := ⟨.nothing⟩

/-- A word as it is written. -/
abbrev Word := List Piece

namespace Word

/-- The text of a word in which nothing is special. -/
def plainText? : Word → Option Raw
  | [] => some []
  | .plain c :: rest => (plainText? rest).map (c :: ·)
  | _ :: _ => none

/-- The characters of a word without its quotes. -/
def unquoted (word : Word) : Raw :=
  word.filterMap fun piece => match piece with
    | .plain c => some c
    | .escaped c => some c
    | _ => none

/-- The characters at the front of a word that are not special. -/
def front : Word → Raw
  | .plain c :: rest => c :: front rest
  | _ => []

/-- The pieces up to a closing bracket, given how many brackets have begun inside of them, and what follows it. -/
def inBrackets : Nat → Word → Option (Word × Word)
  | _, [] => none
  | 0, .plain ']' :: rest => some ([], rest)
  | depth, piece :: rest =>
    let depth := match piece with
      | .plain '[' => depth + 1
      | .plain ']' => depth - 1
      | _ => depth
    (inBrackets depth rest).map fun (inside, after) => (piece :: inside, after)

end Word

/-- A word that sets a variable, taken apart. -/
structure Assignment where
  /-- The name of the variable. -/
  name : Raw
  /-- Which element of it is set, if only one is. -/
  part : Option Word := none
  /-- Whether the value is added to the one before. -/
  appends : Bool := false
  /-- The value. -/
  value : Word

namespace Word

/-- What a word sets, if it sets a variable. -/
def assignment? (dialect : Dialect) (word : Word) : Option Assignment :=
  let characters := front word
  let name := characters.takeWhile Raw.inName
  let rest := word.drop name.length
  if !Raw.isName name then none
  else match dialect, rest with
    | _, .plain '=' :: value => some { name, value }
    | .rich, .plain '+' :: .plain '=' :: value => some { name, appends := true, value }
    | .rich, .plain '[' :: rest =>
      match inBrackets 0 rest with
      | some (part, .plain '=' :: value) => if part.isEmpty then none else some { name, part := some part, value }
      | some (part, .plain '+' :: .plain '=' :: value) =>
        if part.isEmpty then none else some { name, part := some part, appends := true, value }
      | _ => none
    | _, _ => none

/-- Whether a word sets a variable. -/
def isSetting (dialect : Dialect) (word : Word) : Bool :=
  (assignment? dialect word).isSome

/-- A text as a word. -/
def ofPlain (text : Raw) : Word :=
  text.map Piece.plain

/-- A word as it may have been written. -/
def written (word : Word) : Raw :=
  word.flatMap fun piece => match piece with
    | .plain c => [c]
    | .escaped c => [c]
    | .mark => ['"']
    | .parameter name .value _ => '$' :: name
    | .parameter name _ _ => "$\x7b".toList ++ name
    | .reference (.mk name _ _ _) => "$\x7b".toList ++ name
    | .close => ['\x7d']
    | .command _ => "$()".toList
    | .formula => "$((".toList
    | .closeFormula => "))".toList
    | _ => []

/-- All arguments, each a word of its own. -/
def allArguments : Word :=
  [.mark, .parameter ['@'] .value false, .mark]

end Word

end AnswerQuery.Host.Script
