import AnswerQuery.Installation
import AnswerQuery.Stage

/-! The Prolog interpreters that can consult a datastore, how they are started, and the goal that has them consult files. -/

namespace AnswerQuery

/-- The characters of a quoted atom: a backslash becomes a slash, and a quote is doubled. -/
def atomBody : Text → Text
  | [] => []
  | c :: rest =>
    if c == '\\' then '/' :: atomBody rest
    else if c == '\'' then '\'' :: '\'' :: atomBody rest
    else c :: atomBody rest

/-- A file name as a quoted atom. -/
def fileAtom (name : Text) : Text :=
  '\'' :: atomBody name ++ ['\'']

/-- The goal that consults files, in order. -/
def consultationGoal (files : List Text) : Text :=
  '[' :: [','].intercalate (files.map fileAtom) ++ "].".toList

/-- The body of no characters is empty. -/
@[simp] theorem atomBody_nil : atomBody [] = [] := rfl

/-- A supported Prolog interpreter. -/
inductive Interpreter where
  | sicstus
  | swi
  deriving DecidableEq, Repr

namespace Interpreter

/-- Every interpreter. -/
def all : List Interpreter := [sicstus, swi]

/-- The name an interpreter is chosen by. -/
def name : Interpreter → Text
  | sicstus => "sic".toList
  | swi => "swi".toList

/-- The interpreter of a name, written exactly so. -/
def ofName? (name : Text) : Option Interpreter :=
  all.find? (fun interpreter => interpreter.name == name)

/-- The executable of an interpreter, which for one of them depends on the platform. -/
def program : Interpreter → Platform → Text
  | sicstus, _ => "sicstus".toList
  | swi, .unix => "swipl".toList
  | swi, .windows => "plcon".toList

/-- The option in front of the goal to begin with. -/
def goalOption : Interpreter → Text
  | sicstus => "--goal".toList
  | swi => "-g".toList

/-- The call that starts an interpreter and has it consult files. -/
def consulting (interpreter : Interpreter) (platform : Platform) (files : List Text) : Stage :=
  ((Stage.mk (interpreter.program platform) []).withArgument interpreter.goalOption).withArgument
    (consultationGoal files)

/-- An interpreter is found by its own name, and by no other. -/
theorem ofName?_eq_some_iff {name : Text} {interpreter : Interpreter} :
    ofName? name = some interpreter ↔ interpreter.name = name := by
  -- The two names differ.
  constructor
  · intro found
    have same := List.find?_some found
    simpa using same
  · rintro rfl
    cases interpreter <;> decide

end Interpreter

end AnswerQuery
