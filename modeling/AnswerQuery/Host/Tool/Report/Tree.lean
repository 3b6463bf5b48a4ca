import AnswerQuery.Host.Tool.Report.Pattern
import AnswerQuery.Host.Tool.Report.Cell

/-! Scripts of reports: rules that say what is done about which records. -/

namespace AnswerQuery.Host.Tool.Report

/-- What a name stands for. -/
inductive Name where
  /-- Something that all of the script shares. -/
  | shared (index : Nat)
  /-- Something that a function has for itself. -/
  | own (index : Nat)
  deriving DecidableEq, Repr

/-- A way to reckon. -/
inductive Arithmetic where
  | add
  | subtract
  | multiply
  | divide
  | remainder
  | power
  deriving DecidableEq, Repr

/-- A way to compare. -/
inductive Comparison where
  | equal
  | different
  | less
  | lessEqual
  | greater
  | greaterEqual
  deriving DecidableEq, Repr

/-- What the names of functions stand for that all scripts have. -/
inductive Builtin where
  | length
  | substring
  | index
  | match_
  | format
  | sine
  | cosine
  | arcTangent
  | exponential
  | logarithm
  | root
  | integral
  | random
  | seed
  | lower
  | upper
  | system
  | close
  | flush
  | now
  | formatTime
  | makeTime
  deriving DecidableEq, Repr

mutual

/-- Where a value can be put. -/
inductive Target where
  | variable (name : Name)
  | field (index : Formula)
  | element (table : Name) (keys : List Formula)

/-- A formula. -/
inductive Formula where
  | cell (cell : Cell)
  /-- Whether the record fits a pattern; where a pattern is wanted, the pattern itself. -/
  | pattern (matcher : Matcher)
  | get (target : Target)
  /-- Put a value somewhere, reckoned with what was there. -/
  | put (operation : Option Arithmetic) (target : Target) (value : Formula)
  /-- Count something up or down; the value is the one before or behind that. -/
  | step (operation : Arithmetic) (before : Bool) (target : Target)
  | reckon (operation : Arithmetic) (first second : Formula)
  | negative (formula : Formula)
  | positive (formula : Formula)
  | opposite (formula : Formula)
  | compare (comparison : Comparison) (first second : Formula)
  | fits (wanted : Bool) (text pattern : Formula)
  | both (first second : Formula)
  | either (first second : Formula)
  | choose (condition yes no : Formula)
  | joined (first second : Formula)
  | within (keys : List Formula) (table : Name)
  | builtin (builtin : Builtin) (arguments : List Formula)
  | split (text : Formula) (table : Name) (separator : Option Formula)
  /-- Replace matches of a pattern, the first one or all. -/
  | substitute (all : Bool) (pattern replacement : Formula) (target : Target)
  | call (function : Nat) (arguments : List Formula)
  /-- Read the next record. -/
  | nextRecord (target : Option Target)
  | readFile (path : Formula) (target : Option Target)
  | readCommand (command : Formula) (target : Option Target)

end

/-- Where something is written. -/
inductive Outlet where
  | file
  /-- Behind what is there. -/
  | longerFile
  | command
  deriving DecidableEq, Repr

/-- A statement. -/
inductive Statement where
  | nothing
  | reckon (formula : Formula)
  | print (formatted : Bool) (arguments : List Formula) (outlet : Option (Outlet × Formula))
  | when_ (condition : Formula) (yes no : Statement)
  | while_ (condition : Formula) (body : Statement)
  | doWhile (body : Statement) (condition : Formula)
  | for_ (start condition step : Option Formula) (body : Statement)
  | visit (name : Name) (table : Name) (body : Statement)
  | erase (table : Name) (keys : List Formula)
  | clear (table : Name)
  | next
  | nextFile
  | exit (status : Option Formula)
  | return_ (value : Option Formula)
  | break_
  | continue_
  | both (first second : Statement)

/-- When a rule is followed. -/
inductive Occasion where
  /-- Before the records. -/
  | first
  /-- After the records. -/
  | last
  /-- For each record. -/
  | always
  | when_ (condition : Formula)
  /-- From a record to another one; the number tells such rules apart. -/
  | between (number : Nat) (start stop : Formula)

/-- A rule. -/
structure Rule where
  /-- When it is followed. -/
  occasion : Occasion
  /-- What is done. -/
  body : Statement

/-- A function. -/
structure Function where
  /-- Its name. -/
  name : Raw
  /-- How many parameters it has. -/
  arity : Nat := 0
  /-- What is done, if it has been told. -/
  body : Option Statement := none

/-- A script. -/
structure Script where
  /-- The rules, in order. -/
  rules : List Rule
  /-- The functions. -/
  functions : Array Function
  /-- The shared names and their numbers. -/
  names : List (Raw × Nat)

namespace Shared

/-- The names that have a meaning of their own, in the order of their numbers. -/
def known : List String :=
  ["NF", "NR", "FNR", "FS", "OFS", "ORS", "RS", "SUBSEP", "CONVFMT", "OFMT", "RSTART", "RLENGTH", "FILENAME", "ARGC",
    "ARGV", "ENVIRON"]

/-- The number of fields. -/
def fieldCount : Nat := 0
/-- The number of records. -/
def recordCount : Nat := 1
/-- The number of records of a file. -/
def fileRecordCount : Nat := 2
/-- What separates fields. -/
def fieldSeparator : Nat := 3
/-- What is written between values. -/
def outputSeparator : Nat := 4
/-- What is written behind values. -/
def outputEnd : Nat := 5
/-- What separates records. -/
def recordSeparator : Nat := 6
/-- What stands between the keys of an element. -/
def keySeparator : Nat := 7
/-- How numbers become texts. -/
def numberFormat : Nat := 8
/-- How numbers are written. -/
def outputFormat : Nat := 9
/-- Where a match begins. -/
def matchStart : Nat := 10
/-- How long a match is. -/
def matchLength : Nat := 11
/-- What the file is called. -/
def fileName : Nat := 12
/-- How many arguments there are. -/
def argumentCount : Nat := 13
/-- The arguments. -/
def arguments : Nat := 14
/-- The environment variables. -/
def environment : Nat := 15

end Shared

end AnswerQuery.Host.Tool.Report
