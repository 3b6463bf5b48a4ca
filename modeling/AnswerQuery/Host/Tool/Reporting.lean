import AnswerQuery.Host.Tool.Report.Evaluation
import AnswerQuery.Host.Tool.Report.Grammar

/-! Reporting on the records of files as a script tells. -/

namespace AnswerQuery.Host.Tool

namespace Report

/-- What the arguments ask for. -/
structure Order where
  /-- What is put into variables before anything else, in order. -/
  assignments : List (Raw × Raw) := []
  /-- The files that the script is in. -/
  files : List Raw := []
  /-- What follows the options. -/
  operands : List Raw := []

/-- How the program is used. -/
def usage : Raw :=
  ("Usage: mawk [Options] [Program] [file ...]\n\nProgram:\n" ++
    "    The -f option value is the name of a file containing program text.\n" ++
    "    If no -f option is given, a \"--\" ends option processing; the following\n" ++
    "    parameters are the program text.\n\nOptions:\n" ++
    "    -f program-file  Program  text is read from file instead of from the\n" ++
    "                     command-line.  Multiple -f options are accepted.\n" ++
    "    -F value         sets the field separator, FS, to value.\n" ++
    "    -v var=value     assigns value to program variable var.\n" ++
    "    --               unambiguous end of options.\n\n" ++
    "    Implementation-specific options are prefixed with \"-W\".  They can be\n" ++
    "    abbreviated:\n\n" ++
    "    -W version       show version information and exit.\n" ++
    "    -W dump          show assembler-like listing of program and exit.\n" ++
    "    -W help          show this message and exit.\n" ++
    "    -W interactive   set unbuffered output, line-buffered input.\n" ++
    "    -W exec file     use file as program as well as last option.\n" ++
    "    -W random=number set initial random seed.\n" ++
    "    -W sprintf=number adjust size of sprintf buffer.\n" ++
    "    -W posix_space   do not consider \"\\n\" a space.\n" ++
    "    -W usage         show this message and exit.\n").toList

/-- The words of options. -/
def optionWords : List String :=
  ["version", "dump", "help", "interactive", "exec", "random", "sprintf", "posix_space", "usage"]

/-- Tell how the program is used, and end. -/
def explain {α : Type} : Act α := do
  Act.report usage
  Act.finish 0

/-- Do what a word asks for; the result tells whether it is known. -/
def obey (word : Raw) : Act Bool := do
  let name := word.takeWhile (· != '=')
  match optionWords.find? fun known => name.isPrefixOf known.toList && !name.isEmpty with
  | some "version" => do
    Act.say "mawk 1.3.4 20200120\n".toList
    Act.finish 0
  | some "help" => explain
  | some "usage" => explain
  | some _ => pure true
  | none => pure false

/-- Read the options. -/
def readOrder : Nat → List Raw → Act Order
  | 0, _ => pure {}
  | steps + 1, arguments => do
    -- An argument that stands in the option, or else the one behind it.
    let argued := fun (letter : Char) (rest : Raw) (others : List Raw) => do
      match rest, others with
      | [], [] => Act.die 2 ("option -".toList ++ letter :: " lacks argument".toList)
      | [], argument :: others => pure (argument, others)
      | rest, others => pure (rest, others)
    match arguments with
    | ['-', '-'] :: operands => pure { operands }
    | ('-' :: 'F' :: rest) :: others => do
      let (value, others) ← argued 'F' rest others
      let order ← readOrder steps others
      pure { order with assignments := ("FS".toList, value) :: order.assignments }
    | ('-' :: 'v' :: rest) :: others => do
      let (value, others) ← argued 'v' rest others
      match Work.assignment? value with
      | none => Act.die 2 ("improper assignment: -v ".toList ++ value)
      | some assignment => do
        let order ← readOrder steps others
        pure { order with assignments := assignment :: order.assignments }
    | ('-' :: 'f' :: rest) :: others => do
      let (file, others) ← argued 'f' rest others
      let order ← readOrder steps others
      pure { order with files := file :: order.files }
    | ('-' :: 'W' :: rest) :: others => do
      let (word, others) ← argued 'W' rest others
      if !(← obey word) then Act.complain ("vacuous option: -W ".toList ++ word)
      readOrder steps others
    | ('-' :: letter :: rest) :: _ => Act.die 2 ("not an option: -".toList ++ letter :: rest)
    | operands => pure { operands }

/-- What is in a file that a script is in. -/
def contents (file : Raw) : Act Raw := do
  let opened : Except OsError Source ← Source.openAt file 4096
  match opened with
  | .error reason => Act.die 2 ("cannot open ".toList ++ file ++ " (".toList ++ reason.description ++ [')'])
  | .ok source => do
    let source ← Work.readOn source
    if let some reason := source.failure then Act.die 2 ("read error (".toList ++ reason.description ++ [')'])
    source.close
    pure (source.rest ++ if source.rest.getLast? == some '\n' then [] else ['\n'])

/-- The names that arguments put values into, and those of options. -/
def namesGiven (order : Order) : List Raw :=
  (order.assignments.map fun assignment => assignment.1) ++
    order.operands.filterMap fun operand => (Work.assignment? operand).map fun assignment => assignment.1

/-- What the shared names hold at the beginning. -/
def startCell (index : Nat) : Cell :=
  let texts := [(Shared.fieldSeparator, " "), (Shared.outputSeparator, " "), (Shared.outputEnd, "\n"),
    (Shared.recordSeparator, "\n"), (Shared.keySeparator, "\x1c"), (Shared.numberFormat, "%.6g"),
    (Shared.outputFormat, "%.6g")]
  let numbers := [Shared.recordCount, Shared.fileRecordCount, Shared.matchStart]
  match texts.lookup index with
  | some text => .text text.toList
  | none => if numbers.contains index then .number 0.0 else if index = Shared.matchLength then .number (-1.0) else .blank

/-- A table of texts under keys. -/
def tableOf (pairs : List (Key × Raw)) : Table :=
  pairs.foldl (fun table pair => table.put pair.1 (.told pair.2)) .nothing

/-- The state at the beginning. -/
def startState (script : Script) (arguments : List Raw) (bindings : List (Raw × Raw)) : State :=
  let own := tableOf (arguments.zipIdx.map fun (argument, index) => (.whole (Int.ofNat index), argument))
  let outer := tableOf (bindings.map fun (name, value) => (.text name, value))
  let slots := (List.range script.names.length).map fun index =>
    if index = Shared.arguments then Slot.table 0
    else if index = Shared.environment then Slot.table 1
    else if index = Shared.argumentCount then Slot.cell (.ofNat arguments.length)
    else Slot.cell (startCell index)
  { functions := script.functions, names := script.names, shared := slots.toArray, tables := #[own, outer] }

/-- Refuse to begin with a separator that makes no sense. -/
def checkSeparator (name value : Raw) : Work Unit := do
  let text := Escaped.replaced value
  if name == "FS".toList && 1 < text.length then
    if let .error message := Pattern.read text then
      Work.act (Act.die 2
        ("line 0: regular expression compile failed (".toList ++ message.toList ++ ")\n".toList ++ text))

/-- The complaint about an output that cannot be written, before the end or at it. -/
def complaintAbout (isEarly : Bool) (reason : OsError) : Raw :=
  let front := if isEarly then "write failure (".toList ++ reason.description ++ ")\nawk: ".toList else []
  front ++ "close failed on file /dev/stdout (".toList ++ reason.description ++ [')']

end Report

/-- Report on records. -/
def report : Utility := ofAct fun arguments => do
  modify fun output => { output with complaint := Report.complaintAbout true, outputStatus := 2 }
  if arguments.isEmpty then Report.explain
  let order ← Report.readOrder (arguments.length + 1) arguments
  let files ← order.files.mapM fun file => do
    let text ← Report.contents file
    pure (file, text)
  let names := Report.namesGiven order
  let (read, operands) ← match files, order.operands with
    | (file, text) :: others, operands => pure (Report.Script.read names text (some file) others, operands)
    | [], text :: operands => pure (Report.Script.read names (text ++ ['\n']) none [], operands)
    | [], [] => Report.explain
  match read with
  | .error complaints => do
    for complaint in complaints do
      Act.complain complaint
    Act.finish 2
  | .ok script => do
    let output ← get
    let bindings ← Act.bindings
    let work : Report.Work Unit := do
      for (name, value) in order.assignments do
        Report.checkSeparator name value
        Report.Work.assign name value
      Report.Work.run script.rules
    let (_, state) ← StateT.run (ExceptT.run work) (Report.startState script (output.name :: operands) bindings)
    Act.fail state.status
    modify fun output => { output with complaint := Report.complaintAbout false }

/-- The programs of this kind. -/
def reportingTools : List (String × Utility) :=
  [("mawk", report)]

end AnswerQuery.Host.Tool
