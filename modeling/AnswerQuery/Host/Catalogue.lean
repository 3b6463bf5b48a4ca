import AnswerQuery.CommandLine.Extract
import AnswerQuery.CommandLine.Prep
import AnswerQuery.Host.Machine
import AnswerQuery.Host.Script.Invocation
import AnswerQuery.Host.Tool.Arguments
import AnswerQuery.Host.Tool.Backwards
import AnswerQuery.Host.Tool.Batches
import AnswerQuery.Host.Tool.Beside
import AnswerQuery.Host.Tool.Blocks
import AnswerQuery.Host.Tool.Bundling
import AnswerQuery.Host.Tool.Clock
import AnswerQuery.Host.Tool.Comparing
import AnswerQuery.Host.Tool.Copy
import AnswerQuery.Host.Tool.Count
import AnswerQuery.Host.Tool.Digesting
import AnswerQuery.Host.Tool.Dump
import AnswerQuery.Host.Tool.Editing
import AnswerQuery.Host.Tool.Encoding
import AnswerQuery.Host.Tool.Factors
import AnswerQuery.Host.Tool.Filling
import AnswerQuery.Host.Tool.Finding
import AnswerQuery.Host.Tool.Group
import AnswerQuery.Host.Tool.Installing
import AnswerQuery.Host.Tool.Judging
import AnswerQuery.Host.Tool.Keywords
import AnswerQuery.Host.Tool.Launching
import AnswerQuery.Host.Tool.Making
import AnswerQuery.Host.Tool.Moving
import AnswerQuery.Host.Tool.Numbering
import AnswerQuery.Host.Tool.Pages
import AnswerQuery.Host.Tool.Path
import AnswerQuery.Host.Tool.Precedence
import AnswerQuery.Host.Tool.Print
import AnswerQuery.Host.Tool.Reconciling
import AnswerQuery.Host.Tool.Removing
import AnswerQuery.Host.Tool.Reporting
import AnswerQuery.Host.Tool.Sameness
import AnswerQuery.Host.Tool.Search
import AnswerQuery.Host.Tool.Sections
import AnswerQuery.Host.Tool.Shrinking
import AnswerQuery.Host.Tool.Shuffling
import AnswerQuery.Host.Tool.Slice
import AnswerQuery.Host.Tool.Sorting
import AnswerQuery.Host.Tool.Splitting
import AnswerQuery.Host.Tool.Surroundings
import AnswerQuery.Host.Tool.Telling
import AnswerQuery.Host.Tool.Translate
import AnswerQuery.Host.Tool.Units
import AnswerQuery.Host.Tool.Width

/-! The programs that a machine has. -/

namespace AnswerQuery.Host

/-- What is read from a descriptor; one that is closed has nothing to give. -/
def readDescriptor (descriptor : Nat) : Job (Except OsError Bytes) := do
  match ← Job.readAll descriptor with
  | .error .badDescriptor => pure (.ok [])
  | result => pure result

/-- The surroundings of a filter that runs on a machine. What is written to a descriptor that is closed is lost without
notice. -/
def console : CommandLine.Console Job where
  readInput := readDescriptor 0
  readFile := fun path => do
    let result : Except OsError Nat ← Job.call (.openFile (Raw.ofText path) .reading)
    match result with
    | .error reason => pure (.error reason)
    | .ok descriptor =>
      let octets ← Job.readAll descriptor
      Job.call (.close descriptor)
      pure octets
  write := fun octets => do
    if octets.isEmpty then pure (.ok ())
    else
      let result : Except OsError Unit ← Job.call (.write 1 octets)
      match result with
      | .error .badDescriptor => pure (.ok ())
      | other => pure other
  report := fun text => do
    let result : Except OsError Unit ← Job.call (.write 2 (Utf8.encode text))
    match result with
    | .error .badDescriptor => pure (.ok ())
    | other => pure other

/-- A filter, which finds out about a broken pipe by an error and not by a signal. -/
def filter (run : CommandLine.Console Job → List Text → Job Nat) : Tool.Utility := fun _ arguments => do
  Job.call (.react Machine.brokenPipeSignal .ignored)
  run console (arguments.map Raw.text)

/-- The tools that are there. -/
def tools : List (String × Tool.Utility) :=
  Tool.batchTools ++ Tool.copyTools ++ Tool.backwardTools ++ Tool.blockTools ++ Tool.printTools ++ Tool.editTools ++ Tool.environmentTools ++ Tool.launchingTools ++ Tool.searchTools ++ Tool.countTools ++
    Tool.dumpTools ++ Tool.sliceTools ++ Tool.translateTools ++ Tool.widthTools ++ Tool.orderTools ++
    Tool.groupTools ++ Tool.removingTools ++ Tool.makingTools ++ Tool.tellingTools ++ Tool.movingTools ++
    Tool.numberingTools ++ Tool.judgingTools ++ Tool.samenessTools ++ Tool.comparingTools ++ Tool.besideTools ++ Tool.reconcilingTools ++ Tool.findingTools ++ Tool.reportingTools ++
    Tool.digestTools ++ Tool.encodingTools ++ Tool.splittingTools ++ Tool.sectionTools ++
    Tool.factorTools ++ Tool.precedenceTools ++ Tool.unitTools ++ Tool.argumentTools ++
    Tool.clockTools ++ Tool.keywordTools ++ Tool.pageTools ++ Tool.shrinkingTools ++ Tool.bundlingTools ++ Tool.shufflingTools ++ Tool.fillingTools ++ Tool.installingTools ++ Tool.namingTools ++ Tool.surroundingTools

/-- The shells, which are told the name they are called by among their arguments. -/
def shells : List (String × Tool.Utility) :=
  [("bash", fun called arguments => Script.shell .rich (called :: arguments)),
    ("dash", fun called arguments => Script.shell .plain (called :: arguments))]

/-- The filters around a datastore, which are installed where they are wanted. -/
def filters : List (Text × Tool.Utility) :=
  [(CommandLine.Extract.name, filter CommandLine.Extract.run), (CommandLine.Prep.name, filter CommandLine.Prep.run)]

/-- The programs that are there from the start. -/
def provided : List (Raw × Tool.Utility) :=
  (shells ++ tools).map fun pair => (pair.1.toList, pair.2)

/-- Every program by its name; the first argument is the name it is called by. -/
def programs : Programs := fun name =>
  ((provided ++ filters).lookup name).map fun tool => fun arguments =>
    (tool (arguments.head?.getD name) (arguments.drop 1)).toProgram

end AnswerQuery.Host
