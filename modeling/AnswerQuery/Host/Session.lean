import AnswerQuery.CommandLine.Query
import AnswerQuery.Host.Site

/-! Sessions: a workbench that is used on a machine, step after step. -/

namespace AnswerQuery.Host

/-- A machine and a workbench on it. -/
structure Session where
  /-- The machine. -/
  machine : Machine
  /-- The workbench. -/
  workbench : Workbench

/-- What came of a step: its result, and what was written meanwhile. -/
structure Observed (α : Type) where
  /-- The result. -/
  result : α
  /-- What was written to the standard output. -/
  output : Text
  /-- What was written to the standard error. -/
  errors : Text

namespace Session

/-- A workbench on a machine on which nothing has been run. -/
def start (workbench : Workbench) : Session :=
  ⟨startMachine, workbench⟩

/-- Where programs are looked for. -/
def searchPath : Raw := "bin:/usr/local/bin:/usr/bin:/bin".toList

/-- The environment variables of everything that is run. -/
def commonVariables : List (Raw × Raw) :=
  [("PATH".toList, searchPath), ("HOME".toList, "/home/user".toList)]

/-- The machine as it is seen while nothing is run. -/
def site (session : Session) : Site :=
  ⟨session.machine, startWorking, commonVariables, .device .null, .device .null, .device .null, #[]⟩

/-- Change the files of the machine, if that is possible. -/
def changeFiles (session : Session) (change : Files → Except OsError Files) : Session :=
  match change session.machine.files with
  | .ok files => { session with machine := { session.machine with files } }
  | .error _ => session

/-- Make a directory and those above it. -/
def makeDirectory (session : Session) (path : Text) : Session :=
  let raw := Raw.ofText path
  let names := Files.names raw
  let front := if raw.head? == some '/' then ['/'] else []
  -- Names are taken one by one, so that those above are there when a name is reached.
  (List.range names.length).foldl (fun session count =>
    session.changeFiles fun files =>
      files.makeDirectory startWorking (front ++ ['/'].intercalate (names.take (count + 1))) 0o755) session

/-- Put a page where programs find it. -/
def providePage (session : Session) (place : List Raw) (name : Raw) (text : Text) : Session :=
  let content := .file ⟨(Utf8.encode text).toArray⟩
  { session with
    machine := { session.machine with files := session.machine.files.provide place name content 0o644 } }

/-- Put a file at a path. -/
def write (session : Session) (path : Text) (octets : Bytes) : Session :=
  session.changeFiles fun files => files.store startWorking (Raw.ofText path) octets

/-- The octets of a script for a shell. -/
def scriptOctets (body : Text) : Bytes :=
  Utf8.encode ("#!/bin/sh\n".toList ++ body)

/-- Let a file be executed. -/
def allow (session : Session) (path : Text) : Session :=
  session.changeFiles fun files => files.setMode startWorking (Raw.ofText path) 0o755

/-- Put a script for a shell at a path, where it may be executed. -/
def writeScript (session : Session) (path body : Text) : Session :=
  (session.write path (scriptOctets body)).allow path

/-- Install a program at a path. -/
def install (session : Session) (program path : Text) : Session :=
  let place := "/usr/libexec/".toList ++ program
  session.changeFiles fun files =>
    (files.provide (["usr", "libexec"].map String.toList) program (.program program) 0o755).makeLink startWorking place
      (Raw.ofText path)

/-- Install the filters around the datastore where the workbench looks for them, unless there is something to be run
already. -/
def provideFilters (session : Session) : Session :=
  [(Component.extractor, CommandLine.Extract.name), (.normalizer, CommandLine.Prep.name)].foldl
    (fun session (component, program) =>
      let path := session.workbench.installation.path component
      match session.machine.files.inspect startWorking (Raw.ofText path) true with
      | .ok (_, node) => if node.allows .execute then session else session.install program path
      | .error _ => session.install program path) session

/-- Remove a file. -/
def remove (session : Session) (path : Text) : Session :=
  session.changeFiles fun files => files.remove startWorking (Raw.ofText path)

/-- The text of a file, if it can be read. -/
def text? (session : Session) (path : Text) : Option Text :=
  match session.machine.files.inspect startWorking (Raw.ofText path) true with
  | .ok (_, node) =>
    if !node.allows .read then none
    else match node.content with
      | .file octets => some (Utf8.decode octets.toList)
      | .device .null => some []
      | .program _ => some []
      | _ => none
  | .error _ => none

/-- How many steps a process that nobody waits for has to come to its end. -/
def grace : Nat := 1000000

/-- Let the processes that nobody waits for come to their end. -/
def settle : Nat → Machine → Machine
  | 0, machine => { machine with processes := [] }
  | steps + 1, machine =>
    match machine.step? programs with
    | some next => settle steps next
    | none => { machine with processes := [] }

/-- Do something with an input, and observe what is written until nothing runs any more. -/
def observe {α : Type} (session : Session) (input : Bytes) (bindings : List (Raw × Raw)) (act : StateM Site α) :
    Observed α × Session :=
  let prepare := fun (machine : Machine) (octets : Bytes) =>
    let (node, files) := machine.files.allocate { content := .file ⟨octets.toArray⟩, mode := 0o600 }
    let (number, machine) := ({ machine with files }).openContents node { reads := true, writes := true }
    (node, number, machine)
  let (_, input, machine) := prepare session.machine input
  let (outputNode, output, machine) := prepare machine []
  let (errorNode, errors, machine) := prepare machine []
  let (result, site) := act {
    machine
    working := startWorking
    bindings := commonVariables ++ bindings
    input := .file input
    output := .file output
    errors := .file errors }
  let machine := settle grace site.machine
  ({ result
     output := Utf8.decode (machine.files.octets outputNode).toList
     errors := Utf8.decode (machine.files.octets errorNode).toList },
    { session with machine })

/-- Start a program by its own name and wait for it; a program that there is not fails. -/
def runFilter (name : Text) (arguments : List Text) : StateM Site Nat := fun site =>
  match programs name with
  | none => (127, site)
  | some program =>
    let child := site.machine.next
    let process := site.newProcess (program ((name :: arguments).map Raw.ofText)) site.input site.output
    match (site.machine.start process).runUntil programs child Job.patience with
    | (.exited code, machine) => (code, { site with machine })
    | (.killed signal _, machine) => (128 + signal, { site with machine })

/-- Run a command line, given the value of the environment variable that names an installation; the result is the exit
code. -/
def command (session : Session) (input : Bytes) (baseVariable : Option Text) (name : Text) (arguments : List Text) :
    Observed Nat × Session :=
  let bindings := baseVariable.toList.map (fun value => (Raw.ofText Failure.baseVariable, Raw.ofText value))
  session.observe input bindings
    (if name == CommandLine.Query.name then CommandLine.Query.run Site.system baseVariable arguments
    else runFilter name arguments)

end Session

end AnswerQuery.Host
