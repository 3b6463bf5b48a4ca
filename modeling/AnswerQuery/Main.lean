import AnswerQuery.Host.Session

/-! The command line: filters on the real streams, and queries on a machine that is a copy of the working directory. -/

namespace AnswerQuery.CommandLine

/-- An error of the real system as one that is reported. -/
def osErrorOf : IO.Error → OsError
  | .noFileOrDirectory .. => .noEntry
  | .permissionDenied .. => .noAccess
  | .inappropriateType .. => .isDirectory
  | .resourceVanished .. => .brokenPipe
  | _ => .invalid

/-- Do something real, with the failure as a value. -/
def attempt {α : Type} (act : IO α) : IO (Except OsError α) := do
  match ← act.toBaseIO with
  | .ok value => return .ok value
  | .error error => return .error (osErrorOf error)

/-- Octets as they are read and written. -/
def octetsOf (octets : Bytes) : ByteArray :=
  ⟨octets.toArray⟩

/-- The surroundings that a filter really has. -/
def realConsole : Console IO where
  readInput := attempt do
    let input ← IO.getStdin
    let octets ← input.readBinToEnd
    return octets.toList
  readFile := fun path => attempt do
    let octets ← IO.FS.readBinFile (String.ofList path)
    return octets.toList
  write := fun octets => attempt do
    let output ← IO.getStdout
    output.write (octetsOf octets)
    output.flush
  report := fun text => attempt (IO.eprint (String.ofList text))

/-- How deep directories are copied. -/
def deepestCopy : Nat := 16

/-- Whether a file begins as a script does. -/
def isScript (octets : Bytes) : Bool :=
  octets.take 2 == Utf8.encode "#!".toList

/-- Copy a directory to the machine of a session; its path there is given with a slash at its end. -/
def copyTree : Nat → Text → Host.Session → IO Host.Session
  | 0, _, session => return session
  | depth + 1, path, session => do
    let here ← IO.currentDir
    let entries ← (here / String.ofList path).readDir
    entries.foldlM (fun session entry => do
      let inside := path ++ entry.fileName.toList
      if ← entry.path.isDir then copyTree depth (inside ++ ['/']) (session.makeDirectory inside)
      else match ← (IO.FS.readBinFile entry.path).toBaseIO with
        | .ok octets =>
          let session := session.write inside octets.toList
          return if isScript octets.toList then session.allow inside else session
        | .error _ => return session) session

/-- Run a query on a machine that is a copy of the working directory, and bring the datastore back. -/
def runQuery (arguments : List Text) : IO Nat := do
  let variable_ ← IO.getEnv (String.ofList Failure.baseVariable)
  let baseVariable := variable_.map String.toList
  let query := Query.ofArguments arguments
  let installation := query.toOption.bind fun query => (query.installation baseVariable).toOption
  let session ← copyTree deepestCopy [] (.start ⟨installation.getD ⟨[], .current⟩, .none⟩)
  let session := session.provideFilters
  let input ← if query.toBool then (← IO.getStdin).readBinToEnd else pure .empty
  let (observed, session) := session.command input.toList baseVariable Query.name arguments
  IO.print (String.ofList observed.output)
  IO.eprint (String.ofList observed.errors)
  let datastore := session.workbench.installation.path .datastore
  match installation.bind fun _ => session.text? datastore with
  | some text =>
    -- A datastore that cannot be brought back is lost with the machine.
    let _ ← (IO.FS.writeFile (String.ofList datastore) (String.ofList text)).toBaseIO
  | none => pure ()
  return observed.result

/-- Say which commands there are. -/
def listCommands : IO Nat := do
  let names := [Extract.name, Prep.name, Query.name]
  IO.eprintln (String.ofList ("Commands: ".toList ++ [' '].intercalate names))
  return usageCode

/-- Run the command that the first argument names. -/
def runCommand : List Text → IO Nat
  | [] => listCommands
  | command :: arguments =>
    if command == Extract.name then Extract.run realConsole arguments
    else if command == Prep.name then Prep.run realConsole arguments
    else if command == Query.name then runQuery arguments
    else listCommands

end AnswerQuery.CommandLine

/-- Run a command and end with its exit code. -/
def main (arguments : List String) : IO UInt32 := do
  let code ← AnswerQuery.CommandLine.runCommand (arguments.map String.toList)
  return UInt32.ofNat code
