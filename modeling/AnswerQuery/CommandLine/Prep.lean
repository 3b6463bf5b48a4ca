import AnswerQuery.CommandLine.Console
import AnswerQuery.Datastore

/-! The command that turns a listing of models into a datastore. -/

namespace AnswerQuery.CommandLine.Prep

/-- The name of the command. -/
def name : Text := "qs-prep".toList

/-- The command as it is called. -/
def command : Command where
  name := name
  purpose := "Turn extracted models into datastore facts".toList
  options := [⟨"file".toList, some 'f', .text, "Read models from this file instead of stdin".toList, none, false⟩,
    traceOption]

/-- What is traced about the datastore. -/
def normalizedMessage (datastore : Datastore) : Text :=
  "Normalized ".toList ++ decimal datastore.facts.length ++ " fact(s) from ".toList ++ decimal datastore.models ++
    " model(s)".toList

/-- Whether a listing is read from the standard input, which may also be called by a dash. -/
def isStandard (file : Option Text) : Bool :=
  file.isNone || file == some ['-']

/-- What is being done while a listing is read. -/
def readingContext (file : Option Text) : Text :=
  "Reading ".toList ++ (if isStandard file then "from stdin".toList else file.getD [])

/-- Read a listing. -/
def readListing {m : Type → Type} (console : Console m) (file : Option Text) : m (Except OsError Bytes) :=
  if isStandard file then console.readInput else console.readFile (file.getD [])

/-- Read a listing and write its datastore. -/
def run {m : Type → Type} [Monad m] (console : Console m) (arguments : List Text) : m Nat := do
  match read command arguments with
  | .error refusal => console.refuse command refusal
  | .ok given =>
    let file := given.value? "file"
    match ← readListing console file with
    | .error reason => console.fail (readingContext file) reason
    | .ok octets =>
      let datastore := Datastore.ofText (Utf8.decode octets)
      match ← console.trace given.trace .normalize (normalizedMessage datastore) with
      | .error _ => pure brokenCode
      | .ok () => console.deliver "Writing datastore".toList (Utf8.encode datastore.render)

end AnswerQuery.CommandLine.Prep
