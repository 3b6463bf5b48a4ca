import AnswerQuery.Host.Tool.Options

/-! Paths: their parts, where they lead once all links on them are followed, and whether they can be used here or
everywhere. -/

namespace AnswerQuery.Host.Tool

namespace Path

/-- A path without slashes at its end; the root stays what it is. -/
def withoutSlashes (path : Raw) : Raw :=
  let bare := dropTrailing (· == '/') path
  if bare.isEmpty then path.take 1 else bare

/-- The last name in a path. -/
def lastName (path : Raw) : Raw :=
  let bare := withoutSlashes path
  if bare == ['/'] then bare else ((Raw.split '/' bare).getLast?).getD bare

/-- The path of a name in a directory. -/
def beneath (directory name : Raw) : Raw :=
  if directory.getLast? == some '/' then directory ++ name else directory ++ '/' :: name

/-- The path of the directory that a path leads into, if it has more than one name. -/
def parent? (path : Raw) : Option Raw :=
  let bare := withoutSlashes path
  let name := lastName bare
  let front := bare.take (bare.length - name.length)
  if front.isEmpty then none else some (withoutSlashes front)

/-- The path of names from the root on. -/
def ofNames (names : List Raw) : Raw :=
  if names.isEmpty then ['/'] else names.flatMap fun name => '/' :: name

/-- The names in a path. -/
def names (path : Raw) : List Raw :=
  (Raw.split '/' path).filter fun name => !name.isEmpty

/-- The path of one place seen from another one, both being told by their names from the root on. -/
def relative (start target : List Raw) : Raw :=
  let common := ((start.zip target).takeWhile fun pair => pair.1 == pair.2).length
  let up := (start.drop common).map fun _ => ['.', '.']
  let all := up ++ target.drop common
  if all.isEmpty then ['.'] else ['/'].intercalate all

end Path

namespace Act

/-- Ask what a path leads to. -/
def inspect (path : Raw) (follow : Bool) : Act (Except OsError Status) :=
  ask (.inspect path follow)

/-- Ask for the names in a directory. -/
def names (path : Raw) : Act (Except OsError (List Raw)) :=
  ask (.list path)

/-- Whether a path leads to a directory. -/
def isDirectory (path : Raw) (follow : Bool) : Act Bool := do
  match ← inspect path follow with
  | .ok status => pure (status.kind == .directory)
  | .error _ => pure false

/-- Make a request that is answered by whether it has been carried out; what became of it. -/
def outcome (result : Except OsError Unit) : Option OsError :=
  match result with
  | .ok () => none
  | .error reason => some reason

/-- Remove a file. -/
def remove (path : Raw) : Act (Option OsError) := do
  let result : Except OsError Unit ← ask (.remove path)
  pure (outcome result)

/-- Remove an empty directory. -/
def removeDirectory (path : Raw) : Act (Option OsError) := do
  let result : Except OsError Unit ← ask (.removeDirectory path)
  pure (outcome result)

/-- Make a directory. -/
def makeDirectory (path : Raw) (mode : Nat) : Act (Option OsError) := do
  let result : Except OsError Unit ← ask (.makeDirectory path mode)
  pure (outcome result)

/-- Make a link to a path. -/
def makeLink (target path : Raw) : Act (Option OsError) := do
  let result : Except OsError Unit ← ask (.makeLink target path)
  pure (outcome result)

/-- Give a file a second name. -/
def makeName (source path : Raw) : Act (Option OsError) := do
  let result : Except OsError Unit ← ask (.makeName source path)
  pure (outcome result)

/-- Move a file. -/
def rename (source target : Raw) : Act (Option OsError) := do
  let result : Except OsError Unit ← ask (.rename source target)
  pure (outcome result)

/-- Change who may use a file. -/
def setMode (path : Raw) (mode : Nat) : Act (Option OsError) := do
  let result : Except OsError Unit ← ask (.setMode path mode)
  pure (outcome result)

/-- Set when a file was used and when it was changed, a link at the end of the path being followed or not. -/
def touch (path : Raw) (follow : Bool) (accessed changed : Stamp) : Act (Option OsError) := do
  let result : Except OsError Unit ← ask (.touch path follow accessed changed)
  pure (outcome result)

/-- The path that a link stands for. -/
def linkTarget (path : Raw) : Act (Except OsError Raw) :=
  ask (.readLink path)

/-- The bits that new files are not to have. -/
def mask : Act Nat := do
  let mask : Nat ← ask (.setMask 0)
  let _ ← ask (.setMask mask)
  pure mask

/-- Complain that something cannot be done with a file, for a reason, and remember that. -/
def complainAbout (status : Nat) (verb : String) (path : Raw) (reason : OsError) : Act Unit := do
  complain (verb.toList ++ ' ' :: quotedWord path ++ ": ".toList ++ reason.description)
  fail status

/-- Read a line from the standard input, octet by octet. -/
def readAnswer : Act Raw :=
  loop ([] : Raw) fun answer => do
    let result : Except OsError Bytes ← ask (.read 0 1)
    match result with
    | .ok [octet] =>
      if octet == 10 then pure (.inr answer) else pure (.inl (answer ++ Raw.ofOctets [octet]))
    | _ => pure (.inr answer)

/-- Ask a question and read whether the answer is yes. -/
def asks (question : Raw) : Act Bool := do
  flush
  report ((← get).name ++ ": ".toList ++ question ++ "? ".toList)
  let answer ← readAnswer
  pure (answer.head? == some 'y' || answer.head? == some 'Y')

end Act

namespace Path

/-- How much of a path has to be there. -/
inductive Extent where
  /-- All of it. -/
  | whole
  /-- All but its last name. -/
  | parent
  /-- Nothing of it. -/
  | nothing
  deriving DecidableEq, Repr

/-- Follow the names of a path from a place on: the names from the root to where they lead. -/
def follow (extent : Extent) (followsLinks : Bool) : Nat → List Raw → List Raw → Act (Except OsError (List Raw))
  | 0, _, _ => pure (.error .tooManyLinks)
  | _ + 1, place, [] => pure (.ok place)
  | steps + 1, place, name :: rest => do
    if name == ['.'] then follow extent followsLinks steps place rest
    else if name == ['.', '.'] then follow extent followsLinks steps place.dropLast rest
    else
      let next := place ++ [name]
      let target : Except OsError Raw ← if followsLinks then Act.linkTarget (ofNames next) else pure (.error .invalid)
      match target with
      | .ok target =>
        follow extent followsLinks steps (if target.head? == some '/' then [] else place) (names target ++ rest)
      | .error _ =>
        let missing := fun (reason : OsError) =>
          if extent == .nothing || (extent == .parent && rest.isEmpty && reason == .noEntry) then
            follow extent followsLinks steps next rest
          else pure (.error reason)
        match ← Act.inspect (ofNames next) true with
        | .error reason => missing reason
        | .ok status =>
          if !rest.isEmpty && status.kind != .directory then missing .notDirectory
          else follow extent followsLinks steps next rest

/-- The names from the root to where a path leads. -/
def resolve (extent : Extent) (followsLinks : Bool) (path : Raw) : Act (Except OsError (List Raw)) := do
  if path.isEmpty then pure (.error .noEntry)
  else
    let here : Raw ← Act.ask .whereabouts
    let given := names path
    let last := if path.getLast? == some '/' && !given.isEmpty && extent != .nothing then [['.']] else []
    follow extent followsLinks 4096 (if path.head? == some '/' then [] else names here) (given ++ last)

end Path

namespace Naming

/-- What names are checked for. -/
structure Checks where
  /-- Whether they can be used on every system of the old kind. -/
  basic : Bool
  /-- Whether they are not empty and no part of them looks like an option. -/
  extra : Bool

/-- The characters that can be used everywhere. -/
def isPortable (c : Char) : Bool :=
  c.isAlphanum || c == '/' || c == '.' || c == '_' || c == '-'

/-- The parts of a path. -/
def parts (path : Raw) : List Raw := (Raw.split '/' path).filter (!List.isEmpty ·)

/-- What is wrong with a name, if something is. -/
def Checks.flaw? (checks : Checks) (path : Raw) : Act (Option Raw) := do
  let limits := fun (longest part : Nat) =>
    if longest ≤ path.length then
      some ("limit ".toList ++ decimal (longest - 1) ++ " exceeded by length ".toList ++ decimal path.length ++
        " of file name ".toList ++ quotedWord path)
    else match (parts path).find? fun name => part < name.length with
      | some name => some ("limit ".toList ++ decimal part ++ " exceeded by length ".toList ++ decimal name.length ++
          " of file name component ".toList ++ quoted name)
      | none => none
  if checks.extra && (parts path).any fun name => name.head? == some '-' then
    pure (some ("leading '-' in a component of file name ".toList ++ quotedWord path))
  else if (checks.basic || checks.extra) && path.isEmpty then pure (some "empty file name".toList)
  else if checks.basic then
    match path.find? (!isPortable ·) with
    | some c => pure (some ("nonportable character ".toList ++ quoted [c] ++ " in file name ".toList ++ quotedWord path))
    | none => pure (limits 256 14)
  else match ← Act.inspect path false with
    | .ok _ => pure none
    | .error reason =>
      if reason != .noEntry || path.isEmpty then pure (some (nameFor path ++ ": ".toList ++ reason.description))
      else pure (limits 4096 255)

end Naming

/-- Check names of files. -/
def pathchk : Utility := ofAct fun arguments => do
  let known : List Known := [⟨"p", "", .nothing⟩, ⟨"P", "", .nothing⟩, ⟨"portability", "portability", .nothing⟩]
  let invocation ← Act.readOptions 1 known true arguments
  if invocation.operands.isEmpty then Act.refuse 1 "missing operand".toList
  let both := invocation.has "portability"
  let checks : Naming.Checks := { basic := both || invocation.has "p", extra := both || invocation.has "P" }
  for path in invocation.operands do
    if let some flaw := ← checks.flaw? path then
      Act.complain flaw
      Act.fail 1

/-- The programs of this kind. -/
def namingTools : List (String × Utility) :=
  [("pathchk", pathchk)]

end AnswerQuery.Host.Tool
