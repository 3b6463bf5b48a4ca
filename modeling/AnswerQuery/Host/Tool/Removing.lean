import AnswerQuery.Host.Tool.Mode
import AnswerQuery.Host.Tool.Path

/-! Removing files and directories. -/

namespace AnswerQuery.Host.Tool

namespace Removing

/-- When it is asked whether files are to be removed. -/
inductive Asking where
  | never
  /-- Once for all of them. -/
  | once
  /-- For each of them. -/
  | always
  deriving DecidableEq, Repr

/-- How files are removed. -/
structure Plan where
  /-- Whether files that are not there are passed over. -/
  force : Bool
  /-- Whether directories are removed with all that is in them. -/
  recursive : Bool
  /-- Whether empty directories are removed. -/
  directories : Bool
  /-- Whether it is told what is removed. -/
  verbose : Bool
  /-- When it is asked. -/
  asking : Asking

/-- What kind of file it is asked about. -/
def kindName (status : Status) : Raw :=
  match status.kind with
  | .directory => "directory".toList
  | .file => (if status.size = 0 then "regular empty file" else "regular file").toList
  | .link => "symbolic link".toList
  | .device => "character special file".toList
  | .channel => "fifo".toList

/-- Whether something is to be done with a file, asking if that is wanted. -/
def agrees (plan : Plan) (verb : String) (path : Raw) (status : Status) : Act Bool := do
  if plan.asking == .always then
    let writable : Bool ← if status.kind == .link then pure true else Act.ask (.allows path .write)
    Act.asks (verb.toList ++ ' ' :: (if writable then [] else "write-protected ".toList) ++ kindName status ++
      ' ' :: quotedWord path)
  else pure true

/-- Complain that a file cannot be removed. -/
def refuse (path : Raw) (reason : OsError) : Act Unit :=
  Act.complainAbout 1 "cannot remove" path reason

/-- Tell that a file has been removed. -/
def tell (plan : Plan) (what : String) (path : Raw) : Act Unit := do
  if plan.verbose then Act.sayLine (what.toList ++ ' ' :: quotedWord path)

/-- Remove a file or, to a depth, a directory with all that is in it; whether nothing went wrong. -/
def removeTree (plan : Plan) : Nat → Raw → Act Bool
  | 0, _ => pure false
  | depth + 1, path => do
    match ← Act.inspect path false with
    | .error reason => do
      if !(plan.force && (reason == .noEntry || reason == .notDirectory)) then refuse path reason
      pure false
    | .ok status =>
      let finish := fun (what : String) (removal : Raw → Act (Option OsError)) => do
        if !(← agrees plan "remove" path status) then pure true
        else match ← removal path with
          | some reason => do
            refuse path reason
            pure false
          | none => do
            tell plan what path
            pure true
      let leads ← if path.getLast? == some '/' then Act.isDirectory path true else pure false
      if status.kind != .directory && !leads then finish "removed" Act.remove
      else if !plan.recursive then
        if plan.directories then
          match ← Act.names path with
          | .ok (_ :: _) => do
            refuse path .notEmpty
            pure false
          | _ => finish "removed directory" Act.removeDirectory
        else do
          refuse path .isDirectory
          pure false
      else
        match ← Act.names path with
        | .error reason => do
          refuse path reason
          pure false
        | .ok [] => finish "removed directory" Act.removeDirectory
        | .ok names => do
          if !(← agrees plan "descend into" path status) then pure true
          else
            let mut fine := true
            for name in names do
              if !(← removeTree plan depth (Path.beneath path name)) then fine := false
            if fine then finish "removed directory" Act.removeDirectory else pure false

/-- Remove what a path that was named leads to. -/
def removeNamed (plan : Plan) (path : Raw) : Act Unit := do
  let bare := Path.withoutSlashes path
  let last := Path.lastName path
  if plan.recursive && bare == ['/'] then
    Act.complain "it is dangerous to operate recursively on '/'".toList
    Act.complain "use --no-preserve-root to override this failsafe".toList
    Act.fail 1
  else if plan.recursive && (last == ['.'] || last == ['.', '.']) then
    Act.complain ("refusing to remove '.' or '..' directory: skipping ".toList ++ quotedWord path)
    Act.fail 1
  else
    let _ ← removeTree plan 500 path

/-- The options of the program that removes files. -/
def options : List Known :=
  [⟨"f", "force", .nothing⟩, ⟨"i", "", .nothing⟩, ⟨"I", "", .nothing⟩, ⟨"interactive", "interactive", .maybe⟩,
    ⟨"one-file-system", "one-file-system", .nothing⟩, ⟨"no-preserve-root", "no-preserve-root", .nothing⟩,
    ⟨"preserve-root", "preserve-root", .maybe⟩, ⟨"R", "", .nothing⟩, ⟨"r", "recursive", .nothing⟩,
    ⟨"d", "dir", .nothing⟩, ⟨"v", "verbose", .nothing⟩]

/-- The words for when it is asked. -/
def askings : List (List String × Asking) :=
  [(["never", "no", "none"], .never), (["once"], .once), (["always", "yes"], .always)]

/-- Take up an option about when it is asked, and about whether files that are not there are passed over. -/
def askingOf (before : Asking × Bool) (given : Given) : Act (Asking × Bool) := do
  match given.key, given.argument with
  | "f", _ => pure (.never, true)
  | "i", _ => pure (.always, false)
  | "I", _ => pure (.once, false)
  | "interactive", none => pure (.always, false)
  | "interactive", some text => do
    match ← Act.choose "--interactive" askings text with
    | .never => pure (.never, before.2)
    | asking => pure (asking, false)
  | "preserve-root", some text =>
    if text == "all".toList then pure before
    else Act.die 1 ("unrecognized --preserve-root argument: ".toList ++ quotedWord text)
  | _, _ => pure before

/-- Complain about arguments, one of which may be the name of a file, and end the program. -/
def refuseOptions {α : Type} (arguments : List Raw) (message : Raw) : Act α := do
  Act.complain message
  let name := (← get).name
  for argument in arguments do
    if argument.head? == some '-' && 1 < argument.length then
      if (← Act.inspect argument false) matches .ok _ then
        Act.report ("Try '".toList ++ name ++ " ./".toList ++ wordFor argument ++ "' to remove the file ".toList ++
          quotedWord argument ++ ".\n".toList)
        break
  Act.report ("Try '".toList ++ name ++ " --help' for more information.\n".toList)
  Act.finish 1

end Removing

/-- Remove files. -/
def rm : Utility := ofAct fun arguments => do
  let parsing := Options.parse Removing.options false (arguments.length + 1) arguments
  let (asking, force) ← parsing.given.foldlM Removing.askingOf (.never, false)
  if let some message := parsing.fault then Removing.refuseOptions arguments message
  let invocation := parsing.toInvocation
  let plan : Removing.Plan := {
    force, recursive := invocation.has "r" || invocation.has "R"
    directories := invocation.has "d", verbose := invocation.has "v", asking }
  if invocation.operands.isEmpty then
    if !plan.force then Act.refuse 1 "missing operand".toList
  else
    let count := invocation.operands.length
    let agrees ← if asking == .once && (plan.recursive || 3 < count) then
        Act.asks ("remove ".toList ++ decimal count ++ (if count = 1 then " argument" else " arguments").toList ++
          (if plan.recursive then " recursively" else "").toList)
      else pure true
    if agrees then
      for path in invocation.operands do
        Removing.removeNamed plan path

namespace Removing

/-- Remove the directories that a path leads through, from the last one on. -/
def removeParents (lenient verbose : Bool) : Nat → Raw → Act Unit
  | 0, _ => pure ()
  | steps + 1, path => do
    match Path.parent? path with
    | none => pure ()
    | some parent => do
      let name := (← get).name
      if verbose then Act.sayLine (name ++ ": removing directory, ".toList ++ quotedWord parent)
      match ← Act.removeDirectory parent with
      | none => removeParents lenient verbose steps parent
      | some reason =>
        if !(lenient && reason == .notEmpty) then Act.complainAbout 1 "failed to remove directory" parent reason

end Removing

/-- Remove empty directories. -/
def rmdir : Utility := ofAct fun arguments => do
  let known : List Known := [⟨"p", "parents", .nothing⟩, ⟨"v", "verbose", .nothing⟩,
    ⟨"ignore", "ignore-fail-on-non-empty", .nothing⟩]
  let invocation ← Act.readOptions 1 known false arguments
  if invocation.operands.isEmpty then Act.refuse 1 "missing operand".toList
  let verbose := invocation.has "v"
  let lenient := invocation.has "ignore"
  for path in invocation.operands do
    let name := (← get).name
    if verbose then Act.sayLine (name ++ ": removing directory, ".toList ++ quotedWord path)
    match ← Act.removeDirectory path with
    | some reason =>
      if !(lenient && reason == .notEmpty) then Act.complainAbout 1 "failed to remove" path reason
    | none => if invocation.has "p" then Removing.removeParents lenient verbose path.length path

/-- Remove one name of a file. -/
def unlink : Utility := ofAct fun arguments => do
  let invocation ← Act.readOptions 1 [] false arguments
  match invocation.operands with
  | [] => Act.refuse 1 "missing operand".toList
  | _ :: extra :: _ => Act.refuseExtra 1 extra
  | [path] =>
    if let some reason := ← Act.remove path then Act.complainAbout 1 "cannot unlink" path reason

/-- The programs of this kind. -/
def removingTools : List (String × Utility) :=
  [("rm", rm), ("rmdir", rmdir), ("unlink", unlink)]

end AnswerQuery.Host.Tool
