import AnswerQuery.Failure

/-! Installations: where the files of a query system are, and the families of operating systems that name some of them
differently. -/

namespace AnswerQuery

/-- A family of operating systems. -/
inductive Platform where
  | unix
  | windows
  deriving DecidableEq, Repr

namespace Platform

/-- The family this program runs on. -/
def current : Platform := unix

/-- The name of a platform. -/
def name : Platform → Text
  | unix => "unix".toList
  | windows => "windows".toList

/-- The file name of an executable. -/
def fileName : Platform → Text → Text
  | unix, program => program
  | windows, program => program ++ ".exe".toList

end Platform

/-- A file of a query system. -/
inductive Component where
  /-- The program that extracts models. -/
  | extractor
  /-- The program that turns models into facts. -/
  | normalizer
  /-- The facts. -/
  | datastore
  /-- The queries about the facts. -/
  | queries
  deriving DecidableEq, Repr

/-- The file name of a component; only the programs are named by the platform. -/
def Component.fileName : Component → Platform → Text
  | .extractor, platform => platform.fileName "qs-extract".toList
  | .normalizer, platform => platform.fileName "qs-prep".toList
  | .datastore, _ => "qsystem_data.pl".toList
  | .queries, _ => "general_queries.pl".toList

/-- A file of a directory: one slash stands between them, unless the directory ends with one or is empty. -/
def joinPath (directory file : Text) : Text :=
  match directory.getLast? with
  | none => file
  | some last => if last == '/' then directory ++ file else directory ++ '/' :: file

/-- A directory and the platform its files are named for. -/
structure Installation where
  /-- The directory. -/
  base : Text
  /-- The platform. -/
  platform : Platform
  deriving DecidableEq, Repr

namespace Installation

/-- The path of a component. -/
def path (installation : Installation) (component : Component) : Text :=
  joinPath installation.base (component.fileName installation.platform)

/-- The installation that the environment names, given the value of its variable; an empty value names none. -/
def ofVariable (value : Option Text) : Except Failure Installation :=
  match value with
  | none => .error .missingBase
  | some [] => .error .missingBase
  | some (first :: others) => .ok ⟨first :: others, .current⟩

end Installation

end AnswerQuery
