import AnswerQuery.Host.Bundle.Archive
import AnswerQuery.Host.Tool.Editing
import AnswerQuery.Host.Tool.Finding
import AnswerQuery.Host.Tool.Mode

/-! What is to be done with an archive: options, which may come without a minus at first, and names of files. -/

namespace AnswerQuery.Host.Tool

namespace Bundling

open AnswerQuery.Host.Bundle (Layout)

/-- What is done. -/
inductive Action where
  | create
  | list
  | extract
  | append
  /-- Only files are appended that are newer than what the archive has. -/
  | update
  /-- The members of other archives are appended. -/
  | join
  | delete
  | compare
  /-- The label of the archive is told. -/
  | label
  deriving DecidableEq, Repr

/-- Whether archives are packed. -/
inductive Packed where
  /-- As they are found. -/
  | found
  /-- As their names tell. -/
  | named
  | always
  /-- By a program that is not there. -/
  | by_ (program : Raw)
  deriving DecidableEq, Repr

/-- What is done about files that are there already. -/
inductive Existing where
  /-- Others take their place. -/
  | usual
  /-- They stay, which is a failure. -/
  | kept
  /-- They stay. -/
  | skipped
  /-- They stay if they are not older. -/
  | newerKept
  /-- They are written over. -/
  | overwritten
  /-- They are removed before. -/
  | removed
  deriving DecidableEq, Repr

/-- What paths are meant. -/
structure Pattern where
  /-- What they are like. -/
  text : Raw
  /-- Whether there may be wildcards. -/
  wild : Bool
  /-- Whether they are meant from their beginning on. -/
  anchored : Bool
  /-- Whether capitals are like other letters. -/
  folds : Bool
  /-- Whether what is in directories is meant too. -/
  leads : Bool

/-- A name that was given, or a directory from which the following ones are seen. -/
inductive Named where
  | name (pattern : Pattern)
  | place (path : Raw)
  /-- The names in a file, cut by a sign; whether they may be directories from which others are seen. -/
  | file (path : Raw) (mark : Char) (hasPlaces : Bool)

/-- What is to be done. -/
structure Plan where
  /-- What is done. -/
  action : Option Action := none
  /-- The archives. -/
  archives : List Raw := []
  /-- The names, and where they are seen from. -/
  names : List Named := []
  /-- How much is told. -/
  verbose : Nat := 0
  /-- Whether archives are packed. -/
  packed : Packed := .found
  /-- What is not meant. -/
  exclusions : List Pattern := []
  /-- The options that exclude and came behind names. -/
  late : List Raw := []
  /-- Whether names with wildcards are patterns, if that is told. -/
  wild : Option Bool := none
  /-- Whether patterns begin at the beginning, if that is told. -/
  anchored : Option Bool := none
  /-- Whether capitals are like other letters. -/
  folds : Bool := false
  /-- Whether all is meant that is in directories. -/
  recursive : Bool := true
  /-- Whether octets of files go to the standard output. -/
  toOutput : Bool := false
  /-- Whether paths may begin with a slash. -/
  absolute : Bool := false
  /-- Whether links are followed. -/
  follows : Bool := false
  /-- What is done about files that are there already. -/
  existing : Existing := .usual
  /-- How many names are taken off the front of paths. -/
  stripped : Nat := 0
  /-- How many blocks a record has. -/
  factor : Nat := 20
  /-- Whether blocks of zeros are passed over. -/
  overZeros : Bool := false
  /-- Whether modes are as they were. -/
  keepsModes : Bool := false
  /-- Whether files are as new as they are. -/
  touches : Bool := false
  /-- Whether owners are told by their numbers. -/
  numeric : Bool := false
  /-- Whether times are told in full. -/
  fullTime : Bool := false
  /-- Whether names are told as they have become. -/
  showsChanged : Bool := false
  /-- Whether files are removed that have been stored. -/
  removes : Bool := false
  /-- Whether files that cannot be read are no failure. -/
  forgives : Bool := false
  /-- Whether names come in their order. -/
  sorts : Bool := false
  /-- How entries are written. -/
  layout : Layout := .usual
  /-- The owner of all files. -/
  owner : Option (Raw × Option Nat) := none
  /-- The group of all files. -/
  group : Option (Raw × Option Nat) := none
  /-- How modes are changed. -/
  modes : List Mode.Change := []
  /-- When all files were changed. -/
  changed : Option Calendar.Moment := none
  /-- How names are changed. -/
  changes : List (Matcher × Editor.Substitution) := []
  /-- The label of the archive. -/
  label : Option Raw := none
  /-- The directory into which all goes, which may be named as the archive. -/
  top : Option (Option Raw) := none
  /-- What cuts names in files. -/
  mark : Char := '\n'
  /-- Whether names in files may be directories from which others are seen. -/
  hasPlaces : Bool := true

/-- A text as it is shown. -/
def shown (text : Raw) : Raw :=
  text.flatMap fun c => if c == '\\' then ['\\', '\\'] else if Quote.isPrinted c then [c] else '\\' :: Quote.escapeOf c

/-- A text as it is shown in front of a colon. -/
def shownName (text : Raw) : Raw :=
  text.flatMap fun c => if c == ':' then ['\\', ':'] else shown [c]

/-- Say where more can be read, and end the program. -/
def hint {α : Type} (status : Nat) : Act α := do
  Act.flush
  Act.report "Try 'tar --help' or 'tar --usage' for more information.\n".toList
  Act.finish status

/-- Complain about arguments and end the program. -/
def misuse {α : Type} (message : Raw) : Act α := do
  Act.complain message
  hint 2

/-- Complain and end the program. -/
def giveUp {α : Type} (message : Raw) : Act α := do
  Act.complain message
  Act.complain "Error is not recoverable: exiting now".toList
  Act.finish 2

/-- Complain, and remember that something went wrong. -/
def fault (message : Raw) : Act Unit := do
  Act.complain message
  Act.fail 2

/-- Complain that something cannot be done with a path, and remember it. -/
def faultAbout (path : Raw) (what : String) (reason : OsError) : Act Unit :=
  fault (shownName path ++ ": ".toList ++ what.toList ++ ": ".toList ++ reason.description)

/-- The options that are known, by the words for them. -/
def words : List Known :=
  [⟨"A", "catenate", .nothing⟩, ⟨"A", "concatenate", .nothing⟩, ⟨"c", "create", .nothing⟩, ⟨"d", "diff", .nothing⟩,
    ⟨"d", "compare", .nothing⟩, ⟨"delete", "delete", .nothing⟩, ⟨"r", "append", .nothing⟩, ⟨"t", "list", .nothing⟩,
    ⟨"test-label", "test-label", .nothing⟩, ⟨"u", "update", .nothing⟩, ⟨"x", "extract", .nothing⟩, ⟨"x", "get", .nothing⟩,
    ⟨"sparse-version", "sparse-version", .always⟩, ⟨"G", "incremental", .nothing⟩,
    ⟨"g", "listed-incremental", .always⟩, ⟨"level", "level", .always⟩,
    ⟨"ignore-failed-read", "ignore-failed-read", .nothing⟩, ⟨"occurrence", "occurrence", .maybe⟩, ⟨"n", "seek", .nothing⟩,
    ⟨"no-seek", "no-seek", .nothing⟩, ⟨"no-check-device", "no-check-device", .nothing⟩,
    ⟨"check-device", "check-device", .nothing⟩, ⟨"hole-detection", "hole-detection", .always⟩, ⟨"S", "sparse", .nothing⟩,
    ⟨"W", "verify", .nothing⟩, ⟨"remove-files", "remove-files", .nothing⟩, ⟨"k", "keep-old-files", .nothing⟩,
    ⟨"skip-old-files", "skip-old-files", .nothing⟩, ⟨"keep-newer-files", "keep-newer-files", .nothing⟩,
    ⟨"overwrite", "overwrite", .nothing⟩, ⟨"U", "unlink-first", .nothing⟩,
    ⟨"recursive-unlink", "recursive-unlink", .nothing⟩, ⟨"no-overwrite-dir", "no-overwrite-dir", .nothing⟩,
    ⟨"overwrite-dir", "overwrite-dir", .nothing⟩, ⟨"keep-directory-symlink", "keep-directory-symlink", .nothing⟩,
    ⟨"one-top-level", "one-top-level", .maybe⟩, ⟨"O", "to-stdout", .nothing⟩, ⟨"to-command", "to-command", .always⟩,
    ⟨"ignore-command-error", "ignore-command-error", .nothing⟩,
    ⟨"no-ignore-command-error", "no-ignore-command-error", .nothing⟩, ⟨"owner", "owner", .always⟩,
    ⟨"group", "group", .always⟩, ⟨"owner-map", "owner-map", .always⟩, ⟨"group-map", "group-map", .always⟩,
    ⟨"mtime", "mtime", .always⟩, ⟨"clamp-mtime", "clamp-mtime", .nothing⟩, ⟨"mode", "mode", .always⟩,
    ⟨"atime-preserve", "atime-preserve", .maybe⟩, ⟨"m", "touch", .nothing⟩, ⟨"same-owner", "same-owner", .nothing⟩,
    ⟨"o", "no-same-owner", .nothing⟩, ⟨"numeric-owner", "numeric-owner", .nothing⟩,
    ⟨"p", "preserve-permissions", .nothing⟩, ⟨"p", "same-permissions", .nothing⟩,
    ⟨"no-same-permissions", "no-same-permissions", .nothing⟩, ⟨"s", "preserve-order", .nothing⟩,
    ⟨"s", "same-order", .nothing⟩, ⟨"delay-directory-restore", "delay-directory-restore", .nothing⟩,
    ⟨"no-delay-directory-restore", "no-delay-directory-restore", .nothing⟩, ⟨"sort", "sort", .always⟩,
    ⟨"xattrs", "xattrs", .nothing⟩, ⟨"no-xattrs", "no-xattrs", .nothing⟩, ⟨"selinux", "selinux", .nothing⟩,
    ⟨"acls", "acls", .nothing⟩, ⟨"no-acls", "no-acls", .nothing⟩, ⟨"f", "file", .always⟩,
    ⟨"force-local", "force-local", .nothing⟩, ⟨"rmt-command", "rmt-command", .always⟩,
    ⟨"rsh-command", "rsh-command", .always⟩, ⟨"M", "multi-volume", .nothing⟩, ⟨"L", "tape-length", .always⟩,
    ⟨"F", "info-script", .always⟩, ⟨"F", "new-volume-script", .always⟩, ⟨"volno-file", "volno-file", .always⟩,
    ⟨"b", "blocking-factor", .always⟩, ⟨"record-size", "record-size", .always⟩, ⟨"i", "ignore-zeros", .nothing⟩,
    ⟨"B", "read-full-records", .nothing⟩, ⟨"H", "format", .always⟩, ⟨"old-archive", "old-archive", .nothing⟩,
    ⟨"old-archive", "portability", .nothing⟩, ⟨"posix", "posix", .nothing⟩, ⟨"pax-option", "pax-option", .always⟩,
    ⟨"V", "label", .always⟩, ⟨"a", "auto-compress", .nothing⟩, ⟨"no-auto-compress", "no-auto-compress", .nothing⟩,
    ⟨"I", "use-compress-program", .always⟩, ⟨"j", "bzip2", .nothing⟩, ⟨"z", "gzip", .nothing⟩,
    ⟨"z", "gunzip", .nothing⟩, ⟨"z", "ungzip", .nothing⟩, ⟨"Z", "compress", .nothing⟩, ⟨"Z", "uncompress", .nothing⟩,
    ⟨"lzip", "lzip", .nothing⟩, ⟨"lzma", "lzma", .nothing⟩, ⟨"lzop", "lzop", .nothing⟩, ⟨"J", "xz", .nothing⟩,
    ⟨"zstd", "zstd", .nothing⟩, ⟨"one-file-system", "one-file-system", .nothing⟩,
    ⟨"P", "absolute-names", .nothing⟩, ⟨"h", "dereference", .nothing⟩,
    ⟨"hard-dereference", "hard-dereference", .nothing⟩, ⟨"K", "starting-file", .always⟩, ⟨"N", "newer", .always⟩,
    ⟨"N", "after-date", .always⟩, ⟨"newer-mtime", "newer-mtime", .always⟩, ⟨"backup", "backup", .maybe⟩,
    ⟨"suffix", "suffix", .always⟩, ⟨"strip-components", "strip-components", .always⟩,
    ⟨"transform", "transform", .always⟩, ⟨"transform", "xform", .always⟩, ⟨"v", "verbose", .nothing⟩,
    ⟨"checkpoint", "checkpoint", .maybe⟩, ⟨"checkpoint-action", "checkpoint-action", .always⟩,
    ⟨"l", "check-links", .nothing⟩, ⟨"totals", "totals", .maybe⟩, ⟨"utc", "utc", .nothing⟩,
    ⟨"full-time", "full-time", .nothing⟩, ⟨"index-file", "index-file", .always⟩, ⟨"R", "block-number", .nothing⟩,
    ⟨"show-defaults", "show-defaults", .nothing⟩, ⟨"show-snapshot-field-ranges", "show-snapshot-field-ranges", .nothing⟩,
    ⟨"show-omitted-dirs", "show-omitted-dirs", .nothing⟩,
    ⟨"show-transformed-names", "show-transformed-names", .nothing⟩,
    ⟨"show-transformed-names", "show-stored-names", .nothing⟩, ⟨"quoting-style", "quoting-style", .always⟩,
    ⟨"quote-chars", "quote-chars", .always⟩, ⟨"no-quote-chars", "no-quote-chars", .always⟩,
    ⟨"w", "interactive", .nothing⟩, ⟨"w", "confirmation", .nothing⟩, ⟨"warning", "warning", .always⟩,
    ⟨"restrict", "restrict", .nothing⟩, ⟨"C", "directory", .always⟩, ⟨"T", "files-from", .always⟩,
    ⟨"null", "null", .nothing⟩, ⟨"no-null", "no-null", .nothing⟩, ⟨"unquote", "unquote", .nothing⟩,
    ⟨"no-unquote", "no-unquote", .nothing⟩, ⟨"verbatim-files-from", "verbatim-files-from", .nothing⟩,
    ⟨"no-verbatim-files-from", "no-verbatim-files-from", .nothing⟩, ⟨"exclude", "exclude", .always⟩,
    ⟨"X", "exclude-from", .always⟩, ⟨"exclude-caches", "exclude-caches", .nothing⟩,
    ⟨"exclude-caches-under", "exclude-caches-under", .nothing⟩, ⟨"exclude-caches-all", "exclude-caches-all", .nothing⟩,
    ⟨"exclude-tag", "exclude-tag", .always⟩, ⟨"exclude-ignore", "exclude-ignore", .always⟩,
    ⟨"exclude-ignore-recursive", "exclude-ignore-recursive", .always⟩,
    ⟨"exclude-tag-under", "exclude-tag-under", .always⟩, ⟨"exclude-tag-all", "exclude-tag-all", .always⟩,
    ⟨"exclude-vcs", "exclude-vcs", .nothing⟩, ⟨"exclude-vcs-ignores", "exclude-vcs-ignores", .nothing⟩,
    ⟨"exclude-backups", "exclude-backups", .nothing⟩, ⟨"add-file", "add-file", .always⟩,
    ⟨"no-recursion", "no-recursion", .nothing⟩, ⟨"recursion", "recursion", .nothing⟩,
    ⟨"wildcards", "wildcards", .nothing⟩, ⟨"no-wildcards", "no-wildcards", .nothing⟩,
    ⟨"wildcards-match-slash", "wildcards-match-slash", .nothing⟩,
    ⟨"no-wildcards-match-slash", "no-wildcards-match-slash", .nothing⟩, ⟨"anchored", "anchored", .nothing⟩,
    ⟨"no-anchored", "no-anchored", .nothing⟩, ⟨"ignore-case", "ignore-case", .nothing⟩,
    ⟨"no-ignore-case", "no-ignore-case", .nothing⟩, ⟨"usage", "usage", .nothing⟩]

/-- An argument as it is read. -/
inductive Item where
  | option (given : Given)
  | operand (text : Raw)

/-- Read arguments in their order; each step uses one at least. -/
def readItems : Nat → List Raw → Options.Reading (List Item)
  | 0, _ => pure []
  | _ + 1, [] => pure []
  | _ + 1, ['-', '-'] :: others => pure (others.map Item.operand)
  | steps + 1, ('-' :: '-' :: written) :: others => do
    let (given, others) ← Options.readWord words written others
    let items ← readItems steps others
    pure (.option given :: items)
  | steps + 1, ('-' :: letter :: letters) :: others => do
    let (given, others) ← Options.readLetters words (letter :: letters) others
    let items ← readItems steps others
    pure (given.map Item.option ++ items)
  | steps + 1, operand :: others => do
    let items ← readItems steps others
    pure (.operand operand :: items)

/-- Letters without a minus as options, each with its argument from those that follow; or the letter that lacks one. -/
def spread : Raw → List Raw → Except Char (List Raw × List Raw)
  | [], others => pure ([], others)
  | letter :: letters, others => do
    let takes := match words.find? fun known => known.key.toList == [letter] with
      | some known => known.takes == .always
      | none => false
    match takes, others with
    | false, _ => do
      let (front, others) ← spread letters others
      pure (['-', letter] :: front, others)
    | true, argument :: others => do
      let (front, others) ← spread letters others
      pure (['-', letter] :: argument :: front, others)
    | true, [] => throw letter

/-- Arguments of which the first one may be letters without a minus. -/
def unfolded : List Raw → Except Char (List Raw)
  | [] => pure []
  | first :: others =>
    if first.head? == some '-' then pure (first :: others)
    else do
      let (front, others) ← spread first others
      pure (front ++ others)

/-- Do one thing, and no other one. -/
def doing (plan : Plan) (action : Action) : Act Plan :=
  match plan.action with
  | some other =>
    if other == action then pure plan
    else misuse "You may not specify more than one '-Acdtrux', '--delete' or  '--test-label' option".toList
  | none => pure { plan with action := some action }

/-- A pattern of what is not meant. -/
def exclusion (plan : Plan) (text : Raw) : Pattern :=
  { text, wild := plan.wild.getD true, anchored := plan.anchored.getD false, folds := plan.folds, leads := true }

/-- The plan without what is like some texts. -/
def excluding (plan : Plan) (texts : List String) : Plan :=
  { plan with exclusions := plan.exclusions ++ texts.map fun text => exclusion plan text.toList }

/-- The directories and files of programs that keep versions. -/
def versionFiles : List String :=
  ["CVS", ".cvsignore", "RCS", "SCCS", ".git", ".gitignore", ".gitattributes", ".gitmodules", ".svn", ".arch-ids", "\x7barch\x7d",
    "=RELEASE-ID", "=meta-update", "=update", ".bzr", ".bzrignore", ".bzrtags", ".hg", ".hgignore", ".hgtags", "_darcs"]

/-- The number and the name that a text tells of an owner or a group, given the names that are known. -/
def ownerOf (known : List (Raw × Nat)) (text : Raw) : Raw × Option Nat :=
  let name := text.takeWhile (· != ':')
  if name.length < text.length then (name, Numeral.natural? (text.drop (name.length + 1)))
  else match Numeral.natural? text with
    | some number =>
      (((known.find? fun pair => pair.2 == number).map Prod.fst).getD [], some number)
    | none => (text, known.lookup text)

/-- The numbers by names that the lines of a file tell. -/
def numbersIn (path : String) : Act (List (Raw × Nat)) := do
  match ← Act.readFile path.toList with
  | .error _ => pure []
  | .ok octets => pure ((Raw.split '\n' (Raw.ofOctets octets)).filterMap fun line =>
      match Raw.split ':' line with
      | name :: _ :: number :: _ => (Numeral.natural? number).map fun number => (name, number)
      | _ => none)

/-- The change of names that a text describes. -/
def changeOf (text : Raw) : Act (Matcher × Editor.Substitution) := do
  let part : Editor.Part := { number := 1, text }
  let (result, parsing) := Editor.Parse.script.run { part, rest := text, others := [], dialect := { extended := false } }
  match result, parsing.commands.toList.map fun command => command.action with
  | .ok (), [Editor.Action.substitute substitution] =>
    match substitution.matcher with
    | some matcher => pure (matcher, substitution)
    | none => misuse "Invalid transform expression".toList
  | _, _ => misuse "Invalid transform expression".toList

/-- The texts that a sign cuts a file into, except empty ones; what is said if it cannot be read. -/
def linesIn (mark : Char) (what : String) (path : Raw) : Act (List Raw) := do
  match ← Act.readFile path with
  | .error reason => giveUp (shownName path ++ what.toList ++ ": ".toList ++ reason.description)
  | .ok octets =>
    pure ((Raw.split mark (Raw.ofOctets octets)).filter fun line => !line.isEmpty)

/-- A name that is sought or stored. -/
def nameIn (plan : Plan) (text : Raw) : Pattern :=
  let bare := dropTrailing (· == '/') text
  { text := if bare.isEmpty then text.take 1 else bare, wild := plan.wild == some true, anchored := plan.anchored.getD true,
    folds := plan.folds, leads := plan.recursive }

/-- The plan with one more option. -/
def withOption (plan : Plan) (given : Given) : Act Plan := do
  let isLate := plan.names.any fun named => match named with
    | .name _ => true
    | _ => false
  let argument := given.argument.getD []
  let flag := fun (_ : Unit) => given.shown
  match given.key with
  | "A" => doing plan .join
  | "c" => doing plan .create
  | "d" => doing plan .compare
  | "delete" => doing plan .delete
  | "r" => doing plan .append
  | "t" => doing plan .list
  | "test-label" => doing plan .label
  | "u" => doing plan .update
  | "x" => doing plan .extract
  | "f" => pure { plan with archives := plan.archives ++ [argument] }
  | "v" => pure { plan with verbose := plan.verbose + 1 }
  | "z" => pure { plan with packed := .always }
  | "a" => pure { plan with packed := .named }
  | "no-auto-compress" => pure { plan with packed := if plan.packed == .named then .found else plan.packed }
  | "j" => pure { plan with packed := .by_ "bzip2".toList }
  | "J" => pure { plan with packed := .by_ "xz".toList }
  | "Z" => pure { plan with packed := .by_ "compress".toList }
  | "lzip" => pure { plan with packed := .by_ "lzip".toList }
  | "lzma" => pure { plan with packed := .by_ "lzma".toList }
  | "lzop" => pure { plan with packed := .by_ "lzop".toList }
  | "zstd" => pure { plan with packed := .by_ "zstd".toList }
  | "I" => pure { plan with packed := if argument == "gzip".toList then .always else .by_ argument }
  | "C" => pure { plan with names := plan.names ++ [.place argument] }
  | "T" => pure { plan with names := plan.names ++ [.file argument plan.mark plan.hasPlaces] }
  | "null" => pure { plan with mark := '\x00', hasPlaces := false }
  | "no-null" => pure { plan with mark := '\n', hasPlaces := true }
  | "verbatim-files-from" => pure { plan with hasPlaces := false }
  | "no-verbatim-files-from" => pure { plan with hasPlaces := true }
  | "add-file" => pure { plan with names := plan.names ++ [.name (nameIn plan argument)] }
  | "exclude" =>
    pure { plan with
      exclusions := plan.exclusions ++ [exclusion plan argument]
      late := if isLate then plan.late ++ [flag () ++ " '".toList ++ argument ++ ['\'']] else plan.late }
  | "X" => do
    let lines ← linesIn '\n' "" argument
    pure { plan with
      exclusions := plan.exclusions ++ lines.map (exclusion plan)
      late := if isLate then plan.late ++ [flag () ++ " '".toList ++ argument ++ ['\'']] else plan.late }
  | "exclude-vcs" => pure (excluding plan versionFiles)
  | "exclude-backups" => pure (excluding plan [".#*", "*~", "#*#"])
  | "wildcards" => pure { plan with wild := some true }
  | "no-wildcards" => pure { plan with wild := some false }
  | "anchored" => pure { plan with anchored := some true }
  | "no-anchored" => pure { plan with anchored := some false }
  | "ignore-case" => pure { plan with folds := true }
  | "no-ignore-case" => pure { plan with folds := false }
  | "recursion" => pure { plan with recursive := true }
  | "no-recursion" => pure { plan with recursive := false }
  | "O" => pure { plan with toOutput := true }
  | "P" => pure { plan with absolute := true }
  | "h" => pure { plan with follows := true }
  | "k" => pure { plan with existing := .kept }
  | "skip-old-files" => pure { plan with existing := .skipped }
  | "keep-newer-files" => pure { plan with existing := .newerKept }
  | "overwrite" => pure { plan with existing := .overwritten }
  | "U" => pure { plan with existing := .removed }
  | "recursive-unlink" => pure { plan with existing := .removed }
  | "strip-components" =>
    match Numeral.natural? argument with
    | some count => pure { plan with stripped := count }
    | none => misuse (argument ++ ": Invalid number of elements".toList)
  | "b" =>
    match Numeral.natural? argument with
    | some 0 => misuse (argument ++ ": Invalid blocking factor".toList)
    | some factor => pure { plan with factor }
    | none => misuse (argument ++ ": Invalid blocking factor".toList)
  | "record-size" =>
    match Numeral.natural? argument with
    | some size =>
      if size = 0 then misuse (argument ++ ": Invalid record size".toList)
      else if size % Bundle.blockSize != 0 then misuse "Record size must be a multiple of 512.".toList
      else pure { plan with factor := size / Bundle.blockSize }
    | none => misuse (argument ++ ": Invalid record size".toList)
  | "i" => pure { plan with overZeros := true }
  | "p" => pure { plan with keepsModes := true }
  | "no-same-permissions" => pure { plan with keepsModes := false }
  | "m" => pure { plan with touches := true }
  | "numeric-owner" => pure { plan with numeric := true }
  | "full-time" => pure { plan with fullTime := true }
  | "show-transformed-names" => pure { plan with showsChanged := true }
  | "remove-files" => pure { plan with removes := true }
  | "ignore-failed-read" => pure { plan with forgives := true }
  | "sort" =>
    match String.ofList argument with
    | "none" => pure plan
    | "name" => pure { plan with sorts := true }
    | "inode" => pure plan
    | _ => misuse ("invalid argument ".toList ++ quoted argument ++ " for ".toList ++ "'--sort'".toList)
  | "H" =>
    match String.ofList argument with
    | "v7" => pure { plan with layout := .plain }
    | "oldgnu" => pure { plan with layout := .usual }
    | "gnu" => pure { plan with layout := .usual }
    | "ustar" => pure { plan with layout := .agreed }
    | "pax" => pure { plan with layout := .agreed }
    | "posix" => pure { plan with layout := .agreed }
    | _ => misuse (argument ++ ": Invalid archive format".toList)
  | "old-archive" => pure { plan with layout := .plain }
  | "posix" => pure { plan with layout := .agreed }
  | "owner" => do
    let known ← numbersIn "/etc/passwd"
    pure { plan with owner := some (ownerOf known argument) }
  | "group" => do
    let known ← numbersIn "/etc/group"
    pure { plan with group := some (ownerOf known argument) }
  | "mode" =>
    match Mode.read argument with
    | some changes => pure { plan with modes := changes }
    | none => giveUp "Invalid mode given on option".toList
  | "mtime" => do
    if argument.head? == some '/' || argument.head? == some '.' then
      match ← Act.inspect argument true with
      | .ok status => pure { plan with changed := some status.changed }
      | .error reason => giveUp (shownName argument ++ ": Cannot stat: ".toList ++ reason.description)
    else
      match ← Act.momentOf? argument with
      | some moment => pure { plan with changed := some moment }
      | none => misuse ("Unknown date format ".toList ++ quoted argument)
  | "transform" => do
    let change ← changeOf argument
    pure { plan with changes := plan.changes ++ [change] }
  | "V" => pure { plan with label := some argument }
  | "one-top-level" => pure { plan with top := some given.argument }
  | "warning" => pure plan
  | _ => pure plan

/-- The plan that arguments describe. -/
def planOf (arguments : List Raw) : Act Plan := do
  match unfolded arguments with
  | .error letter => misuse ("Old option '".toList ++ [letter] ++ "' requires an argument.".toList)
  | .ok arguments =>
    match readItems (arguments.length + 1) arguments with
    | .error message => do
      Act.complain message
      hint 64
    | .ok items => items.foldlM (fun plan item => match item with
        | .option given => withOption plan given
        | .operand text => pure { plan with names := plan.names ++ [.name (nameIn plan text)] }) ({} : Plan)

/-- The beginnings of a path that are paths themselves, the whole one first. -/
def beginnings (path : Raw) : List Raw :=
  path :: ((List.range path.length).filter fun place => path[place]? == some '/').map fun place => path.take place

/-- The path and its ends behind slashes. -/
def endings (path : Raw) : List Raw :=
  path :: ((List.range path.length).filter fun place =>
    path[place]? == some '/' && (path[place + 1]?).isSome && path[place + 1]? != some '/').map fun place =>
      path.drop (place + 1)

/-- Whether a path is meant by a pattern. -/
def Pattern.covers (pattern : Pattern) (path : Raw) : Bool :=
  let fold := fun (text : Raw) => if pattern.folds then text.map Char.toLower else text
  let text := fold pattern.text
  let fits := fun (part : Raw) => if pattern.wild then Finding.fits text part else text == part
  let starts := if pattern.anchored then [fold path] else endings (fold path)
  starts.any fun start => (if pattern.leads then beginnings start else [start]).any fits

/-- Whether a path is excluded. -/
def Plan.excludes (plan : Plan) (path : Raw) : Bool :=
  plan.exclusions.any fun pattern => pattern.covers path

/-- A name and the directories through which it is seen. -/
structure Sought where
  /-- The name. -/
  pattern : Pattern
  /-- The directories, each seen from the one before. -/
  places : List Raw

/-- The names that are given, those in files too, and the directories that the last one would be seen through. -/
def Plan.sought (plan : Plan) : Act (List Sought × List Raw) :=
  plan.names.foldlM (fun (sought, places) named => match named with
    | .name pattern => pure (sought ++ [⟨pattern, places⟩], places)
    | .place path => pure (sought, places ++ [path])
    | .file path mark hasPlaces => do
      let lines ← linesIn mark ": Cannot stat" path
      let start : List Sought × List Raw × Bool := (sought, places, false)
      let (sought, places, _) := lines.foldl (fun (sought, places, isPlace) line =>
        if isPlace then (sought, places ++ [line], false)
        else if hasPlaces && line == ['-', 'C'] then (sought, places, true)
        else if hasPlaces && ['-', 'C'].isPrefixOf line then
          (sought, places ++ [(line.drop 2).dropWhile Raw.isSpace], false)
        else (sought ++ [⟨nameIn plan line, places⟩], places, false)) start
      pure (sought, places)) ([], [])

/-- What is remembered. -/
structure State where
  /-- What has been written, the last piece first. -/
  pieces : List Bytes := []
  /-- The files with several names that have been stored, and where. -/
  stored : List (Nat × Raw) := []
  /-- The beginnings of paths that have been told to be left out, of second names and of others. -/
  told : List (Bool × Raw) := []
  /-- How wide owners and sizes are in lists. -/
  width : Nat := 19
  /-- The names that have been found. -/
  found : List Nat := []
  /-- The directories through which one has gone. -/
  places : List Raw := []
  /-- What directories are to be like in the end. -/
  directories : List (Raw × Nat × Calendar.Moment) := []
  /-- What is to be removed in the end. -/
  leftovers : List (Raw × Bool) := []

/-- An activity that remembers. -/
abbrev Work := StateT State Act

/-- How much of a path is left out: everything up to steps upwards, and slashes. -/
def frontLength (path : Raw) : Nat :=
  let names := Raw.split '/' path
  let upTo := ((names.zipIdx.filter fun pair => pair.1 == ['.', '.']).map fun pair =>
    (['/'].intercalate (names.take (pair.2 + 1))).length).foldl max 0
  upTo + ((path.drop upTo).takeWhile (· == '/')).length

/-- A path without what would lead outside; that is told once. -/
def safe (plan : Plan) (isSecond : Bool) (path : Raw) : Work Raw := do
  if plan.absolute then pure path
  else
    let length := frontLength path
    let front := path.take length
    if length != 0 && !(← get).told.contains (isSecond, front) then
      modify fun state => { state with told := (isSecond, front) :: state.told }
      Act.complain ("Removing leading \x60".toList ++ front ++
        (if isSecond then "' from hard link targets" else "' from member names").toList)
    let rest := path.drop length
    pure (if rest.isEmpty then ['.'] else rest)

/-- A path with its changes. -/
def changed (plan : Plan) (path : Raw) : Raw :=
  plan.changes.foldl (fun path (matcher, substitution) =>
    (Editor.Edit.replaceFrom matcher substitution path.toArray (path.length + 2) 0 1 none [] false).1.reverse.flatten) path

/-- A path without so many names in front; none if there are no more. -/
def stripped? (count : Nat) (path : Raw) : Option Raw :=
  match count with
  | 0 => some path
  | count + 1 =>
    let rest := (path.dropWhile (· != '/')).dropWhile (· == '/')
    if rest.isEmpty then none else stripped? count rest

/-- A line for what is done, on the standard error if the standard output has another use. -/
def tell (aside : Bool) (line : Raw) : Work Unit := do
  if aside then
    Act.flush
    Act.report (line ++ ['\n'])
  else Act.sayLine line

/-- A line about an entry in full. -/
def longLine (plan : Plan) (entry : Bundle.Entry) (name : Raw) : Work Raw := do
  let named := fun (name : Raw) (number : Nat) => if plan.numeric || name.isEmpty then decimal number else name
  let size := match entry.kind with
    | .characters => decimal entry.device.1 ++ ',' :: decimal entry.device.2
    | .blocks => decimal entry.device.1 ++ ',' :: decimal entry.device.2
    | _ => decimal entry.size
  let owners := named entry.ownerName entry.owner ++ '/' :: named entry.groupName entry.group
  let width := max (← get).width (owners.length + 1 + size.length)
  modify fun state => { state with width }
  let zone ← Act.zone
  let time := (zone.shown (Calendar.Moment.ofSeconds (Int.ofNat entry.changed))).inForm
    (if plan.fullTime then "%Y-%m-%d %H:%M:%S" else "%Y-%m-%d %H:%M").toList
  let behind := match entry.kind with
    | .link => " -> ".toList ++ shown entry.target
    | .second => " link to ".toList ++ shown entry.target
    | .label => "--Volume Header--".toList
    | _ => []
  let letters := if entry.kind == .label then List.replicate 9 '-' else Mode.letters entry.mode
  pure (entry.kind.letter :: letters ++ ' ' :: owners ++
    List.replicate (width - owners.length - size.length) ' ' ++ size ++ ' ' :: time ++ ' ' :: shown name ++ behind)

/-- Go where names are seen from. -/
def goTo (home : Raw) (places : List Raw) : Work Unit := do
  if (← get).places != places then
    let _ : Except OsError Unit ← Act.ask (.enter home)
    for place in places do
      let result : Except OsError Unit ← Act.ask (.enter place)
      if let .error reason := result then
        giveUp (shownName place ++ ": Cannot open: ".toList ++ reason.description)
    modify fun state => { state with places }

end Bundling

end AnswerQuery.Host.Tool
