import AnswerQuery.Host.Script.Brace
import AnswerQuery.Host.Script.Reference

/-! What words stand for: parameters, commands and formulas are replaced by their values. -/

namespace AnswerQuery.Host.Script

/-- How commands in words are run. -/
structure Capture where
  /-- The octets that a command writes. -/
  octets : Command → Sh Bytes
  /-- The path of a pipe that a command writes to, if it is to be read here, or reads from. -/
  path : Bool → Command → Sh Raw

namespace Sh

/-- Complain that a parameter has no value. -/
def refuseUnset {α : Type} (name : Raw) (message : Raw) : Sh α := do
  if (← get).isRich then
    giveUpShell ((if name.all Char.isDigit then '$' :: name else name) ++ ": ".toList ++ message)
  giveUp (name ++ ": ".toList ++ message)

/-- The home directories of the users. -/
def homes : List (String × String) :=
  [("root", "/root"), ("daemon", "/usr/sbin"), ("bin", "/bin"), ("sys", "/dev"), ("sync", "/bin"),
    ("games", "/usr/games"), ("man", "/var/cache/man"), ("lp", "/var/spool/lpd"), ("mail", "/var/mail"),
    ("news", "/var/spool/news"), ("uucp", "/var/spool/uucp"), ("proxy", "/bin"), ("www-data", "/var/www"),
    ("backup", "/var/backups"), ("list", "/var/list"), ("irc", "/run/ircd"), ("nobody", "/nonexistent")]

/-- The home directory that a tilde at the front of a word stands for, and what follows it. -/
def homeOf? (manner : Manner) (pieces : Word) : Sh (Option (Raw × Word)) := do
  let ends := fun (piece : Piece) => match piece with
    | .plain c => c == '/' || (c == ':' && manner.setting)
    | .close => true
    | _ => false
  let name := pieces.takeWhile fun piece => !ends piece
  match Word.plainText? name with
  | none => pure none
  | some user =>
    let shell ← get
    let home := if user.isEmpty then shell.value? "HOME".toList
      else ((homes.find? fun pair => pair.1.toList == user).map fun pair => pair.2.toList)
    pure (home.map fun home => (home, pieces.drop name.length))

/-- The front of a word without what has to be replaced, and what follows; a word that sets a variable is cut behind the
signs at which a tilde can stand. -/
def literalFront (manner : Manner) : Word → List Glyph × Word
  | .plain c :: rest =>
    if manner.setting && ((c == '=' && !manner.afterSign) || (c == ':' && manner.afterSign)) then
      ([⟨c, .character, 0, false⟩], rest)
    else
      let (front, after) := literalFront manner rest
      (⟨c, .character, 0, false⟩ :: front, after)
  | .escaped c :: rest =>
    let (front, after) := literalFront manner rest
    (⟨c, .escaped, 0, false⟩ :: front, after)
  | pieces => ([], pieces)

/-- Characters of a word of which those that are not in quotes are values at which the word can be split. -/
def loosenFront (front : List Glyph) : Sh (List Glyph) := do
  let mut loose : List (List Glyph) := []
  for run in front.splitBy (fun first second => first.shape == second.shape) do
    if run.head?.map Glyph.shape == some .character then
      let region ← newRegion
      loose := Glyph.inRegion region false run :: loose
    else loose := run :: loose
  pure loose.reverse.flatten

/-- What a command writes, without the ends of lines behind it. -/
def commandGlyphs (capture : Capture) (manner : Manner) (body : Command) : Sh (List Glyph) := do
  if manner.skipped then pure []
  else
    let octets ← capture.octets body
    if octets.contains 0 && (← get).isRich then
      protest "warning: command substitution: ignored null byte in input".toList
    let text := dropTrailing (· == '\n') ((Raw.ofOctets octets).filter (· != '\x00'))
    loosen manner (valueGlyphs manner text)

/-- What is left of a value when what fits a pattern is cut off. -/
def cutValue (choices : Bool) (treatment : Treatment) (pattern : Marked) (value : List Glyph) : List Glyph :=
  let characters := value.filter Glyph.isCharacter
  let text := characters.map Glyph.c
  let parts := Wildcard.ofMarked choices pattern
  match treatment with
  | .cutFront longest => characters.drop ((Wildcard.frontLength? longest parts text).getD 0)
  | .cutEnd longest => characters.take ((Wildcard.keptLength? longest parts text).getD text.length)
  | _ => value

/-- What a parameter stands for, and what follows its word; the word is expanded where it is needed. -/
def expandParameter (expandWord : Manner → Word → Sh (List Glyph × Word)) (manner : Manner) (name : Raw)
    (treatment : Treatment) (nullToo : Bool) (rest : Word) : Sh (List Glyph × Word) := do
  if treatment == .unknown && !manner.skipped then giveUp "Bad substitution".toList
  let value ← parameterValue manner name
  let value := match value with
    | some glyphs => if nullToo && glyphs.isEmpty then none else some glyphs
    | none => none
  let word := fun (skipped : Bool) =>
    expandWord { manner with tilde := true, ofParameter := true, skipped := manner.skipped || skipped } rest
  let plainWord := fun (skipped : Bool) =>
    expandWord { tilde := true, skipped := manner.skipped || skipped } rest
  let placed := fun (after : Word) => do
    let glyphs ← placeValue manner name (value.getD [])
    pure (glyphs, after)
  match treatment with
  | .unknown =>
    word true
  | .default =>
    match value with
    | some _ => do
      let (_, after) ← word true
      placed after
    | none => word false
  | .instead => word value.isNone
  | .assigned =>
    let (glyphs, after) ← plainWord value.isSome
    if value.isSome || manner.skipped then placed after
    else
      let text := Glyph.text glyphs
      setVariable name (some text) false false
      let glyphs ← placeValue manner name (((← parameterValue manner name)).getD [])
      pure (glyphs, after)
  | .required =>
    let (glyphs, after) ← plainWord value.isSome
    if value.isSome || manner.skipped then placed after
    else match rest with
      | .close :: _ =>
        let orNull := if (← get).isRich then "parameter null or not set" else "parameter not set or null"
        refuseUnset name (if nullToo then orNull else "parameter not set").toList
      | _ => refuseUnset name (Glyph.text glyphs)
  | _ =>
    let shell ← get
    if value.isNone && !manner.skipped && shell.has 'u' then
      refuseUnset name (if shell.isRich then "unbound variable" else "parameter not set").toList
    match treatment with
    | .length =>
      let glyphs ← placeValue manner name (valueGlyphs manner (decimal ((value.getD []).filter Glyph.isCharacter).length))
      pure (glyphs, rest.drop 1)
    | .value => if nullToo then pure ([], rest) else placed rest
    | _ =>
      let (pattern, after) ← expandWord
        { tilde := true, skipped := manner.skipped || value.isNone } rest
      if value.isNone then pure ([], after)
      else
        let glyphs ← placeValue manner name (cutValue (← get).hasChoices treatment (Glyph.marked pattern) (value.getD []))
        pure (glyphs, after)

/-- Whether a reference stands for values that are apart from each other even in quotes. -/
def isApart : Reference → Bool
  | .mk _ _ _ .length => false
  | .mk _ _ _ (.shown 'A') => false
  | .mk _ _ _ (.shown 'K') => false
  | .mk ['@'] _ _ _ => true
  | .mk _ (some [.plain '@']) _ _ => true
  | _ => false

/-- What a word stands for up to its end, or up to the end of the braces or the formula it is in, and what follows. -/
def expand (capture : Capture) : Nat → Manner → Bool → Word → Sh (List Glyph × Word)
  | 0, _, _, pieces => pure ([], pieces)
  | steps + 1, manner, inQuotes, pieces => do
    let home ← match pieces with
      | .plain '~' :: rest => if manner.tilde then homeOf? manner rest else pure none
      | _ => pure none
    let manner := { manner with tilde := false }
    let now := { manner with quoted := manner.quoted || inQuotes }
    let again := fun (manner : Manner) (word : Word) => do
      let (glyphs, _) ← expand capture steps manner false word
      pure glyphs
    let continued := fun (manner : Manner) (glyphs : List Glyph) (inQuotes : Bool) (rest : Word) => do
      let (others, after) ← expand capture steps manner inQuotes rest
      pure ((if manner.skipped then [] else glyphs) ++ others, after)
    match home, pieces with
    | some (home, rest), _ => continued manner (Glyph.ofQuoted home) inQuotes rest
    | none, [] => pure ([], [])
    | none, .close :: rest => pure ([], rest)
    | none, .closeFormula :: rest => pure ([], rest)
    | none, .mark :: rest =>
      match inQuotes, rest with
      | false, .parameter ['@'] .value false :: .mark :: after => do
        let now := { manner with quoted := true }
        let value ← parameterValue now ['@']
        let glyphs ← placeValue now ['@'] (value.getD [])
        continued manner glyphs false after
      | false, .reference reference :: .mark :: after =>
        if isApart reference then do
          let glyphs ← refer again { manner with quoted := true } reference
          continued manner glyphs false after
        else continued manner [⟨' ', .mark, 0, false⟩] true rest
      | _, _ => continued manner [⟨' ', .mark, 0, false⟩] (!inQuotes) rest
    | none, .command body :: rest =>
      let glyphs ← commandGlyphs capture now body
      continued manner glyphs inQuotes rest
    | none, .reference reference :: rest =>
      let glyphs ← refer again now reference
      continued manner glyphs inQuotes rest
    | none, .channel reads body :: rest =>
      let path ← if manner.skipped then pure [] else capture.path reads body
      continued manner (Glyph.ofQuoted path) inQuotes rest
    | none, .elements _ :: rest => continued manner [] inQuotes rest
    | none, .formula :: rest =>
      let (formula, rest) ← expand capture steps { skipped := manner.skipped } false rest
      if manner.skipped then continued manner [] inQuotes rest
      else
        let shell ← get
        let value ← if shell.isRich then withCommand none (reckon (Glyph.text formula))
          else calculate (Glyph.text formula)
        let glyphs ← loosen now (valueGlyphs now (Numeral.ofInt value))
        continued manner glyphs inQuotes rest
    | none, .parameter name treatment nullToo :: rest =>
      let (glyphs, rest) ← expandParameter (fun manner word => expand capture steps manner false word) now name
        treatment nullToo rest
      continued manner glyphs inQuotes rest
    | none, pieces =>
      let (front, rest) := literalFront manner pieces
      let last := (front.getLast?.filter fun glyph => glyph.shape == .character).map Glyph.c
      let passedSign := manner.setting && (last == some '=' || last == some ':')
      let glyphs ← if manner.ofParameter && !now.quoted && !manner.skipped then loosenFront front else pure front
      continued { manner with tilde := passedSign, afterSign := manner.afterSign || (passedSign && last == some '=') }
        glyphs inQuotes rest

/-- How many pieces there can be in a word, and in the words inside of it. -/
def longestWord : Nat := 1000000000

/-- What a word has become. -/
def expandAll (capture : Capture) (manner : Manner) (word : Word) : Sh (List Glyph) := do
  -- Every step uses a piece, or goes into the word of one.
  let (glyphs, _) ← expand capture longestWord manner false word
  pure glyphs

/-- The text that a word stands for. -/
def wordText (capture : Capture) (word : Word) : Sh Raw := do
  let glyphs ← expandAll capture { tilde := true } word
  pure (Glyph.text glyphs)

/-- The text that a word which sets a variable stands for. -/
def settingText (capture : Capture) (word : Word) : Sh Raw := do
  let glyphs ← expandAll capture { setting := true } word
  pure (Glyph.text glyphs)

/-- The text that a document stands for. -/
def documentText (capture : Capture) (document : Word) : Sh Raw := do
  let glyphs ← expandAll capture { quoted := true } document
  pure (Glyph.text glyphs)

/-- The pattern that a word stands for. -/
def wordPattern (capture : Capture) (word : Word) : Sh (List Wildcard) := do
  let glyphs ← expandAll capture { tilde := true } word
  let marked := Glyph.marked glyphs
  let shell ← get
  pure (Wildcard.ofMarked shell.hasChoices (if shell.isRich then Marked.withCarets marked else marked))

/-- Whether a part of a path that begins behind an opening bracket has a closing one. -/
def closesBracket : Nat → Marked → Bool
  | 0, _ => false
  | _ + 1, [] => false
  | steps + 1, (c, _) :: rest =>
    c != '/' && (rest.head? == some (']', false) || closesBracket steps rest)

/-- Whether a part of a path has wildcards, or choices if those are known. -/
def hasWildcard (choices : Bool) : Marked → Bool
  | [] => false
  | (c, literal) :: rest =>
    let inBrackets := if rest.head? == some ('!', false) then rest.drop 1 else rest
    (!literal && (c == '*' || c == '?' || (c == '[' && closesBracket (rest.length + 1) inBrackets) ||
      (choices && (Wildcard.ways? c rest).isSome))) || hasWildcard choices rest

/-- The first part of a path with wildcards: what stands before it, the part, and what follows its slash if there is
one. -/
def wildPart? (choices : Bool) : Nat → Marked → Marked → Option (Marked × Marked × Option Marked)
  | 0, _, _ => none
  | steps + 1, front, path =>
    let part := path.takeWhile fun pair => pair.1 != '/'
    let rest := path.drop part.length
    if hasWildcard choices path && hasWildcard choices (part ++ rest.take 1) then
      some (front, part, if rest.isEmpty then none else some (rest.drop 1))
    else if rest.isEmpty then none
    else wildPart? choices steps (front ++ part ++ rest.take 1) (rest.drop 1)

/-- How files are sought. -/
structure Seeking where
  /-- Whether there are choices in patterns. -/
  choices : Bool
  /-- Whether names that begin with a point are like others. -/
  hidden : Bool
  /-- Whether capitals are like other letters. -/
  folds : Bool
  /-- Whether two stars stand for any directories. -/
  deep : Bool

/-- How a shell seeks files. -/
def seekingOf (shell : Shell) : Seeking where
  choices := shell.hasChoices
  hidden := shell.isSwitched "dotglob"
  folds := shell.isSwitched "nocaseglob"
  deep := shell.isSwitched "globstar"

/-- The names in a directory. -/
def namesIn (directory : Raw) : Sh (List Raw) := do
  let listed : Except OsError (List Raw) ← ask (.list (if directory.isEmpty then ['.'] else directory))
  pure (listed.toOption.getD [])

/-- The paths of what is beneath a directory to a depth, directories alone if they are wanted; links are not followed. -/
def beneath (seeking : Seeking) (onlyDirectories : Bool) : Nat → Raw → Sh (List Raw)
  | 0, _ => pure []
  | depth + 1, before => do
    let names := (← namesIn before).filter fun name => seeking.hidden || name.head? != some '.'
    let found ← names.mapM fun name => do
      let path := before ++ name
      let status : Except OsError Status ← ask (.inspect path false)
      let isDirectory := match status with
        | .ok status => status.kind == .directory
        | .error _ => false
      let inner ← if isDirectory then beneath seeking onlyDirectories depth (path ++ ['/']) else pure []
      pure (if isDirectory || !onlyDirectories then path :: inner else inner)
    pure found.flatten

/-- How deep directories are gone through at most. -/
def deepest : Nat := 256

/-- The names of files that fit a pattern behind a path. -/
def fileNames (seeking : Seeking) : Nat → Raw → Marked → Sh (List Raw)
  | 0, _, _ => pure []
  | depth + 1, before, pattern => do
    match wildPart? seeking.choices (pattern.length + 1) [] pattern with
    | none =>
      let path := before ++ Marked.text pattern
      let found : Except OsError Status ← ask (.inspect path false)
      pure (if found.toBool then [path] else [])
    | some (front, part, rest) =>
      let directory := before ++ Marked.text front
      if seeking.deep && part == [('*', false), ('*', false)] then
        match rest with
        | none => do
          let paths ← beneath seeking false deepest directory
          pure (if directory.isEmpty then paths else directory :: paths)
        | some rest => do
          let paths ← beneath seeking true deepest directory
          let starts := directory :: paths.map fun path => path ++ ['/']
          if rest.isEmpty then pure (starts.filter fun start => !start.isEmpty)
          else
            let found ← starts.mapM fun start => fileNames seeking depth start rest
            pure found.flatten
      else
        let first := part.head?.map Prod.fst == some '.'
        let hidden := first || seeking.hidden
        let fold := fun (c : Char) => if seeking.folds then c.toLower else c
        let parts := Wildcard.readAll seeking.choices (part.length + 1) (part.map fun (c, literal) => (fold c, literal))
        let listed ← namesIn directory
        let names := ((if first then [['.'], ['.', '.']] else []) ++ listed).filter fun name =>
          (hidden || name.head? != some '.') && Wildcard.fits parts (name.map fold)
        match rest with
        | none => pure (names.map fun name => directory ++ name)
        | some rest =>
          let found ← names.mapM fun name => fileNames seeking depth (directory ++ name ++ ['/']) rest
          pure found.flatten

/-- The names of files that a field stands for, or the field itself. -/
def fieldNames (field : List Glyph) : Sh (List Raw) := do
  let shell ← get
  let marked := if shell.isRich then Marked.withCarets (Glyph.marked field) else Glyph.marked field
  let seeking := seekingOf shell
  if shell.has 'f' || !Wildcard.occursIn seeking.choices marked then pure [Glyph.text field]
  else
    let pattern := Marked.protected_ marked
    if (wildPart? seeking.choices (pattern.length + 1) [] pattern).isNone then pure [Glyph.text field]
    else
      let names ← fileNames seeking (pattern.length + 1) [] pattern
      if !names.isEmpty then pure (names.mergeSort Raw.inOrder)
      else if shell.isSwitched "failglob" then giveUp ("no match: ".toList ++ Glyph.text field)
      else pure (if shell.isSwitched "nullglob" then [] else [Glyph.text field])

/-- The fields that a word without braces stands for. -/
def plainFields (capture : Capture) (word : Word) : Sh (List Raw) := do
  let glyphs ← expandAll capture { splits := true, tilde := true } word
  let shell ← get
  let fields ← (fieldsOf shell.separators none glyphs).mapM fieldNames
  pure fields.flatten

/-- The fields that a word stands for. -/
def wordFields (capture : Capture) (word : Word) : Sh (List Raw) := do
  let shell ← get
  if shell.isRich && shell.has 'B' then
    let fields ← (Brace.expand word).mapM (plainFields capture)
    pure fields.flatten
  else plainFields capture word

end Sh

end AnswerQuery.Host.Script
