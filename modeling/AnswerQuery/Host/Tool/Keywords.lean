import AnswerQuery.Host.Tool.Amount
import AnswerQuery.Host.Tool.Matching
import AnswerQuery.Host.Tool.Source

/-! Keywords: the words of texts in order, each one with what stands around it. -/

namespace AnswerQuery.Host.Tool

namespace Keywords

/-- What lines are written for. -/
inductive Format where
  | plain
  /-- As requests with quoted arguments. -/
  | requests
  /-- As commands with arguments in braces. -/
  | commands
  deriving DecidableEq, Repr

/-- How words are found. -/
inductive Words where
  /-- They are made of some characters. -/
  | made (of : Char → Bool)
  /-- They match an expression. -/
  | matching (matcher : Matcher)

/-- How texts are cut into parts. -/
inductive Parts where
  | sentences
  /-- Parts end with what matches an expression. -/
  | matching (matcher : Matcher)
  | whole

/-- How keywords are found and written. -/
structure Plan where
  /-- How texts are cut into parts. -/
  parts : Parts
  /-- How words are found. -/
  words : Words
  /-- What lines are written for. -/
  format : Format
  /-- Whether nothing is done in the old way. -/
  isNew : Bool
  /-- Whether capitals do not matter for the order. -/
  foldsCase : Bool
  /-- The words that are no keywords. -/
  ignored : Option (List Raw)
  /-- The words that are keywords, if there are others. -/
  only : Option (List Raw)
  /-- Whether files and lines are told. -/
  tellsLines : Bool
  /-- Whether lines begin with what is told about them. -/
  hasReferences : Bool
  /-- Whether that is written on the right. -/
  referencesRight : Bool
  /-- How wide lines are. -/
  width : Nat
  /-- How far columns are apart. -/
  gap : Nat
  /-- What stands where something was cut off. -/
  cut : Raw
  /-- What requests and commands are called. -/
  name : Raw

/-- A keyword at a place of a text. -/
structure Keyword where
  /-- The number of the text. -/
  file : Nat
  /-- Where the word begins. -/
  start : Nat
  /-- Where it ends. -/
  stop : Nat
  /-- Where the part begins that it stands in. -/
  left : Nat
  /-- Where that part ends. -/
  right : Nat
  /-- The number of the line, or where the line begins. -/
  reference : Nat
  deriving Repr

/-- The characters of a text between two places. -/
def slice (text : Array Char) (from_ to_ : Nat) : Raw :=
  (text.extract from_ to_).toList

/-- The first place from one on, up to a limit, whose character is not of a kind. -/
def skip (text : Array Char) (isKind : Char → Bool) (limit : Nat) : Nat → Nat → Nat
  | 0, place => place
  | steps + 1, place =>
    if place < limit && (text[place]?).any isKind then skip text isKind limit steps (place + 1) else place

/-- The place behind the characters of a kind from a place on, up to a limit. -/
def skipForward (text : Array Char) (isKind : Char → Bool) (place limit : Nat) : Nat :=
  skip text isKind limit (limit - place) place

/-- The place in front of the blanks before a place, down to a limit. -/
def skipBack (text : Array Char) (limit : Nat) : Nat → Nat
  | 0 => 0
  | place + 1 =>
    if limit < place + 1 && (text[place]?).any Raw.isSpace then skipBack text limit place else place + 1

/-- The place behind the word or the single character at a place. -/
def skipSomething (words : Words) (text : Array Char) (place limit : Nat) : Nat :=
  match words with
  | .made of =>
    if (text[place]?).any of then skipForward text of place limit else place + 1
  | .matching matcher =>
    match matcher.matchAt? (text.extract place limit) 0 with
    | some found => place + found.stop
    | none => place + 1

/-- Where the first sentence from a place on ends. -/
def sentenceEnd? (text : Array Char) : Nat → Nat → Option Nat
  | 0, _ => none
  | steps + 1, place =>
    if (text[place]?).any ".?!".toList.contains then
      let closed := skipForward text ("]\"')\x7d".toList.contains ·) (place + 1) text.size
      let isEnd := match text[closed]?, text[closed + 1]? with
        | none, _ => true
        | some '\n', _ => true
        | some '\t', _ => true
        | some ' ', some ' ' => true
        | _, _ => false
      if isEnd then some (skipForward text (" \t\n".toList.contains ·) closed text.size)
      else sentenceEnd? text steps (place + 1)
    else sentenceEnd? text steps (place + 1)

/-- Where the part that begins at a place ends, with what separates it from the next one. -/
def partEnd (parts : Parts) (text : Array Char) (place : Nat) : Act Nat :=
  match parts with
  | .whole => pure text.size
  | .sentences => pure ((sentenceEnd? text (text.size - place) place).getD text.size)
  | .matching matcher =>
    match matcher.find? (text.extract place text.size) 0 with
    | none => pure text.size
    | some found =>
      if found.stop = 0 then Act.die 1 "error: regular expression has a match of length zero".toList
      else pure (place + found.stop)

/-- The next word from a place on, up to a limit. -/
def nextWord? (words : Words) (text : Array Char) (place limit : Nat) : Option (Nat × Nat) :=
  match words with
  | .made of =>
    let start := skipForward text (fun c => !of c) place limit
    if start = limit then none else some (start, skipForward text of start limit)
  | .matching matcher =>
    (matcher.find? (text.extract place limit) 0).map fun found => (place + found.start, place + found.stop)

/-- What is known while keywords are looked for. -/
structure Search where
  /-- How many lines have been read. -/
  lines : Nat
  /-- Where the line begins. -/
  lineStart : Nat
  /-- How far lines have been counted. -/
  scanned : Nat
  /-- How long what is told about the line is. -/
  reference : Nat
  /-- How long a word is at most. -/
  longest : Nat
  /-- How long what is told about a line is at most. -/
  widest : Nat
  /-- The keywords, the last one first. -/
  found : List Keyword

/-- Whether a character is no blank. -/
def isInk (c : Char) : Bool :=
  !Raw.isSpace c

/-- Count lines up to a place. -/
def scan (plan : Plan) (text : Array Char) (stop : Nat) : Nat → Search → Search
  | 0, search => search
  | steps + 1, search =>
    if stop ≤ search.scanned then search
    else if text[search.scanned]? == some '\n' then
      let lineStart := search.scanned + 1
      let scanned := skipForward text isInk lineStart text.size
      let reference := if plan.hasReferences then scanned - lineStart else search.reference
      scan plan text stop steps { search with lines := search.lines + 1, lineStart, scanned, reference }
    else scan plan text stop steps { search with scanned := search.scanned + 1 }

/-- Whether two words are the same as far as it matters, and in which order they are. -/
def compare (plan : Plan) (first second : Raw) : Ordering :=
  let folded := fun (word : Raw) => if plan.foldsCase then word.map Char.toUpper else word
  if folded first == folded second then .eq
  else if Raw.inOrder (folded first) (folded second) then .lt else .gt

/-- Find the keywords of a part of a text. -/
def searchPart (plan : Plan) (file : Nat) (text : Array Char) (stop : Nat) : Nat → Nat → Nat → Search → Search
  | 0, _, _, search => search
  | steps + 1, left, place, search =>
    match nextWord? plan.words text place stop with
    | none => search
    | some (start, behind) =>
      if start = behind then searchPart plan file text stop steps left (start + 1) search
      else
        let search := { search with longest := max search.longest (behind - start) }
        let search := if plan.hasReferences then scan plan text start text.size search else search
        let word := slice text start behind
        let isIn := fun (words : Option (List Raw)) (other : Bool) =>
          (words.map fun words => words.any fun known => compare plan known word == .eq).getD other
        if (plan.hasReferences && start < search.scanned) || isIn plan.ignored false || !isIn plan.only true then
          searchPart plan file text stop steps left behind search
        else
          let search := if plan.tellsLines then scan plan text start text.size search else search
          let reference := if plan.tellsLines then search.lines else search.lineStart
          let search := if plan.hasReferences && !plan.tellsLines then
              { search with widest := max search.widest search.reference }
            else search
          let left := if plan.hasReferences && search.lineStart = left then
              skipForward text Raw.isSpace (skipForward text isInk left stop) stop
            else left
          let keyword : Keyword := { file, start, stop := behind, left, right := stop, reference }
          searchPart plan file text stop steps left behind { search with found := keyword :: search.found }

/-- Find the keywords of a text, part by part. -/
def searchText (plan : Plan) (file : Nat) (text : Array Char) : Nat → Nat → Search → Act Search
  | 0, _, search => pure search
  | steps + 1, place, search => do
    if text.size ≤ place then pure search
    else
      let next ← partEnd plan.parts text place
      let stop := skipBack text place next
      searchText plan file text steps next (searchPart plan file text stop (stop - place + 1) place place search)

/-- A field of a line: where it begins and ends in the text, and whether something was cut off. -/
structure Field where
  start : Nat := 0
  stop : Nat := 0
  isCut : Bool := false

/-- How long a field is. -/
def Field.length (field : Field) : Nat :=
  field.stop - field.start

/-- The fields of a line. -/
structure Fields where
  tail : Field
  before : Field
  after : Field
  head : Field
  reference : Raw

/-- How wide the fields are. -/
structure Widths where
  /-- Half of a line. -/
  half : Int
  /-- What stands in front of the keyword. -/
  before : Int
  /-- The keyword and what follows it. -/
  after : Int
  /-- What is told about lines. -/
  reference : Nat
  /-- The longest word. -/
  longest : Nat

/-- The texts and what they are called. -/
structure Library where
  /-- The texts. -/
  texts : Array (Array Char)
  /-- What they are called; the standard input has no name. -/
  names : Array Raw
  /-- How many lines had been read behind each of them. -/
  ends : Array Nat

/-- Go on by words as long as a place is not too far: the last place that is near enough, and the place behind it. -/
def advance (words : Words) (text : Array Char) (limit : Nat) (isNear : Nat → Bool) : Nat → Nat → Nat → Nat × Nat
  | 0, stop, place => (stop, place)
  | steps + 1, stop, place =>
    if place < limit && isNear place then
      advance words text limit isNear steps place (skipSomething words text place limit)
    else (stop, place)

/-- Go on by words until a place is near enough to a limit. -/
def approach (words : Words) (text : Array Char) (width : Int) (limit : Nat) : Nat → Nat → Nat
  | 0, place => place
  | steps + 1, place =>
    if Int.ofNat place + width < Int.ofNat limit then
      approach words text width limit steps (skipSomething words text place limit)
    else place

/-- The fields of the line for a keyword. -/
def fieldsOf (plan : Plan) (library : Library) (widths : Widths) (keyword : Keyword) : Fields :=
  let text := (library.texts[keyword.file]?).getD #[]
  let size := text.size
  let start := keyword.start
  let near := fun (place : Nat) => decide (Int.ofNat place ≤ Int.ofNat start + widths.after)
  let (stop, place) := advance plan.words text keyword.right near (size + 1) keyword.stop keyword.stop
  let stop := if near place then place else stop
  let cuts := !plan.cut.isEmpty
  let afterCut := cuts && stop < keyword.right
  let afterStop := skipBack text start stop
  let reach := widths.half + Int.ofNat widths.longest
  let leftStart := if reach < Int.ofNat start - Int.ofNat keyword.left then
      skipSomething plan.words text (start - reach.toNat) start
    else keyword.left
  let beforeStop := skipBack text leftStart start
  let beforeStart := approach plan.words text widths.before beforeStop (size + 1) leftStart
  let beforeCut := cuts && keyword.left < skipBack text 0 beforeStart
  let beforeStart := skipForward text Raw.isSpace beforeStart size
  let tailWidth := widths.before - (Int.ofNat beforeStop - Int.ofNat beforeStart) - Int.ofNat plan.gap
  let (tail, afterCut) :=
    if 0 < tailWidth then
      let tailStart := skipForward text Raw.isSpace afterStop size
      let near := fun (place : Nat) => decide (Int.ofNat place < Int.ofNat tailStart + tailWidth)
      let (tailStop, place) := advance plan.words text keyword.right near (size + 1) tailStart tailStart
      let tailStop := if near place then place else tailStop
      let isThere := tailStart < tailStop
      (({ start := tailStart, stop := skipBack text tailStart tailStop
          isCut := isThere && cuts && tailStop < keyword.right } : Field), afterCut && !isThere)
    else ({}, afterCut)
  let headWidth := widths.after - (Int.ofNat afterStop - Int.ofNat start) - Int.ofNat plan.gap
  let (head, beforeCut) :=
    if 0 < headWidth then
      let headStop := skipBack text 0 beforeStart
      let headStart := approach plan.words text headWidth headStop (size + 1) leftStart
      let isThere := headStart < headStop
      (({ start := skipForward text Raw.isSpace headStart headStop, stop := headStop
          isCut := isThere && cuts && keyword.left < headStart } : Field), beforeCut && !isThere)
    else ({}, beforeCut)
  let reference :=
    if plan.tellsLines then
      let before := if keyword.file = 0 then 0 else (library.ends[keyword.file - 1]?).getD 0
      (library.names[keyword.file]?).getD [] ++ ':' :: decimal (keyword.reference + 1 - before)
    else if plan.hasReferences then
      slice text keyword.reference (skipForward text isInk keyword.reference keyword.right)
    else []
  { tail, head, reference
    before := ⟨beforeStart, beforeStop, beforeCut⟩
    after := ⟨start, afterStop, afterCut⟩ }

/-- A text as a line shows it. -/
def shown (format : Format) (text : Raw) : Raw :=
  text.flatMap fun c =>
    if Raw.isSpace c then [' ']
    else match format with
      | .plain => [c]
      | .requests => if c == '"' then ['"', '"'] else [c]
      | .commands =>
        if "$%&#_".toList.contains c then ['\\', c]
        else if c == '{' || c == '}' then ['$', '\\', c, '$']
        else if c == '\\' then "\\backslash\x7b\x7d".toList
        else [c]

/-- Blanks, if there are any. -/
def blanks (count : Int) : Raw :=
  List.replicate count.toNat ' '

/-- The line for a keyword. -/
def lineOf (plan : Plan) (library : Library) (widths : Widths) (keyword : Keyword) : Raw :=
  let fields := fieldsOf plan library widths keyword
  let text := (library.texts[keyword.file]?).getD #[]
  let written := fun (field : Field) => shown plan.format (slice text field.start field.stop)
  let hasReference := plan.tellsLines || plan.hasReferences
  let reference := shown plan.format fields.reference
  let cutIf := fun (field : Field) => if field.isCut then plan.cut else []
  let room := fun (field : Field) => Int.ofNat field.stop - Int.ofNat field.start + Int.ofNat (cutIf field).length
  match plan.format with
  | .plain =>
    let space := Int.ofNat widths.reference + Int.ofNat plan.gap - Int.ofNat fields.reference.length
    let front := if plan.referencesRight then []
      else if plan.tellsLines then reference ++ ':' :: blanks (space - 1)
      else reference ++ blanks space
    let left := if fields.tail.length = 0 then blanks (widths.half - plan.gap - room fields.before)
      else written fields.tail ++ cutIf fields.tail ++
        blanks (widths.half - plan.gap - room fields.before - room fields.tail)
    let middle := cutIf fields.before ++ written fields.before ++ blanks plan.gap ++ written fields.after ++ cutIf fields.after
    let atRight := hasReference && plan.referencesRight
    let right := if fields.head.length != 0 then
        blanks (widths.half - room fields.after - room fields.head) ++ cutIf fields.head ++ written fields.head
      else if atRight then blanks (widths.half - room fields.after)
      else []
    let behind := if atRight then blanks plan.gap ++ reference else []
    front ++ left ++ middle ++ right ++ behind
  | .requests =>
    let quoted := fun (text : Raw) => '"' :: text ++ ['"']
    '.' :: plan.name ++ ' ' :: quoted (written fields.tail ++ cutIf fields.tail) ++
      ' ' :: quoted (cutIf fields.before ++ written fields.before) ++
      ' ' :: quoted (written fields.after ++ cutIf fields.after) ++
      ' ' :: quoted (cutIf fields.head ++ written fields.head) ++
      if hasReference then ' ' :: quoted reference else []
  | .commands =>
    let braced := fun (text : Raw) => '{' :: text ++ ['}']
    let stop := min (skipSomething plan.words text fields.after.start fields.after.stop) fields.after.stop
    '\\' :: plan.name ++ ' ' :: braced (written fields.tail) ++ braced (written fields.before) ++
      braced (written { fields.after with stop }) ++ braced (written { fields.after with start := stop }) ++
      braced (written fields.head) ++ if hasReference then braced reference else []

/-- How wide the fields are, given how long what is told about lines and the words are at most. -/
def widthsOf (plan : Plan) (library : Library) (widest longest : Nat) : Widths :=
  let reference := if !plan.tellsLines then widest
    else
      let sizes := library.ends.toList.zipIdx.map fun ((stop, place) : Nat × Nat) =>
        let before := if place = 0 then 0 else (library.ends[place - 1]?).getD 0
        (decimal (stop + 1 - before)).length + ((library.names[place]?).getD []).length
      sizes.foldl max 0 + 1
  let isLeft := (plan.tellsLines || plan.hasReferences) && !plan.referencesRight
  let width := if isLeft then plan.width - (reference + plan.gap) else plan.width
  let half := Int.ofNat (width / 2)
  let cut := 2 * Int.ofNat plan.cut.length
  let before := half - Int.ofNat plan.gap
  { half, reference, longest
    before := if plan.isNew then max 0 (before - cut) else before
    after := if plan.isNew then half - cut else half - cut - 1 }

/-- The options that are known. -/
def known : List Known :=
  [⟨"A", "auto-reference", .nothing⟩, ⟨"b", "break-file", .always⟩, ⟨"F", "flag-truncation", .always⟩,
    ⟨"f", "ignore-case", .nothing⟩, ⟨"g", "gap-size", .always⟩, ⟨"i", "ignore-file", .always⟩,
    ⟨"M", "macro-name", .always⟩, ⟨"o", "only-file", .always⟩, ⟨"r", "references", .nothing⟩,
    ⟨"R", "right-side-refs", .nothing⟩, ⟨"format", "format", .always⟩, ⟨"S", "sentence-regexp", .always⟩,
    ⟨"G", "traditional", .nothing⟩, ⟨"t", "typeset-mode", .nothing⟩, ⟨"w", "width", .always⟩,
    ⟨"W", "word-regexp", .always⟩, ⟨"O", "", .nothing⟩, ⟨"T", "", .nothing⟩]

/-- Read a file, or complain that it cannot be read. -/
def textOf (path : Raw) : Act Raw := do
  match ← Act.readFile path with
  | .ok octets => pure (Raw.ofOctets octets)
  | .error reason => Act.die 1 (nameFor path ++ ": ".toList ++ reason.description)

/-- The words in a file, one on each line. -/
def wordsIn (path : Option Raw) : Act (Option (List Raw)) := do
  match path with
  | none => pure none
  | some path => do
    let text ← textOf path
    let words := ((linesOf '\n' text).map Source.Line.text).filter fun word => !word.isEmpty
    pure (if words.isEmpty then none else some words)

/-- A character behind a backslash, and what follows. -/
def unescapedOne (c : Char) (rest : Raw) : Raw × Raw :=
  let digits := fun (base : Nat) (most : Nat) (text : Raw) =>
    (text.take most).takeWhile fun d => Numeral.isDigitIn base d
  match c with
  | 'x' =>
    let found := digits 16 3 rest
    if found.isEmpty then ("\\x".toList, rest)
    else ([Char.ofNat (Numeral.valueOf 16 found % 256)], rest.drop found.length)
  | '0' =>
    let found := digits 8 3 rest
    ([Char.ofNat (Numeral.valueOf 8 found % 256)], rest.drop found.length)
  | 'a' => (['\x07'], rest)
  | 'b' => (['\x08'], rest)
  | 'c' => ([], [])
  | 'f' => (['\x0c'], rest)
  | 'n' => (['\n'], rest)
  | 'r' => (['\r'], rest)
  | 't' => (['\t'], rest)
  | 'v' => (['\x0b'], rest)
  | c => (['\\', c], rest)

/-- A text whose escapes are made into what they stand for. -/
def unescaped : Nat → Raw → Raw
  | 0, _ => []
  | _ + 1, [] => []
  | steps + 1, '\\' :: c :: rest =>
    let (text, rest) := unescapedOne c rest
    text ++ unescaped steps rest
  | steps + 1, c :: rest => c :: unescaped steps rest

/-- An expression in an argument. -/
def matcherOf (foldsCase : Bool) (text : Raw) : Act Matcher := do
  match Matcher.read { extended := false, ignoresCase := foldsCase } (Dialect.withSlashes text) with
  | .ok matcher => pure matcher
  | .error message => Act.die 1 (message.toList ++ " (for regexp ".toList ++ quoted text ++ [')'])

/-- How words are found. -/
def wordsOf (isNew foldsCase : Bool) (expression breaks : Option Raw) : Act Words := do
  let isBlank := fun (c : Char) => c == ' ' || c == '\t' || c == '\n'
  match expression.filter (!·.isEmpty), breaks with
  | some text, _ => do
    let matcher ← matcherOf foldsCase (unescaped (text.length + 1) text)
    pure (.matching matcher)
  | none, some path => do
    let marks ← textOf path
    pure (.made fun c => !marks.contains c && (isNew || !isBlank c))
  | none, none => pure (.made fun c => if isNew then c.isAlpha else !isBlank c)

/-- How keywords are found and written after arguments. -/
def planOf (invocation : Invocation) : Act Plan := do
  let measure := fun (key what : String) (usual : Nat) => do
    match invocation.argument? key with
    | none => pure usual
    | some text =>
      match Amount.read { base := 0, signed := true } text with
      | .ok value =>
        if 0 < value && value < 9223372036854775807 then pure value.toNat
        else Act.die 1 ("invalid ".toList ++ what.toList ++ ": ".toList ++ quoted text)
      | .error _ => Act.die 1 ("invalid ".toList ++ what.toList ++ ": ".toList ++ quoted text)
  let mut format : Option Format := none
  for given in invocation.given do
    match given.key with
    | "O" => format := some .requests
    | "T" => format := some .commands
    | "format" => do
      let chosen ← Act.choose "--format" [(["roff"], Format.requests), (["tex"], Format.commands)] (given.argument.getD [])
      format := some chosen
    | _ => pure ()
  let isNew := !invocation.has "G"
  let foldsCase := invocation.has "f"
  let gap ← measure "g" "gap width" 3
  let width ← measure "w" "line width" 72
  let unescapedOf := fun (text : Raw) => unescaped (text.length + 1) text
  let parts : Parts ← match invocation.argument? "S" with
    | some [] => pure .whole
    | some text => do
      let matcher ← matcherOf foldsCase (unescapedOf text)
      pure (.matching matcher)
    | none =>
      if isNew && !invocation.has "r" then pure .sentences
      else do
        let matcher ← matcherOf false ['\n']
        pure (.matching matcher)
  let words ← wordsOf isNew foldsCase (invocation.argument? "W") (invocation.argument? "b")
  let ignored ← wordsIn (invocation.argument? "i")
  let only ← wordsIn (invocation.argument? "o")
  pure {
    parts, words, isNew, foldsCase, ignored, only, gap, width
    format := format.getD (if isNew then .plain else .requests)
    tellsLines := invocation.has "A"
    hasReferences := invocation.has "r"
    referencesRight := invocation.has "R"
    cut := ((invocation.argument? "F").map unescapedOf).getD ['/']
    name := (invocation.argument? "M").getD "xx".toList }

/-- Write the keywords of files. -/
def run (plan : Plan) (paths : List Raw) : Act Raw := do
  let mut texts : Array (Array Char) := #[]
  let mut ends : Array Nat := #[]
  let mut search : Search := ⟨0, 0, 0, 0, 0, 0, []⟩
  for path in paths do
    let text := (← textOf path).toArray
    let reference := if plan.hasReferences then skipForward text isInk 0 text.size else 0
    let scanned := if plan.hasReferences then skipForward text Raw.isSpace reference text.size else 0
    search ← searchText plan texts.size text (text.size + 1) 0 { search with lineStart := 0, scanned, reference }
    search := { search with lines := search.lines + 1 }
    texts := texts.push text
    ends := ends.push search.lines
  let library : Library := { texts, ends, names := (paths.map fun path => if path == ['-'] then [] else path).toArray }
  let widths := widthsOf plan library search.widest search.longest
  let wordOf := fun (keyword : Keyword) => slice ((texts[keyword.file]?).getD #[]) keyword.start keyword.stop
  let sorted := (search.found.reverse.map fun keyword => (wordOf keyword, keyword)).mergeSort fun first second =>
    compare plan first.1 second.1 != .gt
  pure (sorted.flatMap fun pair => lineOf plan library widths pair.2 ++ ['\n'])

end Keywords

/-- Write the words of texts in order, with what stands around them. -/
def ptx : Utility := ofAct fun arguments => do
  let invocation ← Act.readOptions 1 Keywords.known false arguments
  let plan ← Keywords.planOf invocation
  let named := fun (path : Raw) => if path.isEmpty then ['-'] else path
  if plan.isNew then
    let paths := if invocation.operands.isEmpty then [['-']] else invocation.operands.map named
    let text ← Keywords.run plan paths
    Act.say text
  else
    match invocation.operands with
    | _ :: _ :: extra :: _ => Act.refuseExtra 1 extra
    | [path, output] => do
      let opened : Except OsError Nat ← Act.ask (.openFile output .writing)
      match opened with
      | .error reason => Act.die 1 (nameFor output ++ ": ".toList ++ reason.description)
      | .ok descriptor => do
        let text ← Keywords.run plan [named path]
        let _ : Except OsError Unit ← Act.ask (.write descriptor (Raw.octets text))
    | operands => do
      let text ← Keywords.run plan (if operands.isEmpty then [['-']] else operands.map named)
      Act.say text

/-- The programs that are here. -/
def keywordTools : List (String × Utility) :=
  [("ptx", ptx)]

end AnswerQuery.Host.Tool
