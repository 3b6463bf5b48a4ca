import AnswerQuery.Host.Script.Formula
import AnswerQuery.Host.Script.Value

/-! Parameters that are looked at more closely: elements of lists and tables, parts of values, and values in which
something is replaced. -/

namespace AnswerQuery.Host.Script

/-- What a parameter stands for. -/
structure Meant where
  /-- The values. -/
  values : List Raw
  /-- The places of the values. -/
  places : List Raw := []
  /-- The sign that takes all of the values, if it is there. -/
  sign : Option Char := none
  /-- Whether there is a value. -/
  isSet : Bool
  /-- Whether the values are the arguments. -/
  ofArguments : Bool := false

namespace Glyph

/-- The characters, each with whether it is in quotes, given whether quotes have begun. -/
def quotedFrom : Bool → List Glyph → List (Char × Bool)
  | _, [] => []
  | quoted, glyph :: rest =>
    match glyph.shape with
    | .mark => quotedFrom (!quoted) rest
    | .vacant => quotedFrom quoted rest
    | .escaped => (glyph.c, true) :: quotedFrom quoted rest
    | .character => (glyph.c, quoted) :: quotedFrom quoted rest

end Glyph

/-- A text in quotes as a shell reads it again: plain if that is enough, or with codes if it has to be. -/
def quotedText (text : Raw) : Raw :=
  if text.any fun c => c.toNat < 32 || 126 < c.toNat then
    "$'".toList ++ text.flatMap coded ++ ['\'']
  else '\'' :: text.flatMap (fun c => if c == '\'' then "'\\''".toList else [c]) ++ ['\'']
where
  /-- A character as it is written behind a dollar sign and a quote. -/
  coded (c : Char) : Raw :=
    match c with
    | '\'' => "\\'".toList
    | '\\' => "\\\\".toList
    | '\x1b' => "\\E".toList
    | _ =>
      match Escaping.letters.find? fun pair => pair.2 == c with
      | some (letter, _) => ['\\', letter]
      | none =>
        if c.toNat < 32 || 126 < c.toNat then
          let digits := Numeral.inBase 8 c.toNat
          '\\' :: List.replicate (3 - digits.length) '0' ++ digits
        else [c]

/-- Whether a shell reads a text as something else unless it is in quotes, given the character in front of it. -/
def needsQuotes : Option Char → Raw → Bool
  | _, [] => false
  | before, c :: rest =>
    " \t\n'\"\\|&;()<>!\x7b\x7d*[?]^$\x60".toList.contains c ||
      (c == '~' && (before.isNone || before == some '=' || before == some ':')) ||
      (c == '#' && before.isNone) || needsQuotes (some c) rest

/-- A text in quotes if a shell needs them to read it again. -/
def quotedIfNeeded (text : Raw) : Raw :=
  if needsQuotes none text || text.any (fun c => c.toNat < 32 || 126 < c.toNat) then quotedText text else text

/-- A text in double quotes as a shell reads it again. -/
def doubleQuoted (text : Raw) : Raw :=
  if text.any fun c => c.toNat < 32 || 126 < c.toNat then quotedText text
  else '"' :: text.flatMap (fun c => if "\"\\$\x60".toList.contains c then ['\\', c] else [c]) ++ ['"']

/-- Whether a key of a table is shown without quotes. -/
def isPlainKey (key : Raw) : Bool :=
  !key.isEmpty && key.all fun c => c.isAlphanum || "_-./:%+,=^".toList.contains c

namespace Items

/-- The elements as a shell reads them again. -/
def shown : Items → Raw
  | list elements =>
    '(' :: [' '].intercalate (elements.map fun (place, value) =>
      '[' :: decimal place ++ "]=".toList ++ doubleQuoted value) ++ [')']
  | table entries =>
    '(' :: entries.flatMap (fun (key, value) =>
      '[' :: (if isPlainKey key then key else doubleQuoted key) ++ "]=".toList ++ doubleQuoted value ++ [' ']) ++ [')']

end Items

namespace Variable

/-- The letters of what is particular about a variable. -/
def letters (variable_ : Variable) : Raw :=
  let kind := match variable_.items with
    | some (.list _) => ['a']
    | some (.table _) => ['A']
    | none => []
  let has := fun (letter : Char) => if variable_.has letter then [letter] else []
  kind ++ has 'i' ++ has 'n' ++ (if variable_.fixed then ['r'] else []) ++ (if variable_.exported then ['x'] else []) ++
    has 'c' ++ has 'l' ++ has 'u'

/-- A variable as a command that declares it. -/
def declared (name : Raw) (variable_ : Variable) : Raw :=
  let letters := variable_.letters
  let value := match variable_.items with
    | some items => '=' :: items.shown
    | none => match variable_.value with
      | some value => '=' :: doubleQuoted value
      | none => []
  "declare -".toList ++ (if letters.isEmpty then ['-'] else letters) ++ [' '] ++ name ++ value

end Variable

namespace Matching

/-- How much at the front of a text fits a pattern, at most; nothing if no front fits. -/
def longestFront? (pattern : List Wildcard) (text : Raw) : Option Nat :=
  Wildcard.frontLength? true pattern text

/-- A text in which what fits a pattern is replaced, wherever it is or only where it is first. -/
def replaceAll (pattern : List Wildcard) (everywhere : Bool) (by_ : Raw → Raw) : Nat → Raw → Raw
  | 0, text => text
  | _ + 1, [] => []
  | steps + 1, c :: rest =>
    match (longestFront? pattern (c :: rest)).filter (0 < ·) with
    | some count =>
      let after := (c :: rest).drop count
      by_ ((c :: rest).take count) ++ (if everywhere then replaceAll pattern everywhere by_ steps after else after)
    | none => c :: replaceAll pattern everywhere by_ steps rest

/-- A text in which what fits a pattern is replaced. -/
def replace (spot : Spot) (pattern : List Wildcard) (by_ : Raw → Raw) (text : Raw) : Raw :=
  match spot with
  | .first => replaceAll pattern false by_ (text.length + 1) text
  | .everywhere => replaceAll pattern true by_ (text.length + 1) text
  | .atFront =>
    match longestFront? pattern text with
    | some count => by_ (text.take count) ++ text.drop count
    | none => text
  | .atEnd =>
    match Wildcard.keptLength? true pattern text with
    | some kept => text.take kept ++ by_ (text.drop kept)
    | none => text

/-- A character of which the case is changed. -/
def reletter (lettering : Lettering) (c : Char) : Char :=
  match lettering with
  | .upper => c.toUpper
  | .lower => c.toLower
  | .other => if c.isUpper then c.toLower else c.toUpper

/-- A text of which the letters that fit a pattern are changed, all of them or only the first character. -/
def reletterAll (lettering : Lettering) (everywhere : Bool) (pattern : Option (List Wildcard)) (text : Raw) : Raw :=
  let change := fun (c : Char) =>
    if (pattern.map fun parts => Wildcard.fits parts [c]).getD true then reletter lettering c else c
  match everywhere, text with
  | true, _ => text.map change
  | false, c :: rest => change c :: rest
  | false, [] => []

end Matching

namespace Sh

/-- What a text that tells the name of a parameter stands for: the name and the part that is meant. -/
def splitName? (text : Raw) : Option (Raw × Option Word) :=
  let name := text.takeWhile Raw.inName
  match text.drop name.length with
  | [] => if Raw.isName text || (Numeral.natural? text).isSome then some (text, none) else none
  | '[' :: rest =>
    if Raw.isName name && rest.getLast? == some ']' then some (name, some (Word.ofPlain rest.dropLast)) else none
  | _ => if text == ['@'] || text == ['*'] || text == ['#'] || text == ['?'] then some (text, none) else none

/-- What a parameter or a part of it stands for, given what the words in it stand for. -/
def meaningOf (textOf : Word → Sh Raw) (name : Raw) (part : Option Word) : Sh Meant := do
  let shell ← get
  let several := fun (sign : Char) (values places : List Raw) =>
    ({ values, places, sign := some sign, isSet := !values.isEmpty } : Meant)
  let single := fun (value : Option Raw) => ({ values := value.toList, isSet := value.isSome } : Meant)
  match name, part with
  | ['@'], _ => pure { several '@' shell.arguments.values [] with ofArguments := true }
  | ['*'], _ => pure { several '*' shell.arguments.values [] with ofArguments := true }
  | _, none => pure (single (shell.parameter? name))
  | _, some part => do
    let items := Reckon.itemsOf shell name
    let all := fun (sign : Char) => match items with
      | some items => several sign items.values items.places
      | none => several sign (shell.value? name).toList ((shell.value? name).toList.map fun _ => ['0'])
    match part with
    | [.plain '@'] => pure (all '@')
    | [.plain '*'] => pure (all '*')
    | _ => do
      let text ← textOf part
      match items with
      | some (.table entries) => pure (single (entries.lookup text))
      | _ => do
        let place ← Reckon.placeOf Reckon.deepest name items (text.filter (· != '"'))
        pure (single (match items with
          | some (.list elements) => elements.lookup place
          | _ => if place = 0 then shell.value? name else none))

/-- What stands between the quotes of a pattern or not, as a pattern. -/
def patternOf (again : Manner → Word → Sh (List Glyph)) (word : Word) : Sh (List Wildcard) := do
  let glyphs ← again { tilde := true } word
  pure (Wildcard.ofMarked (← get).hasChoices (Marked.withCarets (Glyph.quotedFrom false glyphs)))

/-- A part of a text from a place on, which may be counted from its end. -/
def sliceText (text : Raw) (start : Int) (count : Option Int) (shown : Raw) : Sh Raw := do
  let length := Int.ofNat text.length
  let start := if start < 0 then start + length else start
  if start < 0 || length < start then pure []
  else match count with
    | none => pure (text.drop start.toNat)
    | some count =>
      let behind := if count < 0 then length + count else min length (start + count)
      if behind < start then giveUp (shown ++ ": substring expression < 0".toList)
      else pure ((text.take behind.toNat).drop start.toNat)

/-- Some of several values, from a place on. -/
def sliceValues (shell : Shell) (meant : Meant) (start : Int) (count : Option Int) (shown : Raw) : Sh (List Raw) := do
  let numbered : List (Int × Raw) :=
    if meant.ofArguments then (shell.name :: meant.values).zipIdx.map fun (value, place) => (Int.ofNat place, value)
    else (meant.places.zip meant.values).zipIdx.map fun ((place, value), order) =>
      (Int.ofNat ((Numeral.natural? place).getD order), value)
  let behind := (numbered.getLast?.map fun pair => pair.1 + 1).getD 0
  let from_ := if start < 0 then start + behind else start
  let from_ := if meant.ofArguments && start = 0 then 0 else if meant.ofArguments && from_ = 0 then 0 else from_
  if from_ < 0 then pure []
  else
    let values := (numbered.filter fun pair => from_ ≤ pair.1).map Prod.snd
    match count with
    | none => pure values
    | some count =>
      if count < 0 then giveUp (shown ++ ": substring expression < 0".toList)
      else pure (values.take count.toNat)

/-- A value as a letter asks to show it. -/
def showValue (letter : Char) (value : Raw) : Raw :=
  match letter with
  | 'Q' => quotedText value
  | 'E' => Escaping.unquote value
  | 'U' => value.map Char.toUpper
  | 'L' => value.map Char.toLower
  | 'u' => match value with
    | c :: rest => c.toUpper :: rest
    | [] => []
  | _ => value

/-- A variable as a command that sets it. -/
def showSetting (name : Raw) (variable_ : Variable) : Raw :=
  match variable_.items, variable_.letters with
  | none, [] => match variable_.value with
    | some value => name ++ '=' :: quotedText value
    | none => []
  | none, letters => match variable_.value with
    | some value => "declare -".toList ++ letters ++ [' '] ++ name ++ '=' :: quotedText value
    | none => "declare -".toList ++ letters ++ [' '] ++ name
  | some _, _ => variable_.declared name

/-- Set a parameter, or an element of it. -/
def assignPart (textOf : Word → Sh Raw) (name : Raw) (part : Option Word) (value : Raw) : Sh Unit := do
  match part with
  | none => assign name value
  | some part => do
    let shell ← get
    let name := shell.realName Shell.longestNaming name
    let before := (shell.variables_.lookup name).getD ⟨none, false, false, none, []⟩
    if before.fixed then refuseChange name
    let text ← textOf part
    let value := before.shaped value
    let elements := match before.items with
      | some (.list elements) => elements
      | _ => match before.value with
        | some first => [(0, first)]
        | none => []
    let items ← match before.items with
      | some (.table entries) =>
        if text.isEmpty then giveUp (name ++ "[]: bad array subscript".toList)
        pure (Items.table (Items.putUnder text value entries))
      | _ => do
        let place ← Reckon.placeOf Reckon.deepest name (some (.list elements)) (text.filter (· != '"'))
        pure (.list (Items.putAt place value elements))
    modify fun shell => shell.put name { before with items := some items, value := none }

/-- What a parameter is called in complaints. -/
def calledIn (textOf : Word → Sh Raw) (name : Raw) : Option Word → Sh Raw
  | none => pure name
  | some part => do
    let text ← textOf part
    pure (name ++ '[' :: text ++ [']'])

/-- What a word stands for in place of a parameter, if it does, and the values that are taken otherwise. -/
def substitute (again : Manner → Word → Sh (List Glyph)) (textOf : Word → Sh Raw) (manner : Manner) (name : Raw)
    (part : Option Word) (meant : Meant) (treatment : Treatment) (nullToo : Bool) (word : Word) :
    Sh (List Glyph ⊕ List Raw) := do
  let hasValue := meant.isSet && !(nullToo && meant.values.all List.isEmpty)
  let taken := pure (.inr meant.values)
  let inPlace := .inl <$> again { manner with tilde := true, ofParameter := true } word
  match treatment with
  | .default => if hasValue then taken else inPlace
  | .instead => if hasValue then inPlace else pure (.inr [])
  | .assigned =>
    if hasValue then taken
    else
      let glyphs ← again { tilde := true } word
      assignPart textOf name part (Glyph.text glyphs)
      pure (.inr [Glyph.text glyphs])
  | _ =>
    if hasValue then taken
    else
      let glyphs ← again { tilde := true } word
      let called ← calledIn textOf name part
      let usual := if nullToo then "parameter null or not set" else "parameter not set"
      giveUpShell (called ++ ": ".toList ++ (if word.isEmpty then usual.toList else Glyph.text glyphs))

/-- The values that an operation makes of those of a parameter. -/
def operate (again : Manner → Word → Sh (List Glyph)) (textOf : Word → Sh Raw) (name : Raw) (part : Option Word)
    (meant : Meant) : Operation → Sh (List Raw)
  | .length =>
    if meant.sign.isSome then pure [decimal meant.values.length]
    else pure [decimal (meant.values.head?.getD []).length]
  | .places => pure meant.places
  | .cut treatment pattern => do
    let parts ← patternOf again pattern
    pure (meant.values.map fun value => match treatment with
      | .cutFront longest => value.drop ((Wildcard.frontLength? longest parts value).getD 0)
      | .cutEnd longest => value.take ((Wildcard.keptLength? longest parts value).getD value.length)
      | _ => value)
  | .slice start count => do
    let startText ← textOf start
    let from_ ← reckon startText
    let countText ← count.mapM textOf
    let most ← countText.mapM reckon
    let shown := countText.getD []
    let shell ← get
    if meant.sign.isSome then sliceValues shell meant from_ most shown
    else meant.values.mapM fun value => sliceText value from_ most shown
  | .replaced spot pattern replacement => do
    let parts ← patternOf again pattern
    let glyphs ← again { tilde := true } replacement
    let pieces := Glyph.quotedFrom false glyphs
    let by_ := fun (matched : Raw) => pieces.flatMap fun (c, quoted) => if c == '&' && !quoted then matched else [c]
    pure (meant.values.map fun value =>
      if parts.isEmpty && (spot == .first || spot == .everywhere) then value
      else Matching.replace spot parts by_ value)
  | .relettered lettering everywhere pattern => do
    let parts ← if pattern.isEmpty then pure none else some <$> patternOf again pattern
    pure (meant.values.map (Matching.reletterAll lettering everywhere parts))
  | .shown letter => do
    let shell ← get
    let variable_ := shell.variables_.lookup name
    match letter with
    | 'a' => pure ((variable_.map fun known => known.letters).toList)
    | 'A' =>
      if part.isSome || variable_.isSome then pure ((variable_.map (showSetting name)).toList) else pure []
    | 'K' =>
      if meant.sign.isSome && !meant.ofArguments then
        let pairs := (meant.places.zip meant.values).map fun (place, value) =>
          (if isPlainKey place then place else doubleQuoted place) ++ ' ' :: doubleQuoted value
        match Reckon.itemsOf shell name with
        | some (.table _) => pure [pairs.flatMap fun pair => pair ++ [' ']]
        | _ => pure [[' '].intercalate pairs]
      else pure (meant.values.map quotedText)
    | 'k' =>
      if meant.sign.isSome && !meant.ofArguments then
        pure ((meant.places.zip meant.values).flatMap fun (place, value) => [place, value])
      else pure (meant.values.map quotedText)
    | _ => pure (meant.values.map (showValue letter))
  | _ => pure meant.values

/-- Whether an operation is content with a parameter that has no value. -/
def allowsUnset (meant : Meant) : Operation → Bool
  | .substituted .. => true
  | .places => true
  | .names => true
  | _ => meant.sign.isSome

/-- What a reference stands for. -/
def refer (again : Manner → Word → Sh (List Glyph)) (manner : Manner) (reference : Reference) : Sh (List Glyph) := do
  let .mk name part indirect operation := reference
  if manner.skipped then return []
  let textOf := fun (word : Word) => do
    let glyphs ← again { quoted := true } word
    pure (Glyph.text glyphs)
  if let .unknown text := operation then
    giveUpPlainly ("$\x7b".toList ++ text ++ "\x7d: bad substitution".toList)
  let placed := fun (sign : Option Char) (values : List Raw) => do
    let shell ← get
    match sign with
    | some sign =>
      placeValues manner (sign == '@' && !values.isEmpty) (severalGlyphs manner sign shell values)
    | none => placeValues manner false (valueGlyphs manner (values.head?.getD []))
  if let .names := operation then
    let shell ← get
    let names := (shell.variables_.map Prod.fst).filter name.isPrefixOf
    let sign := match part with
      | some [.plain c] => c
      | _ => '*'
    return ← placed (some sign) (names.mergeSort Raw.inOrder)
  let (name, part) ←
    if !indirect then pure (name, part)
    else do
      let told ← meaningOf textOf name part
      match told.values.head? with
      | none => giveUpPlainly (name ++ ": invalid indirect expansion".toList)
      | some text =>
        match splitName? text with
        | some found => pure found
        | none => giveUpPlainly (text ++ ": invalid variable name".toList)
  let meant ← meaningOf textOf name part
  let shell ← get
  if !meant.isSet && shell.has 'u' && !allowsUnset meant operation then
    let called ← calledIn textOf name part
    giveUpShell (called ++ ": unbound variable".toList)
  match operation with
  | .substituted treatment nullToo word => do
    match ← substitute again textOf manner name part meant treatment nullToo word with
    | .inl glyphs => pure glyphs
    | .inr values => placed meant.sign values
  | .length => do
    let values ← operate again textOf name part meant operation
    placed none values
  | _ => do
    let values ← operate again textOf name part meant operation
    let sign := match operation with
      | .shown 'A' => none
      | .shown 'K' => none
      | _ => meant.sign
    placed sign values

end Sh

end AnswerQuery.Host.Script
