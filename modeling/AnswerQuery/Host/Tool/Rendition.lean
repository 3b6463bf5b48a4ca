import AnswerQuery.Host.Conversion

/-! Renditions: forms that tell what is written for a group of lines of two files, and for each line in it. -/

namespace AnswerQuery.Host.Tool

namespace Rendition

/-- A run of lines of a file: its first line, and the line behind its last one, counted from zero. -/
structure Stretch where
  /-- The first line. -/
  from_ : Nat
  /-- The line behind the last one. -/
  to_ : Nat
  deriving DecidableEq, Repr

/-- What a letter tells about a run of lines: the line before it, its first line, its last line, the line behind it, or how
many lines there are. Lines are counted from one. -/
def figure? (stretch : Stretch) : Char → Option Nat
  | 'e' => some stretch.from_
  | 'f' => some (stretch.from_ + 1)
  | 'l' => some stretch.to_
  | 'm' => some (stretch.to_ + 1)
  | 'n' => some (stretch.to_ - stretch.from_)
  | _ => none

/-- What a letter tells about runs of lines of two files; capitals tell of the second one. -/
def figureOf? (stretch stretch' : Stretch) (letter : Char) : Option Nat :=
  if letter.isUpper then figure? stretch' letter.toLower else figure? stretch letter

/-- A character behind a quotation mark, as itself or by octal digits, with the mark behind it; and what follows. -/
def literal? : Raw → Option (Char × Raw)
  | '\\' :: rest =>
    let digits := rest.takeWhile (· != '\'')
    let isOctal := digits.all fun c => '0' ≤ c && c ≤ '7'
    if digits.length = rest.length || digits.isEmpty || 3 < digits.length || !isOctal then none
    else some (Char.ofNat (Numeral.valueOf 8 digits % 256), rest.drop (digits.length + 1))
  | '\'' :: _ => none
  | c :: '\'' :: rest => some (c, rest)
  | _ => none

/-- What a sign with a letter behind it stands for, given what letters tell; and what follows. -/
def sign? (figureOf : Char → Option Nat) (text : Raw) : Option (Raw × Raw) := do
  let flags := text.takeWhile "-'0".toList.contains
  let rest := text.drop flags.length
  let width := rest.takeWhile Char.isDigit
  let rest := rest.drop width.length
  let (precision, rest) := match rest with
    | '.' :: rest =>
      let digits := rest.takeWhile Char.isDigit
      (some (Numeral.valueOf 10 digits), rest.drop digits.length)
    | rest => (none, rest)
  match rest with
  | 'c' :: '\'' :: rest =>
    let (c, rest) ← literal? rest
    pure ([c], rest)
  | letter :: subject :: rest =>
    if !"doxX".toList.contains letter then none
    else
      let value ← figureOf subject
      let conversion : Conversion := { flags, width := Numeral.valueOf 10 width, precision, letter }
      pure (conversion.unsigned value, rest)
  | _ => none

/-- What a form makes of a line, given its number and its text with and without its end. -/
def ofLine (number : Nat) (text ended : Raw) : Nat → Raw → Raw
  | 0, _ => []
  | _ + 1, [] => []
  | steps + 1, '%' :: rest =>
    match rest with
    | '%' :: rest => '%' :: ofLine number text ended steps rest
    | 'l' :: rest => text ++ ofLine number text ended steps rest
    | 'L' :: rest => ended ++ ofLine number text ended steps rest
    | _ =>
      match sign? (fun letter => if letter == 'n' then some number else none) rest with
      | some (written, rest) => written ++ ofLine number text ended steps rest
      | none => '%' :: ofLine number text ended steps rest
  | steps + 1, c :: rest => c :: ofLine number text ended steps rest

/-- A group of lines for which something is written. -/
structure Group where
  /-- Where the lines of the first file are. -/
  stretch : Stretch
  /-- Where the lines of the second file are. -/
  stretch' : Stretch
  /-- What the lines of the first file look like if they are left out. -/
  removed : Raw
  /-- What the lines of the first file look like if both files have them. -/
  common : Raw
  /-- What the lines of the second file look like if they are added. -/
  added : Raw

namespace Group

/-- One side of a condition: a number, or a letter that tells one. -/
def side? (group : Group) (text : Raw) : Option (Nat × Raw) :=
  match text with
  | [] => none
  | c :: rest =>
    if c.isDigit then
      let digits := text.takeWhile Char.isDigit
      some (Numeral.valueOf 10 digits, text.drop digits.length)
    else (figureOf? group.stretch group.stretch' c).map fun value => (value, rest)

/-- Whether a condition holds, and what follows it. -/
def condition? (group : Group) (text : Raw) : Option (Bool × Raw) := do
  match ← group.side? text with
  | (value, '=' :: rest) =>
    match ← group.side? rest with
    | (value', '?' :: rest) => pure (value == value', rest)
    | _ => none
  | _ => none

/-- What a form makes of a group up to a character that ends the form, and what begins with that character. A sign that
makes no sense stands for itself. -/
def written (group : Group) : Nat → Option Char → Raw → Raw × Raw
  | 0, _, rest => ([], rest)
  | _ + 1, _, [] => ([], [])
  | steps + 1, ending, c :: rest =>
    let before := fun (text : Raw) (others : Raw × Raw) => (text ++ others.1, others.2)
    if some c == ending then ([], c :: rest)
    else if c != '%' then before [c] (written group steps ending rest)
    else match rest with
      | '%' :: rest => before ['%'] (written group steps ending rest)
      | '<' :: rest => before group.removed (written group steps ending rest)
      | '=' :: rest => before group.common (written group steps ending rest)
      | '>' :: rest => before group.added (written group steps ending rest)
      | '(' :: inner =>
        match group.condition? inner with
        | none => before ['%'] (written group steps ending rest)
        | some (holds, inner) =>
          let (yes, behind) := written group steps (some ':') inner
          let (no, behind) := if behind.isEmpty then ([], []) else written group steps (some ')') (behind.drop 1)
          before (if holds then yes else no) (written group steps ending (behind.drop 1))
      | _ =>
        match sign? (figureOf? group.stretch group.stretch') rest with
        | some (text, rest) => before text (written group steps ending rest)
        | none => before ['%'] (written group steps ending rest)

end Group

/-- The forms that tell what is written, as far as they are given. -/
structure Forms where
  /-- The form of lines that both files have. -/
  commonLine : Option Raw := none
  /-- The form of lines that are left out. -/
  removedLine : Option Raw := none
  /-- The form of lines that are added. -/
  addedLine : Option Raw := none
  /-- The form of groups of lines that both files have. -/
  common : Option Raw := none
  /-- The form of groups of lines that are left out. -/
  removed : Option Raw := none
  /-- The form of groups of lines that are added. -/
  added : Option Raw := none
  /-- The form of groups of lines that are put in the place of others. -/
  changed : Option Raw := none
  deriving Repr

namespace Forms

/-- The form of lines if nothing is said about it. -/
def usualLine : Raw := "%l\n".toList

/-- The form of groups of lines that are left out. -/
def ofRemoved (forms : Forms) : Raw :=
  forms.removed.getD (forms.changed.getD "%<".toList)

/-- The form of groups of lines that are added. -/
def ofAdded (forms : Forms) : Raw :=
  forms.added.getD (forms.changed.getD "%>".toList)

/-- The form of groups of lines that both files have. -/
def ofCommon (forms : Forms) : Raw :=
  forms.common.getD "%=".toList

/-- The form of groups of lines that are put in the place of others. -/
def ofChanged (forms : Forms) : Raw :=
  forms.changed.getD (forms.ofRemoved ++ forms.ofAdded)

/-- Whether nothing is written for lines that both files have. -/
def hidesCommon (forms : Forms) : Bool :=
  forms.ofCommon.isEmpty || (forms.ofCommon == "%=".toList && (forms.commonLine.getD usualLine).isEmpty)

/-- The forms that write both files as one with conditions about a name. -/
def ofName (name : Raw) : Forms where
  common := some "%=".toList
  removed := some ("#ifndef ".toList ++ name ++ "\n%<#endif /* ! ".toList ++ name ++ " */\n".toList)
  added := some ("#ifdef ".toList ++ name ++ "\n%>#endif /* ".toList ++ name ++ " */\n".toList)
  changed := some ("#ifndef ".toList ++ name ++ "\n%<#else /* ".toList ++ name ++ " */\n%>#endif /* ".toList ++ name ++
    " */\n".toList)

end Forms

end Rendition

end AnswerQuery.Host.Tool
