import AnswerQuery.Host.Script.Shell
import AnswerQuery.Host.Script.Wildcard

/-! Fields: what words are split into after what they stand for has been put in place. -/

namespace AnswerQuery.Host.Script

/-- What a piece of a word has become. -/
inductive Shape where
  /-- A character. -/
  | character
  /-- A character that stands for itself. -/
  | escaped
  /-- Quotes begin or end. -/
  | mark
  /-- A value without characters. -/
  | vacant
  deriving DecidableEq, Repr

/-- A piece of a word after what it stands for has been put in place. -/
structure Glyph where
  /-- The character. -/
  c : Char
  /-- What it has become. -/
  shape : Shape
  /-- The number of the value it belongs to, at which the word can be split; zero for none. -/
  region : Nat := 0
  /-- Whether the value can only be split where one argument ends and another begins. -/
  ofArguments : Bool := false
  deriving DecidableEq, Repr

namespace Glyph

/-- Whether there is a character. -/
def isCharacter (glyph : Glyph) : Bool :=
  glyph.shape == .character || glyph.shape == .escaped

/-- The characters alone. -/
def text (glyphs : List Glyph) : Raw :=
  (glyphs.filter isCharacter).map Glyph.c

/-- The characters, each with whether it stands for itself. -/
def marked (glyphs : List Glyph) : Marked :=
  (glyphs.filter isCharacter).map fun glyph => (glyph.c, glyph.shape == .escaped)

/-- Characters that are not in quotes. -/
def ofText (text : Raw) : List Glyph :=
  text.map fun c => ⟨c, .character, 0, false⟩

/-- Characters that stand for themselves. -/
def ofQuoted (text : Raw) : List Glyph :=
  text.map fun c => ⟨c, .escaped, 0, false⟩

/-- Glyphs as a value at which the word can be split. -/
def inRegion (region : Nat) (ofArguments : Bool) (glyphs : List Glyph) : List Glyph :=
  if glyphs.any isCharacter then glyphs.map fun glyph => { glyph with region, ofArguments }
  else glyphs ++ [⟨' ', .vacant, region, ofArguments⟩]

end Glyph

/-- The character between two arguments. -/
def border : Char := '\x00'

/-- A splitter of words. -/
structure Splitter where
  /-- The fields, the last one first. -/
  fields : List (List Glyph) := []
  /-- The field that has begun, the last glyph first. -/
  current : List Glyph := []
  /-- Whether the last field was ended by a blank. -/
  afterBlank : Bool := false
  /-- The value that the last glyph belongs to. -/
  region : Nat := 0
  /-- Whether that value can only be split between arguments. -/
  ofArguments : Bool := false
  /-- Whether that could be done with the value before it. -/
  afterArguments : Bool := false
  /-- How many fields there may still be, if their number is limited. -/
  most : Option Nat := none
  /-- How much of the last field stays, if blanks at its end are dropped. -/
  keeps : Option Nat := none

namespace Splitter

/-- End the field that has begun. -/
def cut (splitter : Splitter) : Splitter :=
  { splitter with fields := splitter.current.reverse :: splitter.fields, current := [] }

/-- Add a glyph to the field that has begun. -/
def push (splitter : Splitter) (glyph : Glyph) : Splitter :=
  { splitter with current := glyph :: splitter.current }

/-- Come to a value. -/
def reach (splitter : Splitter) (glyph : Glyph) : Splitter :=
  if glyph.region = 0 || glyph.region == splitter.region then splitter
  else { splitter with
    region := glyph.region, afterArguments := splitter.ofArguments, ofArguments := glyph.ofArguments,
    afterBlank := false }

/-- Go on with a character of a value. -/
def feedLoose (separators : Raw) (splitter : Splitter) (glyph : Glyph) : Splitter :=
  let separates := glyph.c == border || (!splitter.ofArguments && separators.contains glyph.c)
  let isBlank := separates && (glyph.c == border || " \t\n".toList.contains glyph.c)
  if splitter.most == some 0 then
    if isBlank then { splitter.push glyph with keeps := some (splitter.keeps.getD splitter.current.length) }
    else
      let keeps := if separates && splitter.afterBlank then splitter.keeps else none
      { splitter.push glyph with keeps, afterBlank := false }
  else if splitter.afterBlank && separates then
    -- What follows a blank that has ended a field belongs to the same border.
    if isBlank then splitter else { splitter with afterBlank := false }
  else if separates then
    let afterBlank := if splitter.afterArguments || splitter.ofArguments then splitter.afterBlank else isBlank
    if splitter.current.isEmpty && afterBlank then { splitter with afterBlank := false }
    else
      match splitter.most with
      | some 1 => { splitter.push glyph with most := some 0, keeps := some splitter.current.length, afterBlank }
      | most => { splitter.cut with most := most.map (· - 1), afterBlank }
  else { splitter.push glyph with afterBlank := false }

/-- Go on with a glyph. -/
def feed (separators : Raw) (splitter : Splitter) (glyph : Glyph) : Splitter :=
  let splitter := splitter.reach glyph
  match glyph.shape with
  | .vacant => splitter
  | .mark => splitter.push glyph
  | .escaped => if glyph.region = 0 then splitter.push glyph else splitter.feedLoose separators glyph
  | .character => if glyph.region = 0 then splitter.push glyph else splitter.feedLoose separators glyph

/-- The fields. -/
def finish (splitter : Splitter) : List (List Glyph) :=
  if splitter.ofArguments then splitter.cut.fields.reverse
  else
    let current := match splitter.keeps with
      | some count => splitter.current.drop (splitter.current.length - count)
      | none => splitter.current
    if current.isEmpty then splitter.fields.reverse
    else { splitter with current }.cut.fields.reverse

end Splitter

/-- The fields of a word, of which there may be a limited number. -/
def fieldsOf (separators : Raw) (most : Option Nat) (glyphs : List Glyph) : List (List Glyph) :=
  (glyphs.foldl (Splitter.feed separators) { most }).finish

end AnswerQuery.Host.Script

/-! The values of parameters as they stand in words. -/

namespace AnswerQuery.Host.Script

/-- How a word is replaced. -/
structure Manner where
  /-- Whether it is split into fields. -/
  splits : Bool := false
  /-- Whether a tilde at its front is the home directory. -/
  tilde : Bool := false
  /-- Whether it sets a variable, so that tildes behind the sign and behind colons are the home directory too. -/
  setting : Bool := false
  /-- Whether the sign behind the name of the variable has been passed. -/
  afterSign : Bool := false
  /-- Whether it stands for a parameter, so that its own characters are split as well. -/
  ofParameter : Bool := false
  /-- Whether it is in quotes. -/
  quoted : Bool := false
  /-- Whether it is passed over. -/
  skipped : Bool := false

/-- The value of a parameter that is not all of the arguments. -/
def Shell.parameter? (shell : Shell) (name : Raw) : Option Raw :=
  let arguments := shell.arguments.values
  let numbered := fun (number : Nat) => if number = 0 then some shell.name else arguments[number - 1]?
  match name with
  | ['$'] => some (decimal shell.identity)
  | ['?'] => some (decimal shell.status)
  | ['#'] => some (decimal arguments.length)
  | ['!'] => shell.latest.map decimal
  | ['-'] => some ((Shell.optionLetters shell.dialect).filter shell.has)
  | _ =>
    match Numeral.natural? name with
    | some number => numbered number
    | none => shell.value? name

namespace Sh

/-- A number for a value at which a word can be split. -/
def newRegion : Sh Nat := do
  let shell ← get
  let region := shell.regions + 1
  set { shell with regions := region }
  pure region

/-- The characters of a value; in quotes they stand for themselves. -/
def valueGlyphs (manner : Manner) (value : Raw) : List Glyph :=
  if manner.quoted then
    value.map fun c => ⟨c, if Setting.guardedCharacters.contains c || c == '\\' then .escaped else .character, 0, false⟩
  else Glyph.ofText value

/-- Glyphs as a value at which the word can be split, unless they are in quotes. -/
def loosen (manner : Manner) (glyphs : List Glyph) : Sh (List Glyph) := do
  if manner.quoted || manner.skipped then pure glyphs
  else
    let region ← newRegion
    pure (Glyph.inRegion region false glyphs)

/-- What stands between the arguments if all of them are taken. -/
def separatorGlyphs (manner : Manner) (name : Char) (shell : Shell) : List Glyph :=
  let between : List Glyph := [⟨border, .character, 0, false⟩]
  if name == '@' && manner.quoted && manner.splits then between
  else match shell.value? "IFS".toList with
    | none => valueGlyphs manner [' ']
    | some separators =>
      if manner.splits && !manner.quoted then between
      else valueGlyphs manner (separators.take 1)

/-- Values as glyphs, with borders or separators between them as between the arguments. -/
def severalGlyphs (manner : Manner) (name : Char) (shell : Shell) (values : List Raw) : List Glyph :=
  (separatorGlyphs manner name shell).intercalate (values.map (valueGlyphs manner))

/-- The value of a parameter; of all arguments, with borders or separators between them. -/
def parameterValue (manner : Manner) (name : Raw) : Sh (Option (List Glyph)) := do
  let shell ← get
  match name with
  | ['@'] => pure (some (severalGlyphs manner '@' shell shell.arguments.values))
  | ['*'] => pure (some (severalGlyphs manner '*' shell shell.arguments.values))
  | _ => pure ((shell.parameter? name).map (valueGlyphs manner))

/-- A value as what a word has become; values that stand apart can be split between them even in quotes. -/
def placeValues (manner : Manner) (apart : Bool) (value : List Glyph) : Sh (List Glyph) := do
  if manner.skipped then pure []
  else if !manner.quoted then loosen manner value
  else if apart && manner.splits then
    let region ← newRegion
    pure (Glyph.inRegion region true value)
  else pure value

/-- The value of a parameter as what a word has become; all arguments in quotes can be split between them. -/
def placeValue (manner : Manner) (name : Raw) (value : List Glyph) : Sh (List Glyph) := do
  placeValues manner (name == ['@'] && !(← get).arguments.values.isEmpty) value

end Sh

end AnswerQuery.Host.Script
