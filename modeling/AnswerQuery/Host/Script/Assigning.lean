import AnswerQuery.Host.Script.Expansion

/-! Setting variables, their elements, and all of their elements at once. -/

namespace AnswerQuery.Host.Script

/-- What a variable is set to. -/
inductive Given where
  | text (value : Raw)
  | list (elements : List Element)

/-- What a word that sets a variable has become. -/
structure Assigned where
  /-- The name of the variable. -/
  name : Raw
  /-- The place of the element that is set, if it is one. -/
  part : Option Raw := none
  /-- Whether the value is added to the one before. -/
  appends : Bool := false
  /-- The value. -/
  given : Given

namespace Assigned

/-- How an assignment is shown. -/
def shown (showText : Raw → Raw) (assigned : Assigned) : Raw :=
  let part := match assigned.part with
    | some part => '[' :: part ++ [']']
    | none => []
  let value := match assigned.given with
    | .text value => if value.isEmpty then [] else showText value
    | .list elements => '(' :: [' '].intercalate (elements.map fun element => match element.place with
      | some place => '[' :: place ++ "]=".toList ++ showText element.value
      | none => showText element.value) ++ [')']
  assigned.name ++ part ++ (if assigned.appends then ['+'] else []) ++ '=' :: value

end Assigned

namespace Sh

/-- The text of a value that a variable is set to. -/
def valueText (capture : Capture) (word : Word) : Sh Raw := do
  let glyphs ← expandAll capture { setting := true, afterSign := true, tilde := true } word
  pure (Glyph.text glyphs)

/-- The text of a word that is not split. -/
def wholeText (capture : Capture) (word : Word) : Sh Raw := do
  let glyphs ← expandAll capture { quoted := true } word
  pure (Glyph.text glyphs)

/-- The elements that the words of a list stand for. -/
def elementsOf (capture : Capture) (words : List Word) : Sh (List Element) := do
  let elements ← words.mapM fun word => do
    let keyed : Option (Word × Bool × Word) := match word with
      | .plain '[' :: rest =>
        match Word.inBrackets 0 rest with
        | some (place, .plain '=' :: value) => some (place, false, value)
        | some (place, .plain '+' :: .plain '=' :: value) => some (place, true, value)
        | _ => none
      | _ => none
    match keyed with
    | some (place, appends, value) => do
      let place ← wholeText capture place
      let value ← valueText capture value
      pure [({ place := some place, appends, value } : Element)]
    | none => do
      let fields ← wordFields capture word
      pure (fields.map fun value => ({ value } : Element))
  pure elements.flatten

/-- What a word that sets a variable becomes. -/
def assignedOf (capture : Capture) (assignment : Assignment) : Sh Assigned := do
  let part ← assignment.part.mapM (wholeText capture)
  let given ← match assignment.value with
    | [.elements words] => Given.list <$> elementsOf capture words
    | value => Given.text <$> valueText capture value
  pure { name := assignment.name, part, appends := assignment.appends, given }

/-- A value as a variable takes it, which may be that of a formula; it may be added to another one. -/
def takenValue (variable_ : Variable) (before : Option Raw) (appends : Bool) (value : Raw) : Sh Raw := do
  if variable_.has 'i' then
    let number ← reckon value
    let start ← if appends then reckon (before.getD []) else pure 0
    pure (Numeral.ofInt (Numeral.wrap (start + number)))
  else pure (variable_.shaped ((if appends then before.getD [] else []) ++ value))

/-- Put elements into a list, from a place on where they do not tell theirs. -/
def fillList (variable_ : Variable) (name : Raw) : Nat → List (Nat × Raw) → List Element → Sh (List (Nat × Raw))
  | _, known, [] => pure known
  | next, known, element :: others => do
    let place ← match element.place with
      | some text => Reckon.placeOf Reckon.deepest name (some (.list known)) text
      | none => pure next
    let value ← takenValue variable_ (known.lookup place) element.appends element.value
    fillList variable_ name (place + 1) (Items.putAt place value known) others

/-- Put elements into a table; those that do not tell their places tell them one after the other with their values. -/
def fillTable (variable_ : Variable) (name : Raw) : List (Raw × Raw) → List Element → Sh (List (Raw × Raw))
  | known, [] => pure known
  | known, ⟨some place, appends, value⟩ :: others => do
    let value ← takenValue variable_ (known.lookup place) appends value
    fillTable variable_ name (Items.putUnder place value known) others
  | known, ⟨none, _, place⟩ :: next :: others => do
    let value ← takenValue variable_ none false next.value
    fillTable variable_ name (Items.putUnder place value known) others
  | known, [⟨none, _, place⟩] => pure (Items.putUnder place [] known)

/-- Set what a word sets. -/
def carryAssigned (assigned : Assigned) (exported : Bool) : Sh Unit := do
  let shell ← get
  let name := shell.realName Shell.longestNaming assigned.name
  let known := shell.variables_.lookup name
  let before := known.getD ⟨none, false, false, none, []⟩
  match assigned.given, assigned.part with
  | .text value, none =>
    if before.fixed then refuseChange name
    let value ← if assigned.appends || before.has 'i' then
        takenValue before (if assigned.appends then before.text else none) assigned.appends value
      else pure value
    setVariable name (some value) exported false
  | .text value, some part =>
    if before.fixed then refuseChange name
    let textOf := fun (word : Word) => pure (Word.unquoted word)
    let value ← if assigned.appends || before.has 'i' then do
        let meant ← meaningOf textOf name (some (Word.ofPlain part))
        takenValue before meant.values.head? assigned.appends value
      else pure value
    assignPart textOf name (some (Word.ofPlain part)) value
  | .list elements, _ =>
    if before.fixed then refuseChange name
    let items ← match before.items with
      | some (.table entries) => Items.table <$> fillTable before name (if assigned.appends then entries else []) elements
      | some (.list known) =>
        let start := if assigned.appends then known else []
        Items.list <$> fillList before name (Items.list start).nextPlace start elements
      | none =>
        let start := match before.value with
          | some value => if assigned.appends then [(0, value)] else []
          | none => []
        Items.list <$> fillList before name start.length start elements
    modify fun shell => shell.put name { before with
      items := some items, value := none, exported := before.exported || exported }

end Sh

end AnswerQuery.Host.Script
