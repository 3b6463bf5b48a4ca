import AnswerQuery.Host.Tool.Path

/-! Keeping files under other names when they are replaced. -/

namespace AnswerQuery.Host.Tool

/-- The path of the directory in which a path has its last name. -/
def Path.placeOf (path : Raw) : Raw :=
  (Path.parent? path).getD (if path.head? == some '/' then ['/'] else ['.'])

/-- Whether two paths are the same name in the same directory. -/
def Act.isSameName (first second : Raw) : Act Bool := do
  if Path.lastName first != Path.lastName second then pure false
  else match ← Act.inspect (Path.placeOf first) true, ← Act.inspect (Path.placeOf second) true with
    | .ok one, .ok other => pure (one.number.isSome && one.number == other.number)
    | _, _ => pure false

/-- How the other names end under which files are kept that are replaced. -/
inductive Keeping where
  | simple
  | numbered
  /-- With numbers where there are such names already. -/
  | existing
  deriving DecidableEq, Repr

namespace Keeping

/-- The number in the name under which a file is kept. -/
def number? (base name : Raw) : Option Nat :=
  let front := base ++ ".~".toList
  if !front.isPrefixOf name || name.getLast? != some '~' then none
  else
    let digits := (name.drop front.length).dropLast
    if digits.isEmpty || !digits.all Char.isDigit then none else some (Numeral.valueOf 10 digits)

/-- The path under which a file is kept that is replaced. -/
def pathOf (keeping : Keeping) (ending target : Raw) : Act Raw := do
  let names ← Act.names (Path.placeOf target)
  let numbers := (names.toOption.getD []).filterMap (number? (Path.lastName target))
  let next := numbers.foldl max 0 + 1
  let isNumbered := match keeping with
    | .simple => false
    | .numbered => true
    | .existing => !numbers.isEmpty
  pure (if isNumbered then target ++ ".~".toList ++ decimal next ++ ['~'] else target ++ ending)

/-- The way of keeping files that words tell. -/
def words : List (List String × Option Keeping) :=
  [(["none", "off"], none), (["simple", "never"], some .simple), (["existing", "nil"], some .existing),
    (["numbered", "t"], some .numbered)]

/-- How files are kept that are replaced, and what their names end with. -/
def read (invocation : Invocation) : Act (Option Keeping × Raw) := do
  let bindings : List (Raw × Raw) ← Act.ask .bindings
  let suffix := (invocation.argument? "S").or (bindings.lookup "SIMPLE_BACKUP_SUFFIX".toList)
  let ending := (suffix.filter fun text => !text.isEmpty && !text.contains '/').getD ['~']
  if !(["b", "backup", "S"].any invocation.has) then pure (none, ending)
  else
    let keeping ← match invocation.argument? "backup" with
      | some text => Act.choose "backup type" words text
      | none =>
        match bindings.lookup "VERSION_CONTROL".toList with
        | some text => if text.isEmpty then pure (some .existing) else Act.choose "$VERSION_CONTROL" words text
        | none => pure (some .existing)
    pure (keeping, ending)

end Keeping

end AnswerQuery.Host.Tool
