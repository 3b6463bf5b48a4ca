import AnswerQuery.Host.Script.Builtin.Places

/-! Commands of the rich dialect that go from one directory to another. -/

namespace AnswerQuery.Host.Script

namespace Sh

/-- Go to a directory, or say why that is not possible. -/
def goTo (physical : Bool) (path : Raw) : Sh Unit := do
  match ← enterDirectory physical path with
  | none => pure ()
  | some reason => giveUp (path ++ ": ".toList ++ reason.description)

/-- Change the working directory. -/
def walk (arguments : List Raw) : Sh Nat := do
  let (chosen, names) ← readOptions "LPe@" arguments
  let physical := ((chosen.filter fun option => option.letter != 'e').getLast?.map Chosen.letter) == some 'P'
  let shell ← get
  let known := fun (name : String) => do
    match shell.value? name.toList with
    | some value => pure value
    | none => giveUp (name.toList ++ " not set".toList)
  match names with
  | _ :: _ :: _ => giveUp "too many arguments".toList
  | [] => do
    let home ← known "HOME"
    if !home.isEmpty then goTo physical home
    pure 0
  | [['-']] => do
    let before ← known "OLDPWD"
    goTo physical before
    sayLine (← get).directory
    pure 0
  | [path] => do
    if path.isEmpty then
      goTo physical ['.']
      return 0
    if !isFixedPlace path then
      for directory in Raw.split ':' ((shell.value? "CDPATH".toList).getD []) do
        if !directory.isEmpty then
          let place := directory ++ '/' :: path
          let found : Except OsError Status ← ask (.inspect place true)
          if let .ok status := found then
            if status.kind == Kind.directory then
              goTo physical place
              sayLine (← get).directory
              return 0
    goTo physical path
    pure 0

/-- A path in which the home directory is a tilde. -/
def withTilde (shell : Shell) (path : Raw) : Raw :=
  match shell.value? "HOME".toList with
  | some home =>
    if !home.isEmpty && (path == home || (home ++ ['/']).isPrefixOf path) then '~' :: path.drop home.length else path
  | none => path

/-- Show the directories to go back to. -/
def showPlaces : Sh Unit := do
  let shell ← get
  sayLine ([' '].intercalate ((shell.directory :: shell.places).map (withTilde shell)))

/-- The number of a directory that an argument names among some. -/
def placeNumber? (count : Nat) (text : Raw) : Option Nat :=
  match text with
  | '+' :: digits => (Numeral.natural? digits).filter (· < count)
  | '-' :: digits => ((Numeral.natural? digits).filter (· < count)).map fun number => count - 1 - number
  | _ => none

/-- Whether an argument is to name a directory by its number. -/
def isPlaceNumber (text : Raw) : Bool :=
  match text with
  | '+' :: c :: _ => c.isDigit
  | '-' :: c :: _ => c.isDigit
  | _ => false

/-- Go to a directory and remember the one before. -/
def pushPlace (arguments : List Raw) : Sh Nat := do
  let shell ← get
  let all := shell.directory :: shell.places
  match arguments.filter (· != "--".toList) with
  | [] => do
    match shell.places with
    | [] => giveUp "no other directory".toList
    | next :: others => do
      goTo false next
      modify fun now => { now with places := shell.directory :: others }
  | text :: _ => do
    if isPlaceNumber text then
      match placeNumber? all.length text with
      | none => giveUp (text ++ ": directory stack index out of range".toList)
      | some number => do
        let turned := all.drop number ++ all.take number
        goTo false (turned.head?.getD [])
        modify fun now => { now with places := turned.drop 1 }
    else
      goTo false text
      modify fun now => { now with places := shell.directory :: shell.places }
  showPlaces
  pure 0

/-- Go back to the directory before. -/
def popPlace (arguments : List Raw) : Sh Nat := do
  let shell ← get
  if shell.places.isEmpty then giveUp "directory stack empty".toList
  let all := shell.directory :: shell.places
  let number ← match arguments.filter (· != "--".toList) with
    | [] => pure 0
    | text :: _ =>
      match placeNumber? all.length text with
      | some number => pure number
      | none =>
        if isPlaceNumber text then giveUp (text ++ ": directory stack index out of range".toList)
        else failWith 2 (text ++ ": invalid argument".toList)
  if number = 0 then
    goTo false (shell.places.head?.getD [])
    modify fun now => { now with places := shell.places.drop 1 }
  else modify fun now => { now with places := shell.places.eraseIdx (number - 1) }
  showPlaces
  pure 0

/-- Show the directories to go back to, or forget them. -/
def listPlaces (arguments : List Raw) : Sh Nat := do
  let shell ← get
  let (chosen, names) ← if arguments.any isPlaceNumber then pure ([], arguments) else readOptions "clpv" arguments
  let asks := fun (letter : Char) => chosen.any fun option => option.letter == letter
  let all := shell.directory :: shell.places
  let shown := fun (path : Raw) => if asks 'l' then path else withTilde shell path
  if asks 'c' then modify fun shell => { shell with places := [] }
  else match names with
    | text :: _ =>
      match placeNumber? all.length text with
      | some number => sayLine (shown ((all[number]?).getD []))
      | none => giveUp (text ++ ": directory stack index out of range".toList)
    | [] =>
      if asks 'v' then
        for (path, number) in all.zipIdx do
          let digits := decimal number
          sayLine (List.replicate (2 - digits.length) ' ' ++ digits ++ "  ".toList ++ shown path)
      else if asks 'p' then
        for path in all do
          sayLine (shown path)
      else sayLine ([' '].intercalate (all.map shown))
  pure 0

end Sh

end AnswerQuery.Host.Script
