import AnswerQuery.Host.Floating
import AnswerQuery.Host.Script.Builtin.Basic

/-! Commands of a shell that are about the working directory and what new files may be used for. -/

namespace AnswerQuery.Host.Script

namespace Sh

/-- Go through the names of a path from a path on, the last name first: names are added, and dots go back. -/
def followNames : List Raw → List Raw → List Raw
  | place, [] => place
  | place, name :: names =>
    if name.isEmpty || name == ['.'] then followNames place names
    else if name == ['.', '.'] then followNames (place.drop 1) names
    else followNames (name :: place) names

/-- The path that a path leads to from a directory, without asking where links lead. -/
def pathFrom (directory path : Raw) : Raw :=
  let isWhole := path.head? == some '/'
  let whole := if isWhole then path else directory ++ '/' :: path
  let start := if isWhole then path else directory
  let twice := start.take 2 == ['/', '/'] && start.take 3 != ['/', '/', '/']
  let names := (followNames [] (Raw.split '/' whole)).reverse
  (if twice then ['/', '/'] else ['/']) ++ ['/'].intercalate names

/-- Make a directory the working directory, or tell why that is not possible. -/
def enterDirectory (physical : Bool) (path : Raw) : Sh (Option OsError) := do
  let shell ← get
  let told := pathFrom shell.directory path
  let result : Except OsError Unit ← ask (.enter (if physical then path else told))
  match result with
  | .error reason => pure (some reason)
  | .ok () => do
    let directory : Raw ← if physical then ask .whereabouts else pure told
    setVariable "OLDPWD".toList (some shell.directory) true false
    modify fun shell => { shell with
      directory, found := shell.found.map fun known => { known with doubtful := true } }
    setVariable "PWD".toList (some directory) true false
    pure none

/-- Whether the last option asks for places without links. -/
def isPhysical (chosen : List Chosen) : Bool :=
  (chosen.getLast?.map Chosen.letter) == some 'P'

/-- Whether a path is not looked for in several directories. -/
def isFixedPlace (path : Raw) : Bool :=
  match path with
  | '/' :: _ => true
  | ['.'] => true
  | '.' :: '/' :: _ => true
  | ['.', '.'] => true
  | '.' :: '.' :: '/' :: _ => true
  | _ => false

/-- Change the working directory. -/
def changeDirectory (arguments : List Raw) : Sh Nat := do
  let (chosen, names) ← readOptions "LP" arguments
  let physical := isPhysical chosen
  let shell ← get
  let (path, shows) := match names.head? with
    | none => ((shell.value? "HOME".toList).getD [], false)
    | some ['-'] => ((shell.value? "OLDPWD".toList).getD [], true)
    | some path => (path, false)
  let enter := fun (place : Raw) (shows : Bool) => do
    if (← enterDirectory physical place).isSome then giveUp ("can't cd to ".toList ++ path)
    if shows then sayLine (← get).directory
    pure 0
  if isFixedPlace path then enter path shows
  else
    let path := if path.isEmpty then ['.'] else path
    let places : List (Raw × Bool) := match shell.value? "CDPATH".toList with
      | some search => (Raw.split ':' search).map fun (directory : Raw) =>
          (if directory.isEmpty then path else directory ++ '/' :: path, !directory.isEmpty)
      | none => []
    let mut chosenPlace : Option (Raw × Bool) := none
    for (place, told) in places do
      if chosenPlace.isNone then
        let found : Except OsError Status ← ask (.inspect place true)
        if let .ok status := found then
          if status.kind == Kind.directory then chosenPlace := some (place, told)
    match chosenPlace with
    | some (place, told) => enter place (shows || told)
    | none => enter path shows

/-- Show the working directory. -/
def showDirectory (arguments : List Raw) : Sh Nat := do
  let (chosen, _) ← readOptions "LP" arguments
  if isPhysical chosen then
    let place : Raw ← ask .whereabouts
    sayLine place
  else sayLine (← get).directory
  pure 0

/-- The letters of those who use files. -/
def users : List Char := ['u', 'g', 'o']

/-- The uses of files and their letters. -/
def uses : List (Char × Nat) := [('r', 4), ('w', 2), ('x', 1)]

/-- What files may be used for, in letters. -/
def modeText (mode : Nat) : Raw :=
  [','].intercalate (users.zipIdx.map fun (user, place) =>
    let bits := mode / Nat.pow 8 (2 - place) % 8
    user :: '=' :: (uses.filter fun pair => bits / pair.2 % 2 == 1).map Prod.fst)

/-- The bits that letters of uses stand for, some of them being letters of users whose bits are meant. -/
def usedBits (mode : Nat) (letters : Raw) : Option Nat :=
  letters.foldlM (fun bits letter =>
    match uses.lookup letter with
    | some bit => some (Nat.lor bits bit)
    | none =>
      match users.idxOf? letter with
      | some place => some (Nat.lor bits (mode / Nat.pow 8 (2 - place) % 8))
      | none => if letter == 's' || letter == 't' || letter == 'X' then some bits else none) 0

/-- Change a mode for some of the users by one sign and letters. -/
def changeMode (mode : Nat) (who : Raw) (sign : Char) (bits : Nat) : Nat :=
  users.zipIdx.foldl (fun mode (user, place) =>
    if who.contains user then
      let unit := Nat.pow 8 (2 - place)
      let before := mode / unit % 8
      let after := match sign with
        | '+' => Nat.lor before bits
        | '-' => before - Nat.land before bits
        | _ => bits
      mode - before * unit + after * unit
    else mode) mode

/-- Change a mode by signs and letters. -/
def changeModes (who : Raw) : Nat → Nat → Raw → Option Nat
  | 0, mode, _ => some mode
  | _ + 1, mode, [] => some mode
  | steps + 1, mode, sign :: rest =>
    if sign == '+' || sign == '-' || sign == '=' then
      let letters := rest.takeWhile fun c => c != '+' && c != '-' && c != '='
      match usedBits mode letters with
      | some bits => changeModes who steps (changeMode mode who sign bits) (rest.drop letters.length)
      | none => none
    else none

/-- The mode that a text makes of another one. -/
def modeOf? (mode : Nat) (text : Raw) : Option Nat :=
  (Raw.split ',' text).foldlM (fun mode clause =>
    let who := clause.takeWhile fun c => users.contains c || c == 'a'
    let meant := if who.isEmpty || who.contains 'a' then users else who
    changeModes meant (clause.length + 1) mode (clause.drop who.length)) mode

/-- Say what new files may not be used for, or show it. -/
def setMask (arguments : List Raw) : Sh Nat := do
  let rich := (← get).isRich
  let (chosen, names) ← readOptions (if rich then "Sp" else "S") arguments
  let before : Nat ← ask (.setMask 0)
  let _ ← ask (.setMask before)
  let shows := chosen.any fun option => option.letter == 'p'
  let chosen := chosen.filter fun option => option.letter != 'p'
  match names with
  | [] =>
    if shows then say ("umask ".toList ++ (if chosen.isEmpty then [] else "-S ".toList))
    if chosen.isEmpty then sayLine (Floating.padZeros 4 (Numeral.inBase 8 before))
    else sayLine (modeText (511 - before))
    pure 0
  | text :: _ =>
    let mask ← match text.head? with
      | some first =>
        if first.isDigit then
          if text.all fun c => '0' ≤ c && c ≤ '7' then pure (Numeral.valueOf 8 text % 512)
          else if (← get).isRich then giveUp (text ++ ": octal number out of range".toList)
          else refuseNumber text
        else match modeOf? (511 - before) text with
          | some mode => pure (511 - mode)
          | none => giveUp (if rich then '\x60' :: text ++ "': invalid symbolic mode operator".toList
              else "Illegal mode: ".toList ++ text)
      | none => pure before
    let _ ← ask (.setMask mask)
    pure 0

/-- What can be limited: the letter, what it is called, and how much there may be of it. -/
def limitKinds : List (Char × String × String) :=
  [('t', "time(seconds)", "unlimited"), ('f', "file(blocks)", "unlimited"), ('d', "data(kbytes)", "unlimited"),
    ('s', "stack(kbytes)", "8192"), ('c', "coredump(blocks)", "0"), ('m', "memory(kbytes)", "unlimited"),
    ('l', "locked memory(kbytes)", "8192"), ('p', "process", "unlimited"), ('n', "nofiles", "1024"),
    ('v', "vmemory(kbytes)", "unlimited"), ('w', "locks", "unlimited"), ('r', "rtprio", "0")]

/-- Limit something, or show how it is limited. -/
def setLimit (arguments : List Raw) : Sh Nat := do
  let rich := (← get).isRich
  let (chosen, names) ← readOptions (if rich then "SHabcdefiklmnpqrstuvxPRT" else "HSatfdsmcnplvwr") arguments
  let shell ← get
  let valueOf := fun (letter : Char) (usual : String) => (shell.limits.lookup letter).getD usual.toList
  if chosen.any fun option => option.letter == 'a' then
    for (letter, name, usual) in limitKinds do
      sayLine (name.toList ++ List.replicate (20 - name.length) ' ' ++ [' '] ++ valueOf letter usual)
    pure 0
  else
    let wanted := (chosen.filter fun option => option.letter != 'H' && option.letter != 'S').getLast?
    let letter := (wanted.map Chosen.letter).getD 'f'
    let usual := match limitKinds.find? fun kind => kind.1 == letter with
      | some (_, _, usual) => usual
      | none => "unlimited"
    match names with
    | [] => do
      sayLine (valueOf letter usual)
      pure 0
    | [text] =>
      if text == "unlimited".toList || (Numeral.natural? text).isSome then
        modify fun shell => { shell with limits := (letter, text) :: shell.limits }
        pure 0
      else giveUp "bad number".toList
    | _ => giveUp "too many arguments".toList

/-- Find out what the working directory is called. -/
def takePlace : Sh Unit := do
  let shell ← get
  let told := (shell.value? "PWD".toList).getD []
  let here : Except OsError Status ← ask (.inspect ['.'] true)
  let there : Except OsError Status ← ask (.inspect told true)
  let isSame := told.head? == some '/' && match here, there with
    | .ok first, .ok second => first.number == second.number
    | _, _ => false
  let directory : Raw ← if isSame then pure told else ask .whereabouts
  set { shell with directory }
  setVariable "PWD".toList (some directory) true false

end Sh

end AnswerQuery.Host.Script
