import AnswerQuery.Host.Calendar.Civil

/-! Forms of times: texts in which the parts of a time are asked for by letters. -/

namespace AnswerQuery.Host.Calendar

/-- The days of the week. -/
def weekdayNames : List String :=
  ["Sunday", "Monday", "Tuesday", "Wednesday", "Thursday", "Friday", "Saturday"]

/-- The months. -/
def monthNames : List String :=
  ["January", "February", "March", "April", "May", "June", "July", "August", "September", "October", "November",
    "December"]

/-- A part of a time. -/
inductive Part where
  /-- A number that is filled up to so many characters. -/
  | number (value : Int) (width : Nat) (filling : Char)
  /-- A text; if asked for, its letters change as told. -/
  | text (text : Raw) (changed : Raw)
  /-- What another form makes of the time. -/
  | form (form : String)
  /-- The day, with the year first. -/
  | day
  /-- How far clocks are ahead of universal time, in seconds, with so many colons. -/
  | offset (seconds : Int) (colons : Nat)
  /-- What is left of the second, in nanoseconds. -/
  | fraction (nanoseconds : Nat)

namespace Part

/-- A number that is filled up with zeros. -/
def zeros (value width : Nat) : Part :=
  number (Int.ofNat value) width '0'

/-- A number that is filled up with blanks. -/
def blanks (value width : Nat) : Part :=
  number (Int.ofNat value) width ' '

/-- A name, whose letters can be made capital. -/
def named (name : Raw) : Part :=
  text name (name.map Char.toUpper)

/-- An hour as clocks show it that have twelve hours. -/
def halfHour (hour : Nat) : Nat :=
  if hour % 12 = 0 then 12 else hour % 12

/-- The part that a letter asks for, behind so many colons. -/
def ofLetter? (shown : Shown) (colons : Nat) (letter : Char) : Option Part :=
  let weekday := (weekdayNames.getD shown.weekday "").toList
  let month := (monthNames.getD (shown.date.month - 1) "").toList
  let half := (if shown.hour < 12 then "AM" else "PM").toList
  match letter with
  | '%' => some (.text ['%'] ['%'])
  | 'n' => some (.text ['\n'] ['\n'])
  | 't' => some (.text ['\t'] ['\t'])
  | 'a' => some (named (weekday.take 3))
  | 'A' => some (named weekday)
  | 'b' => some (named (month.take 3))
  | 'h' => some (named (month.take 3))
  | 'B' => some (named month)
  | 'c' => some (.form "%a %b %e %H:%M:%S %Y")
  | 'C' => some (.number (Int.fdiv shown.date.year 100) 2 '0')
  | 'd' => some (zeros shown.date.day 2)
  | 'D' => some (.form "%m/%d/%y")
  | 'e' => some (blanks shown.date.day 2)
  | 'F' => some .day
  | 'g' => some (.number (Int.fmod shown.isoWeek.1 100) 2 '0')
  | 'G' => some (.number shown.isoWeek.1 4 '0')
  | 'H' => some (zeros shown.hour 2)
  | 'I' => some (zeros (halfHour shown.hour) 2)
  | 'j' => some (zeros (shown.dayOfYear + 1) 3)
  | 'k' => some (blanks shown.hour 2)
  | 'l' => some (blanks (halfHour shown.hour) 2)
  | 'm' => some (zeros shown.date.month 2)
  | 'M' => some (zeros shown.minute 2)
  | 'N' => some (.fraction shown.nanosecond)
  | 'p' => some (.text half (half.map Char.toLower))
  | 'P' => some (.text (half.map Char.toLower) (half.map Char.toLower))
  | 'q' => some (zeros ((shown.date.month + 2) / 3) 1)
  | 'r' => some (.form "%I:%M:%S %p")
  | 'R' => some (.form "%H:%M")
  | 's' => some (.number shown.moment.seconds 1 '0')
  | 'S' => some (zeros shown.second 2)
  | 'T' => some (.form "%H:%M:%S")
  | 'u' => some (zeros ((shown.weekday + 6) % 7 + 1) 1)
  | 'U' => some (zeros (shown.weekFrom 0) 2)
  | 'V' => some (zeros shown.isoWeek.2 2)
  | 'w' => some (zeros shown.weekday 1)
  | 'W' => some (zeros (shown.weekFrom 1) 2)
  | 'x' => some (.form "%m/%d/%y")
  | 'X' => some (.form "%H:%M:%S")
  | 'y' => some (.number (Int.fmod shown.date.year 100) 2 '0')
  | 'Y' => some (.number shown.date.year 4 '0')
  | 'z' => some (.offset shown.offset colons)
  | 'Z' => some (.text shown.zone (shown.zone.map Char.toLower))
  | '+' => some (.form "%a %b %e %H:%M:%S %Z %Y")
  | _ => none

end Part

/-- How a part is asked for. -/
structure Asked where
  /-- The sign that tells how to fill up, if there is one: a dash, an underscore, a zero or a plus sign. -/
  filling : Option Char := none
  /-- Whether letters are made capital. -/
  capital : Bool := false
  /-- Whether letters are changed. -/
  changed : Bool := false
  /-- How many characters there are at least. -/
  width : Option Nat := none

namespace Asked

/-- Text that is filled up in front. -/
def filled (filling : Char) (width : Nat) (text : Raw) : Raw :=
  List.replicate (width - text.length) filling ++ text

/-- A number that is filled up behind its sign with zeros, or in front of it with blanks. -/
def number (asked : Asked) (value : Int) (width : Nat) (filling : Char) : Raw :=
  let digits := decimal value.natAbs
  let most : Int := if width = 2 then 99 else 9999
  let sign := if value < 0 then ['-']
    else if asked.filling == some '+' && (most < value || width < asked.width.getD width) then ['+']
    else []
  let width := asked.width.getD width
  match asked.filling with
  | some '-' => sign ++ digits
  | some '_' => filled ' ' width (sign ++ digits)
  | some _ => sign ++ filled '0' (width - sign.length) digits
  | none => if filling == ' ' then filled ' ' width (sign ++ digits) else sign ++ filled '0' (width - sign.length) digits

/-- How far clocks are ahead, as hours and minutes, and perhaps seconds. -/
def offset (asked : Asked) (seconds : Int) (colons : Nat) : Raw :=
  let size := seconds.natAbs
  let two := fun (n : Nat) => filled '0' 2 (decimal n)
  let sign := if seconds < 0 then '-' else '+'
  let hours := size / 3600
  let minutes := two (size / 60 % 60)
  let rest := two (size % 60)
  let tail := match colons with
    | 0 => minutes
    | 1 => ':' :: minutes
    | 2 => ':' :: minutes ++ ':' :: rest
    | _ => if size % 60 != 0 then ':' :: minutes ++ ':' :: rest else if size / 60 % 60 != 0 then ':' :: minutes else []
  let usual := tail.length + 3
  let width := asked.width.getD usual
  match asked.filling with
  | some '-' => sign :: decimal hours ++ tail
  | some '_' => filled ' ' (max width usual) (sign :: decimal hours ++ tail)
  | _ => sign :: filled '0' (width - 1) (two hours ++ tail)

/-- A part as it is asked for, given what other forms make of the time. -/
def written (asked : Asked) (ofForm : String → Raw) : Part → Raw
  | .number value width filling => asked.number value width filling
  | .text text changed =>
    let text := if asked.changed then changed else if asked.capital then text.map Char.toUpper else text
    filled (if asked.filling == some '0' then '0' else ' ') (asked.width.getD 0) text
  | .form form =>
    let text := ofForm form
    let text := if asked.capital then text.map Char.toUpper else text
    filled (if asked.filling == some '0' then '0' else ' ') (asked.width.getD 0) text
  | .day =>
    let filling := asked.filling.elim (if asked.width.isNone then "+" else "") String.singleton
    let width := asked.width.elim (if asked.filling.isNone then 4 else 0) fun width => width - 6
    ofForm ("%" ++ filling ++ (if width = 0 then "" else String.ofList (decimal width)) ++ "Y-%m-%d")
  | .offset seconds colons => asked.offset seconds colons
  | .fraction nanoseconds =>
    let digits := filled '0' 9 (decimal nanoseconds)
    let width := asked.width.getD 9
    let kept := digits.take width
    let short := kept.take 1 ++ dropTrailing (· == '0') (kept.drop 1)
    match asked.filling with
    | some '-' => short
    | some '_' => short ++ List.replicate (width - short.length) ' '
    | _ => kept ++ List.replicate (width - 9) '0'

end Asked

/-- What is asked for behind a sign: how, by which letter, and what follows; none if it makes no sense. -/
def readAsked (text : Raw) : Asked × Nat × Option (Char × Raw) :=
  let flags := text.takeWhile "_-0^#+".toList.contains
  let rest := text.drop flags.length
  let digits := rest.takeWhile Char.isDigit
  let rest := rest.drop digits.length
  let colons := (rest.takeWhile (· == ':')).length
  let rest := rest.drop colons
  let rest := match rest with
    | 'E' :: rest => rest
    | 'O' :: rest => rest
    | rest => rest
  let asked : Asked := {
    filling := (flags.filter "_-0+".toList.contains).getLast?
    capital := flags.contains '^'
    changed := flags.contains '#'
    width := if digits.isEmpty then none else some (Numeral.valueOf 10 digits) }
  (asked, colons, match rest with
    | letter :: rest => some (letter, rest)
    | [] => none)

/-- How deep forms are made of other forms. -/
def deepestForm : Nat := 3

/-- What a form makes of a time. What makes no sense stands for itself. -/
def inForm (shown : Shown) : Nat → Nat → Raw → Raw
  | 0, _, text => text
  | _ + 1, 0, text => text
  | _ + 1, _ + 1, [] => []
  | depth + 1, steps + 1, '%' :: rest =>
    match readAsked rest with
    | (asked, colons, some (letter, after)) =>
      match Part.ofLetter? shown colons letter with
      | some part =>
        asked.written (fun form => inForm shown depth form.length form.toList) part ++ inForm shown (depth + 1) steps after
      | none => '%' :: rest.take (rest.length - after.length) ++ inForm shown (depth + 1) steps after
    | (_, _, none) => '%' :: rest
  | depth + 1, steps + 1, c :: rest => c :: inForm shown (depth + 1) steps rest

/-- What a form makes of a time. -/
def Shown.inForm (shown : Shown) (form : Raw) : Raw :=
  Calendar.inForm shown deepestForm (form.length + 1) form

end AnswerQuery.Host.Calendar
