import AnswerQuery.Host.Calendar.Zone

/-! Descriptions of times in words and numbers, as people write them, and the moments they mean. -/

namespace AnswerQuery.Host.Calendar

/-- How many units a time is away from another one. -/
structure Shift where
  years : Int := 0
  months : Int := 0
  days : Int := 0
  hours : Int := 0
  minutes : Int := 0
  seconds : Int := 0
  nanoseconds : Int := 0
  deriving DecidableEq, Repr

namespace Shift

/-- So many times a shift. -/
def times (shift : Shift) (count : Int) : Shift where
  years := shift.years * count
  months := shift.months * count
  days := shift.days * count
  hours := shift.hours * count
  minutes := shift.minutes * count
  seconds := shift.seconds * count
  nanoseconds := shift.nanoseconds * count

/-- Two shifts, one after the other. -/
def plus (first second : Shift) : Shift where
  years := first.years + second.years
  months := first.months + second.months
  days := first.days + second.days
  hours := first.hours + second.hours
  minutes := first.minutes + second.minutes
  seconds := first.seconds + second.seconds
  nanoseconds := first.nanoseconds + second.nanoseconds

end Shift

/-- A numeral in a description. -/
structure Figure where
  /-- Whether it has a sign. -/
  signed : Bool
  /-- Whether that is a minus sign. -/
  negative : Bool
  /-- The whole number, with its sign. -/
  value : Int
  /-- How many digits it has. -/
  digits : Nat
  /-- What stands behind the point, in nanoseconds that are added, if there is a point. -/
  fraction : Option Int
  deriving DecidableEq, Repr

/-- A word or sign in a description. -/
inductive Term where
  | figure (figure : Figure)
  /-- The half of the day; the second one begins with noon. -/
  | half (second : Bool)
  | month (number : Nat)
  | weekday (number : Nat)
  /-- A unit of time. -/
  | unit (shift : Shift)
  /-- A word that says how many. -/
  | ordinal (count : Int)
  /-- A word that says how many days away. -/
  | dayShift (days : Int)
  /-- A word that turns a shift around, or not. -/
  | ago (count : Int)
  /-- A zone, and whether it has summer time; how many seconds clocks are ahead. -/
  | zone (offset : Int) (isSummer : Bool)
  /-- The letter between a day and a time. -/
  | separator
  /-- The word for summer time. -/
  | summer
  | sign (c : Char)
  deriving DecidableEq, Repr

/-- The units of time. -/
def unitWords : List (String × Shift) :=
  [("YEAR", { years := 1 }), ("MONTH", { months := 1 }), ("FORTNIGHT", { days := 14 }), ("WEEK", { days := 7 }),
    ("DAY", { days := 1 }), ("HOUR", { hours := 1 }), ("MINUTE", { minutes := 1 }), ("MIN", { minutes := 1 }),
    ("SECOND", { seconds := 1 }), ("SEC", { seconds := 1 })]

/-- The words for months. -/
def monthWords : List (String × Nat) :=
  [("JANUARY", 1), ("FEBRUARY", 2), ("MARCH", 3), ("APRIL", 4), ("MAY", 5), ("JUNE", 6), ("JULY", 7), ("AUGUST", 8),
    ("SEPTEMBER", 9), ("SEPT", 9), ("OCTOBER", 10), ("NOVEMBER", 11), ("DECEMBER", 12)]

/-- The words for days of the week. -/
def weekdayWords : List (String × Nat) :=
  [("SUNDAY", 0), ("MONDAY", 1), ("TUESDAY", 2), ("TUES", 2), ("WEDNESDAY", 3), ("WEDNES", 3), ("THURSDAY", 4),
    ("THUR", 4), ("THURS", 4), ("FRIDAY", 5), ("SATURDAY", 6)]

/-- The words that shift a time. -/
def shiftWords : List (String × Term) :=
  [("TOMORROW", .dayShift 1), ("YESTERDAY", .dayShift (-1)), ("TODAY", .dayShift 0), ("NOW", .dayShift 0),
    ("LAST", .ordinal (-1)), ("THIS", .ordinal 0), ("NEXT", .ordinal 1), ("FIRST", .ordinal 1), ("THIRD", .ordinal 3),
    ("FOURTH", .ordinal 4), ("FIFTH", .ordinal 5), ("SIXTH", .ordinal 6), ("SEVENTH", .ordinal 7),
    ("EIGHTH", .ordinal 8), ("NINTH", .ordinal 9), ("TENTH", .ordinal 10), ("ELEVENTH", .ordinal 11),
    ("TWELFTH", .ordinal 12), ("AGO", .ago (-1)), ("HENCE", .ago 1)]

/-- The zones, how many minutes their clocks are ahead without summer time, and whether they mean summer time. -/
def zoneWords : List (String × Int × Bool) :=
  [("GMT", 0, false), ("UT", 0, false), ("UTC", 0, false), ("WET", 0, false), ("WEST", 0, true), ("BST", 0, true),
    ("ART", -180, false), ("BRT", -180, false), ("BRST", -180, true), ("NST", -210, false), ("NDT", -210, true),
    ("AST", -240, false), ("ADT", -240, true), ("CLT", -240, false), ("CLST", -240, true), ("EST", -300, false),
    ("EDT", -300, true), ("CST", -360, false), ("CDT", -360, true), ("MST", -420, false), ("MDT", -420, true),
    ("PST", -480, false), ("PDT", -480, true), ("AKST", -540, false), ("AKDT", -540, true), ("HST", -600, false),
    ("HAST", -600, false), ("HADT", -600, true), ("SST", -720, false), ("WAT", 60, false), ("CET", 60, false),
    ("CEST", 60, true), ("MET", 60, false), ("MEZ", 60, false), ("MEST", 60, true), ("MESZ", 60, true),
    ("EET", 120, false), ("EEST", 120, true), ("CAT", 120, false), ("SAST", 120, false), ("EAT", 180, false),
    ("MSK", 180, false), ("MSD", 180, true), ("IST", 330, false), ("SGT", 480, false), ("KST", 540, false),
    ("JST", 540, false), ("GST", 600, false), ("NZST", 720, false), ("NZDT", 720, true)]

/-- The zone of a letter. -/
def letterZone? (letter : Char) : Option Term :=
  if letter == 'T' then some .separator
  else if letter == 'Z' then some (.zone 0 false)
  else if 'A' ≤ letter && letter ≤ 'I' then some (.zone (Int.ofNat (letter.toNat - 64) * 3600) false)
  else if 'K' ≤ letter && letter ≤ 'M' then some (.zone (Int.ofNat (letter.toNat - 65) * 3600) false)
  else if 'N' ≤ letter && letter ≤ 'Y' then some (.zone (-Int.ofNat (letter.toNat - 77) * 3600) false)
  else none

/-- The zone of a word. -/
def zoneOf? (word : Raw) : Option Term :=
  (zoneWords.lookup (String.ofList word)).map fun (minutes, isSummer) => .zone (minutes * 60) isSummer

/-- What a word means whose letters are capital. -/
def wordOf? (word : Raw) : Option Term :=
  let isShort := word.length = 3 || (word.length = 4 && word.getLast? == some '.')
  let short := word.take 3
  let named := fun (words : List (String × Nat)) =>
    (words.find? fun pair => if isShort then pair.1.toList.take 3 == short else pair.1.toList == word).map Prod.snd
  let unit := fun (word : Raw) => (unitWords.lookup (String.ofList word)).map Term.unit
  let plain := word.filter (· != '.')
  if ["AM", "A.M."].contains (String.ofList word) then some (.half false)
  else if ["PM", "P.M."].contains (String.ofList word) then some (.half true)
  else (named monthWords).map Term.month
    <|> (named weekdayWords).map Term.weekday
    <|> zoneOf? word
    <|> (if word == "DST".toList then some .summer else none)
    <|> unit word
    <|> (if word.getLast? == some 'S' then unit word.dropLast else none)
    <|> shiftWords.lookup (String.ofList word)
    <|> (match word with
      | [letter] => letterZone? letter
      | _ => none)
    <|> (if plain.length < word.length then zoneOf? plain else none)

/-- A numeral at the front of a text whose sign has been read, and what follows. -/
def readFigure (signed negative : Bool) (text : Raw) : Figure × Raw :=
  let digits := text.takeWhile Char.isDigit
  let rest := text.drop digits.length
  let size := Int.ofNat (Numeral.valueOf 10 digits)
  let value := if negative then -size else size
  match rest with
  | point :: first :: others =>
    if (point == '.' || point == ',') && first.isDigit then
      let behind := (first :: others).takeWhile Char.isDigit
      let kept := behind.take 9
      let fraction := Int.ofNat (Numeral.valueOf 10 (kept ++ List.replicate (9 - kept.length) '0'))
      let isCut := (behind.drop 9).any (· != '0')
      let fraction := if negative && isCut then fraction + 1 else fraction
      (⟨signed, negative, value, digits.length, some (if negative then -fraction else fraction)⟩,
        (first :: others).drop behind.length)
    else (⟨signed, negative, value, digits.length, none⟩, rest)
  | _ => (⟨signed, negative, value, digits.length, none⟩, rest)

/-- What follows a remark in parentheses, of which so many are open; none if it does not end. -/
def skipRemark? : Nat → Raw → Option Raw
  | _, [] => none
  | depth, '(' :: rest => skipRemark? (depth + 1) rest
  | depth, ')' :: rest => if depth ≤ 1 then some rest else skipRemark? (depth - 1) rest
  | depth, _ :: rest => skipRemark? depth rest

/-- The words and signs of a description; none if one of them means nothing. -/
def readTerms : Nat → Raw → Option (List Term)
  | 0, _ => some []
  | steps + 1, text =>
    match text.dropWhile Raw.isSpace with
    | [] => some []
    | c :: rest =>
      if c.isDigit then
        let (figure, rest) := readFigure false false (c :: rest)
        (readTerms steps rest).map (.figure figure :: ·)
      else if c == '-' || c == '+' then
        let rest := rest.dropWhile Raw.isSpace
        if (rest.head?.map Char.isDigit).getD false then
          let (figure, rest) := readFigure true (c == '-') rest
          (readTerms steps rest).map (.figure figure :: ·)
        else readTerms steps rest
      else if c.isAlpha then
        let inWord := fun (c : Char) => c.isAlpha || c == '.'
        let word := (c :: rest).takeWhile inWord
        match wordOf? ((word.take 19).map Char.toUpper) with
        | none => none
        | some term => (readTerms steps ((c :: rest).drop word.length)).map (term :: ·)
      else if c == '(' then
        match skipRemark? 1 rest with
        | none => some []
        | some rest => readTerms steps rest
      else (readTerms steps rest).map (.sign c :: ·)

/-- What a description has told so far. -/
structure Told where
  /-- The year and how many digits it has; none is told without one. -/
  year : Option (Int × Nat) := none
  month : Option Int := none
  day : Option Int := none
  hour : Int := 0
  minute : Int := 0
  second : Int := 0
  nanosecond : Int := 0
  /-- The half of the day that the hour is in. -/
  half : Option Bool := none
  /-- How many days of the week away, and which one. -/
  weekday : Option (Int × Nat) := none
  /-- How far clocks are ahead. -/
  offset : Int := 0
  shift : Shift := {}
  /-- How often times, days, days of the week, zones, summer time and shifts were told. -/
  times : Nat := 0
  dates : Nat := 0
  weekdays : Nat := 0
  zones : Nat := 0
  shifts : Nat := 0
  deriving Repr

namespace Told

/-- A time of day is told. -/
def setTime (told : Told) (hour minute second nanosecond : Int) (half : Option Bool) : Told :=
  { told with hour, minute, second, nanosecond, half }

/-- A shift is told. -/
def addShift (told : Told) (shift : Shift) (count : Int) : Told :=
  { told with shift := told.shift.plus (shift.times count), shifts := told.shifts + 1 }

/-- A day is told. -/
def setDate (told : Told) (year : Option (Int × Nat)) (month day : Int) : Told :=
  { told with year := year.orElse (fun _ => told.year), month := some month, day := some day, dates := told.dates + 1 }

/-- A zone is told by hours and minutes. -/
def setZone (told : Told) (base : Int) (figure : Figure) (minutes : Option Int) : Told :=
  let total := match minutes with
    | some minutes => figure.value * 60 + (if figure.negative then -minutes else minutes)
    | none =>
      let value := if figure.digits ≤ 2 then figure.value * 100 else figure.value
      Int.tdiv value 100 * 60 + Int.tmod value 100
  if total.natAbs ≤ 1440 then { told with zones := told.zones + 1, offset := base + total * 60 }
  else { told with zones := told.zones + 2 }

/-- A number without anything else is told: a year, a day or a time. -/
def setFigure (told : Told) (figure : Figure) : Told :=
  let hasYear := (told.year.map fun year => decide (0 < year.2)).getD false
  if 0 < told.dates && !hasYear && told.shifts = 0 && (0 < told.times || 2 < figure.digits) then
    { told with year := some (figure.value, figure.digits) }
  else if 4 < figure.digits then
    told.setDate (some (Int.tdiv figure.value 10000, figure.digits - 4)) (Int.tmod (Int.tdiv figure.value 100) 100)
      (Int.tmod figure.value 100)
  else
    let told := { told with times := told.times + 1 }
    if figure.digits ≤ 2 then told.setTime figure.value 0 0 0 none
    else told.setTime (Int.tdiv figure.value 100) (Int.tmod figure.value 100) 0 0 none

end Told

/-- A shift that a number and a unit tell; only seconds can be parts. -/
def shiftOf? (figure : Figure) (unit : Shift) : Option Shift :=
  match figure.fraction with
  | none => some (unit.times figure.value)
  | some fraction =>
    if unit == { seconds := 1 } then some { seconds := figure.value, nanoseconds := fraction } else none

/-- The minutes behind a colon, if there are any, and what follows. -/
def readMinutes : List Term → Option Int × List Term
  | .sign ':' :: .figure figure :: rest =>
    if figure.signed || figure.fraction.isSome then (none, .sign ':' :: .figure figure :: rest)
    else (some figure.value, rest)
  | terms => (none, terms)

/-- How far clocks are ahead, if it is told at the front of what follows a time. -/
def readOffset (told : Told) : List Term → Told × List Term
  | .figure figure :: rest =>
    if figure.signed && figure.fraction.isNone then
      let (minutes, rest) := readMinutes rest
      (told.setZone 0 figure minutes, rest)
    else (told, .figure figure :: rest)
  | terms => (told, terms)

/-- Read what follows the hour and the colon of a time. -/
def readClock (told : Told) (hour : Int) : List Term → Option (Told × List Term)
  | .figure minute :: rest =>
    if minute.signed || minute.fraction.isSome then none
    else match rest with
      | .half half :: rest => some (told.setTime hour minute.value 0 0 (some half), rest)
      | .sign ':' :: .figure second :: rest =>
        if second.signed then none
        else
          let set := told.setTime hour minute.value second.value (second.fraction.getD 0)
          match rest with
          | .half half :: rest => some (set (some half), rest)
          | rest => some (readOffset (set none) rest)
      | .sign ':' :: _ => none
      | rest => some (readOffset (told.setTime hour minute.value 0 0 none) rest)
  | _ => none

/-- Read a time of day behind the letter that separates it from the day. -/
def readTimeOfDay (told : Told) : List Term → Option (Told × List Term)
  | .figure hour :: rest =>
    if hour.signed || hour.fraction.isSome then none
    else match rest with
      | .sign ':' :: rest => readClock told hour.value rest
      | .figure offset :: rest =>
        if offset.signed && offset.fraction.isNone then
          some (readOffset (told.setTime hour.value 0 0 0 none) (.figure offset :: rest))
        else none
      | _ => none
  | _ => none

/-- Whether a shift at the front is turned around, and what follows. -/
def readAgo : List Term → Int × List Term
  | .ago count :: rest => (count, rest)
  | terms => (1, terms)

/-- Read a part of a description that begins with a number without a sign. -/
def readNumber (told : Told) (figure : Figure) (rest : List Term) : Option (Told × List Term) :=
  let value := figure.value
  let timed := { told with times := told.times + 1 }
  if figure.fraction.isSome then
    match rest with
    | .unit unit :: rest =>
      let (count, rest) := readAgo rest
      (shiftOf? figure unit).map fun shift => (told.addShift shift count, rest)
    | _ => none
  else
    match rest with
    | .half half :: rest => some (timed.setTime value 0 0 0 (some half), rest)
    | .sign ':' :: rest => readClock timed value rest
    | .sign '/' :: .figure second :: rest =>
      if second.signed || second.fraction.isSome then none
      else match rest with
        | .sign '/' :: .figure third :: rest =>
          if third.signed || third.fraction.isSome then none
          else if 4 ≤ figure.digits then some (told.setDate (some (value, figure.digits)) second.value third.value, rest)
          else some (told.setDate (some (third.value, third.digits)) value second.value, rest)
        | .sign '/' :: _ => none
        | rest => some (told.setDate none value second.value, rest)
    | .month month :: .figure year :: rest =>
      if year.fraction.isSome then none
      else if year.signed then some (told.setDate (some (-year.value, year.digits)) month value, rest)
      else some (told.setDate (some (year.value, year.digits)) month value, rest)
    | .month month :: rest => some (told.setDate none month value, rest)
    | .weekday number :: rest => some ({ told with weekday := some (value, number), weekdays := told.weekdays + 1 }, rest)
    | .unit unit :: rest =>
      let (count, rest) := readAgo rest
      some (told.addShift (unit.times value) count, rest)
    | .figure second :: rest =>
      if !second.signed then some (told.setFigure figure, .figure second :: rest)
      else match rest with
        | .unit unit :: rest =>
          (shiftOf? second unit).map fun shift => ((told.setFigure figure).addShift shift 1, rest)
        | .figure third :: after =>
          if second.fraction.isNone && third.signed && third.fraction.isNone then
            let dated := told.setDate (some (value, figure.digits)) (-second.value) (-third.value)
            match after with
            | .separator :: after => readTimeOfDay { dated with times := dated.times + 1 } after
            | after => some (dated, after)
          else if second.fraction.isSome then none
          else some (readOffset (timed.setTime value 0 0 0 none) (.figure second :: rest))
        | rest =>
          if second.fraction.isSome then none
          else some (readOffset (timed.setTime value 0 0 0 none) (.figure second :: rest))
    | rest => some (told.setFigure figure, rest)

/-- Read what follows a zone. -/
def readBehindZone (told : Told) (offset : Int) (isSummer : Bool) (rest : List Term) : Option (Told × List Term) :=
  let zoned := { told with
    zones := told.zones + 1, offset := if isSummer then offset + 3600 else offset }
  if isSummer then some (zoned, rest)
  else
    match rest with
    | .summer :: rest => some ({ zoned with offset := offset + 3600 }, rest)
    | .figure figure :: .unit unit :: rest =>
      if figure.signed then (shiftOf? figure unit).map fun shift => (zoned.addShift shift 1, rest)
      else some (zoned, .figure figure :: .unit unit :: rest)
    | .figure figure :: rest =>
      if figure.signed && figure.fraction.isNone then
        let (minutes, rest) := readMinutes rest
        some (told.setZone offset figure minutes, rest)
      else some (zoned, .figure figure :: rest)
    | rest => some (zoned, rest)

/-- Read a part of a description. -/
def readPart (told : Told) : List Term → Option (Told × List Term)
  | .figure figure :: rest =>
    if !figure.signed then readNumber told figure rest
    else match rest with
      | .unit unit :: rest =>
        let (count, rest) := readAgo rest
        (shiftOf? figure unit).map fun shift => (told.addShift shift count, rest)
      | _ => none
  | .month month :: .figure day :: rest =>
    if day.fraction.isSome then none
    else match day.signed, rest with
      | true, .figure year :: rest =>
        if year.signed && year.fraction.isNone then
          some (told.setDate (some (-year.value, year.digits)) month (-day.value), rest)
        else none
      | true, _ => none
      | false, .sign ',' :: .figure year :: rest =>
        if year.signed || year.fraction.isSome then none
        else some (told.setDate (some (year.value, year.digits)) month day.value, rest)
      | false, rest => some (told.setDate none month day.value, rest)
  | .weekday number :: rest =>
    let told := { told with weekday := some (0, number), weekdays := told.weekdays + 1 }
    match rest with
    | .sign ',' :: rest => some (told, rest)
    | rest => some (told, rest)
  | .ordinal count :: .weekday number :: rest =>
    some ({ told with weekday := some (count, number), weekdays := told.weekdays + 1 }, rest)
  | .ordinal count :: .unit unit :: rest =>
    let (turned, rest) := readAgo rest
    some (told.addShift (unit.times count) turned, rest)
  | .unit unit :: rest =>
    let (count, rest) := readAgo rest
    some (told.addShift unit count, rest)
  | .dayShift days :: rest => some (told.addShift { days } 1, rest)
  | .zone offset isSummer :: rest => readBehindZone told offset isSummer rest
  | .separator :: rest => readBehindZone told (-7 * 3600) false rest
  | _ => none

/-- Read the parts of a description. -/
def readParts : Nat → Told → List Term → Option Told
  | _, told, [] => some told
  | 0, _, _ => none
  | steps + 1, told, terms =>
    match readPart told terms with
    | some (told, rest) => readParts steps told rest
    | none => none

/-- The hour of the day that an hour of half a day is. -/
def hourOf? (hour : Int) : Option Bool → Option Int
  | none => if 0 ≤ hour && hour < 24 then some hour else none
  | some second =>
    if hour < 1 || 12 < hour then none
    else some (hour % 12 + if second then 12 else 0)

/-- The year that is meant by one that may have two digits. -/
def yearOf (year : Int) (digits : Nat) : Int :=
  if 0 ≤ year && digits = 2 then year + (if year < 69 then 2000 else 1900) else year.natAbs

/-- The moment that is told, seen from now. -/
def Told.moment? (told : Told) (zone : Zone) (now : Moment) : Option Moment := do
  if 1 < told.times || 1 < told.dates || 1 < told.weekdays || 1 < told.zones then none
  let here := zone.shown now
  let year := match told.year with
    | some (year, digits) => yearOf year digits
    | none => here.date.year
  let month := told.month.getD (Int.ofNat here.date.month)
  let day := told.day.getD (Int.ofNat here.date.day)
  let isNow := told.times = 0 && 0 < told.shifts && told.dates = 0 && told.weekdays = 0
  let (hour, minute, second, nanosecond) ←
    if 0 < told.times then do
      let hour ← hourOf? told.hour told.half
      pure (hour, told.minute, told.second, told.nanosecond)
    else if isNow then
      pure (Int.ofNat here.hour, Int.ofNat here.minute, Int.ofNat here.second, Int.ofNat here.nanosecond)
    else pure (0, 0, 0, 0)
  if minute < 0 || 59 < minute || second < 0 || 59 < second then none
  let number := dayNumber year month day
  let date := Date.ofNumber number
  if month < 1 || 12 < month || date.day != day.toNat || day < 1 || Int.ofNat date.month != month then none
  if told.zones = 0 && !zone.shows (number * secondsPerDay + hour * 3600 + minute * 60 + second) then none
  let number := match told.weekday with
    | some (count, wanted) =>
      if told.dates = 0 then
        let today := Calendar.weekday number
        let weeks := count - (if 0 < count && today != wanted then 1 else 0)
        number + Int.ofNat ((wanted + 7 - today) % 7) + weeks * 7
      else number
    | none => number
  let number :=
    if told.shift.years != 0 || told.shift.months != 0 || told.shift.days != 0 then
      let date := Date.ofNumber number
      dayNumber (date.year + told.shift.years) (Int.ofNat date.month + told.shift.months)
        (Int.ofNat date.day + told.shift.days)
    else number
  let shown := number * secondsPerDay + hour * 3600 + minute * 60 + second
  let seconds := if told.zones = 0 then zone.secondsOf shown else shown - told.offset
  let seconds := seconds + told.shift.hours * 3600 + told.shift.minutes * 60 + told.shift.seconds
  pure (Moment.ofSeconds seconds + nanosecond + told.shift.nanoseconds)

/-- The zone that a description names in front of anything else, and what follows. -/
def readZone? (text : Raw) : Option (Zone × Raw) :=
  match text.dropWhile Raw.isSpace with
  | 'T' :: 'Z' :: '=' :: '"' :: rest =>
    match rest.dropWhile (· != '"') with
    | _ :: after => some (.ofDescription (rest.takeWhile (· != '"')), after)
    | [] => none
  | _ => none

/-- The least number of seconds that is too large for a time. -/
def firstTooMany : Nat := 9223372036854775808

/-- The moment that a description means, seen from now in a zone. -/
def Moment.ofDescription? (zone : Zone) (now : Moment) (text : Raw) : Option Moment :=
  let (zone, text) := (readZone? text).getD (zone, text)
  match text.dropWhile Raw.isSpace with
  | '@' :: rest =>
    match readTerms (rest.length + 1) rest with
    | some [.figure figure] =>
      if figure.value.natAbs < firstTooMany then some (ofSeconds figure.value + figure.fraction.getD 0) else none
    | _ => none
  | text =>
    match readTerms (text.length + 1) text with
    | none => none
    | some terms => (readParts (terms.length + 1) {} terms).bind fun told => told.moment? zone now

end AnswerQuery.Host.Calendar
