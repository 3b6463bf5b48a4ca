import AnswerQuery.Host.Calendar.Civil
import AnswerQuery.Host.Numeral

/-! Places whose clocks are known, and the rules that their clocks go by. -/

namespace AnswerQuery.Host.Calendar

/-- Rules with the places that go by them. -/
def placeRules : List (String × List String) :=
  [("UTC0", ["UTC", "Etc/UTC", "Etc/UCT", "Etc/Universal", "Etc/Zulu", "UCT", "Universal", "Zulu"]),
    ("GMT0", ["GMT", "GMT0", "GMT+0", "GMT-0", "Etc/GMT", "Etc/GMT0", "Etc/GMT+0", "Etc/GMT-0", "Etc/Greenwich", "Greenwich",
      "Africa/Abidjan", "Africa/Accra", "Africa/Dakar", "Atlantic/Reykjavik", "Iceland"]),
    ("EST5EDT,M3.2.0,M11.1.0", ["America/New_York", "America/Detroit", "America/Toronto", "America/Montreal", "US/Eastern",
      "Canada/Eastern"]),
    ("CST6CDT,M3.2.0,M11.1.0", ["America/Chicago", "America/Winnipeg", "US/Central", "Canada/Central"]),
    ("MST7MDT,M3.2.0,M11.1.0", ["America/Denver", "America/Edmonton", "America/Boise", "US/Mountain", "Canada/Mountain"]),
    ("PST8PDT,M3.2.0,M11.1.0", ["America/Los_Angeles", "America/Vancouver", "America/Tijuana", "US/Pacific",
      "Canada/Pacific"]),
    ("AKST9AKDT,M3.2.0,M11.1.0", ["America/Anchorage", "America/Juneau", "US/Alaska"]),
    ("AST4ADT,M3.2.0,M11.1.0", ["America/Halifax", "Atlantic/Bermuda", "Canada/Atlantic"]),
    ("NST3:30NDT,M3.2.0,M11.1.0", ["America/St_Johns", "Canada/Newfoundland"]),
    ("EST5", ["EST", "America/Panama", "America/Jamaica", "America/Cancun"]),
    ("CST6", ["America/Mexico_City", "America/Regina", "America/Costa_Rica", "America/Guatemala"]),
    ("MST7", ["MST", "America/Phoenix", "US/Arizona"]), ("HST10", ["HST", "Pacific/Honolulu", "US/Hawaii"]),
    ("AST4", ["America/Puerto_Rico", "America/Santo_Domingo"]), ("<-05>5", ["America/Bogota", "America/Lima", "Etc/GMT+5"]),
    ("<-04>4", ["America/Caracas", "America/La_Paz", "America/Manaus", "Etc/GMT+4"]),
    ("<-04>4<-03>,M9.1.6/24,M4.1.6/24", ["America/Santiago", "Chile/Continental"]),
    ("<-03>3", ["America/Sao_Paulo", "America/Argentina/Buenos_Aires", "America/Buenos_Aires", "America/Montevideo",
      "Brazil/East", "Etc/GMT+3"]),
    ("GMT0BST,M3.5.0/1,M10.5.0", ["Europe/London", "Europe/Belfast", "Europe/Jersey", "GB"]),
    ("IST-1GMT0,M10.5.0,M3.5.0/1", ["Europe/Dublin", "Eire"]),
    ("WET0WEST,M3.5.0/1,M10.5.0", ["WET", "Europe/Lisbon", "Atlantic/Canary", "Atlantic/Madeira", "Portugal"]),
    ("CET-1CEST,M3.5.0,M10.5.0/3", ["CET", "Europe/Paris", "Europe/Berlin", "Europe/Madrid", "Europe/Rome", "Europe/Amsterdam",
      "Europe/Brussels", "Europe/Vienna", "Europe/Zurich", "Europe/Stockholm", "Europe/Oslo", "Europe/Copenhagen",
      "Europe/Prague", "Europe/Warsaw", "Europe/Budapest", "Europe/Belgrade", "Europe/Zagreb", "Europe/Ljubljana",
      "Europe/Luxembourg", "Europe/Monaco", "Europe/Malta", "Europe/Bratislava", "Europe/Sarajevo", "Poland"]),
    ("MET-1MEST,M3.5.0,M10.5.0/3", ["MET"]),
    ("EET-2EEST,M3.5.0/3,M10.5.0/4", ["EET", "Europe/Athens", "Europe/Helsinki", "Europe/Kiev", "Europe/Kyiv",
      "Europe/Bucharest", "Europe/Sofia", "Europe/Riga", "Europe/Tallinn", "Europe/Vilnius", "Asia/Nicosia"]),
    ("EET-2EEST,M4.5.5/0,M10.5.4/24", ["Africa/Cairo", "Egypt"]), ("EET-2", ["Africa/Tripoli", "Europe/Kaliningrad"]),
    ("MSK-3", ["Europe/Moscow", "Europe/Minsk", "W-SU"]), ("<+03>-3", ["Europe/Istanbul", "Turkey", "Asia/Riyadh",
      "Asia/Baghdad", "Asia/Kuwait", "Asia/Qatar", "Etc/GMT-3"]),
    ("IST-2IDT,M3.4.4/26,M10.5.0", ["Asia/Jerusalem", "Israel"]), ("<+0330>-3:30", ["Asia/Tehran", "Iran"]),
    ("<+04>-4", ["Asia/Dubai", "Asia/Baku", "Asia/Tbilisi", "Asia/Yerevan", "Etc/GMT-4"]), ("PKT-5", ["Asia/Karachi"]),
    ("<+05>-5", ["Asia/Tashkent", "Asia/Yekaterinburg", "Asia/Almaty", "Etc/GMT-5"]),
    ("IST-5:30", ["Asia/Kolkata", "Asia/Calcutta"]), ("<+0530>-5:30", ["Asia/Colombo"]),
    ("<+0545>-5:45", ["Asia/Kathmandu", "Asia/Katmandu"]), ("<+06>-6", ["Asia/Dhaka", "Etc/GMT-6"]),
    ("<+0630>-6:30", ["Asia/Yangon", "Asia/Rangoon"]),
    ("<+07>-7", ["Asia/Bangkok", "Asia/Ho_Chi_Minh", "Asia/Saigon", "Asia/Novosibirsk", "Etc/GMT-7"]),
    ("WIB-7", ["Asia/Jakarta"]), ("CST-8", ["Asia/Shanghai", "Asia/Taipei", "Asia/Macau", "PRC", "ROC"]),
    ("HKT-8", ["Asia/Hong_Kong", "Hongkong"]), ("<+08>-8", ["Asia/Singapore", "Asia/Kuala_Lumpur", "Singapore", "Etc/GMT-8"]),
    ("PST-8", ["Asia/Manila"]), ("AWST-8", ["Australia/Perth", "Australia/West"]), ("JST-9", ["Asia/Tokyo", "Japan"]),
    ("KST-9", ["Asia/Seoul", "Asia/Pyongyang", "ROK"]), ("ACST-9:30", ["Australia/Darwin", "Australia/North"]),
    ("ACST-9:30ACDT,M10.1.0,M4.1.0/3", ["Australia/Adelaide", "Australia/South"]),
    ("AEST-10", ["Australia/Brisbane", "Australia/Queensland"]),
    ("AEST-10AEDT,M10.1.0,M4.1.0/3", ["Australia/Sydney", "Australia/Melbourne", "Australia/Hobart", "Australia/Canberra",
      "Australia/ACT", "Australia/NSW", "Australia/Victoria", "Australia/Tasmania"]),
    ("<+10>-10", ["Asia/Vladivostok", "Etc/GMT-10"]), ("NZST-12NZDT,M9.5.0,M4.1.0/3", ["Pacific/Auckland", "NZ"]),
    ("<+1245>-12:45<+1345>,M9.5.0/2:45,M4.1.0/3:45", ["Pacific/Chatham"]), ("<+13>-13", ["Pacific/Tongatapu", "Pacific/Apia"]),
    ("<+14>-14", ["Pacific/Kiritimati", "Etc/GMT-14"]), ("SAST-2", ["Africa/Johannesburg"]),
    ("CAT-2", ["Africa/Harare", "Africa/Maputo", "Africa/Khartoum"]), ("WAT-1", ["Africa/Lagos", "Africa/Kinshasa"]),
    ("EAT-3", ["Africa/Nairobi", "Africa/Addis_Ababa"]), ("CET-1", ["Africa/Algiers", "Africa/Tunis"]),
    ("<-01>1", ["Etc/GMT+1", "Atlantic/Cape_Verde"]), ("<-02>2", ["Etc/GMT+2"]), ("<-06>6", ["Etc/GMT+6"]),
    ("<-07>7", ["Etc/GMT+7"]), ("<-08>8", ["Etc/GMT+8"]), ("<-09>9", ["Etc/GMT+9"]), ("<-10>10", ["Etc/GMT+10"]),
    ("<-11>11", ["Etc/GMT+11"]), ("<-12>12", ["Etc/GMT+12"]), ("<+01>-1", ["Etc/GMT-1"]), ("<+02>-2", ["Etc/GMT-2"]),
    ("<+09>-9", ["Etc/GMT-9"]), ("<+11>-11", ["Etc/GMT-11"]), ("<+12>-12", ["Etc/GMT-12"]), ("<+13>-13", ["Etc/GMT-13"])]

/-- The rule that the clocks of a place go by. -/
def ruleOf? (place : Raw) : Option String :=
  (placeRules.find? fun rule => rule.2.any fun name => name.toList == place).map Prod.fst

end AnswerQuery.Host.Calendar

/-! Zones: how far clocks are ahead of universal time, in summer and in the rest of the year. -/

namespace AnswerQuery.Host.Calendar

/-- A day on which clocks are changed: a day of the week in a month, and when on that day. -/
structure Change where
  /-- The month. -/
  month : Nat
  /-- Which one of the days of the week in the month it is; the fifth is the last one. -/
  week : Nat
  /-- The day of the week. -/
  weekday : Nat
  /-- How many seconds of the day have passed. -/
  second : Int
  deriving DecidableEq, Repr

/-- Summer time. -/
structure Summer where
  /-- What it is called. -/
  name : Raw
  /-- How many seconds clocks are ahead of universal time. -/
  offset : Int
  /-- When it begins. -/
  start : Change
  /-- When it ends. -/
  stop : Change
  deriving DecidableEq, Repr

/-- A zone. -/
structure Zone where
  /-- What its time is called. -/
  name : Raw
  /-- How many seconds clocks are ahead of universal time. -/
  offset : Int
  /-- Summer time, if there is any. -/
  summer : Option Summer := none
  deriving DecidableEq, Repr

namespace Change

/-- The day of a year on which clocks are changed. -/
def day (change : Change) (year : Int) : Int :=
  let first := dayNumber year (Int.ofNat change.month) 1
  let next := dayNumber year (Int.ofNat change.month + 1) 1
  let start := first + Int.ofNat ((change.weekday + 7 - Calendar.weekday first) % 7)
  let wanted := start + 7 * (Int.ofNat change.week - 1)
  if wanted < next then wanted else wanted - 7

/-- How many seconds after the beginning of 1970 clocks are changed in a year that were so many seconds ahead. -/
def seconds (change : Change) (year : Int) (offset : Int) : Int :=
  change.day year * secondsPerDay + change.second - offset

end Change

namespace Zone

/-- Universal time. -/
def universal : Zone := ⟨"UTC".toList, 0, none⟩

/-- Whether it is summer time so many seconds after the beginning of 1970. -/
def isSummer (zone : Zone) (summer : Summer) (seconds : Int) : Bool :=
  let year := (Date.ofNumber (Int.fdiv (seconds + zone.offset) secondsPerDay)).year
  let start := summer.start.seconds year zone.offset
  let stop := summer.stop.seconds year summer.offset
  if start < stop then start ≤ seconds && seconds < stop else !(stop ≤ seconds && seconds < start)

/-- What clocks show at a moment. -/
def shown (zone : Zone) (moment : Moment) : Shown :=
  match zone.summer with
  | some summer =>
    if zone.isSummer summer moment.seconds then .at moment summer.offset summer.name true
    else .at moment zone.offset zone.name false
  | none => .at moment zone.offset zone.name false

/-- How many seconds after the beginning of 1970 it is when clocks show so many seconds. -/
def secondsOf (zone : Zone) (shown : Int) : Int :=
  match zone.summer with
  | some summer => if zone.isSummer summer (shown - zone.offset) then shown - summer.offset else shown - zone.offset
  | none => shown - zone.offset

/-- The name at the front of the description of a zone, and what follows. -/
def readName (text : Raw) : Raw × Raw :=
  match text with
  | '<' :: rest => (rest.takeWhile (· != '>'), (rest.dropWhile (· != '>')).drop 1)
  | _ => (text.takeWhile Char.isAlpha, text.dropWhile Char.isAlpha)

/-- The hours, minutes and seconds at the front of a text, and what follows. -/
def readTime? (text : Raw) : Option (Int × Raw) :=
  let (negative, text) := match text with
    | '-' :: rest => (true, rest)
    | '+' :: rest => (false, rest)
    | rest => (false, rest)
  let part := fun (text : Raw) => (Int.ofNat (Numeral.valueOf 10 (text.takeWhile Char.isDigit)), text.dropWhile Char.isDigit)
  if !(text.head?.map Char.isDigit).getD false then none
  else
    let (hours, rest) := part text
    let (minutes, rest) := match rest with
      | ':' :: rest => part rest
      | rest => (0, rest)
    let (seconds, rest) := match rest with
      | ':' :: rest => part rest
      | rest => (0, rest)
    let whole := hours * 3600 + minutes * 60 + seconds
    some (if negative then -whole else whole, rest)

/-- The hour at which clocks are changed if nothing else is said, in seconds. -/
def usualSecond : Int := 7200

/-- The days on which clocks are changed if nothing is said about it. -/
def usualChanges : Change × Change :=
  (⟨3, 2, 0, usualSecond⟩, ⟨11, 1, 0, usualSecond⟩)

/-- A day on which clocks are changed, as it is described. -/
def readChange? (text : Raw) : Option Change :=
  let (day, time) := (text.takeWhile (· != '/'), (text.dropWhile (· != '/')).drop 1)
  match day with
  | 'M' :: rest =>
    match (Raw.split '.' rest).mapM Numeral.natural? with
    | some [month, week, weekday] =>
      let second := if time.isEmpty then usualSecond else ((readTime? time).map Prod.fst).getD usualSecond
      some ⟨month, week, weekday, second⟩
    | _ => none
  | _ => none

/-- The zone that a rule tells: its name, how far universal time is ahead, and the same for summer time. One that makes
no sense is universal time under that name. -/
def ofRule (text : Raw) : Zone :=
  let (name, rest) := readName text
  match (if name.length < 3 then none else readTime? rest) with
  | none => ⟨if text.isEmpty then "UTC".toList else name, 0, none⟩
  | some (behind, rest) =>
    let zone : Zone := ⟨name, -behind, none⟩
    let (summerName, rest) := readName rest
    if summerName.length < 3 then zone
    else
      let (offset, rest) := match readTime? rest with
        | some (behind, rest) => (-behind, rest)
        | none => (zone.offset + 3600, rest)
      let changes := ((Raw.split ',' rest).drop 1).filterMap readChange?
      let (start, stop) := match changes with
        | [start, stop] => (start, stop)
        | _ => usualChanges
      { zone with summer := some ⟨summerName, offset, start, stop⟩ }

/-- The zone that a description tells: a place whose clocks are known, or a rule. -/
def ofDescription (text : Raw) : Zone :=
  let text := if text.head? == some ':' then text.drop 1 else text
  ofRule (((ruleOf? text).map String.toList).getD text)

/-- Whether clocks show so many seconds after the beginning of 1970 at any time. -/
def shows (zone : Zone) (shown : Int) : Bool :=
  let seconds := zone.secondsOf shown
  seconds + (zone.shown (.ofSeconds seconds)).offset == shown

end Zone

end AnswerQuery.Host.Calendar
