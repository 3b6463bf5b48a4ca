import AnswerQuery.Host.Calendar.Form
import AnswerQuery.Host.Calendar.Reading
import AnswerQuery.Host.Machine
import AnswerQuery.Host.Tool.Basic

/-! The time it is for programs, and the zone they are in. -/

namespace AnswerQuery.Host.Tool

namespace Act

/-- The moment it is. -/
def now : Act Calendar.Moment := do
  let milliseconds : Nat ← ask .clock
  pure (Int.ofNat milliseconds * Machine.nanosecondsPerMillisecond)

/-- The zone that a variable of the environment describes. -/
def zone : Act Calendar.Zone := do
  let bindings : List (Raw × Raw) ← ask .bindings
  pure (match bindings.lookup "TZ".toList with
    | some text => .ofDescription text
    | none => .universal)

/-- The moment that a description means. -/
def momentOf? (text : Raw) : Act (Option Calendar.Moment) := do
  pure (Calendar.Moment.ofDescription? (← zone) (← now) text)

end Act

/-- The moment that ten or twelve digits mean: month, day, hour and minute, with the year in front, and the seconds
behind a point. -/
def stampMoment? (zone : Calendar.Zone) (now : Calendar.Moment) (text : Raw) : Option Calendar.Moment := do
  let digits := text.takeWhile (· != '.')
  let behind := text.drop digits.length
  let second ← match behind with
    | [] => some 0
    | ['.', tens, ones] => if tens.isDigit && ones.isDigit then some (Numeral.valueOf 10 [tens, ones]) else none
    | _ => none
  if !digits.all Char.isDigit || !([8, 10, 12].contains digits.length) then none
  let front := digits.take (digits.length - 8)
  let year : Int ← match front.length with
    | 0 => some (zone.shown now).date.year
    | 2 =>
      let year := Int.ofNat (Numeral.valueOf 10 front)
      some (year + if year < 69 then 2000 else 1900)
    | _ => some (Int.ofNat (Numeral.valueOf 10 front))
  let part := fun (place : Nat) => Int.ofNat (Numeral.valueOf 10 (((digits.drop front.length).drop (2 * place)).take 2))
  let (month, day, hour, minute) := (part 0, part 1, part 2, part 3)
  let number := Calendar.dayNumber year month day
  let date := Calendar.Date.ofNumber number
  if month < 1 || 12 < month || day < 1 || Int.ofNat date.day != day || 23 < hour || 59 < minute || 59 < second then none
  let shown := number * Calendar.secondsPerDay + hour * 3600 + minute * 60 + Int.ofNat second
  pure (.ofSeconds (zone.secondsOf shown))

end AnswerQuery.Host.Tool
