import AnswerQuery.Host.Tool.Report.State
import AnswerQuery.Host.Tool.Time

/-! What is reckoned in reports: numbers, texts and what the functions do that all scripts have. -/

namespace AnswerQuery.Host.Tool.Report

namespace Number

/-- What is left of a number that is divided; it has the sign of the number. -/
def remainder (x y : Float) : Float :=
  match Floating.ofMachine x, Floating.ofMachine y with
  | .finite negative whole power, .finite _ divisor divisorPower =>
    if divisor = 0 then 0.0 / 0.0
    else
      let least := min power divisorPower
      let scaled := fun (whole : Nat) (power : Int) => whole * Floating.powerOf 2 (power - least).toNat
      let rest := scaled whole power % scaled divisor divisorPower
      (Floating.nearest .double negative
        (if 0 ≤ least then rest * Floating.powerOf 2 least.toNat else rest)
        (if 0 ≤ least then 1 else Floating.powerOf 2 (-least).toNat)).1.toMachine
  | .finite .., .infinite _ => x
  | _, _ => 0.0 / 0.0

/-- A number without what stands behind its point. -/
def truncated (x : Float) : Float :=
  if x < 0.0 then -(-x).floor else x.floor

/-- Reckon with two numbers. -/
def reckon (operation : Arithmetic) (x y : Float) : Float :=
  match operation with
  | .add => x + y
  | .subtract => x - y
  | .multiply => x * y
  | .divide => x / y
  | .remainder => remainder x y
  | .power => x.pow y

end Number

/-- Whether a comparison holds that came out in some way. -/
def Comparison.holds (comparison : Comparison) (outcome : Ordering) : Bool :=
  match comparison with
  | .equal => outcome == .eq
  | .different => outcome != .eq
  | .less => outcome == .lt
  | .lessEqual => outcome != .gt
  | .greater => outcome == .gt
  | .greaterEqual => outcome != .lt

namespace Texts

/-- Where a text stands in another one, counted from one; zero if it does not. -/
def indexOf (part : Raw) : Nat → Raw → Nat
  | position, [] => if part.isEmpty then position else 0
  | position, c :: rest => if part.isPrefixOf (c :: rest) then position else indexOf part (position + 1) rest

/-- A part of a text, from a place that is counted from one. -/
def part (text : Raw) (start : Int) (length : Option Int) : Raw :=
  match length with
  | none => text.drop (start - 1).toNat
  | some length =>
    let length := if start < 1 then length - start else length
    (text.drop (start - 1).toNat).take length.toNat

/-- A replacement for a text: what stands for it is replaced by it. -/
def replacement (found : Raw) : Raw → Raw
  | '\\' :: '&' :: rest => '&' :: replacement found rest
  | '\\' :: '\\' :: rest => '\\' :: replacement found rest
  | '&' :: rest => found ++ replacement found rest
  | c :: rest => c :: replacement found rest
  | [] => []

/-- Replace matches in a text from a position on: how many there were, and the pieces. An empty match does not follow
another match at once. -/
def substituted (matcher : Matcher) (with_ : Raw) (all : Bool) (text : Array Char) :
    Nat → Nat → Bool → Nat × List Raw
  | 0, position, _ => (0, [(text.extract position text.size).toList])
  | steps + 1, position, justMatched =>
    match matcher.find? text position with
    | none => (0, [(text.extract position text.size).toList])
    | some found =>
      let before := (text.extract position found.start).toList
      let matched := (text.extract found.start found.stop).toList
      let one := (text.extract found.start (found.start + 1)).toList
      let onward := fun (pieces : List Raw) (position : Nat) (justMatched : Bool) =>
        let (count, others) := substituted matcher with_ all text steps position justMatched
        (count, pieces ++ others)
      if found.stop = found.start && justMatched && found.start = position then
        if text.size ≤ position then (0, []) else onward [one] (position + 1) false
      else
        let new := replacement matched with_
        if !all then (1, [before, new, (text.extract found.stop text.size).toList])
        else if found.stop = found.start then
          if text.size ≤ found.start then (1, [before, new])
          else
            let (count, pieces) := onward [before, new, one] (found.start + 1) false
            (count + 1, pieces)
        else
          let (count, pieces) := onward [before, new] found.stop true
          (count + 1, pieces)

end Texts

namespace Formatting

/-- What is told of a format that asks for more than there is. -/
def lacking : String := "not enough arguments passed to "

/-- What is told of a conversion that makes no sense. -/
def improper (number : Nat) : String :=
  "improper conversion(number " ++ toString number ++ ") in "

/-- A number that is written as a whole one. -/
def integer (conversion : Conversion) (x : Float) : Raw :=
  conversion.signed (Number.signed x)

/-- The character that a cell tells. -/
def character (cell : Cell) : Char :=
  match cell.settled with
  | .number x => Char.ofNat (Int.emod (Number.signed x) 256).toNat
  | .text text => text.head?.getD '\x00'
  | _ => '\x00'

/-- A cell as the letter of a conversion tells, if it is known. -/
def converted? (numbers : Raw) (conversion : Conversion) (cell : Cell) : Option Raw :=
  let x := cell.toNumber
  let letter := conversion.letter
  if letter == 's' then some (conversion.text (cell.toText numbers))
  else if letter == 'c' then some (conversion.padded [character cell])
  else if letter == 'd' || letter == 'i' then some (integer conversion x)
  else if "oxXu".toList.contains letter then some (conversion.unsigned (Number.unsigned x))
  else if "eEfgG".toList.contains letter then some (conversion.floating .double (Floating.ofMachine x))
  else none

/-- A width at the front of a format, or what an argument tells instead, and what follows; none if it is missing. -/
def width? (format : Raw) (arguments : List Cell) : Option (Int × Raw × List Cell) :=
  match format, arguments with
  | '*' :: _, [] => none
  | '*' :: rest, first :: others => some (Number.signed first.toNumber, rest, others)
  | rest, arguments =>
    let digits := rest.takeWhile Char.isDigit
    some (Int.ofNat (Numeral.valueOf 10 digits), rest.drop digits.length, arguments)

/-- A precision at the front of a format, if there is one, and what follows; none if it is missing. -/
def precision? (format : Raw) (arguments : List Cell) : Option (Option Int × Raw × List Cell) :=
  match format with
  | '.' :: rest => (width? rest arguments).map fun (width, rest, arguments) => (some width, rest, arguments)
  | rest => some (none, rest, arguments)

/-- The pieces that a format makes of arguments, and what is wrong with it, if something is. Numbers that are not whole
become texts as another format tells. -/
def pieces (numbers : Raw) : Nat → Nat → Raw → List Cell → List Raw × Option String
  | 0, _, _, _ => ([], none)
  | _ + 1, _, [], _ => ([], none)
  | steps + 1, number, '%' :: '%' :: rest, arguments =>
    let (others, wrong) := pieces numbers steps number rest arguments
    (['%'] :: others, wrong)
  | steps + 1, number, '%' :: rest, arguments =>
    let flags := rest.takeWhile "-+ #0".toList.contains
    match width? (rest.drop flags.length) arguments with
    | none => ([], some lacking)
    | some (width, rest, arguments) =>
      match precision? rest arguments with
      | none => ([], some lacking)
      | some (precision, rest, arguments) =>
        match arguments, rest.dropWhile fun c => c == 'l' || c == 'h' with
        | [], _ => ([], some lacking)
        | _, [] => ([], some (improper number))
        | argument :: arguments, letter :: rest =>
          let conversion := ({ flags, letter } : Conversion).withWidth width
          let conversion := match precision with
            | some precision => conversion.withPrecision precision
            | none => conversion
          match converted? numbers conversion argument with
          | none => ([], some (improper number))
          | some text =>
            let (others, wrong) := pieces numbers steps (number + 1) rest arguments
            (text :: others, wrong)
  | steps + 1, number, c :: rest, arguments =>
    let plain := (c :: rest).takeWhile (· != '%')
    let (others, wrong) := pieces numbers steps number ((c :: rest).drop plain.length) arguments
    (plain :: others, wrong)

end Formatting

namespace Work

/-- What a format makes of arguments; it is handed on before a complaint about the function. -/
def formatted (function : String) (handOn : Raw → Work Unit) (arguments : List Cell) : Work Unit := do
  match arguments with
  | [] => pure ()
  | format :: arguments => do
    let format ← textOf format
    let (pieces, wrong) := Formatting.pieces (← numberFormat) (format.length + 1) 1 format arguments
    handOn pieces.flatten
    if let some message := wrong then
      die (message.toList ++ function.toList ++ "(\"".toList ++ format ++ "\")".toList)

/-- The text that a format makes of arguments. -/
def made (arguments : List Cell) : Work Raw := do
  formatted "sprintf" (fun _ => pure ()) arguments
  match arguments with
  | [] => pure []
  | format :: arguments => do
    let format ← textOf format
    pure (Formatting.pieces (← numberFormat) (format.length + 1) 1 format arguments).1.flatten

/-- The next random number. -/
def random : Work Float := do
  let state ← get
  let next := (state.random * 6364136223846793005 + 1442695040888963407) % Numeral.wordCount
  set { state with random := next }
  pure (Float.ofNat (next / 2048) / 9007199254740992.0)

/-- How many milliseconds have passed, in whole seconds. -/
def seconds : Work Nat := do
  let milliseconds : Nat ← act (Act.ask .clock)
  pure (milliseconds / 1000)

/-- Begin anew with random numbers: what they began with before. -/
def seed (begins : Option Cell) : Work Cell := do
  let state ← get
  let now ← seconds
  let begins := begins.getD (.ofNat now)
  let mixed := Key.mix (← textOf begins)
  set { state with seed := begins, random := mixed }
  pure (match state.seed with
    | .blank => .ofNat now
    | cell => cell)

/-- The value that a function of one number leads to. -/
def ofNumber (f : Float → Float) (arguments : List Cell) : Cell :=
  .number (f (arguments.head?.getD .blank).toNumber)

/-- What a function leads to that all scripts have; patterns are not among its arguments. -/
def builtinValue (builtin : Builtin) (arguments : List Cell) : Work Cell := do
  let first := arguments.head?.getD .blank
  let second := (arguments.drop 1).head?.getD .blank
  match builtin with
  | .length =>
    match arguments with
    | [] => pure (.ofNat (← record).length)
    | cell :: _ => pure (.ofNat (← textOf cell).length)
  | .substring => do
    let text ← textOf first
    let start := Number.signed second.toNumber
    let length := ((arguments.drop 2).head?).map fun cell => Number.signed cell.toNumber
    pure (.text (Texts.part text start length))
  | .index => do
    let text ← textOf first
    let part ← textOf second
    pure (.ofNat (Texts.indexOf part 1 text))
  | .match_ => pure .blank
  | .format => pure (.text (← made arguments))
  | .sine => pure (ofNumber Float.sin arguments)
  | .cosine => pure (ofNumber Float.cos arguments)
  | .arcTangent => pure (.number (first.toNumber.atan2 second.toNumber))
  | .exponential => pure (ofNumber Float.exp arguments)
  | .logarithm => pure (ofNumber Float.log arguments)
  | .root => pure (ofNumber Float.sqrt arguments)
  | .integral => pure (ofNumber Number.truncated arguments)
  | .random => pure (.number (← random))
  | .seed => seed arguments.head?
  | .lower => pure (.text ((← textOf first).map Char.toLower))
  | .upper => pure (.text ((← textOf first).map Char.toUpper))
  | .system => do
    let command ← textOf first
    flushAll
    let status ← act (Act.runCommand command)
    pure (.ofNat (statusNumber status))
  | .close => do
    let path ← textOf first
    pure (.ofInt (← close path))
  | .flush => do
    match arguments with
    | [] => do
      flushAll
      pure (.number 0.0)
    | cell :: _ => do
      let path ← textOf cell
      let outflows := (← get).outflows
      if path == "/dev/stdout".toList then
        act Act.flush
        pure (.number 0.0)
      else if outflows.any fun outflow => outflow.path == path then
        let outflows ← act (outflows.mapM fun outflow =>
          if outflow.path == path then flushOutflow outflow else pure outflow)
        modify fun state => { state with outflows }
        pure (.number 0.0)
      else pure (.number (-1.0))
  | .now => pure (.ofNat (← seconds))
  | .formatTime => do
    let form ← match arguments with
      | [] => pure "%c".toList
      | cell :: _ => textOf cell
    let moment ← match arguments with
      | _ :: cell :: _ => pure (Number.signed cell.toNumber)
      | _ => Int.ofNat <$> seconds
    let isUniversal := match arguments with
      | [_, _, cell] => cell.toNumber != 0.0
      | _ => false
    let zone ← if isUniversal then pure Calendar.Zone.universal else act Act.zone
    pure (.text ((zone.shown (.ofSeconds moment)).inForm form))
  | .makeTime => do
    let text ← textOf first
    let zone ← act Act.zone
    match (text.splitOnP Raw.isSpace).filterMap Numeral.integer? with
    | year :: month :: day :: hour :: minute :: second :: _ =>
      let shown := Calendar.dayNumber year month day * Calendar.secondsPerDay + hour * 3600 + minute * 60 + second
      pure (.ofInt (zone.secondsOf shown))
    | _ => pure (.number (-1.0))

end Work

end AnswerQuery.Host.Tool.Report
