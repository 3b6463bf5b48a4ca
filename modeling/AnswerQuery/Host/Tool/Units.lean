import AnswerQuery.Host.Conversion
import AnswerQuery.Host.Tool.Amount
import AnswerQuery.Host.Tool.Slice
import AnswerQuery.Host.Tool.Source

/-! Numbers with letters for the units they are counted in: read from texts, scaled and written. -/

namespace AnswerQuery.Host.Tool

namespace Units

/-- What the letters of units stand for. -/
inductive Scale where
  /-- They are not used. -/
  | none
  /-- Powers of 1000, or of 1024 where an i follows. -/
  | either
  /-- Powers of 1000. -/
  | decimal
  /-- Powers of 1024. -/
  | binary
  /-- Powers of 1024; an i follows. -/
  | marked
  deriving DecidableEq

/-- What the letters are powers of. -/
def Scale.base : Scale → Nat
  | binary | marked => 1024
  | _ => 1000

/-- How numbers are made whole. -/
inductive Rounding where
  | up
  | down
  | away
  | toZero
  | nearest

/-- What happens with texts that are no numbers. -/
inductive Strictness where
  /-- The program ends. -/
  | ends
  /-- It goes on, but fails. -/
  | fails
  /-- It goes on with a warning. -/
  | warns
  /-- It goes on. -/
  | ignores
  deriving DecidableEq

/-- What is wrong with a number. -/
inductive Flaw where
  | tooLarge
  | noNumber
  | forbiddenLetter
  | wrongLetter
  | missingMark
  /-- Something follows the number. -/
  | trailing (rest : Raw)

/-- What complaints say. -/
def Flaw.message (text : Raw) : Flaw → Raw
  | tooLarge => "value too large to be converted: ".toList ++ quoted text
  | noNumber => "invalid number: ".toList ++ quoted text
  | forbiddenLetter => "rejecting suffix in input: ".toList ++ quoted text ++ " (consider using --from)".toList
  | wrongLetter => "invalid suffix in input: ".toList ++ quoted text
  | missingMark => "missing 'i' suffix in input: ".toList ++ quoted text ++ " (e.g Ki/Mi/Gi)".toList
  | trailing rest => "invalid suffix in input ".toList ++ quoted text ++ ": ".toList ++ quoted rest

/-- How precise the numbers are. -/
def kind : Precision := .extended

/-- A whole number. -/
def ofNat (number : Nat) : Floating := Floating.ofScaled kind false number 0

/-- A power. -/
def power (base : Nat) : Nat → Floating
  | 0 => ofNat 1
  | 1 => ofNat base
  | exponent + 1 => Floating.multiply kind (power base exponent) (ofNat base)

/-- A number without its sign. -/
def magnitude : Floating → Floating
  | .finite _ whole exponent => .finite false whole exponent
  | other => other

/-- Whether the magnitude of a number is at least another number. -/
def reaches (value : Floating) (least : Nat) : Bool :=
  match Floating.compare? (magnitude value) (ofNat least) with
  | some .lt => false
  | _ => true

/-- The letters of units, from the first power on. -/
def letters : Raw := "KMGTPEZY".toList

/-- How many digits are told apart. -/
def exactDigits : Nat := 18

/-- How many digits a number may have. -/
def mostDigits : Nat := 27

/-- A number that was read, and what follows. -/
structure Found where
  /-- The number. -/
  value : Floating
  /-- How many digits stand behind the point. -/
  behind : Nat := 0
  /-- Whether it has more digits than are told apart. -/
  inexact : Bool
  /-- What follows. -/
  rest : Raw

/-- Read a whole number. -/
def readWhole (text : Raw) : Except Flaw (Found × Bool) := do
  let negative := text.head? == some '-'
  let text := if negative then text.drop 1 else text
  let digits := text.takeWhile Char.isDigit
  let rest := text.drop digits.length
  let count := (digits.dropWhile (· == '0')).length
  if mostDigits < count then throw .tooLarge
  if digits.isEmpty && rest.head? != some '.' then throw .noNumber
  let value := digits.foldl (fun value digit =>
    Floating.add kind (Floating.multiply kind value (ofNat 10)) (ofNat (Numeral.digitValue digit))) (ofNat 0)
  let value := match value with
    | .finite _ whole exponent => .finite negative whole exponent
    | other => other
  pure ({ value, inexact := exactDigits < count, rest }, negative)

/-- Read a number that may have a point. -/
def readNumber (text : Raw) : Except Flaw Found := do
  let (front, negative) ← readWhole text
  match front.rest with
  | '.' :: rest =>
    let (back, wrong) ← readWhole rest
    if wrong then throw .noNumber
    let behind := rest.length - back.rest.length
    let part := Floating.divide kind back.value (power 10 behind)
    let part := match part with
      | .finite _ whole exponent => .finite negative whole exponent
      | other => other
    pure { value := Floating.add kind front.value part, behind, inexact := front.inexact || back.inexact, rest := back.rest }
  | _ => pure front

/-- Read a number with the letter of a unit. -/
def read (scale : Scale) (text : Raw) : Except Flaw Found := do
  let front ← readNumber text
  let found ←
    if front.rest.isEmpty then pure (front, scale.base, 0)
    else
      match front.rest.dropWhile Raw.isSpace with
      | [] => if scale == .none then throw .forbiddenLetter else pure ({ front with rest := [], behind := 0 }, scale.base, 0)
      | letter :: rest =>
        match letters.idxOf? letter with
        | none => throw .wrongLetter
        | some place =>
          if scale == .none then throw .forbiddenLetter
          let front := { front with behind := 0 }
          match scale, rest with
          | .either, 'i' :: rest => pure ({ front with rest }, 1024, place + 1)
          | _, rest => pure ({ front with rest }, scale.base, place + 1)
  let (front, base, exponent) := found
  let front ← match scale, front.rest with
    | .marked, 'i' :: rest => pure { front with rest }
    | .marked, _ => throw .missingMark
    | _, _ => pure front
  let value := Floating.multiply kind front.value (power base exponent)
  if front.rest.isEmpty then pure { front with value } else throw (.trailing front.rest)

/-- A number made whole. -/
def Rounding.apply (rounding : Rounding) : Floating → Floating
  | .finite negative whole exponent =>
    let bottom := if 0 ≤ exponent then 1 else Floating.powerOf 2 (-exponent).toNat
    let top := if 0 ≤ exponent then whole * Floating.powerOf 2 exponent.toNat else whole
    let less := top / bottom
    let more := (top + bottom - 1) / bottom
    let result := match rounding with
      | .up => if negative then less else more
      | .down => if negative then more else less
      | .away => more
      | .toZero => less
      | .nearest => (2 * top + bottom) / (2 * bottom)
    Floating.ofScaled kind (negative && result != 0) result 0
  | other => other

/-- A number rounded behind so many digits. -/
def Rounding.places (rounding : Rounding) (count : Nat) (value : Floating) : Floating :=
  Floating.divide kind (rounding.apply (Floating.multiply kind value (power 10 count))) (power 10 count)

/-- A number divided by a base until it is smaller, and how often that was; it takes so many steps at most. -/
def normalized (base : Nat) : Nat → Floating → Floating × Nat
  | 0, value => (value, 0)
  | steps + 1, value =>
    if reaches value base then
      let (value, count) := normalized base steps (Floating.divide kind value (ofNat base))
      (value, count + 1)
    else (value, 0)

/-- How numbers are read and written. -/
structure Plan where
  /-- The units they are read in. -/
  source : Scale := .none
  /-- The units they are written in. -/
  target : Scale := .none
  /-- What they are multiplied by. -/
  times : Nat := 1
  /-- What they are divided by. -/
  per : Nat := 1
  /-- How they are made whole. -/
  rounding : Rounding := .away
  /-- What happens with texts that are no numbers. -/
  strictness : Strictness := .ends
  /-- What may follow numbers, and what is written behind them. -/
  suffix : Option Raw := none
  /-- How wide they are at least; none if that follows from what was read. -/
  width : Option Nat := none
  /-- Whether they stand on the left. -/
  left : Bool := false
  /-- How many digits they have at least. -/
  zeros : Nat := 0
  /-- How many digits they have behind the point. -/
  behind : Option Nat := none
  /-- What is written in front of them. -/
  front : Raw := []
  /-- What is written behind them. -/
  back : Raw := []
  /-- What separates fields; none stands for blanks. -/
  delimiter : Option Char := none
  /-- Which fields are numbers. -/
  wants : Nat → Bool := (· == 1)
  /-- What ends lines. -/
  mark : Char := '\n'
  /-- Whether warnings are given. -/
  warns : Bool := false

/-- Write a number. -/
def Plan.show_ (plan : Plan) (value : Floating) (behind : Nat) : Raw :=
  let write := fun (behind : Nat) (value : Floating) =>
    Conversion.floating
      { flags := if plan.zeros != 0 then ['0'] else [], width := plan.zeros, precision := some behind, letter := 'f' } kind value
  if plan.target == .none then write behind (plan.rounding.places behind value)
  else
    let base := plan.target.base
    let (value, exponent) := normalized base 10000 value
    let adjusted := match plan.behind with
      | some behind => min (exponent * 3) behind
      | none => if reaches value 10 then 0 else 1
    let value := plan.rounding.places adjusted value
    let (value, exponent) := if reaches value base then (Floating.divide kind value (ofNat base), exponent + 1) else (value, exponent)
    let isZero := match value with
      | .finite _ 0 _ => true
      | _ => false
    let places := plan.behind.getD (if !isZero && !reaches value 10 && exponent != 0 then 1 else 0)
    let letter := if exponent = 0 then [] else (letters[exponent - 1]?.map fun c => [c]).getD "(error)".toList
    write places value ++ letter ++ (if plan.target == .marked && exponent != 0 then ['i'] else [])

/-- A number as complaints show it. -/
def shown (value : Floating) : Raw := Conversion.floating { letter := 'g' } kind value

/-- Complain about a text, in the way that is wished. -/
def Plan.complain (plan : Plan) (message : Raw) : Act Unit := do
  match plan.strictness with
  | .ends => Act.die 2 message
  | .ignores => pure ()
  | _ => Act.complain message

/-- A number in place of a text; none if that makes no sense. The width that texts have is kept where there is none. -/
def Plan.convert (plan : Plan) (field : Nat) (text : Raw) : Act (Option Raw × Raw) := do
  let text := match plan.suffix with
    | some suffix =>
      if suffix.length < text.length && suffix.reverse.isPrefixOf text.reverse then text.take (text.length - suffix.length)
      else text
    | none => text
  let bare := text.dropWhile fun c => c == ' ' || c == '\t'
  let width := match plan.width with
    | some width => width
    | none => if plan.delimiter.isNone && (bare.length < text.length || 1 < field) then text.length else 0
  match read plan.source bare with
  | .error flaw => do
    plan.complain (flaw.message bare)
    pure (none, text)
  | .ok found => do
    if found.inexact && plan.warns then
      Act.complain ("large input value ".toList ++ quoted bare ++ ": possible precision loss".toList)
    let value := if plan.times == 1 && plan.per == 1 then found.value else
      Floating.divide kind (Floating.multiply kind found.value (ofNat plan.times)) (ofNat plan.per)
    let behind := plan.behind.getD found.behind
    let size := (normalized 10 10000 value).2
    if plan.target == .none && exactDigits < size + behind then
      if behind = 0 then
        plan.complain ("value too large to be printed: '".toList ++ shown value ++ "' (consider using --to)".toList)
      else
        plan.complain ("value/precision too large to be printed: '".toList ++ shown value ++ ['/'] ++ decimal behind ++
          "' (consider using --to)".toList)
      pure (none, text)
    else if mostDigits - 1 < size then
      plan.complain ("value too large to be printed: '".toList ++ shown value ++ "' (cannot handle values > 999Y)".toList)
      pure (none, text)
    else
      let number := plan.show_ value behind ++ plan.suffix.getD []
      let blanks := List.replicate (width - number.length) ' '
      let padded := if plan.left then number ++ blanks else blanks ++ number
      pure (some (plan.front ++ padded ++ plan.back), text)

/-- Whether a character separates fields. -/
def Plan.separates (plan : Plan) (c : Char) : Bool :=
  match plan.delimiter with
  | some delimiter => c == delimiter
  | none => c == ' ' || c == '\t' || c == '\n'

/-- The fields of a line; blanks in front of a field belong to it. -/
def Plan.fields (plan : Plan) : Nat → Raw → List Raw
  | 0, _ => []
  | steps + 1, text =>
    let blanks := if plan.delimiter.isNone then text.takeWhile plan.separates else []
    let word := (text.drop blanks.length).takeWhile (!plan.separates ·)
    let field := blanks ++ word
    match text.drop field.length with
    | [] => [field]
    | _ :: rest => field :: plan.fields steps rest

/-- Convert the numbers of a line; the result tells whether all are numbers. -/
def Plan.line (plan : Plan) (text : Raw) : Act Bool := do
  let mut sound := true
  for (field, place) in (plan.fields (text.length + 1) text).zipIdx do
    if place != 0 then Act.say [plan.delimiter.getD ' ']
    if plan.wants (place + 1) then
      match ← plan.convert (place + 1) field with
      | (some converted, _) => Act.say converted
      | (none, rest) => do
        Act.say rest
        sound := false
    else Act.say field
  pure sound

/-- Read the size of a unit. -/
def unitOf (text : Raw) : Act Nat := do
  let (told, letters) := match text.reverse with
    | [] => (text, "KMGTPEZY")
    | last :: before =>
      if last.isDigit then (text, "KMGTPEZY")
      else if last == 'i' && !((before.head?.map Char.isDigit).getD true) then (text.dropLast, "KMGTPEZY")
      else (text ++ ['B'], "0KMGTPEZY")
  match Amount.read { letters } told with
  | .ok value =>
    if value = 0 then Act.die 1 ("invalid unit size: ".toList ++ quoted text) else pure value.toNat
  | .error _ => Act.die 1 ("invalid unit size: ".toList ++ quoted text)

/-- The place of the first directive of a format, counted in characters and doubled signs. -/
def directive? : Nat → Raw → Option (Nat × Raw)
  | _, [] => none
  | count, '%' :: '%' :: rest => directive? (count + 1) rest
  | count, '%' :: rest => some (count, rest)
  | count, _ :: rest => directive? (count + 1) rest

/-- The signs in front of the width of a directive: whether digits are grouped, whether zeros fill it up, and the rest. -/
def signs (grouped zeros : Bool) : Raw → Bool × Bool × Raw
  | ' ' :: rest => signs grouped zeros rest
  | '\'' :: rest => signs true zeros rest
  | '0' :: rest => signs grouped true rest
  | rest => (grouped, zeros, rest)

/-- Read a format. The result tells whether digits are grouped too. -/
def Plan.withFormat (plan : Plan) (format : Raw) : Act (Plan × Bool) := do
  match directive? 0 format with
  | none => Act.die 1 ("format ".toList ++ quoted format ++ " has no % directive".toList)
  | some (count, rest) => do
    let (grouped, zeros, rest) := signs false false rest
    let number := Numeral.readFront 10 rest
    if number.found && !Numeral.fits number.value then
      Act.die 1 ("invalid format ".toList ++ quoted format ++ " (width overflow)".toList)
    let width := if number.found then number.value else 0
    let rest := if number.found then number.rest else rest
    let plan :=
      if width = 0 then plan
      else if width < 0 then { plan with left := true, width := some width.natAbs }
      else if zeros then { plan with zeros := width.toNat }
      else { plan with width := some width.toNat }
    if rest.isEmpty then Act.die 1 ("format ".toList ++ quoted format ++ " ends in %".toList)
    let (plan, rest) ← match rest with
      | '.' :: rest => do
        let number := Numeral.readFront 10 rest
        let blank := (rest.head?.map fun c => c == ' ' || c == '\t' || c == '+').getD false
        let value := if number.found then number.value else 0
        if blank || value < 0 || !Numeral.fits value then
          Act.die 1 ("invalid precision in format ".toList ++ quoted format)
        pure ({ plan with behind := some value.toNat }, if number.found then number.rest else rest)
      | rest => pure (plan, rest)
    match rest with
    | 'f' :: back => do
      if (directive? 0 back).isSome then
        Act.die 1 ("format ".toList ++ quoted format ++ " has too many % directives".toList)
      pure ({ plan with front := format.take count, back }, grouped)
    | _ => Act.die 1 ("invalid format ".toList ++ quoted format ++ ", directive must be %[0]['][-][N][.][N]f".toList)

/-- The names of scales. -/
def scales : List (List String × Scale) :=
  [(["none"], .none), (["auto"], .either), (["si"], .decimal), (["iec"], .binary), (["iec-i"], .marked)]

/-- The names of ways to make numbers whole. -/
def roundings : List (List String × Rounding) :=
  [(["up"], .up), (["down"], .down), (["from-zero"], .away), (["towards-zero"], .toZero), (["nearest"], .nearest)]

/-- The names of what happens with texts that are no numbers. -/
def strictnesses : List (List String × Strictness) :=
  [(["abort"], .ends), (["fail"], .fails), (["warn"], .warns), (["ignore"], .ignores)]

/-- Take up an option. -/
def Plan.given (plan : Plan) (given : Given) : Act Plan := do
  let text := given.argument.getD []
  match given.key with
  | "from" => do pure { plan with source := ← Act.choose "--from" scales text }
  | "to" => do
    let target ← Act.choose "--to" (scales.filter fun scale => scale.1 != ["auto"]) text
    pure { plan with target }
  | "from-unit" => do pure { plan with times := ← unitOf text }
  | "to-unit" => do pure { plan with per := ← unitOf text }
  | "round" => do pure { plan with rounding := ← Act.choose "--round" roundings text }
  | "invalid" => do pure { plan with strictness := ← Act.choose "--invalid" strictnesses text }
  | "padding" => do
    match Amount.read { signed := true } text with
    | .ok width =>
      if width = 0 then Act.die 1 ("invalid padding value ".toList ++ quoted text)
      else pure { plan with width := some width.natAbs, left := plan.left || width < 0 }
    | .error _ => Act.die 1 ("invalid padding value ".toList ++ quoted text)
  | "field" => do
    if text == ['-'] then pure { plan with wants := fun _ => true }
    else match Slice.readSpans .fields (text.length + 1) text with
      | .ok spans => pure { plan with wants := fun field => spans.any fun span => span.covers field }
      | .error message => Act.refuse 1 message
  | "d" => do
    if 1 < text.length then Act.die 1 "the delimiter must be a single character".toList
    pure { plan with delimiter := some (text.head?.getD '\x00') }
  | "z" => pure { plan with mark := '\x00' }
  | "suffix" => pure { plan with suffix := some text }
  | "debug" => pure { plan with warns := true }
  | _ => pure plan

/-- How many lines are no numbers at the beginning. -/
def headerOf (invocation : Invocation) : Act Nat := do
  let mut lines := 0
  for given in invocation.given do
    if given.key == "header" then
      match given.argument with
      | none => lines := 1
      | some text => match Amount.read {} text with
        | .ok count =>
          if count = 0 then Act.die 1 ("invalid header value ".toList ++ quoted text)
          lines := count.toNat
        | .error _ => Act.die 1 ("invalid header value ".toList ++ quoted text)
  pure lines

/-- Convert what is read, line by line; the result tells whether all are numbers. -/
def Plan.input (plan : Plan) (header : Nat) : Act Bool :=
  Act.loop (({ descriptor := 0, path := ['-'] } : Source), header, true) fun (source, header, sound) => do
    let (line, source) ← source.nextLine plan.mark
    match line with
    | none => do
      if let some reason := source.failure then Act.complain ("error reading input: ".toList ++ reason.description)
      pure (.inr sound)
    | some line => do
      let good ← if header != 0 then do
          Act.say line.text
          pure true
        else plan.line (line.text.takeWhile (· != '\x00'))
      if line.ended then Act.say [plan.mark]
      pure (.inl (source, header - 1, sound && good))

end Units

open AnswerQuery.Host.Tool.Units in
/-- Convert numbers from units and to units. -/
def numfmt : Utility := ofAct fun arguments => do
  let known : List Known := [⟨"from", "from", .always⟩, ⟨"from-unit", "from-unit", .always⟩, ⟨"to", "to", .always⟩,
    ⟨"to-unit", "to-unit", .always⟩, ⟨"round", "round", .always⟩, ⟨"padding", "padding", .always⟩,
    ⟨"suffix", "suffix", .always⟩, ⟨"grouping", "grouping", .nothing⟩, ⟨"d", "delimiter", .always⟩,
    ⟨"field", "field", .always⟩, ⟨"debug", "debug", .nothing⟩, ⟨"header", "header", .maybe⟩,
    ⟨"format", "format", .always⟩, ⟨"invalid", "invalid", .always⟩, ⟨"z", "zero-terminated", .nothing⟩]
  let invocation ← Act.readOptions 1 known false arguments
  let fields := (invocation.arguments "field").length
  let plan ← (if fields ≤ 1 then invocation.given else invocation.given.filter fun given => given.key != "field").foldlM
    Plan.given ({} : Plan)
  if 1 < fields then Act.die 1 "multiple field specifications".toList
  let header ← headerOf invocation
  let format := invocation.argument? "format"
  let groups := invocation.has "grouping"
  if groups && format.isSome then Act.die 1 "--grouping cannot be combined with --format".toList
  if plan.warns && plan.source == .none && plan.target == .none && !groups && plan.width.isNone && format.isNone then
    Act.complain "no conversion option specified".toList
  let (plan, grouped) ← match format with
    | some format => plan.withFormat format
    | none => pure (plan, groups)
  if grouped then
    if plan.target != .none then Act.die 1 "grouping cannot be combined with --to".toList
    if plan.warns then Act.complain "grouping has no effect in this locale".toList
  let sound ←
    if invocation.operands.isEmpty then plan.input header
    else do
      if plan.warns && header != 0 then Act.complain "--header ignored with command-line input".toList
      let mut sound := true
      for text in invocation.operands do
        if !(← plan.line text) then sound := false
        Act.say [plan.mark]
      pure sound
  if !sound then
    if plan.warns then Act.complain "failed to convert some of the input numbers".toList
    if plan.strictness != .warns && plan.strictness != .ignores then Act.fail 2

/-- The programs of this kind. -/
def unitTools : List (String × Utility) :=
  [("numfmt", numfmt)]

end AnswerQuery.Host.Tool
