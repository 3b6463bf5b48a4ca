import AnswerQuery.Host.Conversion
import AnswerQuery.Host.Tool.Options

/-! Programs that write texts and numbers they are given. -/

namespace AnswerQuery.Host.Tool

namespace Escape

/-- Whether a character is an octal digit. -/
def isOctal (c : Char) : Bool :=
  '0' ≤ c && c ≤ '7'

/-- Whether a character is a hexadecimal digit. -/
def isHexadecimal (c : Char) : Bool :=
  Numeral.isDigitIn 16 c

/-- The characters that letters behind a backslash stand for. -/
def letters : List (Char × Char) :=
  [('a', '\x07'), ('b', '\x08'), ('e', '\x1b'), ('f', '\x0c'), ('n', '\n'), ('r', '\r'), ('t', '\t'), ('v', '\x0b'),
    ('\\', '\\')]

/-- At most so many digits in a base at the front of a text, as a character, and what follows them. -/
def ofDigits (base most : Nat) (text : Raw) : Char × Raw :=
  let digits := (text.take most).takeWhile (Numeral.isDigitIn base)
  (Char.ofNat (Numeral.valueOf base digits % 256), text.drop digits.length)

/-- A text in which what stands behind backslashes is replaced, and whether it asks for nothing to follow. -/
def replace : Nat → Raw → Raw × Bool
  | 0, _ => ([], false)
  | steps + 1, text =>
    let goOn := fun (front : Raw) (rest : Raw) =>
      let (replaced, ends) := replace steps rest
      (front ++ replaced, ends)
    match text with
    | [] => ([], false)
    | '\\' :: c :: rest =>
      if c == 'c' then ([], true)
      else if c == 'x' && (rest.head?.map isHexadecimal).getD false then
        let (character, rest) := ofDigits 16 2 rest
        goOn [character] rest
      else if c == '0' then
        let (character, rest) := ofDigits 8 3 rest
        goOn [character] rest
      else if isOctal c then
        let (character, rest) := ofDigits 8 3 (c :: rest)
        goOn [character] rest
      else match letters.lookup c with
        | some character => goOn [character] rest
        | none => goOn ['\\', c] rest
    | c :: rest => goOn [c] rest

end Escape

/-- Whether an argument holds letters of options alone. -/
def isEchoOption : Raw → Bool
  | '-' :: letters => !letters.isEmpty && letters.all fun c => c == 'n' || c == 'e' || c == 'E'
  | _ => false

/-- Write arguments with blanks between them. -/
def echo : Utility := ofAct fun arguments => do
  let options := arguments.takeWhile isEchoOption
  let letters := (options.flatMap (List.drop 1)).reverse
  let escapes := (letters.find? fun c => c != 'n') == some 'e'
  let text := [' '].intercalate (arguments.drop options.length)
  let (text, ends) := if escapes then Escape.replace (text.length + 1) text else (text, false)
  Act.say text
  if !ends && !letters.contains 'n' then Act.say ['\n']

namespace Format

/-- The sentence about digits that are missing behind a backslash. -/
def missingDigits : Raw := "missing hexadecimal number in escape".toList

/-- A character beyond the octets, as it is shown where it cannot be written. -/
def characterOf (code : Nat) : Raw :=
  if code < 128 then [Char.ofNat code]
  else
    let digits := (Numeral.inBase 16 code).map Char.toUpper
    if code < 65536 then '\\' :: 'u' :: Floating.padZeros 4 digits else '\\' :: 'U' :: Floating.padZeros 8 digits

/-- Write the character that stands behind a backslash: what follows it. A zero may stand in front of octal digits. -/
def escape (zero : Bool) (text : Raw) : Act Raw := do
  match text with
  | [] =>
    Act.say ['\\']
    pure []
  | c :: rest =>
    if c == 'x' then
      if !(rest.head?.map Escape.isHexadecimal).getD false then Act.die 1 missingDigits
      let (character, rest) := Escape.ofDigits 16 2 rest
      Act.say [character]
      pure rest
    else if Escape.isOctal c then
      let (character, rest) := Escape.ofDigits 8 3 (if zero && c == '0' then rest else text)
      Act.say [character]
      pure rest
    else if c == 'c' then Act.finish 0
    else if c == 'u' || c == 'U' then
      let size := if c == 'u' then 4 else 8
      let digits := (rest.take size).takeWhile Escape.isHexadecimal
      if digits.length < size then Act.die 1 missingDigits
      let code := Numeral.valueOf 16 digits
      if (code < 160 && !([36, 64, 96].contains code)) || (55296 ≤ code && code ≤ 57343) then
        Act.die 1 ("invalid universal character name \\".toList ++ [c] ++ digits.map Char.toLower)
      Act.say (characterOf code)
      pure (rest.drop size)
    else do
      match Escape.letters.lookup c with
      | some character => Act.say [character]
      | none => Act.say (if c == '"' then ['"'] else ['\\', c])
      pure rest

/-- Write a text with what stands behind backslashes replaced. -/
def escaped : Nat → Raw → Act Unit
  | 0, _ => pure ()
  | _ + 1, [] => pure ()
  | steps + 1, '\\' :: rest => do
    let rest ← escape true rest
    escaped steps rest
  | steps + 1, c :: rest => do
    Act.say [c]
    escaped steps rest

/-- The code of the character behind a quote, if an argument begins with one. -/
def quotedCode? (text : Raw) : Act (Option Nat) := do
  match text with
  | quote :: c :: rest =>
    if quote == '\'' || quote == '"' then
      if !rest.isEmpty then
        Act.complain ("warning: ".toList ++ rest ++
          ": character(s) following character constant have been ignored".toList)
      pure (some c.toNat)
    else pure none
  | _ => pure none

/-- Warn about a numeral that makes no sense as a whole. -/
def checkNumeral (text rest : Raw) (found outOfRange : Bool) : Act Unit := do
  if outOfRange then
    Act.complain (quoted text ++ ": Numerical result out of range".toList)
    Act.fail 1
  else if !rest.isEmpty then
    Act.complain (quoted text ++ (if found then ": value not completely converted" else ": expected a numeric value").toList)
    Act.fail 1

/-- The whole number that an argument stands for. -/
def integer (signed : Bool) (text : Raw) : Act Int := do
  match ← quotedCode? text with
  | some code => pure (Int.ofNat code)
  | none =>
    let front := Numeral.readFront 0 text
    let tooGreat := Numeral.wordCount ≤ front.value.natAbs
    let (value, outOfRange) :=
      if signed then (Numeral.clamp front.value, !Numeral.fits front.value)
      else if tooGreat then (Int.ofNat (Numeral.wordCount - 1), true) else (front.value, false)
    checkNumeral text front.rest front.found outOfRange
    pure value

/-- The floating number that an argument stands for. -/
def floating (text : Raw) : Act Floating := do
  match ← quotedCode? text with
  | some code => pure (Floating.ofInt (Int.ofNat code))
  | none =>
    let front := Floating.readFront .extended text
    checkNumeral text front.rest front.found front.outOfRange
    pure front.value

/-- The letters of conversions that some signs leave. -/
def lettersAfter (letters : Raw) (flag : Char) : Raw :=
  let without := fun (gone : String) => letters.filter fun c => !gone.toList.contains c
  match flag with
  | '\'' => without "aAceEosxX"
  | 'I' => without "aAceEosxX"
  | '#' => without "cdisu"
  | '0' => without "cs"
  | _ => letters

/-- The greatest width or precision. -/
def mostColumns : Int := 2147483647

/-- Read a width or a precision: a number, or an argument that tells it. -/
def width (what : String) (format : Raw) (arguments : List Raw) : Act (Option Int × Raw × List Raw) := do
  match format, arguments with
  | '*' :: rest, [] => pure (some 0, rest, [])
  | '*' :: rest, argument :: others => do
    let value ← integer true argument
    if mostColumns < value || (what == "field width" && value < -mostColumns - 1) then
      Act.die 1 ("invalid ".toList ++ what.toList ++ ": ".toList ++ quoted argument)
    pure (some value, rest, others)
  | _, _ =>
    let digits := format.takeWhile Char.isDigit
    pure (if digits.isEmpty then none else some (Int.ofNat (Numeral.valueOf 10 digits)), format.drop digits.length, arguments)

/-- Write an argument as a conversion tells. -/
def convert (conversion : Conversion) (argument : Raw) : Act Unit := do
  let letter := conversion.letter
  if letter == 'c' then Act.say (conversion.padded [argument.head?.getD '\x00'])
  else if letter == 's' then Act.say (conversion.text argument)
  else if letter == 'd' || letter == 'i' then
    let value ← integer true argument
    Act.say (conversion.signed value)
  else if "ouxX".toList.contains letter then
    let value ← integer false argument
    Act.say (conversion.unsigned (Numeral.bits value))
  else
    let value ← floating argument
    Act.say (conversion.floating .extended value)

/-- Read a conversion behind its sign and carry it out: what follows it, and the arguments that are left. -/
def conversion (format : Raw) (arguments : List Raw) : Act (Raw × List Raw) := do
  match format with
  | '%' :: rest =>
    Act.say ['%']
    pure (rest, arguments)
  | 'b' :: rest => do
    let argument := arguments.head?.getD []
    escaped (argument.length + 1) argument
    pure (rest, arguments.drop 1)
  | 'q' :: rest => do
    if let argument :: _ := arguments then Act.say (wordFor argument)
    pure (rest, arguments.drop 1)
  | _ =>
    let flags := format.takeWhile "'I-+ #0".toList.contains
    let (fieldWidth, rest, arguments) ← width "field width" (format.drop flags.length) arguments
    let letters := flags.foldl lettersAfter "aAcdeEfFgGiosuxX".toList
    let (precision, rest, letters, arguments) ← match rest with
      | '.' :: after => do
        let (precision, rest, arguments) ← width "precision" after arguments
        pure (some (precision.getD 0), rest, letters.filter (· != 'c'), arguments)
      | _ => pure (none, rest, letters, arguments)
    let sizes := rest.takeWhile "lLhjtz".toList.contains
    let rest := rest.drop sizes.length
    let letter := rest.head?.getD '\x00'
    if !letters.contains letter then
      Act.die 1 ('%' :: format.take (format.length - rest.length + 1) ++ ": invalid conversion specification".toList)
    let plain : Conversion := { flags, letter }
    let conversion := plain.withWidth (fieldWidth.getD 0)
    if mostColumns ≤ fieldWidth.getD 0 then
      Act.complain "write error".toList
      Act.fail 1
    else convert (match precision with
      | some digits => conversion.withPrecision digits
      | none => conversion) (arguments.head?.getD [])
    pure (rest.drop 1, arguments.drop 1)

/-- Write a format once: the arguments that are left. -/
def once : Nat → Raw → List Raw → Act (List Raw)
  | 0, _, arguments => pure arguments
  | _ + 1, [], arguments => pure arguments
  | steps + 1, '\\' :: rest, arguments => do
    let rest ← escape false rest
    once steps rest arguments
  | steps + 1, '%' :: rest, arguments => do
    let (rest, arguments) ← conversion rest arguments
    once steps rest arguments
  | steps + 1, c :: rest, arguments => do
    let plain := (c :: rest).takeWhile fun d => d != '\\' && d != '%'
    Act.say plain
    once steps ((c :: rest).drop plain.length) arguments

end Format

/-- Write arguments as a format tells, as often as there are arguments for it. -/
def printf : Utility := ofAct fun arguments => do
  let arguments := if arguments.head? == some ['-', '-'] then arguments.drop 1 else arguments
  match arguments with
  | [] => Act.refuse 1 "missing operand".toList
  | format :: arguments => do
    let left ← Act.loop arguments fun arguments => do
      let left ← Format.once (format.length + 1) format arguments
      pure (if left.length < arguments.length && !left.isEmpty then .inl left else .inr left)
    if let argument :: _ := left then
      Act.complain ("warning: ignoring excess arguments, starting with ".toList ++ quoted argument)

/-- Write a line again and again. -/
def yes : Utility := ofAct fun arguments => do
  let invocation ← Act.readOptions 1 [] false arguments
  let line := (if invocation.operands.isEmpty then ['y'] else [' '].intercalate invocation.operands) ++ ['\n']
  let copies := Act.bufferSize / line.length + 1
  let octets := Raw.octets (List.replicate copies line).flatten
  Act.loop () fun () => do
    let result : Except OsError Unit ← Act.ask (.write 1 octets)
    match result with
    | .ok () => pure (.inl ())
    | .error reason => Act.die 1 ("standard output: ".toList ++ reason.description)

namespace Sequence

/-- A bound of a sequence, or its step. -/
structure Bound where
  /-- The number. -/
  value : Floating
  /-- How wide its numeral is. -/
  width : Int := 0
  /-- How many digits it has behind the point, if that is known. -/
  precision : Option Int := none

/-- How wide a numeral is and how many digits it has behind the point, without regard to its power of ten. -/
def shape (text : Raw) : Int × Int × Int :=
  let front := text.takeWhile (· != '.')
  match text.drop front.length with
  | [] => (Int.ofNat text.length, 0, 0)
  | _ :: after =>
    let part := Int.ofNat (after.takeWhile fun c => c != 'e' && c != 'E').length
    let gap : Int := if part = 0 then -1 else if (front.getLast?.map Char.isDigit).getD false then 0 else 1
    (Int.ofNat text.length + gap, part, part)

/-- How wide a numeral of a finite number is, and how many digits it has behind the point. -/
def measure (text : Raw) : Int × Int :=
  let (width, precision, part) := shape text
  let front := text.takeWhile fun c => c != 'e' && c != 'E'
  if front.length = text.length then (width, precision)
  else
    let exponent := (Numeral.readFront 10 (text.drop (front.length + 1))).value
    let hasPoint := text.contains '.'
    let precision := if exponent < 0 then precision - exponent else precision - min precision exponent
    let width := width - Int.ofNat (text.length - front.length)
    if exponent < 0 then
      let undone : Int := if !hasPoint || front.getLast? == some '.' then 1 else 0
      (width + undone - exponent, precision)
    else
      let point : Int := if hasPoint && precision = 0 && part != 0 then 1 else 0
      (width - point + (exponent - min part exponent), precision)

/-- Read a bound. -/
def bound (text : Raw) : Act Bound := do
  let front := Floating.readFront .extended text
  let isZero := match front.value with
    | .finite _ 0 _ => true
    | _ => false
  if !front.found || !front.rest.isEmpty || (front.outOfRange && !isZero) then
    Act.refuse 1 ("invalid floating point argument: ".toList ++ quoted text)
  else if front.value matches .undefined _ then
    Act.refuse 1 ("invalid 'not-a-number' argument: ".toList ++ quoted text)
  else
    let bare := text.dropWhile fun c => Raw.isSpace c || c == '+'
    let plain : Option Int := if bare.contains '.' || bare.contains 'p' then none else some 0
    if bare.any (fun c => c == 'x' || c == 'X') || !front.value.isFinite then
      pure { value := front.value, precision := plain }
    else
      let (width, precision) := measure bare
      pure { value := front.value, width, precision := some precision }

/-- How the numbers of a sequence are written. -/
structure Layout where
  /-- What stands in front of a number. -/
  front : Raw := []
  /-- How it is written. -/
  conversion : Conversion
  /-- What stands behind it. -/
  back : Raw := []

/-- A number of a sequence as it is written, without what stands around it. -/
def Layout.numeral (layout : Layout) (value : Floating) : Raw :=
  layout.conversion.floating .extended value

/-- How far a format goes before a sign that begins a conversion. -/
def plainPart : Nat → Raw → Raw × Raw
  | 0, rest => ([], rest)
  | _ + 1, [] => ([], [])
  | steps + 1, '%' :: '%' :: rest =>
    let (front, back) := plainPart steps rest
    ('%' :: front, back)
  | _ + 1, '%' :: rest => ([], '%' :: rest)
  | steps + 1, c :: rest =>
    let (front, back) := plainPart steps rest
    (c :: front, back)

/-- Read a format for the numbers of a sequence. -/
def readLayout (format : Raw) : Act Layout := do
  let complain := fun (what : Raw) => (Act.die 1 ("format ".toList ++ quoted format ++ what) : Act Layout)
  match plainPart (format.length + 1) format with
  | (front, _ :: rest) =>
    let flags := rest.takeWhile "-+#0 '".toList.contains
    let rest := rest.drop flags.length
    let width := rest.takeWhile Char.isDigit
    let rest := rest.drop width.length
    let (precision, rest) := match rest with
      | '.' :: after =>
        let digits := after.takeWhile Char.isDigit
        (some (Numeral.valueOf 10 digits), after.drop digits.length)
      | _ => (none, rest)
    match (if rest.head? == some 'L' then rest.drop 1 else rest) with
    | [] => complain " ends in %".toList
    | letter :: rest =>
      if !"efgaEFGA".toList.contains letter then complain (" has unknown %".toList ++ [letter] ++ " directive".toList)
      else match plainPart (rest.length + 1) rest with
      | (back, []) => pure { front, conversion := { flags, width := Numeral.valueOf 10 width, precision, letter }, back }
      | _ => complain " has too many % directives".toList
  | _ => complain " has no % directive".toList

/-- The usual format for the numbers of a sequence. -/
def usualLayout (equalWidth : Bool) (first step last : Bound) : Layout :=
  match first.precision, step.precision, last.precision with
  | some firstPlaces, some stepPlaces, some lastPlaces =>
    let places := max firstPlaces stepPlaces
    let precision := some places.toNat
    if equalWidth then
      let firstWidth := first.width + (places - firstPlaces) + (if firstPlaces = 0 && places != 0 then 1 else 0)
      let lastWidth := last.width + (places - lastPlaces) + (if lastPlaces != 0 && places = 0 then -1 else 0) +
        (if lastPlaces = 0 && places != 0 then 1 else 0)
      { conversion := { flags := ['0'], width := (max firstWidth lastWidth).toNat, precision, letter := 'f' } }
    else { conversion := { precision, letter := 'f' } }
  | _, _, _ => { conversion := { letter := 'g' } }

/-- Write whole numbers, up to a last one if there is one. -/
def countUp (separator : Char) (first step : Nat) (last : Option Nat) : Act Unit := do
  Act.say (decimal first)
  Act.loop (first + step) fun n => do
    if (last.map fun last => decide (last < n)).getD false then pure (.inr ())
    else
      Act.say (separator :: decimal n)
      pure (.inl (n + step))
  Act.say ['\n']

/-- Whether a number is behind the last one. -/
def isBehind (step last value : Floating) : Bool :=
  Floating.compare? value last == some (if step.isNegative then Ordering.lt else .gt)

/-- Write the numbers of a sequence. -/
def run (separator : Raw) (layout : Layout) (first step last : Floating) : Act Unit := do
  if !isBehind step last first then
    let show_ := fun (value : Floating) => Act.say (layout.front ++ layout.numeral value ++ layout.back)
    show_ first
    Act.loop (1, first) fun (count, before) => do
      let value := Floating.add .extended first (Floating.multiply .extended (Floating.ofInt count) step)
      if isBehind step last value then
        -- A number that is written like the last one, and not like the one before it, still belongs to the sequence.
        let text := layout.numeral value
        let read := Floating.readFront .extended text
        if read.found && read.rest.isEmpty && Floating.compare? read.value last == some .eq &&
            layout.numeral before != text then
          Act.say separator
          show_ value
        pure (.inr ())
      else
        Act.say separator
        show_ value
        pure (.inl (count + 1, value))
    Act.say ['\n']

/-- The number of a floating number without a sign, if it is a whole one. -/
def whole? : Floating → Option Nat
  | .finite false whole power => some (Floating.roundScaled whole power 0)
  | _ => none

/-- The greatest step that whole numbers are counted up by. -/
def mostStep : Nat := 200

/-- Whether an argument is an operand although it begins with a minus. -/
def isNegative : Raw → Bool
  | '-' :: c :: _ => c == '.' || c.isDigit
  | _ => false

/-- The options of the program that writes sequences. -/
def options : List Known :=
  [⟨"f", "format", .always⟩, ⟨"s", "separator", .always⟩, ⟨"w", "equal-width", .nothing⟩]

end Sequence

open Sequence in
/-- Write the numbers of a sequence. -/
def seq : Utility := ofAct fun arguments => do
  let front := arguments.takeWhile fun argument => !isNegative argument
  let read ← Act.readOptions 1 options true front
  let operands := read.operands ++ arguments.drop front.length
  if operands.isEmpty then Act.refuse 1 "missing operand".toList
  if let some extra := operands[3]? then Act.refuseExtra 1 extra
  let separator := (read.argument? "s").getD ['\n']
  let wide := read.has "w"
  let custom ← match read.argument? "f" with
    | some format => some <$> readLayout format
    | none => pure none
  if wide && custom.isSome then
    Act.refuse 1 "format string may not be specified when printing equal width strings".toList
  let one : Bound := { value := Floating.ofInt 1, width := 1, precision := some 0 }
  let plain := custom.isNone && !wide && separator.length = 1
  let mark := separator.head?.getD '\n'
  let countPlain := fun (first step : Nat) (last : Option Nat) => do
    if (last.map fun last => decide (first ≤ last)).getD true then countUp mark first step last
  let naturals := operands.map Numeral.natural?
  let quick : Option (Nat × Nat × Nat) := match naturals with
    | [some last] => some (1, 1, last)
    | [some first, some last] => some (first, 1, last)
    | [some first, some step, some last] => if 0 < step && step ≤ mostStep then some (first, step, last) else none
    | _ => none
  match plain, quick with
  | true, some (first, step, last) => countPlain first step (some last)
  | _, _ => do
    let (first, step, last) ← match operands with
      | [last] => do pure (one, one, ← bound last)
      | [first, last] => do
        let first ← bound first
        pure (first, one, ← bound last)
      | first :: step :: last :: _ => do
        let first ← bound first
        let increment ← bound step
        if Floating.compare? increment.value (Floating.ofInt 0) == some .eq then
          Act.refuse 1 ("invalid Zero increment value: ".toList ++ quoted step)
        pure (first, increment, ← bound last)
      | [] => pure (one, one, one)
    let whole := [first, step, last].all fun bound => bound.precision == some 0
    match plain && whole, whole? first.value, whole? step.value, last.value with
    | true, some start, some increment, .finite false .. =>
      if increment ≤ mostStep then countPlain start increment (whole? last.value)
      else run separator (usualLayout wide first step last) first.value step.value last.value
    | true, some start, some increment, .infinite false =>
      if increment ≤ mostStep then countPlain start increment none
      else run separator (usualLayout wide first step last) first.value step.value last.value
    | _, _, _, _ =>
      run separator (custom.getD (usualLayout wide first step last)) first.value step.value last.value

/-- A path without its last name, or a dot. -/
def directoryOf (path : Raw) : Raw :=
  let bare := dropTrailing (· == '/') path
  if bare.isEmpty then (if path.isEmpty then ['.'] else ['/'])
  else
    let front := dropTrailing (· != '/') bare
    if front.isEmpty then ['.']
    else
      let place := dropTrailing (· == '/') front
      if place.isEmpty then ['/'] else place

/-- The last name of a path. -/
def lastName (path : Raw) : Raw :=
  let bare := dropTrailing (· == '/') path
  if bare.isEmpty then path.take 1
  else (bare.reverse.takeWhile (· != '/')).reverse

/-- A name without an end, unless that is all of it. -/
def withoutEnd (name ending : Raw) : Raw :=
  if name.head? != some '/' && ending.length < name.length && ending.isSuffixOf name then
    name.take (name.length - ending.length)
  else name

/-- Write the last names of paths. -/
def basename : Utility := ofAct fun arguments => do
  let known : List Known := [⟨"a", "multiple", .nothing⟩, ⟨"s", "suffix", .always⟩, ⟨"z", "zero", .nothing⟩]
  let invocation ← Act.readOptions 1 known true arguments
  let mark := if invocation.has "z" then '\x00' else '\n'
  let show_ := fun (ending path : Raw) => Act.say (withoutEnd (lastName path) ending ++ [mark])
  match invocation.operands with
  | [] => Act.refuse 1 "missing operand".toList
  | path :: others =>
    if invocation.has "a" || invocation.has "s" then
      for path in path :: others do show_ ((invocation.argument? "s").getD []) path
    else match others with
      | _ :: extra :: _ => Act.refuseExtra 1 extra
      | _ => show_ (others.head?.getD []) path

/-- Write paths without their last names. -/
def dirname : Utility := ofAct fun arguments => do
  let invocation ← Act.readOptions 1 [⟨"z", "zero", .nothing⟩] false arguments
  if invocation.operands.isEmpty then Act.refuse 1 "missing operand".toList
  for path in invocation.operands do
    Act.say (directoryOf path ++ [if invocation.has "z" then '\x00' else '\n'])

/-- Do nothing, and be content with that. -/
def succeed : Utility := fun _ _ => pure 0

/-- Do nothing, and not be content with that. -/
def fails : Utility := fun _ _ => pure 1

/-- The programs of this kind. -/
def printTools : List (String × Utility) :=
  [("basename", basename), ("dirname", dirname), ("echo", echo), ("false", fails), ("printf", printf), ("seq", seq),
    ("true", succeed), ("yes", yes)]

end AnswerQuery.Host.Tool
