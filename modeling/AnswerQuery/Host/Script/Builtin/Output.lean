import AnswerQuery.Host.Conversion
import AnswerQuery.Host.Script.Builtin.Basic

/-! Commands of a shell that write texts. -/

namespace AnswerQuery.Host.Script

namespace Escape

/-- Whether a character is an octal digit. -/
def isOctal (c : Char) : Bool :=
  '0' ≤ c && c ≤ '7'

/-- A character of a code, of which only the low bits count. -/
def ofCode (code : Nat) : Char :=
  Char.ofNat (code % 256)

/-- The character that stands behind a backslash, and what follows it. -/
def read (text : Raw) : Char × Raw :=
  match text with
  | [] => ('\\', [])
  | c :: rest =>
    if isOctal c then
      let digits := (text.take 3).takeWhile isOctal
      (ofCode (Numeral.valueOf 8 digits), text.drop digits.length)
    else match c with
      | '\\' => ('\\', rest)
      | 'a' => ('\x07', rest)
      | 'b' => ('\x08', rest)
      | 'e' => ('\x1b', rest)
      | 'f' => ('\x0c', rest)
      | 'n' => ('\n', rest)
      | 'r' => ('\r', rest)
      | 't' => ('\t', rest)
      | 'v' => ('\x0b', rest)
      | _ => ('\\', text)

/-- A text in which what stands behind backslashes is replaced, and whether it asks for nothing to follow. -/
def replace : Nat → Raw → Raw × Bool
  | 0, _ => ([], false)
  | _ + 1, [] => ([], false)
  | steps + 1, c :: rest =>
    if c != '\\' then
      let (replaced, ends) := replace steps rest
      (c :: replaced, ends)
    else match rest with
      | 'c' :: _ => ([], true)
      | _ =>
        let rest := match rest with
          | '0' :: d :: _ => if isOctal d then rest.drop 1 else rest
          | _ => rest
        let (character, after) := read rest
        let (replaced, ends) := replace steps after
        (character :: replaced, ends)

/-- A text in which what stands behind backslashes is replaced, and whether it asks for nothing to follow. -/
def inText (text : Raw) : Raw × Bool :=
  replace (2 * text.length + 1) text

end Escape

namespace Sh

/-- Write texts with blanks between them; one of them may ask for nothing to follow. -/
def echoEach (newline : Bool) : List Raw → Sh Unit
  | [] => if newline then say ['\n'] else pure ()
  | text :: others => do
    let (text, ends) := Escape.inText text
    say text
    if !ends then
      if !others.isEmpty then say [' ']
      echoEach newline others

/-- Write arguments. -/
def echo : List Raw → Sh Nat
  | ['-', 'n'] :: arguments => do
    echoEach false arguments
    pure 0
  | arguments => do
    echoEach true arguments
    pure 0

/-- What a format is applied to. -/
structure Formatting where
  /-- The arguments that have not been used. -/
  arguments : List Raw
  /-- The status. -/
  status : Nat := 0
  /-- Whether nothing is to follow. -/
  ends : Bool := false

/-- Warn about an argument. -/
def warnArgument (text : Raw) (message : String) (formatting : Formatting) : Sh Formatting := do
  protest (text ++ ": ".toList ++ message.toList)
  pure { formatting with status := 1 }

/-- Take an argument. -/
def takeArgument (formatting : Formatting) : Option Raw × Formatting :=
  match formatting.arguments with
  | [] => (none, formatting)
  | argument :: others => (some argument, { formatting with arguments := others })

/-- Warn about a numeral that makes no sense as a whole. -/
def checkNumeral (text rest : Raw) (outOfRange : Bool) (formatting : Formatting) : Sh Formatting := do
  if (← get).isRich then
    if !rest.isEmpty then warnArgument text "invalid number" formatting
    else
      if outOfRange then protest ("warning: ".toList ++ text ++ ": Numerical result out of range".toList)
      pure formatting
  else if !rest.isEmpty then
    warnArgument text (if rest.length == text.length then "expected numeric value" else "not completely converted")
      formatting
  else if outOfRange then warnArgument text "Numerical result out of range" formatting
  else pure formatting

/-- The code of the character behind a quote, if an argument begins with one. -/
def quotedCode? : Raw → Option Nat
  | '"' :: rest => some ((rest.head?.map Char.toNat).getD 0)
  | '\'' :: rest => some ((rest.head?.map Char.toNat).getD 0)
  | _ => none

/-- Take an argument that stands for a whole number. -/
def takeInteger (signed : Bool) (formatting : Formatting) : Sh (Int × Formatting) := do
  match takeArgument formatting with
  | (none, formatting) => pure (0, formatting)
  | (some text, formatting) =>
    match quotedCode? text with
    | some code => pure (Int.ofNat code, formatting)
    | none =>
      let front := Numeral.readFront 0 text
      let (value, outOfRange) :=
        if signed then (Numeral.clamp front.value, !Numeral.fits front.value)
        else if Int.ofNat Numeral.wordCount ≤ Int.ofNat front.value.natAbs then (Int.ofNat (Numeral.wordCount - 1), true)
        else (front.value, false)
      let formatting ← checkNumeral text front.rest outOfRange formatting
      pure (value, formatting)

/-- Take an argument that stands for a floating number. -/
def takeFloating (formatting : Formatting) : Sh (Floating × Formatting) := do
  match takeArgument formatting with
  | (none, formatting) => pure (.finite false 0 0, formatting)
  | (some text, formatting) =>
    match quotedCode? text with
    | some code => pure (Floating.ofInt (Int.ofNat code), formatting)
    | none =>
      let front := Floating.readFront .double text
      let formatting ← checkNumeral text front.rest front.outOfRange formatting
      pure (front.value, formatting)

/-- The signs that may follow the one that begins a conversion. -/
def conversionFlags : Raw := "#-+ 0".toList

/-- Whether a character is passed over in a width. -/
def inWidth (c : Char) : Bool :=
  c.isDigit || c == '*'

/-- Read a width or a precision: a number, or an argument that tells it. -/
def readWidth (format : Raw) (formatting : Formatting) : Sh (Option Int × Raw × Formatting) := do
  match format with
  | '*' :: rest => do
    let (value, formatting) ← takeInteger true formatting
    pure (some (Numeral.wrap value), rest, formatting)
  | _ =>
    let digits := format.takeWhile inWidth
    let value := if digits.isEmpty then none else some (Int.ofNat (Numeral.valueOf 10 (digits.filter Char.isDigit)))
    pure (value, format.drop digits.length, formatting)

/-- Write an argument as the letter of a conversion tells. -/
def convert (conversion : Conversion) (directive : Raw) (formatting : Formatting) : Sh Formatting := do
  match conversion.letter with
  | 'b' =>
    let (argument, formatting) := takeArgument formatting
    let (text, ends) := Escape.inText (argument.getD [])
    say (conversion.text text)
    pure { formatting with ends }
  | 'c' =>
    let (argument, formatting) := takeArgument formatting
    say (conversion.padded [((argument.getD []).head?).getD '\x00'])
    pure formatting
  | 's' =>
    let (argument, formatting) := takeArgument formatting
    say (conversion.text (argument.getD []))
    pure formatting
  | letter =>
    if letter == 'd' || letter == 'i' then
      let (value, formatting) ← takeInteger true formatting
      say (conversion.signed (Numeral.wrap value))
      pure formatting
    else if letter == 'o' || letter == 'u' || letter == 'x' || letter == 'X' then
      let (value, formatting) ← takeInteger false formatting
      say (conversion.unsigned (Numeral.bits value))
      pure formatting
    else if "aAeEfFgG".toList.contains letter then
      let (value, formatting) ← takeFloating formatting
      say (conversion.floating .double value)
      pure formatting
    else giveUp (directive ++ ": invalid directive".toList)

/-- Read a conversion behind its sign and carry it out: what follows it. -/
def formatConversion (format : Raw) (formatting : Formatting) : Sh (Raw × Formatting) := do
  let flags := format.takeWhile conversionFlags.contains
  let (width, rest, formatting) ← readWidth (format.drop flags.length) formatting
  let (precision, rest, formatting) ← match rest with
    | '.' :: after => do
      let (precision, rest, formatting) ← readWidth after formatting
      pure (some (precision.getD 0), rest, formatting)
    | _ => pure (none, rest, formatting)
  match rest with
  | [] => giveUp "missing format character".toList
  | letter :: after =>
    let conversion := ({ flags, letter } : Conversion).withWidth (width.getD 0)
    let conversion := match precision with
      | some digits => conversion.withPrecision digits
      | none => conversion
    let directive := '%' :: format.take (format.length - after.length)
    let formatting ← convert conversion directive formatting
    pure (after, formatting)

/-- Write a format once. -/
def formatOnce : Nat → Raw → Formatting → Sh Formatting
  | 0, _, formatting => pure formatting
  | _ + 1, [], formatting => pure formatting
  | steps + 1, '\\' :: rest, formatting => do
    let (character, after) := Escape.read rest
    say [character]
    formatOnce steps after formatting
  | steps + 1, '%' :: '%' :: rest, formatting => do
    say ['%']
    formatOnce steps rest formatting
  | steps + 1, '%' :: rest, formatting => do
    let (after, formatting) ← formatConversion rest formatting
    if formatting.ends then pure formatting else formatOnce steps after formatting
  | steps + 1, c :: rest, formatting => do
    let plain := (c :: rest).takeWhile fun d => d != '\\' && d != '%'
    say plain
    formatOnce steps ((c :: rest).drop plain.length) formatting

/-- Write arguments as a format tells, as often as there are arguments for it. -/
def printf (arguments : List Raw) : Sh Nat := do
  match ← withoutOptions arguments with
  | [] => giveUp "usage: printf format [arg ...]".toList
  | format :: arguments =>
    let formatting ← loop ({ arguments } : Formatting) fun formatting => do
      let after ← formatOnce (2 * format.length + 1) format formatting
      let goesOn := !after.ends && !after.arguments.isEmpty && after.arguments.length < arguments.length
      pure (if goesOn then .inl after else .inr after)
    pure formatting.status

end Sh

end AnswerQuery.Host.Script
