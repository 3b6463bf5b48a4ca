import AnswerQuery.Host.Tool.Expression

/-! Regular expressions in the richer way of writing them that Perl made known. -/

namespace AnswerQuery.Host.Tool

/-- What is known while an expression of this kind is read. -/
structure PerlReading where
  /-- What is left to be read. -/
  rest : Raw
  /-- How many groups have begun. -/
  groups : Nat := 0
  /-- The groups that have names. -/
  names : List (Raw × Nat) := []
  /-- Whether capitals are the same as other letters. -/
  ignoresCase : Bool
  /-- Whether the end of a line is a character like others. -/
  dotsAll : Bool := false
  /-- Whether blanks do not count. -/
  spaced : Bool := false

/-- Reading an expression of this kind, which can fail with a sentence. -/
abbrev PerlRead := StateT PerlReading (Except String)

namespace PerlRead

/-- Whether a character is a blank on a line. -/
def isBlank (c : Char) : Bool :=
  c == ' ' || c == '\t'

/-- Whether a character ends lines or moves down a page. -/
def isVertical (c : Char) : Bool :=
  '\n' ≤ c && c ≤ '\r'

/-- The ranges of characters by their general categories, the characters being numbered as in the widest part of the
Latin alphabet. -/
def categories : List (String × List (Nat × Nat)) :=
  [("Cc", [(0, 31), (127, 159)]), ("Cf", [(173, 173)]),
    ("Ll", [(97, 122), (181, 181), (223, 246), (248, 255)]), ("Lo", [(170, 170), (186, 186)]),
    ("Lu", [(65, 90), (192, 214), (216, 222)]), ("Lm", []), ("Lt", []),
    ("Mc", []), ("Me", []), ("Mn", []), ("Cn", []), ("Co", []), ("Cs", []),
    ("Nd", [(48, 57)]), ("No", [(178, 179), (185, 185), (188, 190)]), ("Nl", []),
    ("Pc", [(95, 95)]), ("Pd", [(45, 45)]), ("Pe", [(41, 41), (93, 93), (125, 125)]), ("Pf", [(187, 187)]),
    ("Pi", [(171, 171)]), ("Ps", [(40, 40), (91, 91), (123, 123)]),
    ("Po", [(33, 35), (37, 39), (42, 42), (44, 44), (46, 47), (58, 59), (63, 64), (92, 92), (161, 161), (167, 167),
      (182, 183), (191, 191)]),
    ("Sc", [(36, 36), (162, 165)]), ("Sk", [(94, 94), (96, 96), (168, 168), (175, 175), (180, 180), (184, 184)]),
    ("Sm", [(43, 43), (60, 62), (124, 124), (126, 126), (172, 172), (177, 177), (215, 215), (247, 247)]),
    ("So", [(166, 166), (169, 169), (174, 174), (176, 176)]), ("Zs", [(32, 32), (160, 160)]), ("Zl", []), ("Zp", [])]

/-- Whether a character is in some ranges. -/
def isWithin (ranges : List (Nat × Nat)) (c : Char) : Bool :=
  ranges.any fun (low, high) => low ≤ c.toNat && c.toNat ≤ high

/-- Whether a character is in a general category, told by its name or by the first letter of its name. -/
def isInCategory (name : String) (c : Char) : Bool :=
  categories.any fun (known, ranges) => name.toList.isPrefixOf known.toList && isWithin ranges c

/-- The property of characters with a name, if it is known. -/
def property? (name : String) : Option (Char → Bool) :=
  let isLetter := isInCategory "L"
  match name with
  | "Any" => some fun _ => true
  | "L&" => some fun c => isInCategory "Ll" c || isInCategory "Lu" c
  | "Xan" => some fun c => isLetter c || isInCategory "N" c
  | "Xwd" => some fun c => isLetter c || isInCategory "N" c || c == '_'
  | "Xsp" => some fun c => isVertical c || c == '\t' || c.toNat = 133 || isInCategory "Zs" c
  | "Xps" => some fun c => isVertical c || c == '\t' || c.toNat = 133 || isInCategory "Zs" c
  | "Latin" => some fun c => isLetter c && c.toNat != 181
  | "Common" => some fun c => !isLetter c || c.toNat = 181
  | "Alphabetic" => some isLetter
  | "Lowercase" => some fun c => isInCategory "Ll" c || isInCategory "Lo" c
  | "Uppercase" => some (isInCategory "Lu")
  | "White_Space" => some fun c => isVertical c || c == '\t' || c.toNat = 133 || isInCategory "Zs" c
  | "ASCII" => some fun c => c.toNat < 128
  | "Greek" => some fun _ => false
  | "Cyrillic" => some fun _ => false
  | "Han" => some fun _ => false
  | name =>
    if name.length = 1 && "LCMNPSZ".toList.contains (name.toList.headD ' ') || (categories.lookup name).isSome then
      some (isInCategory name)
    else none

/-- The property that is named behind a backslash and a letter, a capital one turning it around, and what follows it. -/
def readProperty (isTurned : Bool) (text : Raw) : Except String ((Char → Bool) × Raw) := do
  let (name, after) ← match text with
    | '{' :: inside =>
      let name := inside.takeWhile (· != '}')
      if name.length = inside.length then throw "malformed \\P or \\p sequence"
      pure (name.filter fun c => !Raw.isSpace c, inside.drop (name.length + 1))
    | c :: after => if c.isAlpha then pure ([c], after) else throw "malformed \\P or \\p sequence"
    | [] => throw "malformed \\P or \\p sequence"
  let isNegated := name.head? == some '^'
  match property? (String.ofList (if isNegated then name.drop 1 else name)) with
  | some holds => pure (fun c => holds c != (isTurned != isNegated), after)
  | none => throw "unknown property after \\P or \\p"

/-- The class of characters that a letter behind a backslash stands for. -/
def classOf? (c : Char) : Option (Char → Bool) :=
  match c with
  | 'd' => some Char.isDigit
  | 'D' => some fun c => !c.isDigit
  | 'w' => some Class.isWord
  | 'W' => some fun c => !Class.isWord c
  | 's' => some Raw.isSpace
  | 'S' => some fun c => !Raw.isSpace c
  | 'h' => some isBlank
  | 'H' => some fun c => !isBlank c
  | 'v' => some isVertical
  | 'V' => some fun c => !isVertical c
  | 'N' => some (· != '\n')
  | _ => none

/-- The character that a letter behind a backslash stands for, with what follows. -/
def characterOf (c : Char) (rest : Raw) : Char × Raw :=
  match c with
  | 't' => ('\t', rest)
  | 'n' => ('\n', rest)
  | 'r' => ('\r', rest)
  | 'f' => ('\x0c', rest)
  | 'e' => ('\x1b', rest)
  | 'a' => ('\x07', rest)
  | 'x' =>
    match rest with
    | '{' :: inside =>
      let digits := inside.takeWhile (Numeral.isDigitIn 16)
      (Char.ofNat (Numeral.valueOf 16 digits % 256), (inside.drop digits.length).drop 1)
    | _ =>
      let digits := (rest.take 2).takeWhile (Numeral.isDigitIn 16)
      (Char.ofNat (Numeral.valueOf 16 digits), rest.drop digits.length)
  | _ =>
    if c.isDigit then
      let digits := ((c :: rest).take 3).takeWhile (Numeral.isDigitIn 8)
      if digits.isEmpty then (c, rest) else (Char.ofNat (Numeral.valueOf 8 digits % 256), (c :: rest).drop digits.length)
    else (c, rest)

/-- What is left to be read. -/
def rest : PerlRead Raw := do
  pure (← get).rest

/-- Go on with what is left to be read. -/
def goOn (rest : Raw) : PerlRead Unit :=
  modify fun reading => { reading with rest }

/-- An expression for one character. -/
def single (c : Char) : PerlRead Expression := do
  let reading ← get
  pure (.one (if reading.ignoresCase then fun d => d.toLower == c.toLower else (· == c)))

/-- An expression for a text. -/
def literal (text : Raw) : PerlRead Expression := do
  let mut whole := Expression.nothing
  for c in text.reverse do
    let one ← single c
    whole := Read.joined one whole
  pure whole

/-- What stands in brackets up to the one that closes them. -/
def members : Nat → Bool → Raw → Except String ((Char → Bool) × Raw)
  | 0, _, _ => throw "missing terminating ] for character class"
  | _ + 1, _, [] => throw "missing terminating ] for character class"
  | steps + 1, isFirst, c :: rest => do
    if c == ']' && !isFirst then pure (fun _ => false, rest)
    else
      let (one, rest) ← match c, rest with
        | '[', ':' :: inside =>
          let name := inside.takeWhile fun c => c.isAlpha || c == '^'
          match inside.drop name.length with
          | ':' :: ']' :: after =>
            let negated := name.head? == some '^'
            let plain := if negated then name.drop 1 else name
            match Class.named.find? fun pair => pair.1.toList == plain with
            | some (_, accepts) => pure (Sum.inl (fun c => accepts c != negated), after)
            | none =>
              if plain == "word".toList then pure (Sum.inl fun c => Class.isWord c != negated, after)
              else throw "unknown POSIX class name"
          | _ => pure (Sum.inr c, rest)
        | '\\', d :: after =>
          match classOf? d with
          | some accepts => pure (Sum.inl accepts, after)
          | none =>
            if d == 'p' || d == 'P' then
              let (holds, after) ← readProperty (d == 'P') after
              pure (Sum.inl holds, after)
            else if d == 'b' then pure (Sum.inr '\x08', after)
            else
              let (character, after) := characterOf d after
              pure (Sum.inr character, after)
        | _, _ => pure (Sum.inr c, rest)
      let (accepts, rest) ← match one, rest with
        | .inl accepts, rest => pure (accepts, rest)
        | .inr low, '-' :: d :: after =>
          if d == ']' then pure ((· == low), rest)
          else
            let (high, after) := match d, after with
              | '\\', e :: more =>
                if (classOf? e).isSome then (none, after)
                else
                  let (character, more) := characterOf e more
                  (some character, more)
              | _, _ => (some d, after)
            match high with
            | some high =>
              if high < low then throw "range out of order in character class"
              pure (fun c => low ≤ c && c ≤ high, after)
            | none => pure ((· == low), rest)
        | .inr c, rest => pure ((· == c), rest)
      let (others, rest) ← members steps false rest
      pure (fun c => accepts c || others c, rest)

/-- What stands in brackets. -/
def brackets (text : Raw) : PerlRead Expression := do
  let (negated, inside) := match text with
    | '^' :: rest => (true, rest)
    | _ => (false, text)
  let (accepts, rest) ← StateT.lift (members (inside.length + 1) true inside)
  goOn rest
  let reading ← get
  let folded := if reading.ignoresCase then fun (c : Char) => accepts c.toLower || accepts c.toUpper else accepts
  pure (.one fun c => folded c != negated)

/-- The number of a count, and what follows it: the least and the most. -/
def count? (text : Raw) : Option (Nat × Option Nat × Raw) :=
  let least := text.takeWhile Char.isDigit
  if least.isEmpty then none
  else match text.drop least.length with
    | '}' :: rest => some (Numeral.valueOf 10 least, some (Numeral.valueOf 10 least), rest)
    | ',' :: more =>
      let most := more.takeWhile Char.isDigit
      match more.drop most.length with
      | '}' :: rest => some (Numeral.valueOf 10 least, if most.isEmpty then none else some (Numeral.valueOf 10 most), rest)
      | _ => none
    | _ => none

/-- A sign of repetition at the front of a text. -/
def repetition? : Raw → Option (Nat × Option Nat × Raw)
  | '*' :: rest => some (0, none, rest)
  | '+' :: rest => some (1, none, rest)
  | '?' :: rest => some (0, some 1, rest)
  | '{' :: rest => count? rest
  | _ => none

/-- Repeat an expression as the signs that follow tell. -/
def repeated (expression : Expression) : PerlRead Expression := do
  match repetition? (← rest) with
  | none => pure expression
  | some (least, most, after) =>
    if (most.map fun most => decide (most < least)).getD false then throw "numbers out of order in \x7b\x7d quantifier"
    let (greedy, after) := match after with
      | '?' :: after => (false, after)
      | '+' :: after => (true, after)
      | _ => (true, after)
    goOn after
    match repetition? after with
    | some _ => throw "quantifier does not follow a repeatable item"
    | none =>
      match least, most with
      | 0, some 0 => pure .nothing
      | _, _ => pure (.many least most greedy expression)

/-- The letters of the ways of reading that are set or unset, and what follows them. -/
def setWays : Nat → Bool → Raw → PerlRead Raw
  | 0, _, text => pure text
  | steps + 1, on, text => do
    match text with
    | '-' :: rest => setWays steps false rest
    | 'i' :: rest => do
      modify fun reading => { reading with ignoresCase := on }
      setWays steps on rest
    | 's' :: rest => do
      modify fun reading => { reading with dotsAll := on }
      setWays steps on rest
    | 'x' :: rest => do
      modify fun reading => { reading with spaced := on }
      setWays steps on rest
    | 'm' :: rest => setWays steps on rest
    | 'U' :: rest => setWays steps on rest
    | 'J' :: rest => setWays steps on rest
    | _ => pure text

/-- An expression for what a group has matched. -/
def again (number : Nat) : PerlRead Expression := do
  pure (.again number)

/-- The number that a reference to a group tells: a number, one that counts back, or a name. -/
def groupOf (text : Raw) : PerlRead Nat := do
  let reading ← get
  match text with
  | '-' :: digits => pure (reading.groups + 1 - Numeral.valueOf 10 digits)
  | _ =>
    if text.all Char.isDigit then pure (Numeral.valueOf 10 text)
    else match reading.names.lookup text with
      | some number => pure number
      | none => throw "reference to non-existent subpattern"

/-- Read what follows a backslash. -/
def escaped (c : Char) (after : Raw) : PerlRead Expression := do
  goOn after
  let place := fun (place : Place) => pure (Expression.place place)
  match c with
  | 'b' => place .wordEdge
  | 'B' => place .noWordEdge
  | 'A' => place .textStart
  | 'G' => place .textStart
  | 'z' => place .textEnd
  | 'Z' => place .textEnd
  | 'K' => pure .restart
  | 'E' => pure .nothing
  | 'p' => do
    let (holds, after) ← StateT.lift (readProperty false after)
    goOn after
    pure (.one holds)
  | 'P' => do
    let (holds, after) ← StateT.lift (readProperty true after)
    goOn after
    pure (.one holds)
  | 'R' => pure (.one isVertical)
  | 'g' =>
    match after with
    | '{' :: inside =>
      let text := inside.takeWhile (· != '}')
      goOn (inside.drop (text.length + 1))
      again (← groupOf text)
    | _ =>
      let text := after.takeWhile fun c => c.isDigit || c == '-'
      goOn (after.drop text.length)
      again (← groupOf text)
  | 'k' =>
    match after with
    | mark :: inside =>
      let closing := if mark == '<' then '>' else if mark == '{' then '}' else mark
      let text := inside.takeWhile (· != closing)
      goOn (inside.drop (text.length + 1))
      again (← groupOf text)
    | [] => throw "\\k is not followed by a braced, angle-bracketed, or quoted name"
  | _ =>
    match classOf? c with
    | some accepts => pure (.one accepts)
    | none =>
      if '1' ≤ c && c ≤ '9' then
        let digits := (c :: after).takeWhile Char.isDigit
        goOn ((c :: after).drop digits.length)
        again (Numeral.valueOf 10 digits)
      else
        let (character, rest) := characterOf c after
        goOn rest
        single character

mutual

/-- Read alternatives up to the end or, in a group, up to the parenthesis that closes it. -/
def choice : Nat → Bool → PerlRead Expression
  | 0, _ => throw "regular expression is too large"
  | steps + 1, inside => do
    let first ← branch steps inside
    match ← rest with
    | '|' :: after => do
      goOn after
      let second ← choice steps inside
      pure (.either first second)
    | _ => pure first

/-- Read what stands side by side. -/
def branch : Nat → Bool → PerlRead Expression
  | 0, _ => throw "regular expression is too large"
  | steps + 1, inside => do
    match ← rest with
    | [] => pure .nothing
    | '|' :: _ => pure .nothing
    | ')' :: _ => if inside then pure .nothing else throw "unmatched closing parenthesis"
    | _ =>
      let first ← item steps
      let rest ← branch steps inside
      pure (Read.joined first rest)

/-- Read one item with its repetitions. -/
def item : Nat → PerlRead Expression
  | 0 => throw "regular expression is too large"
  | steps + 1 => do
    match ← rest with
    | [] => pure .nothing
    | ['\\'] => throw "\\ at end of pattern"
    | '\\' :: 'Q' :: after =>
      let rec quoted (front : Raw) : Raw → Raw × Raw
        | [] => (front.reverse, [])
        | '\\' :: 'E' :: rest => (front.reverse, rest)
        | c :: rest => quoted (c :: front) rest
      let (text, after) := quoted [] after
      goOn after
      let front ← literal text.dropLast
      match text.getLast? with
      | none => pure front
      | some last =>
        let last ← single last
        let last ← repeated last
        pure (Read.joined front last)
    | '\\' :: c :: after => do
      let one ← escaped c after
      repeated one
    | '[' :: after => do
      let one ← brackets after
      repeated one
    | '.' :: after => do
      goOn after
      let all := (← get).dotsAll
      repeated (.one fun c => all || c != '\n')
    | '^' :: after => do
      goOn after
      repeated (.place .lineStart)
    | '$' :: after => do
      goOn after
      repeated (.place .lineEnd)
    | '(' :: after => do
      let one ← group steps after
      repeated one
    | c :: after => do
      let spaced := (← get).spaced
      if spaced && Raw.isSpace c then
        goOn after
        pure .nothing
      else if spaced && c == '#' then
        goOn (after.dropWhile (· != '\n'))
        pure .nothing
      else if (repetition? (c :: after)).isSome then
        throw "quantifier does not follow a repeatable item"
      else do
        goOn after
        let one ← single c
        repeated one

/-- Read what follows an opening parenthesis. -/
def group : Nat → Raw → PerlRead Expression
  | 0, _ => throw "regular expression is too large"
  | steps + 1, text => do
    let before ← get
    let close := fun (make : Expression → Expression) (after : Raw) => do
      goOn after
      let inside ← choice steps true
      match ← rest with
      | ')' :: after => do
        goOn after
        modify fun reading =>
          { reading with ignoresCase := before.ignoresCase, dotsAll := before.dotsAll, spaced := before.spaced }
        pure (make inside)
      | _ => throw "missing closing parenthesis"
    let numbered := fun (name : Option Raw) (after : Raw) => do
      let number := before.groups + 1
      modify fun reading => { reading with
        groups := number
        names := match name with
          | some name => (name, number) :: reading.names
          | none => reading.names }
      close (.group number) after
    let named := fun (closing : Char) (inside : Raw) => do
      let name := inside.takeWhile Raw.inName
      if (inside.drop name.length).head? != some closing then
        throw "syntax error in subpattern name (missing terminator?)"
      numbered (some name) (inside.drop (name.length + 1))
    match text with
    | '?' :: ':' :: after => close (fun inside => inside) after
    | '?' :: '>' :: after => close (fun inside => inside) after
    | '?' :: '|' :: after => close (fun inside => inside) after
    | '?' :: '=' :: after => close (.ahead true) after
    | '?' :: '!' :: after => close (.ahead false) after
    | '?' :: '<' :: '=' :: after => close (.behind true) after
    | '?' :: '<' :: '!' :: after => close (.behind false) after
    | '?' :: '<' :: inside => named '>' inside
    | '?' :: 'P' :: '<' :: inside => named '>' inside
    | '?' :: '\'' :: inside => named '\'' inside
    | '?' :: '#' :: inside => do
      goOn ((inside.dropWhile (· != ')')).drop 1)
      pure .nothing
    | '?' :: ways => do
      match ← setWays (ways.length + 1) true ways with
      | ')' :: after => do
        goOn after
        pure .nothing
      | ':' :: after => close (fun inside => inside) after
      | _ => throw "unrecognized character after (? or (?-"
    | _ => numbered none text

end

end PerlRead

/-- Read an expression of this kind. -/
def readPerl (ignoresCase : Bool) (text : Raw) : Except String Expression := do
  let (expression, _) ← PerlRead.choice (8 * text.length + 16) false { rest := text, ignoresCase }
  pure expression

end AnswerQuery.Host.Tool
