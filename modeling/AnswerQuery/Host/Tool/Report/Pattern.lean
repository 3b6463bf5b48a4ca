import AnswerQuery.Host.Tool.Matching

/-! Patterns: regular expressions as reports write them. -/

namespace AnswerQuery.Host.Tool.Report

namespace Escaped

/-- The characters that letters stand for behind a backslash. -/
def letters : List (Char × Char) :=
  [('"', '"'), ('\\', '\\'), ('a', '\x07'), ('b', '\x08'), ('f', '\x0c'), ('n', '\n'), ('r', '\r'), ('t', '\t'),
    ('v', '\x0b')]

/-- The character that the text behind a backslash stands for, if it stands for one, and what follows. -/
def read? (text : Raw) : Option (Char × Raw) :=
  match text with
  | [] => none
  | c :: rest =>
    match letters.lookup c with
    | some d => some (d, rest)
    | none =>
      let octal := (text.take 3).takeWhile (Numeral.isDigitIn 8)
      let hexadecimal := (rest.take 2).takeWhile (Numeral.isDigitIn 16)
      if !octal.isEmpty then some (Char.ofNat (Numeral.valueOf 8 octal % 256), text.drop octal.length)
      else if c == 'x' && !hexadecimal.isEmpty then
        some (Char.ofNat (Numeral.valueOf 16 hexadecimal), rest.drop hexadecimal.length)
      else none

/-- A text in which what stands behind backslashes is replaced. -/
def inText : Nat → Raw → Raw
  | 0, _ => []
  | _ + 1, [] => []
  | steps + 1, '\\' :: rest =>
    match read? rest with
    | some (c, after) => c :: inText steps after
    | none =>
      match rest with
      | [] => ['\\']
      | c :: after => '\\' :: c :: inText steps after
  | steps + 1, c :: rest => c :: inText steps rest

/-- A text in which what stands behind backslashes is replaced. -/
def replaced (text : Raw) : Raw :=
  inText (text.length + 1) text

end Escaped

namespace Pattern

/-- What is told of brackets that make no sense. -/
def badClass : String := "bad class -- [], [^] or ["

/-- The character at the front of what stands in brackets, and what follows. -/
def inBrackets : Raw → Option (Char × Raw)
  | [] => none
  | '\\' :: rest =>
    match Escaped.read? rest with
    | some found => some found
    | none =>
      match rest with
      | [] => none
      | c :: after => some (c, after)
  | c :: rest => some (c, rest)

/-- The class with a name at the front of what stands in brackets, and what follows. -/
def named? (text : Raw) : Option (Except String ((Char → Bool) × Raw)) :=
  match text with
  | '[' :: ':' :: rest =>
    let name := rest.takeWhile Char.isAlpha
    match rest.drop name.length with
    | ':' :: ']' :: after =>
      match Class.named.lookup (String.ofList name) with
      | some holds => some (.ok (holds, after))
      | none => some (.error badClass)
    | _ => none
  | _ => none

/-- The characters that what stands in brackets accepts, and what follows them. -/
def accepted : Nat → Bool → Raw → Except String ((Char → Bool) × Raw)
  | 0, _, _ => .error badClass
  | steps + 1, isFirst, text =>
    match text with
    | [] => .error badClass
    | ']' :: rest =>
      if isFirst then do
        let (others, after) ← accepted steps false rest
        pure (fun c => c == ']' || others c, after)
      else pure (fun _ => false, rest)
    | _ =>
      match named? text with
      | some result => do
        let (holds, rest) ← result
        let (others, after) ← accepted steps false rest
        pure (fun c => holds c || others c, after)
      | none =>
        match inBrackets text with
        | none => .error badClass
        | some (low, rest) => do
          let range := match rest with
            | '-' :: ']' :: _ => none
            | '-' :: behind => inBrackets behind
            | _ => none
          match range with
          | some (high, rest) => do
            let (others, after) ← accepted steps false rest
            pure (fun c => (low ≤ c && c ≤ high) || others c, after)
          | none => do
            let (others, after) ← accepted steps false rest
            pure (fun c => c == low || others c, after)

/-- The expression of what stands behind an opening bracket, and what follows it. -/
def bracket (text : Raw) : Except String (Expression × Raw) := do
  match text with
  | '^' :: rest => do
    let (holds, after) ← accepted (rest.length + 1) true rest
    pure (.one fun c => !holds c, after)
  | _ => do
    let (holds, after) ← accepted (text.length + 1) true text
    pure (.one holds, after)

/-- Repeat an expression as the signs behind it tell. -/
def repetitions : Nat → Expression → Raw → Except String (Expression × Raw)
  | 0, expression, text => pure (expression, text)
  | steps + 1, expression, text =>
    let isStart := match expression with
      | .place .lineStart => true
      | _ => false
    let goOn := fun (least : Nat) (most : Option Nat) (rest : Raw) =>
      repetitions steps (.many least most true expression) rest
    match text with
    | '*' :: rest => if isStart then .error "syntax error ^* or ^+" else goOn 0 none rest
    | '+' :: rest => if isStart then .error "syntax error ^* or ^+" else goOn 1 none rest
    | '?' :: rest => goOn 0 (some 1) rest
    | _ => pure (expression, text)

/-- What is told where something is missing. -/
def missing : String := "missing operand"

mutual

/-- Read alternatives. -/
def choice : Nat → Nat → Raw → Except String (Expression × Raw)
  | 0, _, _ => .error missing
  | steps + 1, depth, text => do
    let (first, rest) ← branch steps depth text
    match rest with
    | '|' :: rest => do
      let (second, rest) ← choice steps depth rest
      pure (.either first second, rest)
    | _ => pure (first, rest)

/-- Read expressions that follow each other. -/
def branch : Nat → Nat → Raw → Except String (Expression × Raw)
  | 0, _, _ => .error missing
  | steps + 1, depth, text => do
    let (first, rest) ← item steps depth text
    let ends := match rest with
      | [] => true
      | '|' :: _ => true
      | ')' :: _ => decide (0 < depth)
      | _ => false
    if ends then pure (first, rest)
    else do
      let (second, rest) ← branch steps depth rest
      pure (.both first second, rest)

/-- Read one expression and the signs of repetition behind it. -/
def item : Nat → Nat → Raw → Except String (Expression × Raw)
  | 0, _, _ => .error missing
  | steps + 1, depth, text => do
    let (expression, rest) ← match text with
      | [] => .error (if 0 < depth then "missing ')'" else missing)
      | '|' :: _ => .error missing
      | '*' :: _ => .error missing
      | '+' :: _ => .error missing
      | '?' :: _ => .error missing
      | '(' :: rest => do
        let (inside, rest) ← choice steps (depth + 1) rest
        match rest with
        | ')' :: rest => pure (inside, rest)
        | _ => .error "missing ')'"
      | ')' :: rest => if 0 < depth then .error missing else pure (.one (· == ')'), rest)
      | '[' :: rest => bracket rest
      | '.' :: rest => pure (.one fun _ => true, rest)
      | '^' :: rest => pure (.place .lineStart, rest)
      | '$' :: rest => pure (.place .lineEnd, rest)
      | '\\' :: rest =>
        match Escaped.read? rest with
        | some (c, after) => pure (.one (· == c), after)
        | none =>
          match rest with
          | [] => pure (.one (· == '\\'), [])
          | c :: after => pure (.one (· == c), after)
      | c :: rest => pure (.one (· == c), rest)
    repetitions rest.length expression rest

end

/-- Read a pattern. -/
def read (text : Raw) : Except String Matcher := do
  let (expression, _) ← if text.isEmpty then pure (.nothing, []) else choice (4 * text.length + 8) 0 text
  pure (Matcher.ofExpression { extended := true } false expression)

/-- The pattern that accepts one text only. -/
def exactly (text : Raw) : Matcher :=
  Matcher.ofExpression { extended := true } false
    (text.foldr (fun c rest => Expression.both (.one (· == c)) rest) .nothing)

/-- The parts of a text between the matches of a pattern that are not empty. -/
def cut (matcher : Matcher) (text : Array Char) : Nat → Nat → Nat → List Raw
  | 0, start, _ => [(text.toList.drop start)]
  | steps + 1, start, position =>
    match matcher.find? text position with
    | none => [(text.extract start text.size).toList]
    | some found =>
      if found.stop = found.start then
        if text.size ≤ found.start then [(text.extract start text.size).toList]
        else cut matcher text steps start (found.start + 1)
      else (text.extract start found.start).toList :: cut matcher text steps found.stop found.stop

end Pattern

end AnswerQuery.Host.Tool.Report
