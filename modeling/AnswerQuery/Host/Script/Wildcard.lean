import AnswerQuery.Host.Octets

/-! Wildcards: the patterns of file names and of choices, and the texts that fit them. -/

namespace AnswerQuery.Host.Script

/-- Characters of a word, each with whether it stands for itself even where it would be a wildcard. -/
abbrev Marked := List (Char × Bool)

/-- The characters of a word alone. -/
def Marked.text (marked : Marked) : Raw :=
  marked.map Prod.fst

/-- The characters of a word, those behind a backslash standing for themselves. -/
def Marked.protected_ : Marked → Marked
  | [] => []
  | [last] => [last]
  | (c, literal) :: (d, guarded) :: rest =>
    if c == '\\' && !literal then (d, true) :: protected_ rest
    else (c, literal) :: protected_ ((d, guarded) :: rest)

/-- The characters of a word in which a caret behind a bracket says the same as the other sign that excludes. -/
def Marked.withCarets : Marked → Marked
  | ('[', false) :: ('^', false) :: rest => ('[', false) :: ('!', false) :: withCarets rest
  | pair :: rest => pair :: withCarets rest
  | [] => []

/-- What characters may be in brackets. -/
inductive Member where
  | range (first last : Char)
  | kind (holds : Char → Bool)

/-- A part of a pattern. -/
inductive Wildcard where
  /-- Any characters. -/
  | anything
  /-- Any character. -/
  | anyone
  | itself (c : Char)
  /-- One of some characters, or none of them. -/
  | oneOf (outside : Bool) (members : List Member)
  /-- Some patterns, and how often what fits one of them stands there: once, at most once, any number of times, at least
  once, or something that fits none of them. -/
  | choice (sign : Char) (ways : List (List Wildcard))

namespace Wildcard

/-- The kinds of characters that have names. -/
def kinds : List (String × (Char → Bool)) :=
  [("alnum", Char.isAlphanum), ("alpha", Char.isAlpha), ("blank", fun c => c == ' ' || c == '\t'),
    ("cntrl", fun c => c.toNat < 32 || c.toNat = 127), ("digit", Char.isDigit),
    ("graph", fun c => 32 < c.toNat && c.toNat < 127), ("lower", Char.isLower),
    ("print", fun c => 32 ≤ c.toNat && c.toNat < 127),
    ("punct", fun c => 32 < c.toNat && c.toNat < 127 && !c.isAlphanum), ("space", Raw.isSpace),
    ("upper", Char.isUpper), ("xdigit", fun c => c.isDigit || ('a' ≤ c && c ≤ 'f') || ('A' ≤ c && c ≤ 'F'))]

/-- The kind of characters that is named at the front of a pattern, and what follows it. -/
def readKind? (pattern : Marked) : Option ((Char → Bool) × Marked) :=
  kinds.findSome? fun (name, holds) =>
    let spelled : Marked := (':' :: name.toList ++ [':', ']']).map fun c => (c, false)
    if spelled.isPrefixOf pattern then some (holds, pattern.drop spelled.length) else none

/-- The order of characters in ranges, in which octets above the first half come first. -/
def order (c : Char) : Int :=
  if c.toNat < 128 then Int.ofNat c.toNat else Int.ofNat c.toNat - 256

/-- Whether a character is one of those in brackets. -/
def Member.covers (c : Char) : Member → Bool
  | .range first last => order first ≤ order c && order c ≤ order last
  | .kind holds => holds c

/-- What stands in brackets behind their first character, and what follows them. -/
def readMembers : Nat → Marked → Option (List Member × Marked)
  | 0, _ => none
  | _ + 1, [] => none
  | steps + 1, (c, literal) :: rest =>
    let continued := fun (member : Member) (rest : Marked) =>
      match rest with
      | (']', false) :: after => some ([member], after)
      | rest => (readMembers steps rest).map fun (members, after) => (member :: members, after)
    match (if c == '[' && !literal then readKind? rest else none) with
    | some (holds, rest) => continued (.kind holds) rest
    | none =>
      match rest with
      | ('-', false) :: (d, guarded) :: after =>
        if d == ']' && !guarded then continued (.range c c) rest else continued (.range c d) after
      | _ => continued (.range c c) rest

/-- The signs in front of patterns between which there is a choice. -/
def choiceSigns : List Char := ['?', '*', '+', '@', '!']

/-- The patterns that bars divide up to the parenthesis that closes them, given how many others have been opened, what has
been read of the pattern and the patterns before it; and what follows. -/
def cutWays : Nat → Marked → Marked → List Marked → Option (List Marked × Marked)
  | _, [], _, _ => none
  | depth, (c, literal) :: rest, way, ways =>
    let kept := (c, literal) :: way
    if literal then cutWays depth rest kept ways
    else if c == '(' then cutWays (depth + 1) rest kept ways
    else match depth with
      | 0 =>
        if c == ')' then some ((way.reverse :: ways).reverse, rest)
        else if c == '|' then cutWays 0 rest [] (way.reverse :: ways)
        else cutWays 0 rest kept ways
      | outer + 1 => cutWays (if c == ')' then outer else outer + 1) rest kept ways

/-- What a choice is between that begins behind a sign, and what follows it. -/
def ways? (sign : Char) : Marked → Option (List Marked × Marked)
  | ('(', false) :: rest => if choiceSigns.contains sign then cutWays 0 rest [] [] else none
  | _ => none

/-- The pattern that characters make, with choices or without; each step uses one character at least. -/
def readAll (choices : Bool) : Nat → Marked → List Wildcard
  | 0, _ => []
  | _ + 1, [] => []
  | steps + 1, (c, literal) :: rest =>
    if literal then itself c :: readAll choices steps rest
    else match (if choices then ways? c rest else none) with
      | some (ways, after) => choice c (ways.map fun way => readAll choices steps way) :: readAll choices steps after
      | none => match c with
        | '*' => anything :: readAll choices steps rest
        | '?' => anyone :: readAll choices steps rest
        | '[' =>
          let outside := rest.head? == some ('!', false)
          match readMembers (rest.length + 1) (if outside then rest.drop 1 else rest) with
          | some (members, after) => oneOf outside members :: readAll choices steps after
          | none => itself c :: readAll choices steps rest
        | _ => itself c :: readAll choices steps rest

/-- The pattern that a word makes, with choices or without. -/
def ofMarked (choices : Bool) (marked : Marked) : List Wildcard :=
  readAll choices (marked.length + 1) (Marked.protected_ marked)

/-- Whether a character fits a part of a pattern that stands for one character. -/
def admits (c : Char) : Wildcard → Bool
  | anything => true
  | anyone => true
  | itself d => c == d
  | oneOf outside members => members.any (Member.covers c) != outside
  | choice .. => false

/-- Whether a text fits a pattern without choices. -/
def fitsPlainly : List Wildcard → Raw → Bool
  | [], text => text.isEmpty
  | anything :: pattern, [] => fitsPlainly pattern []
  | anything :: pattern, c :: text => fitsPlainly pattern (c :: text) || fitsPlainly (anything :: pattern) text
  | _ :: _, [] => false
  | part :: pattern, c :: text => admits c part && fitsPlainly pattern text
termination_by pattern text => pattern.length + text.length

/-- All ends of a text, the whole one first. -/
def ends : Raw → List Raw
  | [] => [[]]
  | c :: text => (c :: text) :: ends text

/-- Ends of one text, each of them once. -/
def distinct (rests : List Raw) : List Raw :=
  rests.foldl (fun kept rest => if kept.any fun other => other.length == rest.length then kept else kept ++ [rest]) []

/-- What can be left when a step is taken again and again. -/
def closure (step : Raw → List Raw) : Nat → List Raw → List Raw
  | 0, rests => rests
  | steps + 1, rests =>
    let more := distinct (rests ++ rests.flatMap step)
    if more.length == rests.length then rests else closure step steps more

/-- What can be left of a text behind a front that fits a pattern; each step takes one part, and goes as deep as choices
do. -/
def rests : Nat → List Wildcard → Raw → List Raw
  | 0, _, _ => []
  | _ + 1, [], text => [text]
  | steps + 1, part :: pattern, text =>
    let after := match part with
      | anything => ends text
      | choice sign ways =>
        let once := fun (text : Raw) => distinct (ways.flatMap fun way => rests steps way text)
        match sign with
        | '@' => once text
        | '?' => text :: once text
        | '*' => closure once (text.length + 1) [text]
        | '+' => closure once (text.length + 1) (once text)
        | _ =>
          let refused := once text
          (ends text).filter fun rest => !refused.any fun other => other.length == rest.length
      | part => match text with
        | c :: text => if admits c part then [text] else []
        | [] => []
    distinct (after.flatMap fun rest => rests steps pattern rest)

/-- How many parts a pattern has, with those in its choices to a depth. -/
def weight : Nat → List Wildcard → Nat
  | 0, pattern => pattern.length
  | depth + 1, pattern => (pattern.map fun part => match part with
      | choice _ ways => 2 + (ways.map fun way => weight depth way).foldl (· + ·) 0
      | _ => 1).foldl (· + ·) 0

/-- How deep choices stand in choices at most. -/
def depth : Nat := 64

/-- Whether a text fits a pattern. -/
def fits (pattern : List Wildcard) (text : Raw) : Bool :=
  let isChoice := fun (part : Wildcard) => match part with
    | choice .. => true
    | _ => false
  if pattern.any isChoice then (rests (weight depth pattern + 1) pattern text).any List.isEmpty
  else fitsPlainly pattern text

/-- How much is cut off the front of a text: the shortest or the longest part that fits a pattern. -/
def frontLength? (longest : Bool) (pattern : List Wildcard) (text : Raw) : Option Nat :=
  let counts := List.range (text.length + 1)
  (if longest then counts.reverse else counts).find? fun count => fits pattern (text.take count)

/-- How much stays of a text when the shortest or the longest part at its end that fits a pattern is cut off. -/
def keptLength? (longest : Bool) (pattern : List Wildcard) (text : Raw) : Option Nat :=
  let counts := List.range (text.length + 1)
  (if longest then counts else counts.reverse).find? fun count => fits pattern (text.drop count)

/-- Whether a word has a wildcard, or a choice if those are known. -/
def occursIn (choices : Bool) (marked : Marked) : Bool :=
  marked.any (fun pair => !pair.2 && "*?[".toList.contains pair.1) ||
    (choices && (marked.zip (marked.drop 1)).any fun (sign, next) =>
      !sign.2 && choiceSigns.contains sign.1 && next == ('(', false))

end Wildcard

end AnswerQuery.Host.Script
