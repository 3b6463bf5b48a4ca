import AnswerQuery.Text.Utf8

/-! Raw texts: octets written as characters of the same codes, so that texts which are no valid UTF-8 can be handled
like others. -/

namespace AnswerQuery.Host

/-- A text whose characters stand for octets. -/
abbrev Raw := List Char

/-- Texts are looked up in tables by a number that is mixed from all of their characters. -/
instance : Hashable Raw where
  hash text := text.foldl (fun code c => mixHash code (hash c.toNat)) 7

namespace Raw

/-- Octets as characters. -/
def ofOctets (octets : Bytes) : Raw :=
  octets.map (fun octet => Char.ofNat octet.toNat)

/-- The octets of characters. -/
def octets (raw : Raw) : Bytes :=
  raw.map (fun c => UInt8.ofNat c.toNat)

/-- A text as the octets that encode it. -/
def ofText (text : Text) : Raw :=
  ofOctets (Utf8.encode text)

/-- The text that octets encode. -/
def text (raw : Raw) : Text :=
  Utf8.decode (octets raw)

/-- Whether one text comes before another or is the same, in the order of their octets. -/
def inOrder : Raw → Raw → Bool
  | [], _ => true
  | _ :: _, [] => false
  | c :: first, d :: second => if c == d then inOrder first second else c.toNat < d.toNat

/-- A text as the characters that separate it cut it. -/
def split (separator : Char) (raw : Raw) : List Raw :=
  raw.splitOnP (· == separator)

/-- What stands in front of a part of a text and what follows it; none if the part does not stand there. -/
def cutAt? (part : Raw) : Raw → Option (Raw × Raw)
  | [] => if part.isEmpty then some ([], []) else none
  | c :: rest =>
    if part.isPrefixOf (c :: rest) then some ([], (c :: rest).drop part.length)
    else (cutAt? part rest).map fun (front, back) => (c :: front, back)

/-- A text with another one in place of a part, which is not empty, wherever that stands; every step replaces one. -/
def replaceIn (part by_ : Raw) : Nat → Raw → Raw
  | 0, rest => rest
  | steps + 1, rest =>
    match cutAt? part rest with
    | some (front, back) => front ++ by_ ++ replaceIn part by_ steps back
    | none => rest

/-- A text with another one in place of a part, which is not empty, wherever that stands. -/
def replaced (part by_ text : Raw) : Raw :=
  if part.isEmpty then text else replaceIn part by_ text.length text

/-- Whether a character is a blank in the plain sense of the octets. -/
def isSpace (c : Char) : Bool :=
  c == ' ' || ('\t' ≤ c && c ≤ '\r')

/-- Whether a character can begin a name. -/
def beginsName (c : Char) : Bool :=
  c.isAlpha || c == '_'

/-- Whether a character can stand in a name. -/
def inName (c : Char) : Bool :=
  c.isAlphanum || c == '_'

/-- Whether a text is a name. -/
def isName : Raw → Bool
  | [] => false
  | c :: rest => beginsName c && rest.all inName

end Raw

end AnswerQuery.Host
