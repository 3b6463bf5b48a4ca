import AnswerQuery.Host.Tool.Amount
import AnswerQuery.Host.Tool.Source

/-! Octets written in the characters of an alphabet, and read back. -/

namespace AnswerQuery.Host.Tool

namespace Encoding

/-- What a group of characters was found to be: the octets it stands for as far as it makes sense, and whether all of it
does. -/
structure Found where
  /-- The octets. -/
  octets : Bytes
  /-- Whether the group makes sense. -/
  sound : Bool

/-- A way to write octets. -/
structure Alphabet where
  /-- The characters for the numbers from zero on. -/
  digits : Raw
  /-- How many octets a group stands for. -/
  octets : Nat
  /-- How many characters a group has. -/
  characters : Nat
  /-- Whether groups that are not whole are filled up with the sign of equality. -/
  fills : Bool := false
  /-- Whether something of a group that breaks off is understood. -/
  understandsParts : Bool := false
  /-- Whether the lowest bits come first. -/
  lowestFirst : Bool := false

namespace Alphabet

/-- How many numbers a character can stand for. -/
def base (alphabet : Alphabet) : Nat := alphabet.digits.length

/-- The character of a number. -/
def digit (alphabet : Alphabet) (number : Nat) : Char := alphabet.digits[number]?.getD '='

/-- The number of a character, if it has one. -/
def value? (alphabet : Alphabet) (c : Char) : Option Nat := alphabet.digits.idxOf? c

/-- The digits of a number, so many, the highest first. -/
def digitsOf (base : Nat) : Nat → Nat → List Nat
  | 0, _ => []
  | count + 1, number => digitsOf base count (number / base) ++ [number % base]

/-- How many characters so many octets of a group need. -/
def needed (alphabet : Alphabet) (count : Nat) : Nat :=
  (count * alphabet.characters + alphabet.octets - 1) / alphabet.octets

/-- Write a group. -/
def writeGroup (alphabet : Alphabet) (group : Bytes) : Raw :=
  let missing := alphabet.octets - group.length
  let whole : Bytes := group ++ List.replicate missing 0
  let number := whole.foldl (fun number octet => number * 256 + octet.toNat) 0
  let digits := digitsOf alphabet.base alphabet.characters number
  let digits := if alphabet.lowestFirst then digits.reverse else digits
  let written := (digits.take (alphabet.needed group.length)).map alphabet.digit
  written ++ List.replicate (alphabet.characters - written.length) '='

/-- Write octets. -/
def write (alphabet : Alphabet) (octets : Bytes) : Raw :=
  let step := fun ((parts : List Raw), (group : Bytes), (count : Nat)) (octet : UInt8) =>
    if count + 1 == alphabet.octets then (alphabet.writeGroup (octet :: group).reverse :: parts, [], 0)
    else (parts, octet :: group, count + 1)
  let (parts, group, _) := octets.foldl step ([], [], 0)
  let last := if group.isEmpty then [] else alphabet.writeGroup group.reverse
  parts.reverse.flatten ++ last

/-- Read the octets of a group that is filled up, from some octet of it on; `bits` is what the characters of earlier
octets have left over. -/
def readFilled (alphabet : Alphabet) (group : Raw) (bits : Nat) : Nat → Nat → Found
  | 0, _ => ⟨[], true⟩
  | left + 1, done =>
    let (start, stop) := (alphabet.needed done, alphabet.needed (done + 1))
    let fresh := (group.take stop).drop start
    if done != 0 && fresh.head? == some '=' then
      ⟨[], group.length == alphabet.characters && (group.drop start).all (· == '=')⟩
    else
      let values := fresh.filterMap alphabet.value?
      if fresh.length < stop - start || values.length < fresh.length then ⟨[], false⟩
      else
        let number := values.foldl (fun number value => number * alphabet.base + value) bits
        let spare := Nat.pow alphabet.base stop / Nat.pow 256 (done + 1)
        let rest := readFilled alphabet group (number % spare) left (done + 1)
        ⟨UInt8.ofNat (number / spare) :: rest.octets, rest.sound⟩

/-- Read a group. -/
def readGroup (alphabet : Alphabet) (group : Raw) : Found :=
  if alphabet.fills then
    if group.length < alphabet.characters && !alphabet.understandsParts then ⟨[], false⟩
    else alphabet.readFilled group 0 alphabet.octets 0
  else
    let group := if alphabet.lowestFirst then group.reverse else group
    let values := group.filterMap alphabet.value?
    let number := values.foldl (fun number value => number * alphabet.base + value) 0
    if group.length != alphabet.characters || values.length != group.length then ⟨[], false⟩
    else if Nat.pow 256 alphabet.octets ≤ number then ⟨[], false⟩
    else ⟨(digitsOf 256 alphabet.octets number).map UInt8.ofNat, true⟩

/-- Read characters, among which line ends count for nothing, up to a group that makes no sense. -/
def read (alphabet : Alphabet) (text : Raw) : Found :=
  let step := fun ((parts : List Bytes), (group : Raw), (sound : Bool)) (c : Char) =>
    if !sound || c == '\n' then (parts, group, sound)
    else if group.length + 1 == alphabet.characters then
      let found := alphabet.readGroup (c :: group).reverse
      (found.octets :: parts, [], found.sound)
    else (parts, c :: group, true)
  let (parts, group, sound) := text.foldl step ([], [], true)
  let last := if !sound || group.isEmpty then ⟨[], sound⟩ else alphabet.readGroup group.reverse
  ⟨parts.reverse.flatten ++ last.octets, last.sound⟩

end Alphabet

/-- The characters from one to another one. -/
def span (first last : Char) : Raw :=
  (List.range' first.toNat (last.toNat + 1 - first.toNat)).map Char.ofNat

/-- The letters and digits of the alphabet of sixty-four, without its two last characters. -/
def sixty : Raw := span 'A' 'Z' ++ span 'a' 'z' ++ span '0' '9'

/-- The alphabet of sixty-four characters. -/
def base64 : Alphabet :=
  { digits := sixty ++ ['+', '/'], octets := 3, characters := 4, fills := true, understandsParts := true }

/-- The alphabet of thirty-two characters. -/
def base32 : Alphabet := { digits := span 'A' 'Z' ++ span '2' '7', octets := 5, characters := 8, fills := true }

/-- The alphabet of eighty-five characters. -/
def base85 : Alphabet where
  digits := span '0' '9' ++ span 'a' 'z' ++ span 'A' 'Z' ++ ".-:+=^!/*?&<>()[]\x7b\x7d@%$#".toList
  octets := 4
  characters := 5

/-- How an encoding departs from its alphabet when it is read. -/
inductive Care where
  | none
  /-- Text with one of some characters is not read at all. -/
  | refuses (characters : Raw)
  /-- Characters outside of the alphabet are taken for those of another one. -/
  | mixes (other : Alphabet)
  /-- Texts of broken groups are not written. -/
  | whole

/-- An encoding. -/
structure Scheme where
  /-- The option that asks for it. -/
  name : String
  /-- Its alphabet. -/
  alphabet : Alphabet
  /-- How it departs from it. -/
  care : Care := .none

/-- The encodings. -/
def schemes : List Scheme := [
  ⟨"base64", base64, .none⟩,
  ⟨"base64url", { base64 with digits := sixty ++ ['-', '_'] }, .refuses ['+', '/']⟩,
  ⟨"base32", base32, .none⟩,
  ⟨"base32hex", { base32 with digits := span '0' '9' ++ span 'A' 'V' }, .mixes base32⟩,
  ⟨"base16", { digits := span '0' '9' ++ span 'A' 'F', octets := 1, characters := 2 }, .none⟩,
  ⟨"base2msbf", { digits := ['0', '1'], octets := 1, characters := 8 }, .none⟩,
  ⟨"base2lsbf", { digits := ['0', '1'], octets := 1, characters := 8, lowestFirst := true }, .none⟩,
  ⟨"z85", base85, .whole⟩]

/-- Read a text; what is left out of it is everything that is no character of the encoding, if that is wished. -/
def Scheme.read (scheme : Scheme) (lenient : Bool) (text : Raw) : Found :=
  let belongs := fun (c : Char) => (scheme.alphabet.value? c).isSome || c == '='
  let text := if lenient then text.filter belongs else text
  match scheme.care with
  | .refuses characters =>
    if text.any characters.contains then ⟨[], false⟩ else scheme.alphabet.read text
  | .mixes other =>
    other.read (text.map fun c => ((scheme.alphabet.value? c).map other.digit).getD c)
  | _ => scheme.alphabet.read text

/-- A text in lines of so many characters; none stand for one line without end. -/
def wrapped (width : Nat) (text : Raw) : Raw :=
  if width = 0 then text
  else
    let step := fun ((done : Raw), (column : Nat)) (c : Char) =>
      if column == width then (c :: '\n' :: done, 1) else (c :: done, column + 1)
    let (done, column) := text.foldl step ([], 0)
    (if column = 0 then done else '\n' :: done).reverse

/-- Write a file in an encoding, or read it back. -/
def run (scheme : Scheme) (invocation : Invocation) (width : Nat) : Act Unit := do
  match invocation.operands with
  | _ :: extra :: _ => Act.refuseExtra 1 extra
  | operands => do
    let path := operands.head?.getD ['-']
    match ← Act.readFile path with
    | .error reason =>
      let opens := path == ['-'] || reason == OsError.isDirectory
      Act.die 1 ((if opens then "read error".toList else nameFor path) ++ ": ".toList ++ reason.description)
    | .ok octets =>
      if invocation.has "d" then
        let found := scheme.read (invocation.has "i") (Raw.ofOctets octets)
        Act.put found.octets
        if !found.sound then Act.die 1 "invalid input".toList
      else
        let breaks := match scheme.care with
          | .whole => octets.length % scheme.alphabet.octets != 0
          | _ => false
        if breaks then Act.die 1 "invalid input (length must be multiple of 4 characters)".toList
        Act.say (wrapped width (scheme.alphabet.write octets))

/-- The options of all encoders. -/
def commonOptions : List Known :=
  [⟨"d", "decode", .nothing⟩, ⟨"w", "wrap", .always⟩, ⟨"i", "ignore-garbage", .nothing⟩]

/-- The width of lines. -/
def widthOf (invocation : Invocation) : Act Nat := do
  for text in invocation.arguments "w" do
    match Amount.read { signed := true } text with
    | .error .beyond => pure ()
    | .error _ => Act.die 1 ("invalid wrap size: ".toList ++ quoted text)
    | .ok value => if value < 0 then Act.die 1 ("invalid wrap size: ".toList ++ quoted text)
  match invocation.argument? "w" with
  | none => pure 76
  | some text => match Amount.read { signed := true } text with
    | .ok value => pure value.toNat
    | .error _ => pure 0

/-- A program for one encoding. -/
def only (scheme : Scheme) : Utility := ofAct fun arguments => do
  let invocation ← Act.readChecked 1 commonOptions false (fun invocation => discard (widthOf invocation)) arguments
  run scheme invocation (← widthOf invocation)

end Encoding

open Encoding in
/-- Write a file in an encoding that is asked for, or read it back. -/
def basenc : Utility := ofAct fun arguments => do
  let known := commonOptions ++ schemes.map fun scheme => ⟨scheme.name, scheme.name, .nothing⟩
  let invocation ← Act.readChecked 1 known false (fun invocation => discard (widthOf invocation)) arguments
  let width ← widthOf invocation
  match (invocation.last? (schemes.map Scheme.name)).bind fun name => schemes.find? fun scheme => scheme.name == name with
  | none => Act.refuse 1 "missing encoding type".toList
  | some scheme => run scheme invocation width

/-- The programs of this kind. -/
def encodingTools : List (String × Utility) :=
  ("basenc", basenc) :: (Encoding.schemes.filter fun scheme => ["base64", "base32"].contains scheme.name).map fun scheme =>
    (scheme.name, Encoding.only scheme)

end AnswerQuery.Host.Tool
