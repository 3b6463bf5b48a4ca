import AnswerQuery.Host.Floating
import AnswerQuery.Host.Tool.Amount
import AnswerQuery.Host.Tool.Source

/-! Showing octets as numbers and characters. -/

namespace AnswerQuery.Host.Tool

/-- How octets are shown. -/
inductive View where
  | octal
  | hexadecimal
  | natural
  | signed
  /-- Floating numbers. -/
  | floating
  /-- Characters, those that cannot be seen by their escapes. -/
  | escaped
  /-- Characters of seven bits, those that cannot be seen by their names. -/
  | named
  deriving DecidableEq, Repr

/-- A row in which octets are shown. -/
structure Row where
  /-- How they are shown. -/
  view : View
  /-- How many octets are taken together. -/
  size : Nat
  /-- Whether the characters are shown behind the row too. -/
  trailer : Bool := false

namespace Row

/-- How floating numbers are laid out. -/
def floatingLayout (row : Row) : Floating.Layout :=
  match row.size with
  | 4 => .single
  | 8 => .double
  | _ => .extended

/-- How wide the number in a row is at least. -/
def fieldWidth (row : Row) : Nat :=
  match row.view with
  | .octal => (row.size * 8 + 2) / 3
  | .hexadecimal => 2 * row.size
  | .natural => (decimal (Nat.pow 256 row.size - 1)).length
  | .signed => (decimal (Nat.pow 256 row.size / 2)).length + 1
  | .floating => match row.size with
    | 4 => 15
    | 8 => 24
    | _ => 29
  | _ => 3

/-- The names of the characters that cannot be seen. -/
def names : Array String :=
  #["nul", "soh", "stx", "etx", "eot", "enq", "ack", "bel", "bs", "ht", "nl", "vt", "ff", "cr", "so", "si", "dle", "dc1",
    "dc2", "dc3", "dc4", "nak", "syn", "etb", "can", "em", "sub", "esc", "fs", "gs", "rs", "us", "sp"]

/-- The letters of escapes. -/
def letters : List (Nat × Char) :=
  [(0, '0'), (7, 'a'), (8, 'b'), (9, 't'), (10, 'n'), (11, 'v'), (12, 'f'), (13, 'r')]

/-- Digits with zeros in front of them up to a length. -/
def filled (length : Nat) (digits : Raw) : Raw :=
  List.replicate (length - digits.length) '0' ++ digits

/-- A value as it is shown. -/
def show_ (row : Row) (value : Nat) : Raw :=
  match row.view with
  | .octal => filled row.fieldWidth (Numeral.inBase 8 value)
  | .hexadecimal => filled row.fieldWidth (Numeral.inBase 16 value)
  | .natural => decimal value
  | .signed =>
    let count := Nat.pow 256 row.size
    if count / 2 ≤ value then '-' :: decimal (count - value) else decimal value
  | .floating => row.floatingLayout.show_ (row.floatingLayout.read value)
  | .escaped =>
    match letters.lookup value with
    | some letter => ['\\', letter]
    | none => if 32 ≤ value && value < 127 then [Char.ofNat value] else filled 3 (Numeral.inBase 8 value)
  | .named =>
    let low := value % 128
    if low = 127 then "del".toList
    else match names[low]? with
      | some name => name.toList
      | none => [Char.ofNat low]

end Row

namespace Dump

/-- How a file is shown. -/
structure Layout where
  /-- The rows. -/
  rows : List Row
  /-- How many octets stand side by side. -/
  width : Nat
  /-- The base of addresses, if there are any. -/
  base : Option Nat
  /-- Whether rows are shown that repeat what stands above. -/
  repeats : Bool
  /-- Whether the first octet of several is the greatest. -/
  bigEndian : Bool
  /-- What is added to addresses for others in parentheses, if those are shown. -/
  label : Option Int := none

/-- An address in a base. -/
def numeral (base offset : Nat) : Raw :=
  Row.filled (if base = 16 then 6 else 7) (Numeral.inBase base offset)

/-- An address, with what follows it. -/
def address (layout : Layout) (offset : Nat) (more : Raw) : Raw :=
  let labelled := fun (base : Nat) (label : Int) =>
    '(' :: numeral base (Int.ofNat offset + label).toNat ++ ')' :: more
  match layout.base, layout.label with
  | none, none => []
  | none, some _ => labelled 8 0
  | some base, none => numeral base offset ++ more
  | some base, some label => numeral base offset ++ ' ' :: labelled base label

/-- The blanks that stand where there is no address. -/
def indent (layout : Layout) : Raw :=
  match layout.base, layout.label with
  | none, none => []
  | some 16, _ => List.replicate 6 ' '
  | _, _ => List.replicate 7 ' '

/-- The numbers that octets make, so many taken together. -/
def valuesOf (bigEndian : Bool) (size : Nat) : Nat → Bytes → List Nat
  | 0, _ => []
  | _ + 1, [] => []
  | steps + 1, octets =>
    let taken := octets.take size ++ List.replicate (size - octets.length) 0
    let ordered := if bigEndian then taken else taken.reverse
    ordered.foldl (fun value octet => value * 256 + octet.toNat) 0 :: valuesOf bigEndian size steps (octets.drop size)

/-- How wide all that stands side by side is. -/
def blockWidth (layout : Layout) : Nat :=
  (layout.rows.map fun row => (row.fieldWidth + 1) * (layout.width / row.size)).foldl max 0

/-- The numbers in a row, with the blanks between them spread evenly. -/
def cells (row : Row) (fields padding : Nat) : Nat → Nat → List Nat → Raw
  | _, _, [] => []
  | left, before, value :: values =>
    let next := padding * (left - 1) / fields
    let text := row.show_ value
    List.replicate (before - next + row.fieldWidth - text.length) ' ' ++ text ++
      cells row fields padding (left - 1) next values

/-- The rows for octets at an address. -/
def block (layout : Layout) (offset : Nat) (octets : Bytes) : Raw :=
  (layout.rows.zipIdx).flatMap fun (row, index) =>
    let fields := layout.width / row.size
    let padding := blockWidth layout - row.fieldWidth * fields
    let values := valuesOf layout.bigEndian row.size fields octets
    let blank := fields - values.length
    let trailer := if row.trailer then
        List.replicate (blank * row.fieldWidth + padding * blank / fields) ' ' ++ "  >".toList ++
          octets.map (fun octet => if 32 ≤ octet && octet < 127 then Char.ofNat octet.toNat else '.') ++ ['<']
      else []
    (if index = 0 then address layout offset [] else indent layout) ++ cells row fields padding fields padding values ++ trailer ++
      ['\n']

/-- Show octets from an address on, given what stands above and whether repetition has been marked. -/
def blocks (layout : Layout) : Nat → Nat → Option Bytes → Bool → Bytes → List Raw
  | 0, _, _, _, _ => []
  | _ + 1, offset, _, _, [] => [address layout offset ['\n']]
  | steps + 1, offset, above, marked, octets =>
    let taken := octets.take layout.width
    let rest := octets.drop layout.width
    let offset' := offset + taken.length
    if !layout.repeats && taken.length = layout.width && above == some taken then
      (if marked then [] else [['*', '\n']]) ++ blocks layout steps offset' above true rest
    else block layout offset taken :: blocks layout steps offset' (some taken) false rest

/-- How many octets the letter of a size stands for. -/
def sizeOf (view : View) (c : Char) : Option Nat :=
  if view == .floating then [('F', 4), ('D', 8), ('L', 16)].lookup c
  else [('C', 1), ('S', 2), ('I', 4), ('L', 8)].lookup c

/-- The rows that a text asks for, or the sentence about what is wrong with it. -/
def rowsOf (whole : Raw) : Nat → Raw → Except Raw (List Row)
  | 0, _ => .ok []
  | _ + 1, [] => .ok []
  | steps + 1, c :: rest => do
    let view ← match c with
      | 'o' => .ok View.octal
      | 'x' => .ok .hexadecimal
      | 'u' => .ok .natural
      | 'd' => .ok .signed
      | 'f' => .ok .floating
      | 'c' => .ok .escaped
      | 'a' => .ok .named
      | _ => .error ("invalid character ".toList ++ quoted [c] ++ " in type string ".toList ++ quoted whole)
    let plain := view == .escaped || view == .named
    let usual := if view == .floating then 8 else 4
    let digits := rest.takeWhile Char.isDigit
    let (size, rest) := if plain then (1, rest)
      else match rest.head?.bind (sizeOf view) with
        | some size => (size, rest.drop 1)
        | none => if digits.isEmpty then (usual, rest) else (Numeral.valueOf 10 digits, rest.drop digits.length)
    let sizes := if view == .floating then [4, 8, 16] else [1, 2, 4, 8]
    if Numeral.wordCount ≤ size then throw ("invalid type string ".toList ++ quoted whole)
    if !sizes.contains size then
      throw ("invalid type string ".toList ++ quoted whole ++ ";\nthis system doesn't provide a ".toList ++ decimal size ++
        (if view == .floating then "-byte floating point type" else "-byte integral type").toList)
    let trailer := rest.head? == some 'z'
    let others ← rowsOf whole steps (if trailer then rest.drop 1 else rest)
    pure (⟨view, size, trailer⟩ :: others)

/-- The letters that may follow counts of octets. -/
def countForm : Amount.Form := { base := 0, letters := "bEGKkMmPTYZ0" }

/-- A count of octets that an option was given. -/
def countGiven (form : Amount.Form) (given : Given) : Act Nat := do
  let text := given.argument.getD []
  match Amount.read form text with
  | .ok count => pure count.toNat
  | .error flaw => Act.refuseAmount 1 given.shown text flaw

/-- An offset as an operand tells it: octal, or hexadecimal if it begins like that. -/
def offset? (text : Raw) : Option Nat :=
  let bare := if text.head? == some '+' then text.drop 1 else text
  let base := if bare.contains '.' then 10 else if ["0x".toList, "0X".toList].contains (bare.take 2) then 16 else 8
  match Amount.read { base, letters := "Bb" } bare with
  | .ok count => if text.isEmpty then none else some count.toNat
  | .error _ => none

/-- What operands say. -/
structure Operands where
  /-- The files. -/
  paths : List Raw
  /-- How much is passed over, if that is told. -/
  skipped : Option Nat := none
  /-- The address in parentheses of what follows then. -/
  label : Option Nat := none

/-- Whether an operand tells an offset although it is not said that it may. -/
def isOffset (paired : Bool) (text : Raw) : Bool :=
  text.head? == some '+' || (paired && (text.head?.map Char.isDigit).getD false)

/-- What operands say where offsets may stand among them; if they always may, so may labels. -/
def operandsOf (always : Bool) (operands : List Raw) : Operands :=
  let plain : Operands := { paths := operands }
  match operands with
  | [only] =>
    match if always || isOffset false only then offset? only else none with
    | some skipped => { paths := [], skipped := some skipped }
    | none => plain
  | [first, second] =>
    match if always || isOffset true second then offset? second else none with
    | none => plain
    | some last =>
      match if always then offset? first else none with
      | some skipped => { paths := [], skipped := some skipped, label := some last }
      | none => { paths := [first], skipped := some last }
  | [path, first, second] =>
    match if always then offset? first else none, offset? second with
    | some skipped, some label => { paths := [path], skipped := some skipped, label := some label }
    | _, _ => plain
  | _ => plain

/-- The texts of at least so many characters that can be seen and end with a zero, each with where it begins; what has
been seen stands in front, the last character first. -/
def textsIn (least : Nat) : Nat → Raw → Bytes → List (Nat × Raw)
  | _, _, [] => []
  | offset, seen, octet :: octets =>
    if 32 ≤ octet && octet < 127 then textsIn least (offset + 1) (Char.ofNat octet.toNat :: seen) octets
    else
      let others := textsIn least (offset + 1) [] octets
      if octet = 0 && least ≤ seen.length then (offset - seen.length, seen.reverse) :: others else others

/-- Read from a descriptor until so many octets have been read: what came, and why no more came if that was wrong. -/
def readUpTo (descriptor : Nat) (most : Option Nat) : Act (Bytes × Option OsError) :=
  Act.loop ((most, []) : Option Nat × List Bytes) fun (left, pieces) => do
    let done := fun (reason : Option OsError) => Sum.inr (pieces.reverse.flatten, reason)
    if left == some 0 then pure (done none)
    else
      let size := match left with
        | some left => min left 4096
        | none => 4096
      let result : Except OsError Bytes ← Act.ask (.read descriptor size)
      match result with
      | .error reason => pure (done (some reason))
      | .ok [] => pure (done none)
      | .ok octets => pure (.inl (left.map (· - octets.length), octets :: pieces))

/-- Read files that follow one another until so many octets have been read: what came, and whether there was a file.
Something is done when the first one has been opened. -/
def gather (whenOpened : Act Unit) (most : Option Nat) (paths : List Raw) : Act (Bytes × Bool) := do
  let mut left := most
  let mut pieces : List Bytes := []
  let mut opened := false
  for path in paths do
    if left != some 0 || !opened then
      let result : Except OsError Nat ← if path == ['-'] then pure (.ok 0) else Act.ask (.openFile path .reading)
      match result with
      | .error reason => do
        Act.complainFile path reason
        Act.fail 1
      | .ok descriptor => do
        if !opened then whenOpened
        opened := true
        let (octets, reason) ← readUpTo descriptor left
        pieces := octets :: pieces
        left := left.map (· - octets.length)
        if let some reason := reason then
          Act.complainFile path reason
          Act.fail 1
        if descriptor != 0 then Act.ask (.close descriptor)
  pure (pieces.reverse.flatten, opened)

/-- The rows of the options with single letters. -/
def letterRows : List (String × Row) :=
  [("a", ⟨.named, 1, false⟩), ("b", ⟨.octal, 1, false⟩), ("c", ⟨.escaped, 1, false⟩), ("d", ⟨.natural, 2, false⟩),
    ("e", ⟨.floating, 8, false⟩), ("f", ⟨.floating, 4, false⟩), ("i", ⟨.signed, 4, false⟩), ("l", ⟨.signed, 8, false⟩),
    ("o", ⟨.octal, 2, false⟩), ("s", ⟨.signed, 2, false⟩), ("x", ⟨.hexadecimal, 2, false⟩), ("h", ⟨.hexadecimal, 2, false⟩),
    ("B", ⟨.octal, 2, false⟩), ("D", ⟨.natural, 4, false⟩), ("F", ⟨.floating, 8, false⟩), ("H", ⟨.hexadecimal, 4, false⟩),
    ("I", ⟨.signed, 8, false⟩), ("L", ⟨.signed, 8, false⟩), ("O", ⟨.octal, 4, false⟩), ("X", ⟨.hexadecimal, 4, false⟩)]

/-- The options. -/
def known : List Known :=
  letterRows.map (fun pair => ⟨pair.1, "", .nothing⟩) ++
  [⟨"A", "address-radix", .always⟩, ⟨"j", "skip-bytes", .always⟩, ⟨"N", "read-bytes", .always⟩,
    ⟨"S", "", .always⟩, ⟨"strings", "strings", .maybe⟩, ⟨"t", "format", .always⟩, ⟨"v", "output-duplicates", .nothing⟩,
    ⟨"w", "width", .maybe⟩, ⟨"endian", "endian", .always⟩, ⟨"traditional", "traditional", .nothing⟩]

/-- What arguments ask for. -/
structure Wish where
  /-- The rows. -/
  rows : List Row := []
  /-- The base of addresses. -/
  base : Option Nat := some 8
  /-- How many octets are passed over. -/
  skipped : Nat := 0
  /-- How many are shown at most. -/
  most : Option Nat := none
  /-- How long texts are at least, if only those are shown. -/
  texts : Option Nat := none
  /-- How many octets stand side by side, if that is told. -/
  width : Option Nat := none
  /-- Whether rows are shown that repeat what stands above. -/
  repeats : Bool := false
  /-- Whether the first octet of several is the greatest. -/
  bigEndian : Bool := false
  /-- Whether offsets and labels may stand among the operands. -/
  labels : Bool := false
  /-- Whether no offset may stand there otherwise. -/
  isPlain : Bool := false

/-- Take up an option. -/
def Wish.given (wish : Wish) (given : Given) : Act Wish := do
  let text := given.argument.getD []
  let plain := { wish with isPlain := true }
  match given.key with
  | "t" =>
    match rowsOf text (text.length + 1) text with
    | .ok more => pure { plain with rows := wish.rows ++ more }
    | .error message => Act.die 1 message
  | "A" =>
    match text with
    | 'd' :: _ => pure { plain with base := some 10 }
    | 'o' :: _ => pure { plain with base := some 8 }
    | 'x' :: _ => pure { plain with base := some 16 }
    | 'n' :: _ => pure { plain with base := none }
    | _ => Act.die 1 ("invalid output address radix '".toList ++ [text.head?.getD '\x00'] ++
        "'; it must be one character from [doxn]".toList)
  | "j" => pure { plain with skipped := ← countGiven countForm given }
  | "N" => pure { plain with most := some (← countGiven countForm given) }
  | "S" => pure { plain with texts := some (← countGiven countForm given) }
  | "strings" =>
    let least ← if given.argument.isNone then pure 3 else countGiven countForm given
    pure { plain with texts := some least }
  | "w" =>
    let width ← if given.argument.isNone then pure 32 else countGiven {} given
    pure { plain with width := some width }
  | "v" => pure { plain with repeats := true }
  | "endian" =>
    let bigEndian ← Act.choose "--endian" [(["little"], false), (["big"], true)] text
    pure { wish with bigEndian }
  | "traditional" => pure { wish with labels := true }
  | key => pure { wish with rows := wish.rows ++ (letterRows.lookup key).toList }

end Dump

open Dump in
/-- Show files as numbers and characters. -/
def od : Utility := ofAct fun arguments => do
  let (wish, invocation) ← Act.foldOptions 1 known false (fun (wish : Wish) given => wish.given given) {} arguments
  if wish.texts.isSome && !wish.rows.isEmpty then Act.die 1 "no type may be specified when dumping strings".toList
  let operands := if wish.labels || !wish.isPlain then operandsOf wish.labels invocation.operands
    else { paths := invocation.operands }
  if let (true, _ :: extra :: _) := (wish.labels, operands.paths) then
    Act.complain ("extra operand ".toList ++ quoted extra)
    Act.refuse 1 "compatibility mode supports at most one file".toList
  let skipped := operands.skipped.getD wish.skipped
  let paths := if operands.paths.isEmpty then [['-']] else operands.paths
  let rows := if wish.rows.isEmpty then [⟨.octal, 2, false⟩] else wish.rows
  let unit := (rows.map Row.size).foldl max 1
  let wished := wish.width.getD 16
  let width := if wished = 0 || wished % unit != 0 then unit else wished
  let warn : Act Unit := do
    if width != wished && wish.texts.isNone then
      Act.complain ("warning: invalid width ".toList ++ decimal wished ++ "; using ".toList ++ decimal width ++
        " instead".toList)
  let (content, opened) ← gather (if skipped = 0 then warn else pure ()) (wish.most.map (· + skipped)) paths
  if opened && content.length < skipped then Act.die 1 "cannot skip past end of combined input".toList
  if opened then
    if 0 < skipped then warn
    let shown := content.drop skipped
    let layout : Layout := {
      rows, width, base := wish.base, repeats := wish.repeats, bigEndian := wish.bigEndian
      label := operands.label.map fun label => Int.ofNat label - Int.ofNat skipped }
    match wish.texts with
    | some least =>
      for (offset, text) in textsIn least skipped [] shown do
        Act.sayLine (address layout offset [' '] ++ text)
    | none =>
      for text in blocks layout (shown.length + 2) skipped none false shown do
        Act.say text

/-- The programs of this kind. -/
def dumpTools : List (String × Utility) :=
  [("od", od)]

end AnswerQuery.Host.Tool
