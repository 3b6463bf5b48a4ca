import AnswerQuery.Host.Numeral

/-! Entries of archives: what is told about a file in front of its octets, in blocks of one size. -/

namespace AnswerQuery.Host.Bundle

/-- How many octets a block has. -/
def blockSize : Nat := 512

/-- How many blocks so many octets take. -/
def blocksFor (size : Nat) : Nat := (size + blockSize - 1) / blockSize

/-- What kind of file an entry stands for. -/
inductive EntryKind where
  | file
  /-- Another name of a file that came before. -/
  | second
  | link
  /-- A device for characters. -/
  | characters
  /-- A device for blocks. -/
  | blocks
  | directory
  | channel
  /-- The archive itself, with its label. -/
  | label
  /-- Something else, which the archive tells by a sign. -/
  | other (sign : Char)
  deriving DecidableEq, Repr

namespace EntryKind

/-- The signs of the kinds of files. -/
def signs : List (EntryKind × Char) :=
  [(file, '0'), (second, '1'), (link, '2'), (characters, '3'), (blocks, '4'), (directory, '5'), (channel, '6'),
    (label, 'V')]

/-- The sign of a kind of file. -/
def sign (kind : EntryKind) : Char :=
  match kind with
  | other sign => sign
  | kind => (signs.lookup kind).getD '0'

/-- The kind of file that a sign tells. -/
def ofSign (sign : Char) : EntryKind :=
  if sign == '\x00' || sign == '7' then file
  else match signs.find? fun pair => pair.2 == sign with
    | some pair => pair.1
    | none => other sign

/-- The letter that lists show. -/
def letter : EntryKind → Char
  | file => '-'
  | second => 'h'
  | link => 'l'
  | characters => 'c'
  | blocks => 'b'
  | directory => 'd'
  | channel => 'p'
  | label => 'V'
  | other _ => '?'

end EntryKind

/-- What is told about a file. -/
structure Entry where
  /-- Its path; that of a directory ends with a slash. -/
  name : Raw
  /-- Who may use it. -/
  mode : Nat := 0
  /-- The number of its owner. -/
  owner : Nat := 0
  /-- The number of its group. -/
  group : Nat := 0
  /-- The name of its owner. -/
  ownerName : Raw := []
  /-- The name of its group. -/
  groupName : Raw := []
  /-- How many octets it has. -/
  size : Nat := 0
  /-- When it was changed, in seconds. -/
  changed : Nat := 0
  /-- What kind of file it is. -/
  kind : EntryKind := .file
  /-- Where it leads, if it is a link or a second name. -/
  target : Raw := []
  /-- Which device it is. -/
  device : Nat × Nat := (0, 0)
  deriving Repr

/-- How entries are written. -/
inductive Layout where
  /-- Without names of owners. -/
  | plain
  /-- As it is agreed. -/
  | agreed
  /-- As it is usual, with names as long as they are. -/
  | usual
  deriving DecidableEq, Repr

namespace Entry

/-- A text in a field of a width. -/
def field (width : Nat) (text : Raw) : Bytes :=
  let octets := (Raw.octets text).take width
  octets ++ List.replicate (width - octets.length) 0

/-- A number in a field of a width, with a zero behind it. -/
def numberField (width number : Nat) : Bytes :=
  let digits := Numeral.inBase 8 number
  Raw.octets (List.replicate (width - 1 - digits.length) '0' ++ digits) ++ [0]

/-- The greatest text of a field that holds a name. -/
def nameWidth : Nat := 100

/-- The place of the field that holds the sum. -/
def sumPlace : Nat := 148

/-- How wide that field is. -/
def sumWidth : Nat := 8

/-- The block of an entry whose names fit. -/
def block (layout : Layout) (entry : Entry) : Bytes :=
  let front := field nameWidth entry.name ++ numberField 8 entry.mode ++ numberField 8 entry.owner ++
    numberField 8 entry.group ++ numberField 12 entry.size ++ numberField 12 entry.changed
  let isDevice := entry.kind == .characters || entry.kind == .blocks
  let devices := if isDevice || layout == .agreed then numberField 8 entry.device.1 ++ numberField 8 entry.device.2
    else List.replicate 16 0
  let owners := field 32 entry.ownerName ++ field 32 entry.groupName
  let marks := match layout with
    | .plain => []
    | .agreed => Raw.octets "ustar\x0000".toList ++ owners ++ devices
    | .usual => Raw.octets "ustar  \x00".toList ++ owners ++ devices
  let sign := if layout == .plain && entry.kind == .file then '\x00' else entry.kind.sign
  let back := Raw.octets [sign] ++ field nameWidth entry.target ++ marks
  let sum := (front ++ back).foldl (fun sum octet => sum + octet.toNat) (sumWidth * 32)
  let digits := Numeral.inBase 8 sum
  let all := front ++ Raw.octets (List.replicate (6 - digits.length) '0' ++ digits) ++ [0, 32] ++ back
  all ++ List.replicate (blockSize - all.length) 0

/-- Octets that fill blocks. -/
def filled (octets : Bytes) : Bytes :=
  octets ++ List.replicate (blocksFor octets.length * blockSize - octets.length) 0

/-- What is written in front of an entry with a long name. -/
def longName (sign : Char) (name : Raw) : Bytes :=
  let entry : Entry := { name := "././@LongLink".toList, mode := 0o644, size := name.length + 1, kind := .other sign,
                         ownerName := "root".toList, groupName := "root".toList }
  entry.block .usual ++ filled (Raw.octets name ++ [0])

/-- The blocks of an entry. -/
def octets (layout : Layout) (entry : Entry) : Bytes :=
  (if nameWidth < entry.target.length then longName 'K' entry.target else []) ++
    (if nameWidth < entry.name.length then longName 'L' entry.name else []) ++ entry.block layout

/-- The text in a field. -/
def textAt (octets : Array UInt8) (place width : Nat) : Raw :=
  Raw.ofOctets ((octets.extract place (place + width)).toList.takeWhile (· != 0))

/-- The number in a field: octal digits, or octets if the first one says so. -/
def numberAt? (octets : Array UInt8) (place width : Nat) : Option Nat :=
  let field := (octets.extract place (place + width)).toList
  match field with
  | first :: rest =>
    if first == 0x80 then some (rest.foldl (fun number octet => number * 256 + octet.toNat) 0)
    else
      let text := Raw.ofOctets field
      let digits := (text.dropWhile (· == ' ')).takeWhile (Numeral.isDigitIn 8)
      let behind := (text.dropWhile (· == ' ')).drop digits.length
      if digits.isEmpty then if behind.all fun c => c == '\x00' || c == ' ' then some 0 else none
      else if (behind.head?.getD ' ') == ' ' || behind.head? == some '\x00' then some (Numeral.valueOf 8 digits) else none
  | [] => none

/-- What a block holds. -/
inductive Reading where
  | entry (entry : Entry)
  /-- Nothing but zeros. -/
  | zeros
  /-- Nothing that makes sense. -/
  | nonsense

/-- What the block at a place of octets holds. -/
def read (octets : Array UInt8) (place : Nat) : Reading :=
  let sumOf := fun (first last : Nat) =>
    (octets.extract (place + first) (place + last)).foldl (fun sum octet => sum + octet.toNat) 0
  let sum := sumOf 0 sumPlace + sumOf (sumPlace + sumWidth) blockSize
  if sum = 0 then .zeros
  else if numberAt? octets (place + sumPlace) sumWidth != some (sum + sumWidth * 32) then .nonsense
  else
    let number := fun (first width : Nat) => (numberAt? octets (place + first) width).getD 0
    let text := fun (first width : Nat) => textAt octets (place + first) width
    let mark := text 257 6
    let kind := EntryKind.ofSign (Char.ofNat (octets.getD (place + 156) 0).toNat)
    let front := if mark == "ustar".toList then text 345 155 else []
    let name := if front.isEmpty then text 0 nameWidth else front ++ '/' :: text 0 nameWidth
    .entry {
      name, kind
      mode := number 100 8
      owner := number 108 8
      group := number 116 8
      ownerName := if "ustar".toList.isPrefixOf mark then text 265 32 else []
      groupName := if "ustar".toList.isPrefixOf mark then text 297 32 else []
      size := if kind == .second then 0 else number 124 12
      changed := number 136 12
      target := text 157 nameWidth
      device := (number 329 8, number 337 8) }

/-- Whether an entry stands for a directory. -/
def isDirectory (entry : Entry) : Bool :=
  entry.kind == .directory || (entry.kind == .file && entry.name.getLast? == some '/')

end Entry

end AnswerQuery.Host.Bundle

/-! Archives: entries, each followed by the octets of its file, and blocks of zeros behind the last one. -/

namespace AnswerQuery.Host.Bundle

/-- An entry and where it stands in an archive, told by blocks. -/
structure Member where
  /-- The entry. -/
  entry : Entry
  /-- Where it begins, with what tells its long names. -/
  first : Nat
  /-- Where the octets of the file begin. -/
  data : Nat
  /-- Whether all of them are there. -/
  isWhole : Bool
  deriving Repr

/-- The place behind a member. -/
def Member.next (member : Member) : Nat :=
  member.data + blocksFor member.entry.size

/-- What turns up in an archive. -/
inductive Finding where
  | member (member : Member)
  /-- It does not begin like an archive. -/
  | foreign
  /-- Something makes no sense and is passed over. -/
  | nonsense
  /-- There is one block of zeros only; how many blocks there are up to it. -/
  | loneZeros (count : Nat)
  deriving Repr

/-- What an archive holds, and where its members end. -/
structure Contents where
  /-- What turns up. -/
  findings : List Finding
  /-- Where the members end, told by blocks. -/
  finish : Nat

/-- What came before a block. -/
inductive Before where
  | nothing
  | good
  | bad
  deriving DecidableEq, Repr

/-- The records of an extended entry: a length, a blank, a key, an equals sign, a value and a line feed each. -/
def records : Nat → Raw → List (Raw × Raw)
  | 0, _ => []
  | steps + 1, text =>
    let digits := text.takeWhile Char.isDigit
    let length := Numeral.valueOf 10 digits
    if digits.isEmpty || length ≤ digits.length + 1 then []
    else
      let body := ((text.take length).drop (digits.length + 1)).dropLast
      let key := body.takeWhile (· != '=')
      (key, body.drop (key.length + 1)) :: records steps (text.drop length)

/-- What is told about the next entry before it comes. -/
structure Notice where
  /-- Its path. -/
  name : Option Raw := none
  /-- Where it leads. -/
  target : Option Raw := none
  /-- Where what is told begins. -/
  first : Option Nat := none

/-- An entry with what was told about it before. -/
def Notice.apply (notice : Notice) (entry : Entry) : Entry :=
  { entry with name := notice.name.getD entry.name, target := notice.target.getD entry.target }

/-- What an archive holds from a block on; whether blocks of zeros are passed over. -/
def readFrom (octets : Array UInt8) (overZeros : Bool) : Nat → Nat → Before → Notice → Contents
  | 0, place, _, _ => ⟨[], place⟩
  | steps + 1, place, before, notice =>
    let count := octets.size / blockSize
    if count ≤ place then ⟨[], place⟩
    else
      let goOn := fun (findings : List Finding) (place : Nat) (before : Before) (notice : Notice) =>
        let rest := readFrom octets overZeros steps place before notice
        { rest with findings := findings ++ rest.findings }
      match Entry.read octets (place * blockSize) with
      | .zeros =>
        if overZeros then goOn [] (place + 1) before notice
        else
          let isLone := if count ≤ place + 1 then true
            else match Entry.read octets ((place + 1) * blockSize) with
              | .zeros => false
              | _ => true
          ⟨if isLone then [.loneZeros (place + 1)] else [], place⟩
      | .nonsense =>
        let findings := match before with
          | .nothing => [Finding.foreign, .nonsense]
          | .good => [.nonsense]
          | .bad => []
        goOn findings (place + 1) .bad {}
      | .entry entry =>
        let data := place + 1
        let first := notice.first.getD place
        let told := fun (_ : Unit) =>
          (octets.extract (data * blockSize) (data * blockSize + entry.size)).toList
        let line := fun (_ : Unit) => Raw.ofOctets ((told ()).takeWhile (· != 0))
        let next := data + blocksFor entry.size
        match entry.kind with
        | .other 'L' => goOn [] next before { notice with name := some (line ()), first }
        | .other 'K' => goOn [] next before { notice with target := some (line ()), first }
        | .other 'g' => goOn [] next before notice
        | .other 'x' =>
          let all := records entry.size (Raw.ofOctets (told ()))
          goOn [] next before {
            name := (all.lookup "path".toList).orElse fun _ => notice.name
            target := (all.lookup "linkpath".toList).orElse fun _ => notice.target
            first }
        | _ =>
          let entry := notice.apply entry
          let isWhole := next ≤ count
          let member : Member := { entry, first, data, isWhole }
          if isWhole then goOn [.member member] next .good {}
          else ⟨[.member member], count⟩

/-- What an archive holds; whether blocks of zeros are passed over. -/
def contents (octets : Array UInt8) (overZeros : Bool) : Contents :=
  readFrom octets overZeros (octets.size / blockSize + 1) 0 .nothing {}

/-- The members among what turns up. -/
def Contents.members (contents : Contents) : List Member :=
  contents.findings.filterMap fun finding => match finding with
    | .member member => some member
    | _ => none

/-- The octets of the file of a member, as far as they are there. -/
def Member.octets (member : Member) (archive : Array UInt8) : Bytes :=
  (archive.extract (member.data * blockSize) (member.data * blockSize + member.entry.size)).toList

/-- Members with the zeros behind them that end an archive, in records of so many blocks. -/
def closed (factor : Nat) (octets : Bytes) : Bytes :=
  let record := factor * blockSize
  let size := octets.length + 2 * blockSize
  let whole := (size + record - 1) / record * record
  octets ++ List.replicate (whole - octets.length) 0

end AnswerQuery.Host.Bundle
