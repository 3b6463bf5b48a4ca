import AnswerQuery.Host.Tool.Comparing

/-! Comparing files octet by octet. -/

namespace AnswerQuery.Host.Tool

namespace Sameness

/-- An octet as it is shown. -/
def shown (octet : Nat) : Raw :=
  let (front, low) := if octet < 128 then ([], octet) else (['M', '-'], octet - 128)
  front ++ (if low < 32 then ['^', Char.ofNat (low + 64)] else if low = 127 then ['^', '?'] else [Char.ofNat low])

/-- An octet in three octal digits. -/
def octal (octet : Nat) : Raw :=
  let digits := Numeral.inBase 8 octet
  List.replicate (3 - digits.length) ' ' ++ digits

/-- How files are compared. -/
structure Plan where
  /-- Whether octets are shown. -/
  shows : Bool
  /-- Whether all that differs is told. -/
  all : Bool
  /-- Whether nothing is told. -/
  quiet : Bool
  /-- How many octets are compared. -/
  most : Option Nat

/-- Where the comparison stands. -/
structure Place where
  /-- How many octets were the same or have been told. -/
  count : Nat := 0
  /-- How many lines have ended. -/
  lines : Nat := 0
  /-- Whether the last octet has ended a line. -/
  atLineStart : Bool := true
  /-- Whether something has been different. -/
  differs : Bool := false

/-- Tell that a file ends before the other one. -/
def tellEnd (plan : Plan) (name : Raw) (place : Place) : Act Unit := do
  if !plan.quiet then
    let count := decimal place.count
    Act.complain ("EOF on ".toList ++ name ++ (if place.count = 0 then " which is empty".toList
      else if plan.all then " after byte ".toList ++ count
      else if place.atLineStart then " after byte ".toList ++ count ++ ", line ".toList ++ decimal place.lines
      else " after byte ".toList ++ count ++ ", in line ".toList ++ decimal (place.lines + 1)))
  Act.fail 1

/-- Compare octets. -/
def compare (plan : Plan) (name name' : Raw) (width : Nat) : Place → Bytes → Bytes → Act Unit
  | place, [], [] => if place.differs then Act.fail 1 else pure ()
  | place, [], _ => tellEnd plan name place
  | place, _, [] => tellEnd plan name' place
  | place, c :: first, d :: second => do
    let next := { place with
      count := place.count + 1, lines := if c == 10 then place.lines + 1 else place.lines, atLineStart := c == 10 }
    if c == d then compare plan name name' width next first second
    else
      let number := decimal (place.count + 1)
      if plan.quiet then Act.fail 1
      else if plan.all then
        let one := shown c.toNat
        Act.sayLine (List.replicate (width - number.length) ' ' ++ number ++ ' ' :: octal c.toNat ++
          (if plan.shows then ' ' :: one ++ List.replicate (4 - one.length) ' ' else []) ++ ' ' :: octal d.toNat ++
          (if plan.shows then ' ' :: shown d.toNat else []))
        compare plan name name' width { next with differs := true } first second
      else
        Act.sayLine (name ++ ' ' :: name' ++ " differ: ".toList ++ (if plan.shows then "byte " else "char ").toList ++ number ++
          ", line ".toList ++ decimal (place.lines + 1) ++
          (if plan.shows then " is ".toList ++ octal c.toNat ++ ' ' :: shown c.toNat ++ ' ' :: octal d.toNat ++ ' ' :: shown d.toNat
            else []))
        Act.fail 1

/-- The numbers of octets to be passed over that a text tells. -/
def skips? (text : Raw) : Option (Nat × Nat) :=
  match Raw.split ':' text with
  | [both] => (sizeOf? both).map fun count => (count, count)
  | [first, second] => (sizeOf? first).bind fun count => (sizeOf? second).map fun count' => (count, count')
  | _ => none

/-- Complain about a number. -/
def refuseNumber {α : Type} (option : String) (text : Raw) : Act α :=
  Difference.refuse ("invalid ".toList ++ option.toList ++ " value ".toList ++ quoted text)

/-- The number that a text tells. -/
def numberOf (option : String) (text : Raw) : Act Nat :=
  match sizeOf? text with
  | some number => pure number
  | none => refuseNumber option text

/-- The octets of a file behind some that are passed over. -/
def octetsOf (quiet : Bool) (path : Raw) (skip : Nat) (most : Option Nat) : Act (Option Bytes) := do
  match ← Act.readFile path with
  | .error reason => do
    if !quiet then Act.complain (path ++ ": ".toList ++ reason.description)
    Act.fail 2
    pure none
  | .ok octets =>
    let octets := octets.drop skip
    pure (some (match most with
      | some most => octets.take most
      | none => octets))

end Sameness

/-- Tell where two files differ. -/
def cmp : Utility := ofAct fun arguments => do
  modify fun output => { output with
    outputStatus := 2, complaint := fun reason => "standard output: ".toList ++ reason.description }
  let known : List Known := [⟨"b", "print-bytes", .nothing⟩, ⟨"c", "print-chars", .nothing⟩, ⟨"i", "ignore-initial", .always⟩,
    ⟨"l", "verbose", .nothing⟩, ⟨"n", "bytes", .always⟩, ⟨"s", "silent", .nothing⟩, ⟨"s", "quiet", .nothing⟩,
    ⟨"v", "", .nothing⟩]
  let invocation ← Difference.readOptions known arguments
  let mut skip : Nat × Nat := (0, 0)
  let mut most : Option Nat := none
  for given in invocation.given do
    let text := given.argument.getD []
    if given.key == "i" then
      match Sameness.skips? text with
      | some counts => skip := (max skip.1 counts.1, max skip.2 counts.2)
      | none => Sameness.refuseNumber "--ignore-initial" text
    else if given.key == "n" then
      let count ← Sameness.numberOf "--bytes" text
      most := some (min count (most.getD count))
  if invocation.has "l" && invocation.has "s" then Difference.refuse "options -l and -s are incompatible".toList
  let operands := invocation.operands
  if operands.isEmpty then
    let name := (← get).name
    Difference.refuse ("missing operand after ".toList ++ quoted (arguments.getLast?.getD name))
  let name := operands.head?.getD []
  let name' := (operands[1]?).getD ['-']
  if let some text := operands[2]? then
    let count ← Sameness.numberOf "--ignore-initial" text
    skip := (max skip.1 count, skip.2)
  if let some text := operands[3]? then
    let count ← Sameness.numberOf "--ignore-initial" text
    skip := (skip.1, max skip.2 count)
  if let some extra := operands[4]? then Difference.refuse ("extra operand ".toList ++ quoted extra)
  let plan : Sameness.Plan := {
    shows := invocation.has "b" || invocation.has "c", all := invocation.has "l", quiet := invocation.has "s", most }
  let sameNode := match ← Difference.statusOf true name, ← Difference.statusOf true name' with
    | .ok one, .ok other => one.number.isSome && one.number == other.number && skip.1 == skip.2
    | _, _ => false
  if !sameNode then
    match ← Sameness.octetsOf plan.quiet name skip.1 most with
    | none => pure ()
    | some first =>
      match ← Sameness.octetsOf plan.quiet name' skip.2 most with
      | none => pure ()
      | some second =>
        let size := min (min first.length second.length) (most.getD first.length)
        Sameness.compare plan name name' (decimal size).length {} first second

/-- The programs that compare files. -/
def samenessTools : List (String × Utility) :=
  [("cmp", cmp)]

end AnswerQuery.Host.Tool
