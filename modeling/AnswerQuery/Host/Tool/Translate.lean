import AnswerQuery.Host.Tool.Expression
import AnswerQuery.Host.Tool.Source

/-! Translating characters into others, deleting them, and squeezing repetitions. -/

namespace AnswerQuery.Host.Tool

namespace Translate

/-- Characters of a description, each with whether it is taken as it is. -/
abbrev Described := List (Char × Bool)

/-- Resolve the escapes in a description: its characters, and warnings. -/
def resolve : Nat → Raw → Described × List Raw
  | 0, _ => ([], [])
  | _ + 1, [] => ([], [])
  | _ + 1, ['\\'] => ([('\\', true)], ["warning: an unescaped backslash at end of string is not portable".toList])
  | steps + 1, '\\' :: c :: rest =>
    let one := fun (d : Char) (warnings : List Raw) (rest : Raw) =>
      let (others, more) := resolve steps rest
      ((d, true) :: others, warnings ++ more)
    match c with
    | 'a' => one '\x07' [] rest
    | 'b' => one '\x08' [] rest
    | 'f' => one '\x0c' [] rest
    | 'n' => one '\n' [] rest
    | 'r' => one '\r' [] rest
    | 't' => one '\t' [] rest
    | 'v' => one '\x0b' [] rest
    | _ =>
      if Numeral.isDigitIn 8 c then
        let digits := ((c :: rest).take 3).takeWhile (Numeral.isDigitIn 8)
        let value := Numeral.valueOf 8 digits
        if 255 < value then
          let short := digits.take 2
          let warning := "warning: the ambiguous octal escape \\".toList ++ digits ++
            " is being\n\tinterpreted as the 2-byte sequence \\0".toList ++ short ++ ", ".toList ++ digits.drop 2
          one (Char.ofNat (Numeral.valueOf 8 short)) [warning] ((c :: rest).drop 2)
        else one (Char.ofNat value) [] ((c :: rest).drop digits.length)
      else one c [] rest
  | steps + 1, c :: rest =>
    let (others, warnings) := resolve steps rest
    ((c, false) :: others, warnings)

/-- The two classes of letters between which letters can be converted. -/
inductive Case where
  | lower
  | upper
  deriving DecidableEq, Repr

/-- A part of a description. -/
inductive Construct where
  | character (c : Char)
  | range (first last : Char)
  | class_ (name : String) (members : List Char)
  | equal (c : Char)
  /-- A character so many times, or as often as it is needed. -/
  | repeated (c : Char) (count : Option Nat)

namespace Construct

/-- The characters of a part; one that is repeated as often as needed has none. -/
def members : Construct → List Char
  | character c => [c]
  | range first last => (List.range (last.toNat - first.toNat + 1)).map fun offset => Char.ofNat (first.toNat + offset)
  | class_ _ members => members
  | equal c => [c]
  | repeated c count => List.replicate (count.getD 0) c

/-- The class of letters that a part is. -/
def case? : Construct → Option Case
  | class_ "lower" _ => some .lower
  | class_ "upper" _ => some .upper
  | _ => none

end Construct

/-- All characters. -/
def allCharacters : List Char :=
  (List.range 256).map Char.ofNat

/-- A character as it is told in a complaint. -/
def shown (c : Char) : Raw :=
  if Quote.isPrinted c then [c] else '\\' :: Quote.octal c

/-- The text of a description. -/
def Described.text (described : Described) : Raw :=
  described.map Prod.fst

/-- What stands in front of a mark and a closing bracket, and what follows them. -/
def untilMark (mark : Char) : Described → Described → Option (Described × Described)
  | _, [] => none
  | front, (c, taken) :: rest =>
    if c == mark && !taken && rest.head? == some (']', false) then some (front.reverse, rest.drop 1)
    else untilMark mark ((c, taken) :: front) rest

/-- A character, a star and a count in brackets, without the bracket that opens them, and what follows. -/
def repetition? (described : Described) : Except Raw (Option (Construct × Described)) :=
  match described with
  | (c, _) :: ('*', false) :: rest =>
    let digits := rest.takeWhile fun pair => pair != (']', false)
    match rest.drop digits.length with
    | [] => .ok none
    | _ :: after =>
      let text := Described.text digits
      if text.isEmpty then .ok (some (.repeated c none, after))
      else
        let base := if text.head? == some '0' then 8 else 10
        if digits.any Prod.snd || !text.all (Numeral.isDigitIn base) then
          .error ("invalid repeat count ".toList ++ quoted text ++ " in [c*n] construct".toList)
        else
          let count := Numeral.valueOf base text
          .ok (some (.repeated c (if count = 0 then none else some count), after))
  | _ => .ok none

/-- Whether a star, digits and a closing bracket stand at the front of a description. -/
def isStarred (described : Described) : Bool :=
  match described with
  | ('*', false) :: rest =>
    (rest.dropWhile fun pair => pair.1.isDigit && !pair.2).head? == some (']', false)
  | _ => false

/-- Read the part at the front of a description that begins with a bracket, if it is more than that bracket. -/
def bracketed (rest : Described) : Except Raw (Option (Construct × Described)) := do
  match rest with
  | (':', false) :: inside =>
    match untilMark ':' [] inside with
    | some (name, after) =>
      let text := Described.text name
      if name.isEmpty then throw "missing character class name '[::]'".toList
      match Class.named.find? fun pair => pair.1.toList == text with
      | some (name, accepts) => pure (some (.class_ name (allCharacters.filter accepts), after))
      | none =>
        if isStarred inside then repetition? rest
        else throw ("invalid character class ".toList ++ quoted text)
    | none => repetition? rest
  | ('=', false) :: inside =>
    match untilMark '=' [] inside with
    | some (name, after) =>
      if name.isEmpty then throw "missing equivalence class character '[==]'".toList
      match name with
      | [(c, _)] => pure (some (.equal c, after))
      | _ =>
        if isStarred inside then repetition? rest
        else throw (Described.text name ++ ": equivalence class operand must be a single character".toList)
    | none => repetition? rest
  | _ => repetition? rest

/-- Read a description. -/
def read : Nat → Described → Except Raw (List Construct)
  | 0, _ => .ok []
  | _ + 1, [] => .ok []
  | steps + 1, (c, taken) :: rest => do
    let special ← if c == '[' && !taken then bracketed rest else pure none
    match special with
    | some (construct, after) =>
      let others ← read steps after
      pure (construct :: others)
    | none =>
      match rest with
      | ('-', false) :: (d, _) :: after =>
        if d < c then
          throw ("range-endpoints of '".toList ++ shown c ++ ['-'] ++ shown d ++
            "' are in reverse collating sequence order".toList)
        let others ← read steps after
        pure (.range c d :: others)
      | _ =>
        let others ← read steps rest
        pure (.character c :: others)

/-- A character of a description: which part it belongs to, and the class of letters that the part is. -/
structure Item where
  /-- The character. -/
  character : Char
  /-- The place of the part. -/
  part : Nat
  /-- The class of letters. -/
  case : Option Case

/-- The characters of a description. -/
def items (constructs : List Construct) : List Item :=
  constructs.zipIdx.flatMap fun (construct, part) =>
    construct.members.map fun character => ⟨character, part, construct.case?⟩

/-- What follows the part that a description begins with. -/
def behindPart (items : List Item) : List Item :=
  match items with
  | [] => []
  | first :: rest => rest.dropWhile fun item => item.part == first.part

/-- Whether classes of letters in the second description stand beside ones in the first; the flags tell whether parts
begin. -/
def isAligned : Nat → Bool → Bool → List Item → List Item → Bool
  | 0, _, _, _, _ => true
  | steps + 1, newFirst, newSecond, first, second =>
    match second with
    | [] => true
    | item :: rest =>
      let case? := first.head?.bind Item.case
      if newSecond && item.case.isSome && !(newFirst && case?.isSome) then false
      else
        let (first', second') := if item.case.isSome then (behindPart first, behindPart second) else (first.drop 1, rest)
        let begins := fun (before after : List Item) => before.head?.map Item.part != after.head?.map Item.part
        if first.isEmpty then true
        else isAligned steps (begins first first') (begins second second') first' second'

/-- How many characters a description counts for, if classes of letters count for one. -/
def pairedLength (first second : List Item) : Nat → Nat × Nat
  | 0 => (first.length, second.length)
  | steps + 1 =>
    match first, second with
    | [], _ => (0, second.length)
    | _, [] => (first.length, 0)
    | _ :: first', item :: second' =>
      let (left, right) := if item.case.isSome then pairedLength (behindPart first) (behindPart second) steps
        else pairedLength first' second' steps
      (left + 1, right + 1)

/-- Which character becomes which: pairs, the last of which count. -/
def pairs : Nat → List Item → List Item → List (Char × Char)
  | 0, _, _ => []
  | steps + 1, first, second =>
    match first, second with
    | item :: first', item' :: second' =>
      let here := match item.case, item'.case with
        | some .lower, some .upper => (allCharacters.filter Char.isLower).map fun c => (c, c.toUpper)
        | some .upper, some .lower => (allCharacters.filter Char.isUpper).map fun c => (c, c.toLower)
        | _, _ => [(item.character, item'.character)]
      here ++ if item'.case.isSome then pairs steps (behindPart first) (behindPart second) else pairs steps first' second'
    | _, _ => []

/-- What is done with the characters. -/
structure Plan where
  /-- What a character becomes; none if it is deleted. -/
  becomes : Array (Option Char)
  /-- Whether repetitions of a character are squeezed. -/
  squeezes : Array Bool

namespace Plan

/-- Translate characters, given the one that was written last. -/
def apply (plan : Plan) : Option Char → Raw → Raw → Raw × Option Char
  | last, done, [] => (done.reverse, last)
  | last, done, c :: rest =>
    match (plan.becomes[c.toNat]?).getD (some c) with
    | none => apply plan last done rest
    | some d =>
      if last == some d && (plan.squeezes[d.toNat]?).getD false then apply plan last done rest
      else apply plan (some d) (d :: done) rest

end Plan

/-- The array that tells for every character whether it belongs to a description. -/
def setOf (complement : Bool) (items : List Item) : Array Bool :=
  items.foldl (fun set item => set.setIfInBounds item.character.toNat (!complement)) (Array.replicate 256 complement)

/-- Fill a description up to a length, in place of a part that is repeated as often as needed. -/
def filled (length : Nat) (constructs : List Construct) : List Construct :=
  let known := (items constructs).length
  constructs.map fun construct =>
    match construct with
    | .repeated c none => .repeated c (some (length - known))
    | other => other

/-- Whether a part is repeated as often as needed. -/
def isOpen : Construct → Bool
  | .repeated _ none => true
  | _ => false

/-- The sentence about classes that cannot be translated into. -/
def restricted : Raw :=
  "when translating, the only character classes that may appear in\nstring2 are 'upper' and 'lower'".toList

/-- Prepare a translation of the first description into the second one. -/
def translation (complement truncates : Bool) (first second : List Construct) : Except Raw (Array (Option Char) × List Item) := do
  let firstItems := items first
  let inFirst := setOf false firstItems
  let outside := allCharacters.filter fun c => !(inFirst[c.toNat]?).getD false
  let firstLength := if complement then outside.length else firstItems.length
  let second := filled firstLength second
  if second.any fun construct => match construct with
      | .equal _ => true
      | _ => false then
    throw "[=c=] expressions may not appear in string2 when translating".toList
  if second.any fun construct => match construct with
      | .class_ name _ => name != "upper" && name != "lower"
      | _ => false then
    throw restricted
  let secondItems := items second
  let cases := !complement && second.any fun construct => construct.case?.isSome
  if cases && !isAligned (firstItems.length + secondItems.length + 2) true true firstItems secondItems then
    throw "misaligned [:upper:] and/or [:lower:] construct".toList
  let (left, right) := if cases then pairedLength firstItems secondItems (firstItems.length + 1)
    else (firstLength, secondItems.length)
  let secondItems ← if right < left && !truncates then do
      if right = 0 then throw "when not truncating set1, string2 must be non-empty".toList
      if let some (.class_ ..) := second.getLast? then
        throw "when translating with string1 longer than string2,\nthe latter string must not end with a character class".toList
      let last := (secondItems.getLast?.map Item.character).getD ' '
      pure (secondItems ++ List.replicate (left - right) ⟨last, second.length, none⟩)
    else pure secondItems
  if complement && first.any fun construct => match construct with
      | .class_ .. => true
      | _ => false then
    let same := match secondItems with
      | [] => true
      | one :: others => others.all fun item => item.character == one.character
    if secondItems.length != outside.length || !same then
      throw "when translating with complemented character classes,\nstring2 must map all characters in the domain to one".toList
  let identity : Array (Option Char) := (allCharacters.map some).toArray
  let changes := if complement then outside.zip (secondItems.map Item.character)
    else pairs (firstItems.length + 1) firstItems secondItems
  pure (changes.foldl (fun becomes pair => becomes.setIfInBounds pair.1.toNat (some pair.2)) identity, secondItems)

/-- Read a description, with warnings that are told at once. -/
def describe (text : Raw) : Act (List Construct) := do
  let (described, warnings) := resolve (text.length + 1) text
  for warning in warnings do
    Act.complain warning
  match read (described.length + 1) described with
  | .ok constructs => pure constructs
  | .error message => Act.die 1 message

/-- Let a result be, or end the program with a complaint. -/
def settle {α : Type} (result : Except Raw α) : Act α :=
  match result with
  | .ok value => pure value
  | .error message => Act.die 1 message

/-- Check how many operands there are. -/
def checkOperands (deletes squeezes : Bool) (operands : List Raw) : Act Unit := do
  let least := if deletes == squeezes then 2 else 1
  let most := if deletes && !squeezes then 1 else 2
  let usage := fun (message more : Raw) => do
    Act.complain message
    if !more.isEmpty then Act.report (more ++ ['\n'])
    Act.report ("Try '".toList ++ (← get).name ++ " --help' for more information.\n".toList)
    Act.finish 1
  if operands.length < least then
    match operands.getLast? with
    | none => usage "missing operand".toList []
    | some last =>
      let more := if squeezes then "Two strings must be given when both deleting and squeezing repeats."
        else "Two strings must be given when translating."
      usage ("missing operand after ".toList ++ quoted last) more.toList
  else if let some extra := operands[most]? then
    let more := if operands.length = 2 then "Only one string may be given when deleting without squeezing repeats." else ""
    usage ("extra operand ".toList ++ quoted extra) more.toList

end Translate

/-- Translate characters. -/
def tr : Utility := ofAct fun arguments => do
  let known : List Known := [⟨"c", "complement", .nothing⟩, ⟨"C", "", .nothing⟩, ⟨"d", "delete", .nothing⟩,
    ⟨"s", "squeeze-repeats", .nothing⟩, ⟨"t", "truncate-set1", .nothing⟩]
  let invocation ← Act.readOptions 1 known true arguments
  let complement := invocation.has "c" || invocation.has "C"
  let deletes := invocation.has "d"
  let squeezes := invocation.has "s"
  Translate.checkOperands deletes squeezes invocation.operands
  let first ← Translate.describe (invocation.operands.head?.getD [])
  let second ← match invocation.operands with
    | [_, text] => some <$> Translate.describe text
    | _ => pure none
  if first.any Translate.isOpen then Act.die 1 "the [c*] repeat construct may not appear in string1".toList
  let opened := (second.getD []).filter Translate.isOpen
  if 1 < opened.length then Act.die 1 "only one [c*] repeat construct may appear in string2".toList
  let translates := second.isSome && !deletes
  if !translates && !opened.isEmpty then
    Act.die 1 "the [c*] construct may appear in string2 only when translating".toList
  let firstSet := Translate.setOf complement (Translate.items first)
  let nothing := Array.replicate 256 false
  let identity : Array (Option Char) := (Translate.allCharacters.map some).toArray
  let plan : Translate.Plan ←
    if translates then do
      let (becomes, items) ← Translate.settle
        (Translate.translation complement (invocation.has "t") first (second.getD []))
      pure { becomes, squeezes := if squeezes then Translate.setOf false items else nothing }
    else
      let kept := Translate.allCharacters.map fun c =>
        if deletes && (firstSet[c.toNat]?).getD false then none else some c
      let squeezed := match second with
        | some second => Translate.setOf false (Translate.items second)
        | none => firstSet
      pure { becomes := if deletes then kept.toArray else identity, squeezes := if squeezes then squeezed else nothing }
  Act.loop (none : Option Char) fun last => do
    let result : Except OsError Bytes ← Act.ask (.read 0 4096)
    match result with
    | .error reason => Act.die 1 ("read error: ".toList ++ reason.description)
    | .ok [] => pure (.inr ())
    | .ok octets => do
      let (text, last) := plan.apply last [] (Raw.ofOctets octets)
      Act.say text
      pure (.inl last)

/-- The programs of this kind. -/
def translateTools : List (String × Utility) :=
  [("tr", tr)]

end AnswerQuery.Host.Tool
