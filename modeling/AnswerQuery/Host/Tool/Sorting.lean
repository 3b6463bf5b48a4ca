import AnswerQuery.Host.Tool.Order

/-! What is told about keys: remarks on those that may mean something else than was wanted, and marks below the parts of
lines that are compared. -/

namespace AnswerQuery.Host.Tool

namespace Order

namespace Letters

/-- Whether numbers are compared. -/
def isNumeric (letters : Letters) : Bool :=
  letters.ways.any [Way.numeric, .general, .human].contains

/-- The letters that are told by one value and by none of others, the turning round of the order aside. -/
def unused (letters : Letters) (others : List Letters) : Letters :=
  let kept := fun (has : Letters → Bool) => has letters && !others.any has
  { startBlanks := kept startBlanks
    endBlanks := kept endBlanks
    passes := if others.any fun other => other.passes == letters.passes then .nothing else letters.passes
    folds := kept folds
    ways := letters.ways.filter fun way => !others.any fun other => other.ways.contains way
    random := kept random
    reverse := kept reverse }

/-- All letters. -/
def all (letters : Letters) : Raw :=
  let has := letters.ways.contains
  [('b', letters.startBlanks || letters.endBlanks), ('d', letters.passes == .undictionary), ('f', letters.folds),
    ('g', has .general), ('h', has .human), ('i', letters.passes == .unprinted), ('M', has .month), ('n', has .numeric),
    ('R', letters.random), ('r', letters.reverse), ('V', has .version)].filterMap fun (letter, told) =>
      if told then some letter else none

end Letters

/-- Whether the end of a key lies in front of its start. -/
def Key.isEmpty (key : Key) : Bool :=
  (key.stop.map fun (field, _) => decide (field < key.startField)).getD false

/-- Whether a key that is compared by its numbers reaches over several fields. -/
def Key.spans (key : Key) : Bool :=
  (key.stop.map fun (field, _) => decide (key.startField < field)).getD true

/-- The remarks on a key with a number. -/
def remarksOn (tab : Option Char) (number : Nat) (key : Key) : List Raw :=
  let letters := key.letters
  let told := "key ".toList ++ decimal number
  let character := (key.stop.map Prod.snd).getD 0
  let isWithinLine := (key.stop.map fun (field, character) => field = 0 && character != 0).getD false
  let skips := letters.isNumeric || letters.ways.contains .month
  let old := match key.old with
    | some (old, new) => ["obsolescent key ".toList ++ quoted old ++ " used; consider ".toList ++ quoted new ++ " instead".toList]
    | none => []
  let empty := if key.isEmpty then [told ++ " has zero width and will be ignored".toList] else []
  let blanks := if !key.isEmpty && !key.isWhole && tab.isNone && !isWithinLine &&
      ((!letters.startBlanks && !skips) || (!letters.startBlanks && key.startCharacter != 0) ||
        (!letters.endBlanks && character != 0)) then
      ["leading blanks are significant in ".toList ++ told ++ "; consider also specifying 'b'".toList]
    else []
  let spans := if !key.isWhole && letters.isNumeric && key.spans then
      [told ++ " is numeric and spans multiple fields".toList]
    else []
  old ++ empty ++ blanks ++ spans

/-- The remarks on how numbers are read. -/
def remarksOnNumbers (tab : Option Char) (keys : List Key) : List Raw :=
  let numeric := keys.filter fun key => key.letters.isNumeric
  let spanning := numeric.filter fun key => !key.isWhole && key.spans
  let isGeneral := spanning.any fun key => key.letters.ways.contains .general
  let treated := fun (sign : Char) (what : String) =>
    "field separator ".toList ++ quoted [sign] ++ " is treated as a ".toList ++ what.toList ++ " in numbers".toList
  let point := tab == some '.'
  let separator := if spanning.isEmpty then []
    else if point then [treated '.' "decimal point"]
    else if tab == some '-' then [treated '-' "minus sign"]
    else if isGeneral && tab == some '+' then [treated '+' "plus sign"]
    else []
  let plain := if numeric.isEmpty || (point && !spanning.isEmpty) then []
    else [(if point then [] else "note ".toList) ++ "numbers use '.' as a decimal point in this locale".toList]
  separator ++ plain

/-- The remarks on letters that have been told for all keys and count for none. -/
def remarksOnUnused (plan : Plan) (letters : Letters) : List Raw :=
  let isKept := plan.stable || plan.unique
  let unused := letters.unused (plan.keys.map Key.letters)
  let hasKeys := !plan.keys.isEmpty
  let ignored := { unused with reverse := unused.reverse && isKept }
  (if !unused.isPlain || (unused.reverse && isKept && hasKeys) then
    let all := ignored.all
    [(if all.length = 1 then "option '-" else "options '-").toList ++ all ++
      (if all.length = 1 then "' is ignored" else "' are ignored").toList]
  else []) ++
    if unused.reverse && !isKept && hasKeys then ["option '-r' only applies to last-resort comparison".toList] else []

/-- All remarks. -/
def remarks (plan : Plan) (letters : Letters) : List Raw :=
  "text ordering performed using simple byte comparison".toList ::
    (plan.keys.zipIdx.flatMap fun (key, place) => remarksOn plan.tab (place + 1) key) ++
    remarksOnNumbers plan.tab plan.keys ++ remarksOnUnused plan letters

/-- How many characters at the front of a part are read as a number, with the letter of a size behind it. -/
def numeralLength (human : Bool) (part : Raw) : Nat :=
  let unsigned := if part.head? == some '-' then part.drop 1 else part
  let whole := unsigned.takeWhile Char.isDigit
  let behind := unsigned.drop whole.length
  let (fraction, behind) := match behind with
    | '.' :: rest => (rest.takeWhile Char.isDigit, rest.dropWhile Char.isDigit)
    | rest => ([], rest)
  if (whole ++ fraction).isEmpty then 0
  else
    let isSize := (behind.head?.map "kKMGTPEZY".toList.contains).getD false
    part.length - behind.length + if human && isSize then 1 else 0

/-- The part of a line that a key compares, as it is marked: where it begins and ends. -/
def markOf (tab : Option Char) (text : Raw) (key : Key) : Nat × Nat :=
  let (start, stop) := key.bounds tab text
  let letters := key.letters
  if (letters.startBlanks && key.isWhole) || letters.ways.contains .month || letters.isNumeric then
    let blanks := (((text.drop start)).takeWhile isBlank).length
    let start := start + blanks
    let part := (text.drop start).take (stop - start)
    let length := match letters.way with
      | .month => if monthOf part = 0 then 0 else 3
      | .general =>
        let front := Floating.readFront .extended part
        if front.found then part.length - front.rest.length else 0
      | .numeric => numeralLength false part
      | .human => numeralLength true part
      | _ => part.length
    if stop < start then (start, stop) else (start, start + length)
  else (start, stop)

/-- How much room a text takes. -/
def roomOf (text : Raw) : Nat :=
  (text.filter fun c => Quote.isPrinted c || c == '\t').length

/-- A mark below a part of a line. -/
def mark (text : Raw) (start stop : Nat) : Raw :=
  let width := roomOf ((text.take stop).drop start)
  List.replicate (roomOf (text.take start)) ' ' ++
    (if width = 0 then "^ no match for key".toList else List.replicate width '_') ++ ['\n']

/-- A line with marks below it; the line as a whole is marked too if it can come to be compared. -/
def marked (plan : Plan) (text : Raw) : Raw :=
  let marks := plan.keys.flatMap fun key =>
    let (start, stop) := markOf plan.tab text key
    mark text start stop
  let whole := if plan.keys.isEmpty || !(plan.unique || plan.stable) then mark text 0 text.length else []
  text.map (fun c => if c == '\t' then '>' else c) ++ '\n' :: marks ++ whole

end Order

end AnswerQuery.Host.Tool

/-! The program that puts the lines of files in order. -/

namespace AnswerQuery.Host.Tool

/-- Put lines in order. -/
def sort : Utility := ofAct fun arguments => do
  modify fun output => { output with outputStatus := 2 }
  let (old, arguments) := Order.takeOldKeys (arguments.length + 1) arguments
  let invocation ← Act.readOptions 2 Order.known false arguments
  let letters ← Order.globalLetters invocation
  let tab ← Order.tabOf invocation
  let targets := invocation.arguments "o"
  if 1 < (targets.eraseDups).length then Act.die 2 "multiple output files specified".toList
  let check ← Order.checkOf invocation
  if let some text := invocation.argument? "batch-size" then
    match Numeral.natural? text with
    | none => Act.die 2 ("invalid --batch-size argument ".toList ++ quoted text)
    | some size =>
      if size < 2 then
        Act.complain ("invalid --batch-size argument ".toList ++ quoted text)
        Act.die 2 "minimum --batch-size argument is '2'".toList
  if let some text := invocation.argument? "parallel" then
    match Numeral.natural? text with
    | none => Act.die 2 ("invalid --parallel argument ".toList ++ quoted text)
    | some count => if count = 0 then Act.die 2 "number in parallel must be nonzero".toList
  if let some text := invocation.argument? "S" then
    let digits := text.takeWhile Char.isDigit
    if digits.isEmpty then Act.die 2 ("invalid -S argument ".toList ++ quoted text)
    let scales := ["", "%", "b", "K", "k", "M", "G", "T", "P", "E", "Z", "Y"]
    if !(scales.contains (String.ofList (text.drop digits.length))) then
      Act.die 2 ("invalid suffix in -S argument ".toList ++ quoted text)
  let keys ← Order.keysOf invocation old letters
  let plan : Order.Plan := { keys, tab, stable := invocation.has "s", unique := invocation.has "u", reverse := letters.reverse }
  let mark := if invocation.has "z" then '\x00' else '\n'
  let paths ← Order.pathsOf invocation
  let explains := invocation.has "debug"
  if explains then
    if check.isSome || !targets.isEmpty then
      Act.die 2 ("options '-".toList ++ check.getD 'o' :: " --debug' are incompatible".toList)
    for remark in Order.remarks plan letters do
      Act.complain remark
  if let some letter := check then
    if !targets.isEmpty then
      Act.die 2 ("options '-".toList ++ letter :: "o' are incompatible".toList)
    match paths with
    | _ :: extra :: _ =>
      Act.die 2 ("extra operand ".toList ++ quoted extra ++ " not allowed with -".toList ++ [letter])
    | _ => do
      let path := paths.head?.getD ['-']
      let lines ← Order.readLines mark path
      match plan.disorder? 1 (lines.map plan.line) with
      | none => pure ()
      | some (number, line) => do
        if letter == 'c' then
          Act.complain (path ++ ':' :: decimal number ++ ": disorder: ".toList ++ line.text)
        Act.fail 1
  else
    for path in paths do
      if path != ['-'] then
        let status : Except OsError Status ← Act.ask (.inspect path true)
        match status with
        | .error reason => Act.die 2 ("cannot read: ".toList ++ nameFor path ++ ": ".toList ++ reason.description)
        | .ok _ =>
          let allowed : Bool ← Act.ask (.allows path .read)
          if !allowed then
            Act.die 2 ("cannot read: ".toList ++ nameFor path ++ ": ".toList ++ OsError.noAccess.description)
    let refuseTarget := fun {α : Type} (target : Raw) (reason : OsError) =>
      (Act.die 2 ("open failed: ".toList ++ nameFor target ++ ": ".toList ++ reason.description) : Act α)
    if let some target := targets.head? then
      let result : Except OsError Nat ← Act.ask (.openFile target { Files.Opening.writing with empties := false })
      match result with
      | .error reason => refuseTarget target reason
      | .ok descriptor => Act.ask (.close descriptor)
    let mut files : List (List Raw) := []
    for path in paths do
      files := (← Order.readLines mark path) :: files
    let ready := files.reverse.map fun lines => lines.map plan.line
    let total := (ready.map List.length).foldl (· + ·) 0
    let lines := if invocation.has "m" then
        let merged := plan.merge total ready
        if plan.unique then plan.dropSame merged else merged
      else plan.sort ready.flatten
    match targets.head? with
    | none =>
      if explains then
        for line in lines do
          Act.say (Order.marked plan line.text)
      else Order.writeLines mark (quotedWord "standard output".toList) 1 lines
    | some target => do
      let result : Except OsError Nat ← Act.ask (.openFile target .writing)
      match result with
      | .error reason => refuseTarget target reason
      | .ok descriptor => Order.writeLines mark (nameFor target) descriptor lines

/-- The programs of this kind. -/
def orderTools : List (String × Utility) :=
  [("sort", sort)]

end AnswerQuery.Host.Tool
