import AnswerQuery.Host.Tool.Amount
import AnswerQuery.Host.Tool.Source

/-! Filling: paragraphs whose words are put into lines of about the same length, at the least cost. -/

namespace AnswerQuery.Host.Tool

namespace Filling

/-- How paragraphs are found and filled. -/
structure Plan where
  /-- Whether the first two lines of a paragraph keep how far they are indented. -/
  crown : Bool := false
  /-- Whether the first line of a paragraph is indented in another way than the others. -/
  tagged : Bool := false
  /-- Whether lines are only cut. -/
  split : Bool := false
  /-- Whether one blank stands between words, and two between sentences. -/
  uniform : Bool := false
  /-- How long lines are at most. -/
  width : Nat := 75
  /-- How long lines should be. -/
  goal : Nat := 70
  /-- What lines have in front of them. -/
  sign : Raw := []
  /-- How many blanks stand in front of that. -/
  signLead : Nat := 0
  /-- How long that is with the blanks behind it. -/
  signLength : Nat := 0

/-- A word, and how it goes on behind it. -/
structure Word where
  /-- The characters. -/
  text : Raw
  /-- How many columns follow it. -/
  space : Nat := 1
  /-- Whether it begins with an opening bracket or quote. -/
  opens : Bool
  /-- Whether it ends as sentences do. -/
  period : Bool
  /-- Whether it ends with a mark. -/
  punctuated : Bool
  /-- Whether a sentence ends with it. -/
  final : Bool := false

/-- How the lines go on best from a word. -/
structure Break where
  /-- The cost of what begins here. -/
  cost : Int := 0
  /-- The word that begins the next line. -/
  next : Nat := 0
  /-- How long the line is that begins here. -/
  length : Nat := 0
  deriving Inhabited

/-- What is known while a text is filled. -/
structure Press where
  /-- What has not been read. -/
  input : Raw
  /-- How far the line has been read. -/
  column : Nat := 0
  /-- Where the sign of the line stands. -/
  signColumn : Nat := 0
  /-- Where the sign of the paragraph stands. -/
  ownSignColumn : Nat := 0
  /-- How far the first line of the paragraph is indented. -/
  firstIndent : Nat := 0
  /-- How far the other lines are indented. -/
  otherIndent : Nat := 0
  /-- Whether there are tabs. -/
  tabs : Bool := false
  /-- How long the last line was that was written. -/
  lastLength : Nat := 0
  /-- The words of the paragraph. -/
  words : Array Word := #[]
  /-- How many characters they have. -/
  size : Nat := 0
  /-- What has been written, the last piece first. -/
  written : List Raw := []

/-- How far columns are that tabs lead to. -/
def tabWidth : Nat := 8

/-- How many words are kept at once. -/
def mostWords : Nat := 998

/-- How many characters are kept at once. -/
def mostCharacters : Nat := 5000

/-- The square of a cost. -/
def squared (n : Int) : Int := n * n

/-- What it costs that a line is so much shorter than it should be. -/
def shortCost (n : Int) : Int := squared (n * 10)

/-- What it costs that the lengths of two lines differ by so much. -/
def raggedCost (n : Int) : Int := Int.tdiv (shortCost n) 2

/-- What it costs to begin a line with a word. -/
def baseCost (words : Array Word) (place : Nat) : Int :=
  let before := if place = 0 then none else words[place - 1]?
  let cost : Int := squared 70
  let cost := match before with
    | none => cost
    | some word =>
      if word.period then if word.final then cost - squared 50 else cost + squared 600
      else if word.punctuated then cost - squared 40
      else
        let isSecond := 1 < place && ((words[place - 2]?).map Word.final).getD false
        if isSecond then cost + Int.tdiv (squared 200) (Int.ofNat word.text.length + 2) else cost
  match words[place]? with
  | none => cost
  | some word =>
    if word.opens then cost - squared 40
    else if word.final then cost + Int.tdiv (squared 150) (Int.ofNat word.text.length + 2)
    else cost

/-- What a line of a length costs if the next one begins with a word. -/
def lineCost (plan : Plan) (count : Nat) (breaks : Array Break) (next length : Nat) : Int :=
  if next = count then 0
  else
    let follow := (breaks[next]?).getD default
    let cost := shortCost (Int.ofNat plan.goal - Int.ofNat length)
    if follow.next = count then cost else cost + raggedCost (Int.ofNat length - Int.ofNat follow.length)

/-- The best break among those from a word on, given how long the line is up to there. -/
def bestFrom (plan : Plan) (words : Array Word) (breaks : Array Break) (last : Option Nat) :
    Nat → Nat → Nat → Option Break → Option Break
  | 0, _, _, best => best
  | steps + 1, place, length, best =>
    let next := place + 1
    let cost := lineCost plan words.size breaks next length + ((breaks[next]?).getD default).cost
    let cost := match last with
      | some last => cost + raggedCost (Int.ofNat length - Int.ofNat last)
      | none => cost
    let isBetter := match best with
      | none => true
      | some best => cost < best.cost
    let best := if isBetter then some ⟨cost, next, length⟩ else best
    match words[place]?, words[next]? with
    | some word, some follower =>
      let length := length + word.space + follower.text.length
      if length < plan.width then bestFrom plan words breaks last steps next length best else best
    | _, _ => best

/-- The best breaks of a paragraph, from so many words on down. -/
def breaksFrom (plan : Plan) (press : Press) : Nat → Array Break → Array Break
  | 0, breaks => breaks
  | place + 1, breaks =>
    let indent := if place = 0 then press.firstIndent else press.otherIndent
    let length := indent + ((press.words[place]?).map fun word => word.text.length).getD 0
    let last := if place = 0 && press.lastLength != 0 then some press.lastLength else none
    let best := (bestFrom plan press.words breaks last press.words.size place length none).getD default
    let best := { best with cost := best.cost + baseCost press.words place }
    breaksFrom plan press place (breaks.set! place best)

/-- The best breaks of a paragraph. -/
def breaksOf (plan : Plan) (press : Press) : Array Break :=
  breaksFrom plan press press.words.size (Array.replicate (press.words.size + 1) default)

/-- Blanks and tabs from a column to another one. -/
def gap (tabs : Bool) (column : Nat) (space : Nat) : Raw :=
  let target := column + space
  let stop := target / tabWidth * tabWidth
  if tabs && column + 1 < stop then
    List.replicate (stop / tabWidth - column / tabWidth) '\t' ++ List.replicate (target - stop) ' '
  else List.replicate space ' '

/-- Words with the space between them, from a column on, and the column behind them. -/
def line (tabs : Bool) : Nat → List Word → Raw × Nat
  | column, [] => ([], column)
  | column, [word] => (word.text, column + word.text.length)
  | column, word :: rest =>
    let behind := column + word.text.length
    let (text, reached) := line tabs (behind + word.space) rest
    (word.text ++ gap tabs behind word.space ++ text, reached)

/-- Write a line of words from one to another one. -/
def putLine (plan : Plan) (press : Press) (from_ to_ indent : Nat) : Press :=
  let front := gap press.tabs 0 press.ownSignColumn ++ plan.sign
  let column := press.ownSignColumn + plan.sign.length
  let blanks := gap press.tabs column (indent - column)
  let (text, reached) := line press.tabs (max column indent) (press.words.extract from_ to_).toList
  { press with lastLength := reached, written := (front ++ blanks ++ text ++ ['\n']) :: press.written }

/-- Write lines up to a word. -/
def putLines (plan : Plan) (breaks : Array Break) (stop : Nat) : Nat → Nat → Press → Press
  | 0, _, press => press
  | steps + 1, place, press =>
    if stop ≤ place then press
    else
      let next := ((breaks[place]?).getD default).next
      let press := putLine plan press place next (if place = 0 then press.firstIndent else press.otherIndent)
      putLines plan breaks stop steps next press

/-- The word of a long paragraph that is best for beginning another one. -/
def splitPoint (breaks : Array Break) (count : Nat) : Nat → Nat → Option Int → Nat → Nat
  | 0, _, _, best => best
  | steps + 1, place, least, best =>
    if count ≤ place then best
    else
      let here := (breaks[place]?).getD default
      let cost := here.cost - ((breaks[here.next]?).getD default).cost
      let isBetter := match least with
        | none => true
        | some least => cost < least
      let (least, best) := if isBetter then (some cost, place) else (least, best)
      splitPoint breaks count steps here.next (least.map (· + 9)) best

/-- Write the first lines of a paragraph that has become too long. -/
def relieve (plan : Plan) (press : Press) : Press :=
  let count := press.words.size
  let breaks := breaksOf plan press
  let stop := splitPoint breaks count count ((breaks[0]?).getD default).next none count
  let press := putLines plan breaks stop count 0 press
  let left := press.words.extract stop count
  { press with words := left, size := left.foldl (fun size word => size + word.text.length) 0 }

/-- Go over blanks and tabs. -/
def skipSpace (press : Press) : Press :=
  let front := press.input.takeWhile fun c => c == ' ' || c == '\t'
  let column := front.foldl (fun column c =>
    if c == '\t' then (column / tabWidth + 1) * tabWidth else column + 1) press.column
  { press with input := press.input.drop front.length, column, tabs := press.tabs || front.contains '\t' }

/-- Go over the sign, as far as it is there; the flag tells whether all of it is. -/
def skipSign : Raw → Press → Press × Bool
  | [], press => (press, true)
  | c :: sign, press =>
    match press.input with
    | d :: rest => if c == d then skipSign sign { press with input := rest, column := press.column + 1 } else (press, false)
    | [] => (press, false)

/-- Go over what stands in front of the words of a line. -/
def readFront (plan : Plan) (press : Press) : Press :=
  let press := skipSpace { press with column := 0 }
  if plan.sign.isEmpty then { press with signColumn := min plan.signLead press.column }
  else
    match skipSign plan.sign { press with signColumn := press.column } with
    | (press, true) => skipSpace press
    | (press, false) => press

/-- Whether the line that has been begun belongs to the same paragraph. -/
def continues (plan : Plan) (press : Press) : Bool :=
  press.signColumn == press.ownSignColumn && press.signColumn + plan.signLength ≤ press.column &&
    (match press.input with
      | [] => false
      | c :: _ => c != '\n')

/-- Find out how far the lines behind the first one are indented. -/
def setIndent (plan : Plan) (press : Press) (same : Bool) : Press :=
  let otherIndent :=
    if plan.split then press.firstIndent
    else if plan.crown then if same then press.column else press.firstIndent
    else if plan.tagged then
      if same && press.column != press.firstIndent then press.column
      else if press.otherIndent == press.firstIndent then if press.firstIndent = 0 then 3 else 0
      else press.otherIndent
    else press.firstIndent
  { press with otherIndent }

/-- A word with what matters of its marks. -/
def wordOf (text : Raw) : Word :=
  let isMark := fun (c : Char) => 32 < c.toNat && c.toNat < 127 && !c.isAlphanum
  let first := text.take 1
  let inner := first ++ dropTrailing (")]'\"".toList.contains ·) (text.drop 1)
  { text
    opens := first.any "(['\x60\"".toList.contains
    punctuated := (text.getLast?.map isMark).getD false
    period := (inner.getLast?.map ".?!".toList.contains).getD false }

/-- Read a word, piece by piece if it is very long. -/
def readWord (plan : Plan) : Nat → Press → Press × Raw
  | 0, press => (press, [])
  | steps + 1, press =>
    let all := press.input.take 1 ++ (press.input.drop 1).takeWhile fun c => !Raw.isSpace c
    let room := mostCharacters - press.size
    if all.length ≤ room then
      ({ press with input := press.input.drop all.length, column := press.column + all.length, size := press.size + all.length },
        all)
    else if press.words.isEmpty then
      let press := { press with input := press.input.drop room, size := 0, written := all.take room :: press.written }
      readWord plan steps (setIndent plan press true)
    else
      let press := setIndent plan press true
      let before := press.size
      let press := relieve plan press
      if press.size < before then readWord plan steps press
      else ({ press with input := press.input.drop all.length, column := press.column + all.length }, all)

/-- Read the words of a line, and go over what stands in front of the words of the next one. -/
def readLine (plan : Plan) : Nat → Press → Press
  | 0, press => press
  | steps + 1, press =>
    let (press, text) := readWord plan (press.input.length + 1) press
    let word := wordOf text
    let start := press.column
    let press := skipSpace press
    let isOver := press.input.isEmpty
    let isEnd := isOver || press.input.head? == some '\n'
    let space := press.column - start
    let final := isOver || (word.period && (isEnd || 1 < space))
    let space := if isEnd || plan.uniform then (if final then 2 else 1) else space
    let words := press.words.push { word with space, final }
    let press := { press with words }
    let press := if words.size = mostWords then relieve plan (setIndent plan press true) else press
    if isEnd then readFront plan { press with input := press.input.drop 1 }
    else readLine plan steps press

/-- Read lines as long as they belong to the paragraph and, if that is wanted, are indented like the second one. -/
def readLines (plan : Plan) : Nat → Press → Press
  | 0, press => press
  | steps + 1, press =>
    if continues plan press && press.column == press.otherIndent then
      readLines plan steps (readLine plan (press.input.length + 1) press)
    else press

/-- Copy the rest of a line that belongs to no paragraph; the flag tells whether the text is at its end. -/
def copyLine (plan : Plan) (press : Press) : Press × Bool :=
  let isOver := press.input.isEmpty
  let isEnd := isOver || press.input.head? == some '\n'
  let front := if press.signColumn < press.column || !isEnd then
      let sign := plan.sign.take (press.column - press.signColumn)
      let column := press.signColumn + sign.length
      gap press.tabs 0 press.signColumn ++ sign ++
        (if isEnd then [] else gap press.tabs column (press.column - column)) ++
        if isOver && press.signColumn + plan.sign.length ≤ press.column then ['\n'] else []
    else []
  let rest := press.input.takeWhile (· != '\n')
  let behind := press.input.drop rest.length
  if behind.isEmpty then ({ press with input := [], written := (front ++ rest) :: press.written }, true)
  else (readFront plan { press with input := behind.drop 1, written := (front ++ rest ++ ['\n']) :: press.written }, false)

/-- Read and write one paragraph. -/
def fillOne (plan : Plan) (press : Press) : Press :=
  let press := { press with ownSignColumn := press.signColumn, firstIndent := press.column, words := #[], size := 0 }
  let press := readLine plan (press.input.length + 1) press
  let press := setIndent plan press (continues plan press)
  let fuel := press.input.length + 1
  let press :=
    if plan.split then press
    else if plan.crown then
      if continues plan press then readLines plan fuel (readLine plan fuel press) else press
    else if plan.tagged then
      if continues plan press && press.column != press.firstIndent then readLines plan fuel (readLine plan fuel press)
      else press
    else readLines plan fuel press
  let last := press.words.size - 1
  let press := { press with words := press.words.modify last fun word => { word with period := true, final := true } }
  putLines plan (breaksOf plan press) press.words.size press.words.size 0 press

/-- Fill all paragraphs. -/
def fillAll (plan : Plan) : Nat → Press → Press
  | 0, press => press
  | steps + 1, press =>
    let isText := match press.input with
      | [] => false
      | c :: _ => c != '\n'
    if !isText || press.signColumn < plan.signLead || press.column < press.signColumn + plan.signLength then
      match copyLine plan { press with lastLength := 0 } with
      | (press, true) => press
      | (press, false) => fillAll plan steps press
    else fillAll plan steps (fillOne plan { press with lastLength := 0 })

/-- A text whose paragraphs are filled. -/
def fill (plan : Plan) (text : Raw) : Raw :=
  (fillAll plan (text.length + 2) (readFront plan { input := text })).written.reverse.flatten

/-- The options that are known. -/
def known : List Known :=
  [⟨"c", "crown-margin", .nothing⟩, ⟨"p", "prefix", .always⟩, ⟨"s", "split-only", .nothing⟩,
    ⟨"t", "tagged-paragraph", .nothing⟩, ⟨"u", "uniform-spacing", .nothing⟩, ⟨"w", "width", .always⟩,
    ⟨"g", "goal", .always⟩] ++
    (List.range 10).map fun digit => ⟨String.ofList (decimal digit), "", .nothing⟩

/-- How long a line may be that is asked for. -/
def mostWidth : Nat := 2500

/-- How paragraphs are filled after arguments, given the width that stands in front of them. -/
def planOf (front : Option Raw) (invocation : Invocation) : Act Plan := do
  for given in invocation.given do
    if given.key.toList.all Char.isDigit then
      Act.refuse 1 ("invalid option -- ".toList ++ given.key.toList ++
        "; -WIDTH is recognized only when it is the first\noption; use -w N instead".toList)
  let measure := fun (text : Raw) (most : Nat) => do
    let width ← Act.amount 1 "invalid width" {} 0 (Int.ofNat most) text
    pure width.toNat
  let asked := (invocation.argument? "w").orElse fun _ => front
  let width ← match asked with
    | some text => measure text mostWidth
    | none => pure 75
  let (width, goal) ← match invocation.argument? "g" with
    | some text => do
      let goal ← measure text width
      pure (if asked.isNone then goal + 10 else width, goal)
    | none => pure (width, width * 187 / 200)
  let sign := ((invocation.argument? "p").getD [])
  let own := sign.dropWhile (· == ' ')
  pure {
    crown := invocation.has "c"
    tagged := invocation.has "t"
    split := invocation.has "s"
    uniform := invocation.has "u"
    width, goal
    sign := dropTrailing (· == ' ') own
    signLead := sign.length - own.length
    signLength := own.length }

end Filling

/-- Fill the paragraphs of files. -/
def fmt : Utility := ofAct fun arguments => do
  let (front, arguments) := match arguments with
    | ('-' :: digit :: rest) :: others =>
      if digit.isDigit then (some (digit :: rest), others) else (none, arguments)
    | _ => (none, arguments)
  let invocation ← Act.readOptions 1 Filling.known false arguments
  let plan ← Filling.planOf front invocation
  let paths := if invocation.operands.isEmpty then [['-']] else invocation.operands
  for path in paths do
    match ← Act.readFile path with
    | .ok octets => Act.say (Filling.fill plan (Raw.ofOctets octets))
    | .error .isDirectory => do
      Act.complain "read error".toList
      Act.fail 1
    | .error reason => do
      Act.complain ("cannot open ".toList ++ quotedWord path ++ " for reading: ".toList ++ reason.description)
      Act.fail 1

/-- The programs that are here. -/
def fillingTools : List (String × Utility) :=
  [("fmt", fmt)]

end AnswerQuery.Host.Tool
