import AnswerQuery.Host.Tool.Matching
import AnswerQuery.Host.Tool.Source

/-! Copying files backwards: their records from the last one to the first, or every line from its end to its start. -/

namespace AnswerQuery.Host.Tool

namespace Backwards

/-- What stands between records. -/
inductive Separator where
  | text (text : Raw)
  | expression (matcher : Matcher)

/-- The last place where a separator stands in a text, among so many places from the end: where it begins and ends. -/
def Separator.last? (separator : Separator) (text : Array Char) : Nat → Option (Nat × Nat)
  | 0 => none
  | position + 1 =>
    let stop : Option Nat := match separator with
      | .text mark =>
        if (text.extract position (position + mark.length)).toList == mark then some (position + mark.length) else none
      | .expression matcher => (matcher.matchAt? text position).map Match.stop
    match stop with
    | some stop => some (position, stop)
    | none => separator.last? text position

/-- The records of a text up to where one of them stops, the last one first; each one ends with its separator, or begins
with it. Separators stand within a limit. -/
def records (separator : Separator) (leads : Bool) (text : Array Char) : Nat → Nat → Nat → List Raw
  | 0, _, _ => []
  | steps + 1, limit, stop =>
    match separator.last? (text.extract 0 limit) limit with
    | none => [(text.extract 0 stop).toList]
    | some (start, after) =>
      let cut := if leads then start else after
      (text.extract cut stop).toList :: records separator leads text steps start cut

end Backwards

/-- Copy files from the last record to the first. -/
def tac : Utility := ofAct fun arguments => do
  let known : List Known := [⟨"b", "before", .nothing⟩, ⟨"r", "regex", .nothing⟩, ⟨"s", "separator", .always⟩]
  let invocation ← Act.readOptions 1 known false arguments
  let mark := (invocation.argument? "s").getD ['\n']
  let separator : Backwards.Separator ←
    if !invocation.has "r" then pure (.text (if mark.isEmpty then ['\x00'] else mark))
    else if mark.isEmpty then Act.die 1 "separator cannot be empty".toList
    else match Matcher.read { extended := false, byLine := true } (Dialect.withSlashes mark) with
      | .ok matcher => pure (.expression matcher)
      | .error message => Act.die 1 message.toList
  for path in (if invocation.operands.isEmpty then [['-']] else invocation.operands) do
    if path == ['-'] then
      -- A file is read from its start, wherever it has been read up to.
      let described : Except OsError Described ← Act.ask (.describe 0)
      if let .ok { position := some position, .. } := described then
        let _ ← Act.ask (.move 0 (-Int.ofNat position))
    match ← Act.readFile path with
    | .error reason => do
      let told := if path == ['-'] then "standard input".toList else path
      if reason == OsError.isDirectory then
        Act.complain (nameFor told ++ ": read error: Invalid argument".toList)
      else Act.complain ("failed to open ".toList ++ quotedWord told ++ " for reading: ".toList ++ reason.description)
      Act.fail 1
    | .ok octets =>
      let text := (Raw.ofOctets octets).toArray
      for record in Backwards.records separator (invocation.has "b") text (text.size + 1) text.size text.size do
        Act.say record

/-- Copy files with every line turned round. Only characters of seven bits can be told from one another. -/
def rev : Utility := ofAct fun arguments => do
  let invocation ← Act.readOptions 1 [] false arguments
  let standard : Option Raw := none
  for path in (if invocation.operands.isEmpty then [standard] else invocation.operands.map some) do
    let octets : Except OsError Bytes ← match path with
      | none => Act.readFile ['-']
      | some path => Act.readFile (if path == ['-'] then "./-".toList else path)
    match octets with
    | .error reason => do
      Act.complain ("cannot open ".toList ++ path.getD "stdin".toList ++ ": ".toList ++ reason.description)
      Act.fail 1
    | .ok octets =>
      let lines := linesOf '\n' (Raw.ofOctets octets)
      let isPlain := fun (line : Source.Line) => line.text.all fun c => c.toNat < 128
      let shown := lines.takeWhile isPlain
      for line in shown do
        Act.say (line.text.reverse ++ if line.ended then ['\n'] else [])
      if shown.length < lines.length then
        Act.complain (path.getD "stdin".toList ++ ": ".toList ++ decimal shown.length ++
          ": Invalid or incomplete multibyte or wide character".toList)
        Act.fail 1

/-- The programs of this kind. -/
def backwardTools : List (String × Utility) :=
  [("rev", rev), ("tac", tac)]

end AnswerQuery.Host.Tool
