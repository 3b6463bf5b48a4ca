import AnswerQuery.Host.Tool.Source

/-! Cutting lines into parts, and putting lines side by side. -/

namespace AnswerQuery.Host.Tool

namespace Slice

/-- The kind of parts that lines have. -/
inductive Portion where
  | octets
  | characters
  | fields
  deriving DecidableEq, Repr

/-- Parts from one on, up to another one if there is a last. -/
structure Span where
  /-- The first part. -/
  first : Nat
  /-- The last part, if there is one. -/
  last : Option Nat
  deriving Repr

namespace Span

/-- Whether a part belongs to a span. -/
def covers (span : Span) (index : Nat) : Bool :=
  span.first ≤ index && (span.last.map fun last => decide (index ≤ last)).getD true

end Span

/-- The sentence about a part that has no number. -/
def unnumbered (unit : Portion) : Raw :=
  if unit == .fields then "fields are numbered from 1".toList else "byte/character positions are numbered from 1".toList

/-- Read a number in a list, or tell what is wrong with the rest of the list. -/
def readNumber (unit : Portion) (text : Raw) : Except Raw (Option Nat × Raw) := do
  let digits := text.takeWhile Char.isDigit
  if digits.isEmpty then pure (none, text)
  else
    let number := Numeral.valueOf 10 digits
    if Numeral.wordCount - 1 ≤ number then
      throw ((if unit == .fields then "field number " else "byte/character offset ").toList ++ quoted digits ++
        " is too large".toList)
    pure (some number, text.drop digits.length)

/-- Whether a character separates the parts of a list. -/
def separates (c : Char) : Bool :=
  c == ',' || c == ' ' || c == '\t'

/-- The sentence about a character that does not belong to a list. -/
def misplaced (unit : Portion) (text : Raw) : Raw :=
  (if unit == .fields then "invalid field value " else "invalid byte/character position ").toList ++ quoted text

/-- Read a list of parts. -/
def readSpans (unit : Portion) : Nat → Raw → Except Raw (List Span)
  | 0, _ => .ok []
  | steps + 1, text => do
    let (first, rest) ← readNumber unit text
    let endOf := fun (rest : Raw) => rest.isEmpty || (rest.head?.map separates).getD false
    let goOn := fun (span : Span) (rest : Raw) => do
      match rest with
      | [] => pure [span]
      | _ :: rest =>
        let others ← readSpans unit steps rest
        pure (span :: others)
    match rest with
    | '-' :: rest' =>
      let (last, rest'') ← readNumber unit rest'
      if rest''.head? == some '-' then
        throw (if unit == .fields then "invalid field range" else "invalid byte or character range").toList
      if !endOf rest'' then throw (misplaced unit (if first.isNone && last.isNone then rest'' else rest''))
      if first == some 0 then throw (unnumbered unit)
      match first, last with
      | none, none => throw "invalid range with no endpoint: -".toList
      | _, some last =>
        if last < first.getD 1 then throw "invalid decreasing range".toList
        goOn ⟨first.getD 1, some last⟩ rest''
      | _, none => goOn ⟨first.getD 1, none⟩ rest''
    | _ =>
      if !endOf rest then throw (misplaced unit rest)
      match first with
      | none => throw (unnumbered unit)
      | some 0 => throw (unnumbered unit)
      | some index => goOn ⟨index, some index⟩ rest

/-- How lines are cut. -/
structure Cut where
  /-- The kind of parts. -/
  unit : Portion
  /-- Whether a part is wanted. -/
  wants : Nat → Bool
  /-- Whether a span begins with a part. -/
  begins : Nat → Bool
  /-- What separates parts. -/
  delimiter : Char
  /-- What is written between parts, if that was told. -/
  between : Option Raw
  /-- Whether lines without a separator are left out. -/
  onlyDelimited : Bool
  /-- What ends lines. -/
  mark : Char

/-- The characters of a line that are wanted; spans are kept apart if something is to stand between them. -/
def cutCharacters (cut : Cut) (text : Raw) : Raw :=
  let kept := text.zipIdx.filterMap fun (c, index) => if cut.wants (index + 1) then some (c, index + 1) else none
  match cut.between with
  | none => kept.map Prod.fst
  | some between =>
    (kept.zipIdx).flatMap fun ((c, index), place) =>
      if place != 0 && cut.begins index then between ++ [c] else [c]

/-- The fields of a line that are wanted; none if the line is left out. -/
def cutFields (cut : Cut) (text : Raw) : Option Raw :=
  let fields := Raw.split cut.delimiter text
  match fields with
  | [_] => if cut.onlyDelimited then none else some text
  | _ =>
    let kept := fields.zipIdx.filterMap fun (field, index) => if cut.wants (index + 1) then some field else none
    some ((cut.between.getD [cut.delimiter]).intercalate kept)

/-- Cut the lines of a file. -/
def cutFile (cut : Cut) (source : Source) : Act Source := do
  if cut.unit == .fields && cut.delimiter == cut.mark then
    -- The lines themselves are the fields.
    let result : Except OsError Bytes ← StateT.lift (Job.readAll source.descriptor)
    match result with
    | .error reason => pure { source with failure := some reason }
    | .ok octets => do
      let text := Raw.ofOctets octets
      let bare := if text.getLast? == some cut.mark then text.dropLast else text
      if !text.isEmpty then
        if let some kept := cutFields cut bare then
          Act.say (kept ++ [cut.mark])
      pure source
  else
    Act.loop source fun source => do
      match ← source.nextLine cut.mark with
      | (none, source) => pure (.inr source)
      | (some line, source) => do
        let kept := if cut.unit == .fields then cutFields cut line.text else some (cutCharacters cut line.text)
        if let some kept := kept then Act.say (kept ++ [cut.mark])
        pure (.inl source)

/-- The options of the program that cuts lines. -/
def cutOptions : List Known :=
  [⟨"b", "bytes", .always⟩, ⟨"c", "characters", .always⟩, ⟨"f", "fields", .always⟩, ⟨"d", "delimiter", .always⟩,
    ⟨"n", "", .nothing⟩, ⟨"s", "only-delimited", .nothing⟩, ⟨"output-delimiter", "output-delimiter", .always⟩,
    ⟨"complement", "complement", .nothing⟩, ⟨"z", "zero-terminated", .nothing⟩]

/-- Go through files, and tell which cannot be read. -/
def eachFile (paths : List Raw) (whole : Source → Act Source) : Act Unit := do
  for path in (if paths.isEmpty then [['-']] else paths) do
    match ← Source.openAt path 4096 with
    | .error reason => do
      Act.complainFile path reason
      Act.fail 1
    | .ok source => do
      let source ← whole source
      if let some reason := source.failure then
        Act.complainFile path reason
        Act.fail 1
        if source.descriptor = 0 && reason == .badDescriptor then
          Act.complain ("-: ".toList ++ reason.description)
      source.close

end Slice

/-- Write parts of lines. -/
def cut : Utility := ofAct fun arguments => do
  let (_, invocation) ← Act.foldOptions 1 Slice.cutOptions false (fun (hasList : Bool) given => do
    if given.key == "d" && decide (1 < (given.argument.getD []).length) then
      Act.refuse 1 "the delimiter must be a single character".toList
    if !(["b", "c", "f"].contains given.key) then pure hasList
    else if hasList then Act.refuse 1 "only one list may be specified".toList
    else pure true) false arguments
  let lists := invocation.given.filter fun given => ["b", "c", "f"].contains given.key
  let delimiter := invocation.argument? "d"
  match lists with
  | [] => Act.refuse 1 "you must specify a list of bytes, characters, or fields".toList
  | list :: _ => do
    let unit : Slice.Portion := if list.key == "f" then .fields else if list.key == "b" then .octets else .characters
    if unit != .fields && delimiter.isSome then
      Act.refuse 1 "an input delimiter may be specified only when operating on fields".toList
    if unit != .fields && invocation.has "s" then
      Act.refuse 1 "suppressing non-delimited lines makes sense\n\tonly when operating on fields".toList
    let text := list.argument.getD []
    match Slice.readSpans unit (text.length + 1) text with
    | .error message => Act.refuse 1 message
    | .ok spans => do
      let complement := invocation.has "complement"
      let covered := fun (index : Nat) => spans.any (fun span => span.covers index) != complement
      -- A span that another one covers does not begin anew.
      let begins := fun (index : Nat) =>
        if complement then !covered (index - 1)
        else spans.any (fun span => span.first == index) && !spans.any fun span => span.first < index && span.covers index
      let cut : Slice.Cut := {
        unit, wants := covered, begins
        delimiter := ((delimiter.getD ['\t']).head?).getD '\x00'
        between := (invocation.argument? "output-delimiter").map fun text => if text.isEmpty then ['\x00'] else text
        onlyDelimited := invocation.has "s", mark := if invocation.has "z" then '\x00' else '\n' }
      Slice.eachFile invocation.operands (Slice.cutFile cut)

namespace Slice

/-- The separators that a text tells, with escapes; none stands for nothing in between. -/
def readSeparators : Raw → Option (List (Option Char))
  | [] => some []
  | ['\\'] => none
  | '\\' :: c :: rest =>
    let one := match c with
      | '0' => none
      | 'b' => some '\x08'
      | 'f' => some '\x0c'
      | 'n' => some '\n'
      | 'r' => some '\r'
      | 't' => some '\t'
      | 'v' => some '\x0b'
      | _ => some c
    (readSeparators rest).map (one :: ·)
  | c :: rest => (readSeparators rest).map (some c :: ·)

/-- A separator by its place, if there are any; they come round again. -/
def separatorAt (separators : Array (Option Char)) (place : Nat) : Raw :=
  if separators.isEmpty then []
  else ((separators[place % separators.size]?).getD none).toList

/-- Put the lines of each file side by side. -/
def pasteSerial (separators : Array (Option Char)) (mark : Char) (source : Source) : Act Source := do
  let (source, _) ← Act.loop (source, 0) fun (source, count) => do
    match ← source.nextLine mark with
    | (none, source) => pure (.inr (source, count))
    | (some line, source) => do
      Act.say ((if count = 0 then [] else separatorAt separators (count - 1)) ++ line.text)
      pure (.inl (source, count + 1))
  Act.say [mark]
  pure source

/-- Take the next line of each source: the lines, and what is left. A source that stands for the standard input shares
what has been read of it with the others of that kind. -/
def takeRow (mark : Char) : List (Option Source) → Option Source → Act (List (Option Raw) × List (Option Source) × Option Source)
  | [], shared => pure ([], [], shared)
  | none :: others, shared => do
    let (lines, sources, shared) ← takeRow mark others shared
    pure (none :: lines, none :: sources, shared)
  | some source :: others, shared => do
    let isShared := source.descriptor = 0
    let current := if isShared then shared.getD source else source
    let (line, current) ← current.nextLine mark
    let shared := if isShared then some current else shared
    let kept := match line with
      | some _ => some current
      | none => none
    let (lines, sources, shared) ← takeRow mark others shared
    pure (line.map Source.Line.text :: lines, kept :: sources, shared)

/-- Put lines of several files side by side. -/
def pasteParallel (separators : Array (Option Char)) (mark : Char) (sources : List Source) : Act Unit :=
  Act.loop (sources.map some, (none : Option Source)) fun (current, shared) => do
    let (lines, next, shared) ← takeRow mark current shared
    -- A source that gave its last line with an error is told about once.
    for (before, after) in current.zip next do
      if let (some source, none) := (before, after) then
        let failure := if source.descriptor = 0 then shared.bind Source.failure else none
        if let some reason := failure then
          Act.complainFile source.path reason
          if reason == .badDescriptor then Act.complain ("-: ".toList ++ reason.description)
          Act.fail 1
    if lines.all Option.isNone then pure (.inr ())
    else do
      let text := (lines.zipIdx).flatMap fun (line, index) =>
        (if index = 0 then [] else separatorAt separators (index - 1)) ++ line.getD []
      Act.say (text ++ [mark])
      pure (.inl (next, shared))

end Slice

/-- Put lines side by side. -/
def paste : Utility := ofAct fun arguments => do
  let known : List Known := [⟨"d", "delimiters", .always⟩, ⟨"s", "serial", .nothing⟩, ⟨"z", "zero-terminated", .nothing⟩]
  let invocation ← Act.readOptions 1 known false arguments
  let text := (invocation.argument? "d").getD ['\t']
  match Slice.readSeparators text with
  | none => Act.die 1 ("delimiter list ends with an unescaped backslash: ".toList ++ text)
  | some separators => do
    let separators := separators.toArray
    let mark := if invocation.has "z" then '\x00' else '\n'
    let paths := if invocation.operands.isEmpty then [['-']] else invocation.operands
    if invocation.has "s" then Slice.eachFile paths (Slice.pasteSerial separators mark)
    else
      let mut sources : List Source := []
      for path in paths do
        match ← Source.openAt path 4096 with
        | .error reason => Act.die 1 (nameFor path ++ ": ".toList ++ reason.description)
        | .ok source => sources := sources ++ [source]
      -- What cannot be read at all is told about before anything is written.
      let begun ← sources.mapM fun source => do
        let source ← if source.descriptor = 0 then pure source else source.feed
        if let some reason := source.failure then
          Act.complainFile source.path reason
          Act.fail 1
        pure source
      Slice.pasteParallel separators mark begun

/-- The programs of this kind. -/
def sliceTools : List (String × Utility) :=
  [("cut", cut), ("paste", paste)]

end AnswerQuery.Host.Tool
