import AnswerQuery.Host.Tool.Amount
import AnswerQuery.Host.Tool.Matching
import AnswerQuery.Host.Tool.Source

/-! Numbers in front of lines. A page has a head, a body and a foot, each begun by a line that only tells so, and each
with lines of its own to be numbered. -/

namespace AnswerQuery.Host.Tool

namespace Numbering

/-- Which lines are numbered. -/
inductive Style where
  | every
  | filled
  | none
  /-- Those that an expression matches. -/
  | matching (matcher : Matcher)

/-- How a number stands in its width. -/
inductive Stand where
  | left
  | right
  | zeros

/-- A part of a page. -/
inductive Section where
  | head
  | body
  | foot

/-- How lines are numbered. -/
structure Plan where
  /-- The lines of heads. -/
  head : Style := .none
  /-- The lines of bodies. -/
  body : Style := .filled
  /-- The lines of feet. -/
  foot : Style := .none
  /-- The first number. -/
  first : Int := 1
  /-- The step to the next number. -/
  step : Int := 1
  /-- Whether each part of a page begins with the first number. -/
  renews : Bool := true
  /-- How many empty lines are taken together. -/
  joined : Int := 1
  /-- What follows a number. -/
  separator : Raw := ['\t']
  /-- How wide a number is. -/
  width : Nat := 6
  /-- How it stands in its width. -/
  stand : Stand := .right
  /-- What lines consist of that begin parts of pages. -/
  mark : Raw := ['\\', ':']

/-- Which lines of a part are numbered. -/
def Plan.style (plan : Plan) : Section → Style
  | .head => plan.head
  | .body => plan.body
  | .foot => plan.foot

/-- A number in its width. -/
def Plan.numeral (plan : Plan) (number : Int) : Raw :=
  let digits := Numeral.ofInt number
  let room := plan.width - digits.length
  match plan.stand with
  | .left => digits ++ List.replicate room ' '
  | .right => List.replicate room ' ' ++ digits
  | .zeros =>
    if number < 0 then '-' :: List.replicate room '0' ++ digits.drop 1 else List.replicate room '0' ++ digits

/-- The part of a page that a line begins, if it does. -/
def Plan.section? (plan : Plan) (line : Raw) : Option Section :=
  if plan.mark.length < 2 || !(plan.mark.take 2).isPrefixOf line then none
  else if line == plan.mark ++ plan.mark ++ plan.mark then some .head
  else if line == plan.mark ++ plan.mark then some .body
  else if line == plan.mark then some .foot
  else none

/-- How far lines have been numbered. -/
structure Progress where
  /-- The part of the page. -/
  place : Section := .body
  /-- The next number; there is none when it would be too great. -/
  next : Option Int
  /-- How many empty lines have come without a number. -/
  empty : Int := 0

/-- A number as it can be told. -/
def told? (number : Int) : Option Int :=
  if Numeral.fits number then some number else none

/-- Write a line with the next number. -/
def numbered (plan : Plan) (progress : Progress) (line : Raw) : Act Progress := do
  match progress.next with
  | none => Act.die 1 "line number overflow".toList
  | some number => do
    Act.sayLine (plan.numeral number ++ plan.separator ++ line)
    pure { progress with next := told? (number + plan.step) }

/-- Write a line without a number. -/
def unnumbered (plan : Plan) (progress : Progress) (line : Raw) : Act Progress := do
  Act.sayLine (List.replicate (plan.width + plan.separator.length) ' ' ++ line)
  pure progress

/-- Write a line of a page. -/
def pageLine (plan : Plan) (progress : Progress) (line : Raw) : Act Progress := do
  match plan.style progress.place with
  | .none => unnumbered plan progress line
  | .filled => if line.isEmpty then unnumbered plan progress line else numbered plan progress line
  | .matching matcher =>
    if (matcher.find? line.toArray 0).isSome then numbered plan progress line else unnumbered plan progress line
  | .every =>
    if plan.joined ≤ 1 then numbered plan progress line
    else if !line.isEmpty || progress.empty + 1 = plan.joined then
      numbered plan { progress with empty := 0 } line
    else unnumbered plan { progress with empty := progress.empty + 1 } line

/-- Write a line, which may begin a part of a page. -/
def line (plan : Plan) (progress : Progress) (text : Raw) : Act Progress := do
  match plan.section? text with
  | none => pageLine plan progress text
  | some place => do
    Act.say ['\n']
    pure { progress with place, next := if plan.renews then some plan.first else progress.next }

/-- The lines that are numbered as a text tells. -/
def styleOf? : Raw → Except String (Option Style)
  | 'a' :: _ => pure (some .every)
  | 't' :: _ => pure (some .filled)
  | 'n' :: _ => pure (some .none)
  | 'p' :: expression => (some ∘ .matching) <$> Matcher.read { extended := false } expression
  | _ => pure none

/-- What arguments ask for. -/
structure Wish where
  /-- How lines are numbered. -/
  plan : Plan := {}
  /-- Whether something makes no sense. -/
  isRefused : Bool := false

/-- Complain about a text that makes no sense. -/
def Wish.refused (wish : Wish) (what : String) (text : Raw) : Act Wish := do
  Act.complain ("invalid ".toList ++ what.toList ++ ": ".toList ++ quoted text)
  pure { wish with isRefused := true }

/-- Take up a text that tells which lines are numbered. -/
def Wish.styled (wish : Wish) (what : String) (text : Raw) (set_ : Plan → Style → Plan) : Act Wish := do
  match styleOf? text with
  | .error message => Act.die 1 message.toList
  | .ok none => wish.refused (what ++ " numbering style") text
  | .ok (some style) => pure { wish with plan := set_ wish.plan style }

/-- What lines consist of that begin parts of pages, as a text tells. -/
def markOf : Raw → Raw
  | [c] => [c, ':']
  | text => text

/-- Take up an option. -/
def Wish.given (wish : Wish) (given : Given) : Act Wish := do
  let text := given.argument.getD []
  let plan := wish.plan
  let whole := fun (what : String) (least greatest : Int) =>
    Act.amount 1 ("invalid " ++ what) { signed := true } least greatest text
  match given.key with
  | "h" => wish.styled "header" text fun plan head => { plan with head }
  | "b" => wish.styled "body" text fun plan body => { plan with body }
  | "f" => wish.styled "footer" text fun plan foot => { plan with foot }
  | "v" => pure { wish with plan := { plan with first := ← whole "starting line number" Numeral.least Numeral.greatest } }
  | "i" => pure { wish with plan := { plan with step := ← whole "line number increment" Numeral.least Numeral.greatest } }
  | "p" => pure { wish with plan := { plan with renews := false } }
  | "l" => pure { wish with plan := { plan with joined := ← whole "line number of blank lines" 1 Numeral.greatest } }
  | "s" => pure { wish with plan := { plan with separator := text } }
  | "w" => do
    let width ← whole "line number field width" 1 2147483647
    pure { wish with plan := { plan with width := width.toNat } }
  | "n" =>
    match text with
    | ['l', 'n'] => pure { wish with plan := { plan with stand := .left } }
    | ['r', 'n'] => pure { wish with plan := { plan with stand := .right } }
    | ['r', 'z'] => pure { wish with plan := { plan with stand := .zeros } }
    | _ => wish.refused "line numbering format" text
  | "d" => pure { wish with plan := { plan with mark := markOf text } }
  | _ => pure wish

/-- The options. -/
def known : List Known :=
  [⟨"b", "body-numbering", .always⟩, ⟨"d", "section-delimiter", .always⟩, ⟨"f", "footer-numbering", .always⟩,
    ⟨"h", "header-numbering", .always⟩, ⟨"i", "line-increment", .always⟩, ⟨"l", "join-blank-lines", .always⟩,
    ⟨"n", "number-format", .always⟩, ⟨"p", "no-renumber", .nothing⟩, ⟨"s", "number-separator", .always⟩,
    ⟨"v", "starting-line-number", .always⟩, ⟨"w", "number-width", .always⟩]

end Numbering

open AnswerQuery.Host.Tool.Numbering in
/-- Copy files with numbers in front of lines. -/
def nl : Utility := ofAct fun arguments => do
  let (wish, invocation) ← Act.foldOptions 1 known false (fun (wish : Wish) given => wish.given given) {} arguments
  if wish.isRefused then
    Act.report ("Try '".toList ++ (← get).name ++ " --help' for more information.\n".toList)
    Act.finish 1
  let plan := wish.plan
  let mut progress : Progress := { next := some plan.first }
  for path in (if invocation.operands.isEmpty then [['-']] else invocation.operands) do
    let opened ← Source.openAt path 4096
    match opened with
    | .error reason => do
      Act.complainFile path reason
      Act.fail 1
    | .ok source => do
      let (source, after) ← Act.loop (source, progress) fun (source, progress) => do
        match ← source.nextLine '\n' with
        | (none, source) => pure (.inr (source, progress))
        | (some next, source) => do
          let progress ← line plan progress next.text
          pure (.inl (source, progress))
      progress := after
      if let some reason := source.failure then
        Act.complainFile path reason
        Act.fail 1
      source.close

/-- The program that numbers lines. -/
def numberingTools : List (String × Utility) :=
  [("nl", nl)]

end AnswerQuery.Host.Tool
