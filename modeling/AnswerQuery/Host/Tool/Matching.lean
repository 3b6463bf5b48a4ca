import AnswerQuery.Host.Tool.Expression

/-! Where a regular expression matches a text: at the first place where it does, as far as possible. An expression that
refers to no groups is run as an automaton whose threads are kept in the order in which they are wanted; any other is
tried in all ways. -/

namespace AnswerQuery.Host.Tool

/-- A match: where it begins and ends, and what its groups have matched. -/
structure Match where
  /-- Where it begins. -/
  start : Nat
  /-- Where it ends. -/
  stop : Nat
  /-- The groups that have matched, and where. -/
  groups : List (Nat × Nat × Nat) := []
  deriving Repr

namespace Place

/-- Whether a place in a text is as it is wanted; lines are looked at if that is wanted. -/
def holds (byLine : Bool) (text : Array Char) (position : Nat) (place : Place) : Bool :=
  let wordBefore := 0 < position && (text[position - 1]?.map Class.isWord).getD false
  let wordAfter := (text[position]?.map Class.isWord).getD false
  match place with
  | lineStart => position = 0 || (byLine && text[position - 1]? == some '\n')
  | lineEnd => position = text.size || (byLine && text[position]? == some '\n')
  | textStart => position = 0
  | textEnd => position = text.size
  | wordStart => !wordBefore && wordAfter
  | wordEnd => wordBefore && !wordAfter
  | wordEdge => wordBefore != wordAfter
  | noWordEdge => wordBefore == wordAfter

end Place

namespace Automaton

/-- A node of an automaton. -/
inductive Node where
  /-- It takes a character and goes on. -/
  | one (accepts : Char → Bool) (next : Nat)
  /-- It goes on in two ways, the first of which is wanted more. -/
  | fork (first second : Nat)
  /-- It notes the position and goes on. -/
  | note (slot next : Nat)
  /-- It goes on at some places. -/
  | place (place : Place) (next : Nat)
  /-- All is matched. -/
  | finish
  /-- It does not go on. -/
  | stuck

/-- The nodes of an automaton under construction. -/
abbrev Nodes := Array Node

/-- So many copies of a part, one after the other. -/
def copies (part : Nat → Nodes → Nat × Nodes) : Nat → Nat → Nodes → Nat × Nodes
  | 0, next, nodes => (next, nodes)
  | count + 1, next, nodes =>
    let (next, nodes) := copies part count next nodes
    part next nodes

/-- At most so many copies of a part, one after the other, each of which may be the last. -/
def options (part : Nat → Nodes → Nat × Nodes) (greedy : Bool) (last : Nat) : Nat → Nodes → Nat × Nodes
  | 0, nodes => (last, nodes)
  | count + 1, nodes =>
    let (next, nodes) := options part greedy last count nodes
    let (start, nodes) := part next nodes
    (nodes.size, nodes.push (if greedy then .fork start last else .fork last start))

/-- Add the nodes of an expression that goes on at a node: where it starts. -/
def build : Expression → Nat → Nodes → Nat × Nodes
  | .nothing, next, nodes => (next, nodes)
  | .one accepts, next, nodes => (nodes.size, nodes.push (.one accepts next))
  | .place place, next, nodes => (nodes.size, nodes.push (.place place next))
  | .both first second, next, nodes =>
    let (next, nodes) := build second next nodes
    build first next nodes
  | .either first second, next, nodes =>
    let (second, nodes) := build second next nodes
    let (first, nodes) := build first next nodes
    (nodes.size, nodes.push (.fork first second))
  | .many least most greedy repeated, next, nodes =>
    let (next, nodes) := match most with
      | some most => options (build repeated) greedy next (most - least) nodes
      | none =>
        let loop := nodes.size
        let (start, nodes) := build repeated loop (nodes.push .stuck)
        (loop, nodes.setIfInBounds loop (if greedy then .fork start next else .fork next start))
    copies (build repeated) least next nodes
  | .group number inside, next, nodes =>
    let (next, nodes) := (nodes.size, nodes.push (.note (2 * number + 1) next))
    let (start, nodes) := build inside next nodes
    (nodes.size, nodes.push (.note (2 * number) start))
  | _, _, nodes => (nodes.size, nodes.push .stuck)

/-- A way through an automaton: the node it has come to, and the positions noted on it, the last one first. -/
structure Thread where
  /-- The node. -/
  node : Nat
  /-- The slots and the positions. -/
  notes : List (Nat × Nat)

/-- Follow threads until each takes a character or ends, in their order; each node is come to only once. -/
def settle (nodes : Nodes) (byLine : Bool) (text : Array Char) (position : Nat) :
    Nat → List Thread → Array Bool → List Thread → List Thread
  | 0, _, _, settled => settled.reverse
  | _ + 1, [], _, settled => settled.reverse
  | steps + 1, thread :: others, visited, settled =>
    if (visited[thread.node]?).getD true then settle nodes byLine text position steps others visited settled
    else
      let visited := visited.setIfInBounds thread.node true
      let goOn := fun (threads : List Thread) => settle nodes byLine text position steps (threads ++ others) visited settled
      match (nodes[thread.node]?).getD .stuck with
      | .fork first second => goOn [{ thread with node := first }, { thread with node := second }]
      | .note slot next => goOn [⟨next, (slot, position) :: thread.notes⟩]
      | .place place next => goOn (if place.holds byLine text position then [{ thread with node := next }] else [])
      | .stuck => goOn []
      | _ => settle nodes byLine text position steps others visited (thread :: settled)

/-- Let threads go on through a text: the last position at which one of them was finished, with what it has noted. If
the first match is wanted and not the longest one, a thread that is finished ends those behind it. -/
def run (nodes : Nodes) (byLine first : Bool) (text : Array Char) :
    Nat → Nat → List Thread → Option (Nat × List (Nat × Nat)) → Option (Nat × List (Nat × Nat))
  | 0, _, _, best => best
  | steps + 1, position, threads, best =>
    let settled := settle nodes byLine text position (3 * nodes.size + threads.length + 3) threads
      (Array.replicate nodes.size false) []
    let isFinished := fun (thread : Thread) => match nodes[thread.node]? with
      | some .finish => true
      | _ => false
    let best := match settled.find? isFinished with
      | some thread => some (position, thread.notes)
      | none => best
    let kept := if first then settled.takeWhile fun thread => !isFinished thread else settled
    match text[position]? with
    | none => best
    | some c =>
      let moved := kept.filterMap fun (thread : Thread) =>
        match (nodes[thread.node]?).getD .stuck with
        | .one accepts next => if accepts c then some { thread with node := next } else none
        | _ => none
      if moved.isEmpty then best else run nodes byLine first text steps (position + 1) moved best

end Automaton

namespace Exhaustive

/-- Where groups have matched, the last one first. -/
abbrev Groups := List (Nat × Nat × Nat)

/-- A way to go on behind a part of an expression. -/
abbrev Onward := Nat → Nat → Groups → Option Match

/-- A part of an expression: from the start that is told and a position, with a way to go on. -/
abbrev Part := Nat → Nat → Groups → Onward → Option Match

/-- How one of two ways is chosen. -/
abbrev Preference := Option Match → (Unit → Option Match) → Option Match

/-- The way that leads farther, or the first one if none does. -/
def farther (size : Nat) : Preference := fun first second =>
  match first with
  | none => second ()
  | some one =>
    if one.stop = size then first
    else match second () with
      | some other => if one.stop < other.stop then some other else first
      | none => first

/-- The first way that leads anywhere. -/
def earlier : Preference := fun first second => first.orElse second

/-- Repeat a part; a repetition that takes nothing is the last. -/
def repeated (prefer : Preference) (part : Part) (greedy : Bool) (least : Nat) (most : Option Nat) : Nat → Nat → Part
  | 0, _, start, position, groups, next => next start position groups
  | steps + 1, count, start, position, groups, next =>
    let again := fun () => part start position groups fun start' after groups =>
      if after = position && least ≤ count then none
      else repeated prefer part greedy least most steps (count + 1) start' after groups next
    let leave := fun () => next start position groups
    if count < least then again ()
    else if (most.map fun most => decide (most ≤ count)).getD false then leave ()
    else if greedy then prefer (again ()) leave else prefer (leave ()) again

/-- Whether a text stands at a position of another one. -/
def standsAt (text : Array Char) (same : Char → Char → Bool) (from_ to_ position : Nat) : Bool :=
  position + (to_ - from_) ≤ text.size &&
    (List.range (to_ - from_)).all fun offset =>
      match text[from_ + offset]?, text[position + offset]? with
      | some c, some d => same c d
      | _, _ => false

/-- An expression as a part of a match. -/
def part (prefer : Preference) (same : Char → Char → Bool) (byLine : Bool) (text : Array Char) : Expression → Part
  | .nothing => fun start position groups next => next start position groups
  | .one accepts => fun start position groups next =>
    match text[position]? with
    | some c => if accepts c then next start (position + 1) groups else none
    | none => none
  | .place place => fun start position groups next =>
    if place.holds byLine text position then next start position groups else none
  | .both first second => fun start position groups next =>
    part prefer same byLine text first start position groups fun start position groups =>
      part prefer same byLine text second start position groups next
  | .either first second => fun start position groups next =>
    prefer (part prefer same byLine text first start position groups next) fun () =>
      part prefer same byLine text second start position groups next
  | .many least most greedy inside => fun start position groups next =>
    repeated prefer (part prefer same byLine text inside) greedy least most (text.size + least + 2) 0 start position
      groups next
  | .group number inside => fun start position groups next =>
    part prefer same byLine text inside start position groups fun start after groups =>
      next start after ((number, position, after) :: groups)
  | .again number => fun start position groups next =>
    match groups.lookup number with
    | some (from_, to_) =>
      if standsAt text same from_ to_ position then next start (position + (to_ - from_)) groups else none
    | none => none
  | .ahead wanted inside => fun start position groups next =>
    match part prefer same byLine text inside position position groups fun start stop groups => some ⟨start, stop, groups⟩ with
    | some found => if wanted then next start position found.groups else none
    | none => if wanted then none else next start position groups
  | .behind wanted inside => fun start position groups next =>
    let found := (List.range (position + 1)).any fun from_ =>
      (part prefer same byLine text inside from_ from_ groups fun start stop groups =>
        if stop = position then some ⟨start, stop, groups⟩ else none).isSome
    if found == wanted then next start position groups else none
  | .restart => fun _ position groups next => next position position groups

end Exhaustive

/-- The characters with which a text can begin that an expression matches, and whether it matches the empty text
somewhere. -/
def Expression.front : Expression → (Char → Bool) × Bool
  | .nothing => (fun _ => false, true)
  | .one accepts => (accepts, false)
  | .place _ => (fun _ => false, true)
  | .both first second =>
    let (begins, isEmpty) := first.front
    if isEmpty then
      let (others, isEmpty) := second.front
      (fun c => begins c || others c, isEmpty)
    else (begins, false)
  | .either first second =>
    let (begins, isEmpty) := first.front
    let (others, isEmpty') := second.front
    (fun c => begins c || others c, isEmpty || isEmpty')
  | .many least _ _ repeated =>
    let (begins, isEmpty) := repeated.front
    (begins, isEmpty || least == 0)
  | .group _ inside => inside.front
  | _ => (fun _ => true, true)

/-- An expression that is ready to be looked for. -/
structure Matcher where
  /-- Whether lines start and end at the ends of lines. -/
  byLine : Bool
  /-- Whether the first match is wanted and not the longest one. -/
  first : Bool
  /-- When two characters are the same. -/
  same : Char → Char → Bool
  /-- The expression. -/
  expression : Expression
  /-- The automaton of an expression that has one. -/
  nodes : Automaton.Nodes
  /-- Where the automaton starts. -/
  start : Nat
  /-- Whether the expression needs to be tried in all ways. -/
  isComplex : Bool
  /-- How many groups there are. -/
  groupCount : Nat
  /-- Whether a match can begin with a character; none if it can be empty. -/
  begins : Option (Char → Bool)

namespace Matcher

/-- Make an expression ready. -/
def ofExpression (dialect : Dialect) (first : Bool) (expression : Expression) : Matcher :=
  let (start, nodes) := Automaton.build expression 0 #[.finish]
  { byLine := dialect.byLine && dialect.anchorsLines, first, same := fun c d => dialect.fold c == dialect.fold d, expression, nodes, start
    isComplex := expression.isComplex, groupCount := expression.groupCount
    begins := match expression.front with
      | (_, true) => none
      | (begins, false) => some begins }

/-- Read an expression and make it ready. -/
def read (dialect : Dialect) (text : Raw) : Except String Matcher :=
  (dialect.read text).map (ofExpression dialect false)

/-- Where groups have begun and ended, from what was noted. -/
def groupsOf (count : Nat) (notes : List (Nat × Nat)) : List (Nat × Nat × Nat) :=
  (List.range count).filterMap fun index =>
    let number := index + 1
    match notes.lookup (2 * number + 1) with
    | some stop =>
      -- The start that belongs to an end was noted before it.
      let before := (notes.dropWhile fun pair => pair.1 != 2 * number + 1).drop 1
      (before.lookup (2 * number)).map fun start => (number, start, stop)
    | none => none

/-- The match that begins at a position. -/
def matchAt? (matcher : Matcher) (text : Array Char) (position : Nat) : Option Match :=
  if matcher.isComplex then
    let prefer := if matcher.first then Exhaustive.earlier else Exhaustive.farther text.size
    Exhaustive.part prefer matcher.same matcher.byLine text matcher.expression position position []
      fun start stop groups => some ⟨start, stop, groups⟩
  else
    match Automaton.run matcher.nodes matcher.byLine matcher.first text (text.size - position + 1) position
      [⟨matcher.start, []⟩] none with
    | some (stop, notes) => some ⟨position, stop, groupsOf matcher.groupCount notes⟩
    | none => none

/-- The first match that begins at a position or behind it, among so many positions. -/
def search? (matcher : Matcher) (text : Array Char) : Nat → Nat → Option Match
  | 0, _ => none
  | steps + 1, position =>
    let canBegin := match matcher.begins with
      | some begins => (text[position]?.map begins).getD false
      | none => true
    match (if canBegin then matcher.matchAt? text position else none) with
    | some found => some found
    | none => if text.size ≤ position then none else matcher.search? text steps (position + 1)

/-- The first match that begins at a position or behind it. -/
def find? (matcher : Matcher) (text : Array Char) (position : Nat) : Option Match :=
  matcher.search? text (text.size - position + 1) position

end Matcher

end AnswerQuery.Host.Tool
