/-! Alignments: which lines of two files are changed so that the others are the same in both. Lines are told apart by
numbers; two lines with the same number are the same. -/

namespace AnswerQuery.Host.Tool

namespace Alignment

/-- Which lines of two files are changed. -/
structure Marks where
  /-- Which lines of the first file are left out. -/
  removed : Array Bool
  /-- Which lines of the second file are added. -/
  added : Array Bool

/-- A part of the table that compares all lines of one file with all lines of the other one. -/
structure Box where
  /-- The first line of the first file. -/
  left : Nat
  /-- Where the lines of the first file end. -/
  right : Nat
  /-- The first line of the second file. -/
  top : Nat
  /-- Where the lines of the second file end. -/
  bottom : Nat

/-- How far the search for a path through a box has come on each diagonal, from both corners. -/
structure Search where
  /-- How far it has come forwards, by diagonals. -/
  forward : Array Int
  /-- How far it has come backwards, by diagonals. -/
  backward : Array Int
  /-- The diagonals that have been reached forwards. -/
  forwardFrom : Int
  /-- The last of them. -/
  forwardTo : Int
  /-- The diagonals that have been reached backwards. -/
  backwardFrom : Int
  /-- The last of them. -/
  backwardTo : Int

/-- The entry of a diagonal; diagonals may be below zero. -/
def entry (entries : Array Int) (shift : Nat) (diagonal : Int) : Int :=
  entries.getD (diagonal + shift).toNat 0

/-- Change the entry of a diagonal. -/
def setEntry (entries : Array Int) (shift : Nat) (diagonal value : Int) : Array Int :=
  entries.setIfInBounds (diagonal + shift).toNat value

/-- Whether a line of the first file is the same as a line of the second file. -/
def isSame (first second : Array Nat) (x y : Int) : Bool :=
  first[x.toNat]? == second[y.toNat]?

/-- Go forwards along equal lines. -/
def slide (first second : Array Nat) (box : Box) : Nat → Int → Int → Int
  | 0, x, _ => x
  | steps + 1, x, y =>
    if x < box.right && y < box.bottom && isSame first second x y then slide first second box steps (x + 1) (y + 1) else x

/-- Go backwards along equal lines. -/
def slideBack (first second : Array Nat) (box : Box) : Nat → Int → Int → Int
  | 0, x, _ => x
  | steps + 1, x, y =>
    if (box.left : Int) < x && (box.top : Int) < y && isSame first second (x - 1) (y - 1) then
      slideBack first second box steps (x - 1) (y - 1)
    else x

/-- Go one edit further on the forward diagonals from one down: the point where the paths meet, if they do. -/
def forwards (first second : Array Nat) (box : Box) (shift : Nat) (odd : Bool) :
    Nat → Int → Search → Option (Nat × Nat) × Search
  | 0, _, search => (none, search)
  | steps + 1, diagonal, search =>
    if diagonal < search.forwardFrom then (none, search)
    else
      let low := entry search.forward shift (diagonal - 1)
      let high := entry search.forward shift (diagonal + 1)
      let start := if low < high then high else low + 1
      let x := slide first second box (first.size + 1) start (start - diagonal)
      let search := { search with forward := setEntry search.forward shift diagonal x }
      if odd && search.backwardFrom ≤ diagonal && diagonal ≤ search.backwardTo && entry search.backward shift diagonal ≤ x then
        (some (x.toNat, (x - diagonal).toNat), search)
      else forwards first second box shift odd steps (diagonal - 2) search

/-- Go one edit further on the backward diagonals from one down: the point where the paths meet, if they do. -/
def backwards (first second : Array Nat) (box : Box) (shift : Nat) (odd : Bool) :
    Nat → Int → Search → Option (Nat × Nat) × Search
  | 0, _, search => (none, search)
  | steps + 1, diagonal, search =>
    if diagonal < search.backwardFrom then (none, search)
    else
      let low := entry search.backward shift (diagonal - 1)
      let high := entry search.backward shift (diagonal + 1)
      let start := if low < high then low else high - 1
      let x := slideBack first second box (first.size + 1) start (start - diagonal)
      let search := { search with backward := setEntry search.backward shift diagonal x }
      if !odd && search.forwardFrom ≤ diagonal && diagonal ≤ search.forwardTo && x ≤ entry search.forward shift diagonal then
        (some (x.toNat, (x - diagonal).toNat), search)
      else backwards first second box shift odd steps (diagonal - 2) search

/-- Let the search go one edit further from both corners until the paths meet. -/
def meet (first second : Array Nat) (box : Box) (shift : Nat) (odd : Bool) : Nat → Search → Option (Nat × Nat)
  | 0, _ => none
  | steps + 1, search =>
    let least : Int := (box.left : Int) - box.bottom
    let most : Int := (box.right : Int) - box.top
    let width := first.size + second.size + 3
    let beyond : Int := (first.size + second.size + 10 : Nat)
    let search := if least < search.forwardFrom then
        { search with
          forwardFrom := search.forwardFrom - 1, forward := setEntry search.forward shift (search.forwardFrom - 2) (-1) }
      else { search with forwardFrom := search.forwardFrom + 1 }
    let search := if search.forwardTo < most then
        { search with
          forwardTo := search.forwardTo + 1, forward := setEntry search.forward shift (search.forwardTo + 2) (-1) }
      else { search with forwardTo := search.forwardTo - 1 }
    match forwards first second box shift odd width search.forwardTo search with
    | (some point, _) => some point
    | (none, search) =>
      let search := if least < search.backwardFrom then
          { search with
            backwardFrom := search.backwardFrom - 1
            backward := setEntry search.backward shift (search.backwardFrom - 2) beyond }
        else { search with backwardFrom := search.backwardFrom + 1 }
      let search := if search.backwardTo < most then
          { search with
            backwardTo := search.backwardTo + 1
            backward := setEntry search.backward shift (search.backwardTo + 2) beyond }
        else { search with backwardTo := search.backwardTo - 1 }
      match backwards first second box shift odd width search.backwardTo search with
      | (some point, _) => some point
      | (none, search) => meet first second box shift odd steps search

/-- A point in the middle of a shortest path through a box whose corners are no equal lines. -/
def middle (first second : Array Nat) (box : Box) : Option (Nat × Nat) :=
  let shift := second.size + 2
  let size := first.size + second.size + 6
  let start : Int := (box.left : Int) - box.top
  let stop : Int := (box.right : Int) - box.bottom
  let search : Search := {
    forward := setEntry (Array.replicate size 0) shift start box.left
    backward := setEntry (Array.replicate size 0) shift stop box.right
    forwardFrom := start, forwardTo := start, backwardFrom := stop, backwardTo := stop }
  meet first second box shift ((start - stop) % 2 != 0) (size + 1) search

/-- Mark lines from one on. -/
def markFrom (marks : Array Bool) (from_ to_ : Nat) : Array Bool :=
  (List.range (to_ - from_)).foldl (fun marks place => marks.setIfInBounds (from_ + place) true) marks

/-- Mark what has to be changed in a box. -/
def compare (first second : Array Nat) : Nat → Box → Marks → Marks
  | 0, box, marks =>
    ⟨markFrom marks.removed box.left box.right, markFrom marks.added box.top box.bottom⟩
  | steps + 1, box, marks =>
    let front := slide first second box (first.size + 1) box.left box.top
    let box := { box with left := front.toNat, top := box.top + (front.toNat - box.left) }
    let back := slideBack first second box (first.size + 1) box.right box.bottom
    let box := { box with right := back.toNat, bottom := box.bottom - (box.right - back.toNat) }
    if box.left = box.right then { marks with added := markFrom marks.added box.top box.bottom }
    else if box.top = box.bottom then { marks with removed := markFrom marks.removed box.left box.right }
    else match middle first second box with
      | none => ⟨markFrom marks.removed box.left box.right, markFrom marks.added box.top box.bottom⟩
      | some (x, y) =>
        let marks := compare first second steps { box with right := x, bottom := y } marks
        compare first second steps { box with left := x, top := y } marks

/-- How a line is set aside before lines are compared. -/
inductive Aside where
  | kept
  /-- There is no such line in the other file. -/
  | alone
  /-- There are many such lines in the other file. -/
  | common
  deriving DecidableEq, Repr

/-- How often each number occurs. -/
def occurrences (size : Nat) (lines : Array Nat) : Array Nat :=
  lines.foldl (fun counts line => counts.modify line (· + 1)) (Array.replicate size 0)

/-- A number that grows with the square root of another one, beginning with a factor. -/
def growth : Nat → Nat → Nat → Nat
  | 0, _, factor => factor
  | steps + 1, rest, factor => if rest / 4 = 0 then factor else growth steps (rest / 4) (factor * 2)

/-- Change what is known of one line. -/
def setAt (asides : Array Aside) (place : Nat) (aside : Aside) : Array Aside :=
  asides.setIfInBounds place aside

/-- What is known of one line. -/
def at_ (asides : Array Aside) (place : Nat) : Aside :=
  asides.getD place .kept

/-- Where a run of lines that are set aside ends, and how many common lines are in it. -/
def runEnd (asides : Array Aside) : Nat → Nat → Nat → Nat × Nat
  | 0, place, count => (place, count)
  | steps + 1, place, count =>
    match at_ asides place with
    | .kept => (place, count)
    | .common => runEnd asides steps (place + 1) (count + 1)
    | .alone => runEnd asides steps (place + 1) count

/-- Keep the common lines at the end of a run. -/
def trimRun (start : Nat) : Nat → Nat → Nat → Array Aside → Nat × Nat × Array Aside
  | 0, stop, count, asides => (stop, count, asides)
  | steps + 1, stop, count, asides =>
    if start < stop && at_ asides (stop - 1) == .common then
      trimRun start steps (stop - 1) (count - 1) (setAt asides (stop - 1) .kept)
    else (stop, count, asides)

/-- Keep common lines in a run where so many of them follow each other. -/
def breakRuns (start length least : Nat) : Nat → Nat → Nat → Array Aside → Array Aside
  | 0, _, _, asides => asides
  | steps + 1, place, count, asides =>
    if length ≤ place then asides
    else if at_ asides (start + place) != .common then breakRuns start length least steps (place + 1) 0 asides
    else
      let count := count + 1
      if count = least then breakRuns start length least steps (place + 1 - count) count asides
      else if least < count then
        breakRuns start length least steps (place + 1) count (setAt asides (start + place) .kept)
      else breakRuns start length least steps (place + 1) count asides

/-- Keep common lines at an end of a run until there are enough others; the place of a line is told by how far it is from
that end. -/
def clearEnd (length : Nat) (placeOf : Nat → Nat) : Nat → Nat → Nat → Array Aside → Array Aside
  | 0, _, _, asides => asides
  | steps + 1, far, count, asides =>
    if length ≤ far then asides
    else
      let place := placeOf far
      if 8 ≤ far && at_ asides place == .alone then asides
      else
        let (count, asides) := match at_ asides place with
          | .common => (0, setAt asides place .kept)
          | .kept => (0, asides)
          | .alone => (count + 1, asides)
        if count = 3 then asides else clearEnd length placeOf steps (far + 1) count asides

/-- Keep the common lines among those that are set aside unless they stand between others. -/
def settle (size : Nat) : Nat → Nat → Array Aside → Array Aside
  | 0, _, asides => asides
  | steps + 1, place, asides =>
    if size ≤ place then asides
    else match at_ asides place with
      | .kept => settle size steps (place + 1) asides
      | .common => settle size steps (place + 1) (setAt asides place .kept)
      | .alone =>
        let (stop, count) := runEnd asides (size + 1) place 0
        let (stop, count, asides) := trimRun place (size + 1) stop count asides
        let length := stop - place
        if length < count * 4 then
          let asides := (List.range length).foldl (fun asides far =>
            if at_ asides (place + far) == .common then setAt asides (place + far) .kept else asides) asides
          settle size steps (place + 1) asides
        else
          let least := growth 64 (length / 4) 1 + 1
          let asides := breakRuns place length least (4 * length + 4) 0 0 asides
          let asides := clearEnd length (place + ·) (length + 1) 0 0 asides
          let last := place + length - 1
          let asides := clearEnd length (last - ·) (length + 1) 0 0 asides
          settle size steps (last + 1) asides

/-- The lines of a file that are set aside, given how often lines occur in the other file. -/
def asidesOf (lines : Array Nat) (counts : Array Nat) : Array Aside :=
  let many := growth 64 (lines.size / 64) 5
  let asides := lines.map fun line =>
    let count := counts.getD line 0
    if count = 0 then Aside.alone else if many < count then .common else .kept
  settle lines.size (lines.size + 1) 0 asides

/-- The first line from one on that is not marked. -/
def firstPlain (marks : Array Bool) : Nat → Int → Int
  | 0, place => place
  | steps + 1, place =>
    if 0 ≤ place && marks.getD place.toNat false then firstPlain marks steps (place + 1) else place

/-- The last line up to one that is not marked. -/
def lastPlain (marks : Array Bool) : Nat → Int → Int
  | 0, place => place
  | steps + 1, place =>
    if 0 ≤ place && marks.getD place.toNat false then lastPlain marks steps (place - 1) else place

/-- A run of changes that is being moved. -/
structure Run where
  /-- Which lines of its file are changed. -/
  marks : Array Bool
  /-- Where it begins. -/
  start : Int
  /-- Where it ends. -/
  stop : Int
  /-- The place in the other file. -/
  other : Int
  /-- Where it ends if it is moved to a change in the other file; where the file ends if there is none. -/
  corresponding : Int

/-- Move a run of changes back as long as the line before it is the same as its last one. -/
def moveBack (lines : Array Nat) (others : Array Bool) (size : Nat) : Nat → Run → Run
  | 0, run => run
  | steps + 1, run =>
    if 0 < run.start && isSame lines lines (run.start - 1) (run.stop - 1) then
      let start := run.start - 1
      let stop := run.stop - 1
      let marks := (run.marks.setIfInBounds start.toNat true).setIfInBounds stop.toNat false
      let start := lastPlain marks size (start - 1) + 1
      let other := lastPlain others size (run.other - 1)
      moveBack lines others size steps { run with marks, start, stop, other }
    else run

/-- Move a run of changes forward as long as the line behind it is the same as its first one. -/
def moveForward (lines : Array Nat) (others : Array Bool) (size : Nat) : Nat → Run → Run
  | 0, run => run
  | steps + 1, run =>
    if run.stop < lines.size && isSame lines lines run.start run.stop then
      let marks := (run.marks.setIfInBounds run.start.toNat false).setIfInBounds run.stop.toNat true
      let stop := firstPlain marks size (run.stop + 1)
      let other := firstPlain others size (run.other + 1)
      let corresponding := if run.other + 1 < other then stop else run.corresponding
      moveForward lines others size steps { marks, start := run.start + 1, stop, other, corresponding }
    else run

/-- Move a run of changes back and forward until it grows no more. -/
def moveRun (lines : Array Nat) (others : Array Bool) (size : Nat) : Nat → Run → Run
  | 0, run => run
  | steps + 1, run =>
    let length := run.stop - run.start
    let run := moveBack lines others size size run
    let corresponding := if 0 < run.other && others.getD (run.other - 1).toNat false then run.stop else lines.size
    let run := moveForward lines others size size { run with corresponding }
    if run.stop - run.start = length then run else moveRun lines others size steps run

/-- Move a run of changes back to where there is a change in the other file. -/
def moveHome (others : Array Bool) (size : Nat) : Nat → Run → Run
  | 0, run => run
  | steps + 1, run =>
    if run.corresponding < run.stop then
      let start := run.start - 1
      let stop := run.stop - 1
      let marks := (run.marks.setIfInBounds start.toNat true).setIfInBounds stop.toNat false
      moveHome others size steps { run with marks, start, stop, other := lastPlain others size (run.other - 1) }
    else run

/-- The next change from a line on, and the place in the other file. -/
def nextChange (marks others : Array Bool) (size : Nat) : Nat → Int → Int → Int × Int
  | 0, place, other => (place, other)
  | steps + 1, place, other =>
    if marks.size ≤ place || marks.getD place.toNat false then (place, other)
    else nextChange marks others size steps (place + 1) (firstPlain others size other + 1)

/-- Move all runs of changes in one file, from a line on, to where they look best. -/
def shift (lines : Array Nat) (others : Array Bool) (size : Nat) : Nat → Int → Int → Array Bool → Array Bool
  | 0, _, _, marks => marks
  | steps + 1, place, other, marks =>
    let (start, other) := nextChange marks others size size place other
    if lines.size ≤ start then marks
    else
      let stop := firstPlain marks size (start + 1)
      let other := firstPlain others size other
      let run := moveRun lines others size size ⟨marks, start, stop, other, lines.size⟩
      let run := moveHome others size size run
      shift lines others size steps run.stop run.other run.marks

/-- How many lines two files have in common at their beginning. -/
def commonFront (first second : Array Nat) : Nat :=
  (slide first second ⟨0, first.size, 0, second.size⟩ (first.size + 1) 0 0).toNat

/-- Which lines of two files are changed. Of the lines that are the same at their ends so many are looked at. -/
def marks (horizon : Nat) (first second : Array Nat) : Marks :=
  let front := commonFront first second - horizon
  let all : Box := ⟨front, first.size, front, second.size⟩
  let back := first.size - (slideBack first second all (first.size + 1) first.size second.size).toNat - horizon
  let one := first.extract front (first.size - back)
  let other := second.extract front (second.size - back)
  let most := (one.foldl max 0) + (other.foldl max 0) + 1
  let asides := asidesOf one (occurrences most other)
  let asides' := asidesOf other (occurrences most one)
  let places := (Array.range one.size).filter fun place => at_ asides place == .kept
  let places' := (Array.range other.size).filter fun place => at_ asides' place == .kept
  let left := places.map fun place => one.getD place 0
  let right := places'.map fun place => other.getD place 0
  let found := compare left right (left.size + right.size + 2) ⟨0, left.size, 0, right.size⟩
    ⟨Array.replicate left.size false, Array.replicate right.size false⟩
  let spread := fun (asides : Array Aside) (places : Array Nat) (found : Array Bool) =>
    places.zipIdx.foldl (fun marks (place, index) => marks.setIfInBounds place (found.getD index false))
      (asides.map fun aside => aside != .kept)
  let removed := spread asides places found.removed
  let added := spread asides' places' found.added
  let size := one.size + other.size + 2
  let removed := shift one added size size 0 0 removed
  let added := shift other removed size size 0 0 added
  let whole := fun (marks : Array Bool) => Array.replicate front false ++ marks ++ Array.replicate back false
  ⟨whole removed, whole added⟩

/-- A change: lines of the first file in place of which there are lines of the second one. -/
structure Change where
  /-- The first line that is left out. -/
  line : Nat
  /-- How many lines are left out. -/
  removed : Nat
  /-- The first line that is added. -/
  line' : Nat
  /-- How many lines are added. -/
  added : Nat
  deriving Repr

/-- The changes from two places on. -/
def changesFrom (marks : Marks) : Nat → Nat → Nat → List Change
  | 0, _, _ => []
  | steps + 1, place, place' =>
    if marks.removed.size ≤ place && marks.added.size ≤ place' then []
    else
      let size := marks.removed.size + marks.added.size + 1
      let stop := (firstPlain marks.removed size place).toNat
      let stop' := (firstPlain marks.added size place').toNat
      let rest := changesFrom marks steps (stop + 1) (stop' + 1)
      if stop = place && stop' = place' then rest else ⟨place, stop - place, place', stop' - place'⟩ :: rest

/-- The changes that lead from one file to another one. -/
def changes (horizon : Nat) (first second : Array Nat) : List Change :=
  changesFrom (marks horizon first second) (first.size + second.size + 1) 0 0

end Alignment

end AnswerQuery.Host.Tool
