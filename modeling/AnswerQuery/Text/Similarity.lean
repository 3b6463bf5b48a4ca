import AnswerQuery.Text.Basic

/-! How alike two words are: by the letters they share at about the same places. -/

namespace AnswerQuery.Text

/-- The places of a word that a letter may stand at, and whether they are taken already. -/
abbrev Places := List (Char × Bool)

/-- Take the first free place of a letter, from a place on and before another. -/
def takePlace (letter : Char) (lowest highest : Nat) : Nat → Places → Option Places
  | _, [] => none
  | index, (other, taken) :: rest =>
    if index < highest && lowest ≤ index && other == letter && !taken then some ((other, true) :: rest)
    else (takePlace letter lowest highest (index + 1) rest).map ((other, taken) :: ·)

/-- The letters of a word that have a place in another, no further away than so many places, and the places. -/
def placed (reach : Nat) (word : Text) (places : Places) : Text × Places :=
  let step := fun (state : Text × Places) (pair : Char × Nat) =>
    match takePlace pair.1 (pair.2 - reach) (pair.2 + reach + 1) 0 state.2 with
    | some places => (state.1 ++ [pair.1], places)
    | none => state
  word.zipIdx.foldl step ([], places)

/-- How alike two words are, as a fraction: the mean of the shares of letters placed in each, and of those in order. -/
def likeness (first second : Text) : Nat × Nat :=
  let reach := max first.length second.length / 2 - 1
  let (letters, places) := placed reach first (second.map fun letter => (letter, false))
  let others := (places.filter Prod.snd).map Prod.fst
  let count := letters.length
  let swapped := ((letters.zip others).filter fun pair => pair.1 != pair.2).length / 2
  if count = 0 then (0, 1)
  else
    (count * count * second.length + count * count * first.length + (count - swapped) * first.length * second.length,
      3 * first.length * second.length * count)

/-- The word of a list that is most like another, if one is alike enough; of two that are as like, the later one. -/
def nearest? (word : Text) (words : List Text) : Option Text :=
  let close := words.filterMap fun (other : Text) =>
    let (above, below) := likeness word other
    if below * 7 < above * 10 then some (other, above, below) else none
  let better := fun (best : Option (Text × Nat × Nat)) (next : Text × Nat × Nat) =>
    match best with
    | none => some next
    | some (_, above, below) => if next.2.1 * below < above * next.2.2 then best else some next
  (close.foldl better none).map Prod.fst

end AnswerQuery.Text
