import AnswerQuery.Host.Packing.Piece
import AnswerQuery.Text.Utf8

/-! How long the codes of signs are: the lighter a sign is, the longer its code. The two lightest nodes are joined again
and again; among nodes of one weight the flatter one counts as lighter. -/

namespace AnswerQuery.Host.Packing.Lengths

/-- The nodes of trees that are joined to one: signs first, then the nodes that join others. -/
structure Forest where
  /-- How heavy each node is. -/
  weights : Array Nat
  /-- How high the tree below each node is. -/
  heights : Array Nat

/-- Whether one node goes before another one. -/
def Forest.isLighter (forest : Forest) (first second : Nat) : Bool :=
  let one := forest.weights.getD first 0
  let other := forest.weights.getD second 0
  one < other || (one == other && forest.heights.getD first 0 ≤ forest.heights.getD second 0)

/-- Put a node into a heap, at a place or as far below it as lighter nodes have to stand above. -/
def sink (forest : Forest) (node : Nat) : Nat → Nat → Array Nat → Array Nat
  | 0, place, heap => heap.setIfInBounds place node
  | steps + 1, place, heap =>
    let left := 2 * place + 1
    if heap.size ≤ left then heap.setIfInBounds place node
    else
      let child := if left + 1 < heap.size && forest.isLighter (heap.getD (left + 1) 0) (heap.getD left 0) then left + 1
        else left
      let below := heap.getD child 0
      if forest.isLighter node below then heap.setIfInBounds place node
      else sink forest node steps child (heap.setIfInBounds place below)

/-- A heap of nodes in any order. -/
def ordered (forest : Forest) (nodes : Array Nat) : Array Nat :=
  (List.range (nodes.size / 2)).reverse.foldl
    (fun heap place => sink forest (heap.getD place 0) heap.size place heap) nodes

/-- A heap without its first node. -/
def withoutFirst (forest : Forest) (heap : Array Nat) : Array Nat :=
  let last := heap.getD (heap.size - 1) 0
  let rest := heap.pop
  sink forest last rest.size 0 rest

/-- The nodes in the order in which they were taken out of the heap, the last one first, and the node above each. -/
structure Joined where
  /-- The nodes, the root first. -/
  nodes : List Nat
  /-- The node above each node. -/
  above : Array Nat

/-- Join the two lightest nodes until one is left. -/
def join : Nat → Forest → Array Nat → List Nat → Array Nat → Joined
  | 0, _, heap, taken, above => ⟨heap.getD 0 0 :: taken, above⟩
  | steps + 1, forest, heap, taken, above =>
    if heap.size < 2 then ⟨heap.getD 0 0 :: taken, above⟩
    else
      let first := heap.getD 0 0
      let heap := withoutFirst forest heap
      let second := heap.getD 0 0
      let node := forest.weights.size
      let weight := forest.weights.getD first 0 + forest.weights.getD second 0
      let height := max (forest.heights.getD first 0) (forest.heights.getD second 0) + 1
      let forest := ⟨forest.weights.push weight, forest.heights.push height⟩
      let above := ((above.push 0).setIfInBounds first node).setIfInBounds second node
      join steps forest (sink forest node heap.size 0 heap) (second :: first :: taken) above

/-- Make room for nodes below the greatest length: the numbers of codes of each length, as long as some are too many. -/
def makeRoom (most : Nat) : Nat → Nat → Array Nat → Array Nat
  | 0, _, counts => counts
  | steps + 1, excess, counts =>
    if excess = 0 then counts
    else
      let length := ((List.range most).reverse.find? fun length => counts.getD length 0 != 0).getD 0
      let counts := counts.modify length (· - 1)
      let counts := counts.modify (length + 1) (· + 2)
      makeRoom most steps (excess - 2) (counts.modify most (· - 1))

/-- How long the codes of signs are whose weights are known, at most so long; a sign without weight has none. At least
two signs have codes. -/
def ofWeights (most : Nat) (weights : Array Nat) : Array Nat :=
  let used := (List.range weights.size).filter fun sign => weights.getD sign 0 != 0
  let signs := match used with
    | [] => [0, 1]
    | [sign] => if sign < 2 then [sign, sign + 1] else [sign, 0]
    | signs => signs
  let forest : Forest := {
    weights := signs.foldl (fun weights sign => weights.modify sign (max 1)) weights
    heights := Array.replicate weights.size 0 }
  let heap := ordered forest signs.toArray
  let joined := join signs.length forest heap [] (Array.replicate weights.size 0)
  let start := (Array.replicate joined.above.size 0, 0)
  let (lengths, excess) := joined.nodes.tail.foldl (fun (lengths, excess) node =>
    let length := lengths.getD (joined.above.getD node 0) 0 + 1
    (lengths.setIfInBounds node (min length most), if most < length then excess + 1 else excess)) start
  if excess = 0 then lengths.extract 0 weights.size
  else
    let leaves := joined.nodes.reverse.filter (· < weights.size)
    let counts := leaves.foldl (fun counts leaf => counts.modify (lengths.getD leaf 0) (· + 1)) (Array.replicate (most + 1) 0)
    let counts := makeRoom most excess excess counts
    let spread := (List.range (most + 1)).reverse.flatMap fun length => List.replicate (counts.getD length 0) length
    (leaves.zip spread).foldl (fun lengths (leaf, length) => lengths.setIfInBounds leaf length)
      (lengths.extract 0 weights.size)

/-- How many signs there are up to the last one that has a code. -/
def extent (lengths : Array Nat) : Nat :=
  (lengths.toList.reverse.dropWhile (· == 0)).length

end AnswerQuery.Host.Packing.Lengths

/-! Codes of signs: signs with codes of one length have them in order, and shorter codes come first. How long the codes
are is told by signs that have codes themselves. -/

namespace AnswerQuery.Host.Packing.Codes

/-- How long a code is at most. -/
def greatestLength : Nat := 15

/-- A code: its bits, of which the first one is the lowest. -/
structure Code where
  /-- The number that the bits stand for. -/
  value : Nat
  /-- How many they are. -/
  length : Nat
  deriving Inhabited, DecidableEq, Repr

/-- A number with its bits in the opposite order. -/
def reversed : Nat → Nat → Nat
  | 0, _ => 0
  | width + 1, value => value % 2 * Nat.pow 2 width + reversed width (value / 2)

/-- How many codes there are of each length. -/
def counts (lengths : Array Nat) : Array Nat :=
  lengths.foldl (fun counts length => if length = 0 then counts else counts.modify length (· + 1))
    (Array.replicate (greatestLength + 1) 0)

/-- The first code of each length. -/
def firsts (counts : Array Nat) : Array Nat :=
  ((List.range greatestLength).foldl (fun (firsts, code) length =>
    let next := (code + counts.getD length 0) * 2
    (firsts.push next, next)) ((#[0] : Array Nat), 0)).1

/-- The codes of signs that are known by the lengths of their codes. -/
def ofLengths (lengths : Array Nat) : Array Code :=
  (lengths.foldl (fun (codes, firsts) length =>
    if length = 0 then (codes.push (⟨0, 0⟩ : Code), firsts)
    else (codes.push ⟨reversed length (firsts.getD length 0), length⟩, firsts.modify length (· + 1)))
    ((#[] : Array Code), firsts (counts lengths))).1

/-- The lengths that hold where nothing is said, of the codes of octets, the end and lengths. -/
def usualLengths : Array Nat :=
  Array.replicate 144 8 ++ Array.replicate 112 9 ++ Array.replicate 24 7 ++ Array.replicate 8 8

/-- The lengths that hold where nothing is said, of the codes of distances. -/
def usualDistances : Array Nat := Array.replicate 30 5

/-- A part of a list of lengths. -/
inductive Run where
  /-- One length. -/
  | one (length : Nat)
  /-- So many lengths like the one before. -/
  | same (count : Nat)
  /-- So many zeros. -/
  | zeros (count : Nat)
  deriving DecidableEq, Repr

namespace Run

/-- The sign for a part. -/
def sign : Run → Nat
  | one length => length
  | same _ => 16
  | zeros count => if count ≤ 10 then 17 else 18

/-- How many bits follow a sign. -/
def width : Nat → Nat
  | 16 => 2
  | 17 => 3
  | 18 => 7
  | _ => 0

/-- The least count that a sign stands for. -/
def least : Nat → Nat
  | 18 => 11
  | _ => 3

/-- The number that follows the sign. -/
def rest (run : Run) : Nat :=
  match run with
  | one _ => 0
  | same count => count - least run.sign
  | zeros count => count - least run.sign

/-- How many signs there are. -/
def signs : Nat := 19

/-- The order in which the lengths of the codes of these signs are told. -/
def order : List Nat := [16, 17, 18, 0, 8, 7, 9, 6, 10, 5, 11, 4, 12, 3, 13, 2, 14, 1, 15]

/-- The parts for one length that stands there so many times behind another one. -/
def ofCount (before : Option Nat) (length count : Nat) : List Run :=
  if length = 0 then if count < 3 then List.replicate count (one 0) else [zeros count]
  else if before == some length then if count < 3 then List.replicate count (one length) else [same count]
  else if count < 4 then List.replicate count (one length) else [one length, same (count - 1)]

/-- How many times a length can stand there behind another one within one part. -/
def most (before : Option Nat) (length : Nat) : Nat :=
  if length = 0 then 138 else if before == some length then 6 else 7

/-- The parts of a list of lengths: the length before the last part, and how many of the same have come since. -/
def ofLengths (before : Option Nat) (count : Nat) : List Nat → List Run
  | [] => []
  | length :: rest =>
    if count + 1 < most before length && rest.head? == some length then ofLengths before (count + 1) rest
    else ofCount before length (count + 1) ++ ofLengths (some length) 0 rest

end Run

end AnswerQuery.Host.Packing.Codes
