import AnswerQuery.Host.Packing.Codes
import AnswerQuery.Host.Packing.Repeats

/-! Packing octets: every block is written in the way that takes the fewest octets. -/

namespace AnswerQuery.Host.Packing.Deflate

open Repeats (Block Effort)

/-- How often each sign is used in a block. -/
structure Usage where
  /-- For octets, the end and lengths. -/
  signs : Array Nat
  /-- For distances. -/
  distances : Array Nat

/-- How often each sign is used. -/
def usage (pieces : Array Piece) : Usage :=
  let (signs, distances) := pieces.foldl (fun (signs, distances) piece => match piece with
    | .plain octet => (signs.modify octet.toNat (· + 1), distances)
    | .again length distance =>
      (signs.modify (Piece.finalSign + 1 + (Piece.gradedLength length).rank) (· + 1),
        distances.modify (Piece.gradedDistance distance).rank (· + 1)))
    (Array.replicate Piece.signs 0, Array.replicate Piece.distanceSigns 0)
  ⟨signs.modify Piece.finalSign (· + 1), distances⟩

/-- How many bits signs take that are used so often, with what follows them. -/
def cost (uses lengths : Array Nat) (width : Nat → Nat) : Nat :=
  ((List.range uses.size).map fun sign => uses.getD sign 0 * (lengths.getD sign 0 + width sign)).foldl (· + ·) 0

/-- How many bits follow a sign for octets, the end and lengths. -/
def widthBehind (sign : Nat) : Nat :=
  if sign ≤ Piece.finalSign then 0 else Piece.lengthWidth (sign - Piece.finalSign - 1)

/-- How many bits a block takes with codes of given lengths. -/
def blockCost (usage : Usage) (signs distances : Array Nat) : Nat :=
  cost usage.signs signs widthBehind + cost usage.distances distances Piece.distanceWidth

/-- How it is told how long the codes of a block are. -/
structure Preface where
  /-- How many signs have codes. -/
  signs : Nat
  /-- How many signs for distances have codes. -/
  distances : Nat
  /-- The parts of the list of lengths. -/
  runs : List Codes.Run
  /-- How long the codes of the signs are that tell them. -/
  lengths : Array Nat
  /-- How many of those are told. -/
  told : Nat

/-- How it is told how long codes are. -/
def preface (signs distances : Array Nat) : Preface :=
  let signCount := Lengths.extent signs
  let distanceCount := Lengths.extent distances
  let runs := Codes.Run.ofLengths none 0 (signs.toList.take signCount) ++
    Codes.Run.ofLengths none 0 (distances.toList.take distanceCount)
  let uses := runs.foldl (fun uses run => uses.modify run.sign (· + 1)) (Array.replicate Codes.Run.signs 0)
  let lengths := Lengths.ofWeights 7 uses
  let told := (Codes.Run.order.reverse.dropWhile fun sign => lengths.getD sign 0 == 0).length
  ⟨signCount, distanceCount, runs, lengths, max 4 told⟩

/-- How many bits it takes to tell how long codes are. -/
def Preface.cost (preface : Preface) : Nat :=
  preface.runs.foldl (fun sum run => sum + preface.lengths.getD run.sign 0 + Codes.Run.width run.sign)
    (14 + 3 * preface.told)

/-- Write how long codes are. -/
def Preface.write (preface : Preface) (bits : Bits) : Bits :=
  let bits := bits.put (preface.signs - 257) 5
  let bits := bits.put (preface.distances - 1) 5
  let bits := bits.put (preface.told - 4) 4
  let bits := (Codes.Run.order.take preface.told).foldl (fun bits sign => bits.put (preface.lengths.getD sign 0) 3) bits
  let codes := Codes.ofLengths preface.lengths
  preface.runs.foldl (fun bits run =>
    let code := codes.getD run.sign ⟨0, 0⟩
    (bits.put code.value code.length).put run.rest (Codes.Run.width run.sign)) bits

/-- Write pieces and the sign that ends them. -/
def writePieces (pieces : Array Piece) (signs distances : Array Codes.Code) (bits : Bits) : Bits :=
  let put := fun (codes : Array Codes.Code) (sign : Nat) (bits : Bits) =>
    let code := codes.getD sign ⟨0, 0⟩
    bits.put code.value code.length
  let bits := pieces.foldl (fun bits piece => match piece with
    | .plain octet => put signs octet.toNat bits
    | .again length distance =>
      let length := Piece.gradedLength length
      let distance := Piece.gradedDistance distance
      let bits := (put signs (Piece.finalSign + 1 + length.rank) bits).put length.rest length.width
      (put distances distance.rank bits).put distance.rest distance.width) bits
  put signs Piece.finalSign bits

/-- Write octets as they are. -/
def writeStored (octets : Array UInt8) (bits : Bits) : Bits :=
  let bits := bits.align.put octets.size 16
  (bits.put (65535 - octets.size) 16).putOctets octets

/-- Write a block of octets, which may be the last one. -/
def writeBlock (octets : Array UInt8) (isLast : Bool) (bits : Bits) (block : Block) : Bits :=
  let final := if isLast then 1 else 0
  let usage := usage block.pieces
  let signs := Lengths.ofWeights Codes.greatestLength usage.signs
  let distances := Lengths.ofWeights Codes.greatestLength usage.distances
  let preface := preface signs distances
  let owned := (blockCost usage signs distances + preface.cost + 10) / 8
  let usual := (blockCost usage Codes.usualLengths Codes.usualDistances + 10) / 8
  let size := block.next - block.first
  if size + 4 ≤ min owned usual && block.atHand then
    writeStored (octets.extract block.first block.next) (bits.put final 3)
  else if usual ≤ owned then
    writePieces block.pieces (Codes.ofLengths Codes.usualLengths) (Codes.ofLengths Codes.usualDistances)
      (bits.put (2 + final) 3)
  else
    writePieces block.pieces (Codes.ofLengths signs) (Codes.ofLengths distances) (preface.write (bits.put (4 + final) 3))

/-- Octets packed with some effort. -/
def pack (effort : Effort) (octets : Array UInt8) : Array UInt8 :=
  let blocks := Repeats.blocks effort octets
  let (bits, _) := blocks.foldl (fun (bits, number) block =>
    (writeBlock octets (number + 1 == blocks.size) bits block, number + 1)) (({} : Bits), 0)
  bits.align.octets

end AnswerQuery.Host.Packing.Deflate
