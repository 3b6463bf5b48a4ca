import AnswerQuery.Text.Utf8

/-! Blocks of words, of which messages are made up for digests. -/

namespace AnswerQuery.Host.Digest

/-- In which order the octets of a number stand. -/
inductive Order where
  | highFirst
  | lowFirst
  deriving DecidableEq, Repr

namespace Order

/-- The number that octets stand for. -/
def value (order : Order) (octets : Bytes) : Nat :=
  let ordered := match order with
    | highFirst => octets
    | lowFirst => octets.reverse
  ordered.foldl (fun value octet => value * 256 + octet.toNat) 0

/-- So many octets that stand for a number. -/
def octets (order : Order) (count number : Nat) : Bytes :=
  let lowest := (List.range count).map fun place => UInt8.ofNat (number / Nat.pow 256 place)
  match order with
  | highFirst => lowest.reverse
  | lowFirst => lowest

end Order

/-- A list in pieces of so many elements; the last piece may be shorter. -/
def pieces {α : Type} (size : Nat) (elements : List α) : List (List α) :=
  match elements with
  | [] => []
  | first :: rest =>
    (first :: rest.take (size - 1)) :: pieces size (rest.drop (size - 1))
termination_by elements.length
decreasing_by exact Nat.lt_succ_of_le (List.length_drop ▸ Nat.sub_le rest.length (size - 1))

/-- How messages are cut into blocks of sixteen words. -/
structure Layout where
  /-- How many octets a word has. -/
  word : Nat
  /-- In which order they stand. -/
  order : Order

namespace Layout

/-- How many octets a block has. -/
def block (layout : Layout) : Nat := 16 * layout.word

/-- How many zeros follow the octet that ends a message, so that its length in two words fills the last block up. -/
def zeros (layout : Layout) (length : Nat) : Nat :=
  (2 * layout.block - 1 - 2 * layout.word - length % layout.block) % layout.block

/-- A message with its end and its length in bits. -/
def padded (layout : Layout) (message : Bytes) : Bytes :=
  message ++ (0x80 :: List.replicate (layout.zeros message.length) 0) ++
    layout.order.octets (2 * layout.word) (8 * message.length)

/-- The words of octets. -/
def words {w : Nat} (layout : Layout) (octets : Bytes) : List (BitVec w) :=
  (pieces layout.word octets).map fun piece => BitVec.ofNat w (layout.order.value piece)

/-- The octets of words. -/
def octets {w : Nat} (layout : Layout) (words : List (BitVec w)) : Bytes :=
  words.flatMap fun word => layout.order.octets layout.word word.toNat

/-- Take a message in, block by block, into a state. -/
def absorb {w : Nat} {State : Type} (layout : Layout) (step : State → Array (BitVec w) → State) (start : State)
    (message : Bytes) : State :=
  (pieces layout.block (layout.padded message)).foldl (fun state block => step state (layout.words block).toArray) start

end Layout

/-- The lengths of a message and its end fill whole blocks. -/
theorem Layout.padded_length (layout : Layout) (message : Bytes) :
    (layout.padded message).length =
      message.length + 1 + layout.zeros message.length + 2 * layout.word := by
  cases h : layout.order <;> simp [Layout.padded, Order.octets, h] <;> omega

end AnswerQuery.Host.Digest

/-! The kinds of digests, each with the steps that make it. -/

/-! The digest of sixteen octets that four kinds of steps make, sixteen of each. -/

namespace AnswerQuery.Host.Digest.Md5

/-- The words of a message begin with their lowest octets. -/
def layout : Layout := { word := 4, order := .lowFirst }

/-- Four words. -/
structure State where
  /-- The first one. -/
  a : BitVec 32
  /-- The second one. -/
  b : BitVec 32
  /-- The third one. -/
  c : BitVec 32
  /-- The fourth one. -/
  d : BitVec 32

/-- What every digest begins with. -/
def start : State := ⟨0x67452301, 0xefcdab89, 0x98badcfe, 0x10325476⟩

/-- A word for every step: the sines of its number. -/
def constants : Array (BitVec 32) := #[
  0xd76aa478, 0xe8c7b756, 0x242070db, 0xc1bdceee, 0xf57c0faf, 0x4787c62a, 0xa8304613, 0xfd469501,
  0x698098d8, 0x8b44f7af, 0xffff5bb1, 0x895cd7be, 0x6b901122, 0xfd987193, 0xa679438e, 0x49b40821,
  0xf61e2562, 0xc040b340, 0x265e5a51, 0xe9b6c7aa, 0xd62f105d, 0x02441453, 0xd8a1e681, 0xe7d3fbc8,
  0x21e1cde6, 0xc33707d6, 0xf4d50d87, 0x455a14ed, 0xa9e3e905, 0xfcefa3f8, 0x676f02d9, 0x8d2a4c8a,
  0xfffa3942, 0x8771f681, 0x6d9d6122, 0xfde5380c, 0xa4beea44, 0x4bdecfa9, 0xf6bb4b60, 0xbebfbc70,
  0x289b7ec6, 0xeaa127fa, 0xd4ef3085, 0x04881d05, 0xd9d4d039, 0xe6db99e5, 0x1fa27cf8, 0xc4ac5665,
  0xf4292244, 0x432aff97, 0xab9423a7, 0xfc93a039, 0x655b59c3, 0x8f0ccc92, 0xffeff47d, 0x85845dd1,
  0x6fa87e4f, 0xfe2ce6e0, 0xa3014314, 0x4e0811a1, 0xf7537e82, 0xbd3af235, 0x2ad7d2bb, 0xeb86d391]

/-- By how many places the steps of each kind turn words, in turn. -/
def turns : List (List Nat) :=
  [[7, 12, 17, 22], [5, 9, 14, 20], [4, 11, 16, 23], [6, 10, 15, 21]]

/-- How a step of a kind mixes three words. -/
def mix (kind : Nat) (x y z : BitVec 32) : BitVec 32 :=
  match kind with
  | 0 => (x &&& y) ||| (~~~x &&& z)
  | 1 => (x &&& z) ||| (y &&& ~~~z)
  | 2 => x ^^^ y ^^^ z
  | _ => y ^^^ (x ||| ~~~z)

/-- Which word of the block a step takes. -/
def place (step : Nat) : Nat :=
  match step / 16 with
  | 0 => step
  | 1 => (5 * step + 1) % 16
  | 2 => (3 * step + 5) % 16
  | _ => 7 * step % 16

/-- One step. -/
def State.step (block : Array (BitVec 32)) (state : State) (step : Nat) : State :=
  let kind := step / 16
  let sum := state.a + mix kind state.b state.c state.d + constants.getD step 0 + block.getD (place step) 0
  let turn := ((turns[kind]?).bind fun four => four[step % 4]?).getD 0
  ⟨state.d, state.b + sum.rotateLeft turn, state.b, state.c⟩

/-- Take a block in. -/
def State.absorb (state : State) (block : Array (BitVec 32)) : State :=
  let mixed := (List.range 64).foldl (State.step block) state
  ⟨state.a + mixed.a, state.b + mixed.b, state.c + mixed.c, state.d + mixed.d⟩

/-- The digest of a message. -/
def digest (message : Bytes) : Bytes :=
  let state := layout.absorb State.absorb start message
  layout.octets [state.a, state.b, state.c, state.d]

end AnswerQuery.Host.Digest.Md5

/-! The digest of twenty octets that eighty steps make. -/

namespace AnswerQuery.Host.Digest.Sha1

/-- The words of a message begin with their highest octets. -/
def layout : Layout := { word := 4, order := .highFirst }

/-- Five words. -/
structure State where
  /-- The first one. -/
  a : BitVec 32
  /-- The second one. -/
  b : BitVec 32
  /-- The third one. -/
  c : BitVec 32
  /-- The fourth one. -/
  d : BitVec 32
  /-- The fifth one. -/
  e : BitVec 32

/-- What every digest begins with. -/
def start : State := ⟨0x67452301, 0xefcdab89, 0x98badcfe, 0x10325476, 0xc3d2e1f0⟩

/-- The words of all steps: those of the block, and then each one made of earlier ones. -/
def schedule (block : Array (BitVec 32)) : Array (BitVec 32) :=
  (List.range 64).foldl (fun words place =>
    let word := fun (back : Nat) => words.getD (place + 16 - back) 0
    words.push ((word 3 ^^^ word 8 ^^^ word 14 ^^^ word 16).rotateLeft 1)) block

/-- How a step mixes three words, and what it adds. -/
def mix (step : Nat) (x y z : BitVec 32) : BitVec 32 :=
  match step / 20 with
  | 0 => ((x &&& y) ||| (~~~x &&& z)) + 0x5a827999
  | 1 => (x ^^^ y ^^^ z) + 0x6ed9eba1
  | 2 => ((x &&& y) ||| (x &&& z) ||| (y &&& z)) + 0x8f1bbcdc
  | _ => (x ^^^ y ^^^ z) + 0xca62c1d6

/-- One step. -/
def State.step (words : Array (BitVec 32)) (state : State) (step : Nat) : State :=
  let sum := state.a.rotateLeft 5 + mix step state.b state.c state.d + state.e + words.getD step 0
  ⟨sum, state.a, state.b.rotateLeft 30, state.c, state.d⟩

/-- Take a block in. -/
def State.absorb (state : State) (block : Array (BitVec 32)) : State :=
  let mixed := (List.range 80).foldl (State.step (schedule block)) state
  ⟨state.a + mixed.a, state.b + mixed.b, state.c + mixed.c, state.d + mixed.d, state.e + mixed.e⟩

/-- The digest of a message. -/
def digest (message : Bytes) : Bytes :=
  let state := layout.absorb State.absorb start message
  layout.octets [state.a, state.b, state.c, state.d, state.e]

end AnswerQuery.Host.Digest.Sha1

/-! The digest of thirty-two octets that takes words together with those four places further on. -/

namespace AnswerQuery.Host.Digest.Sm3

/-- The words of a message begin with their highest octets. -/
def layout : Layout := { word := 4, order := .highFirst }

/-- What every digest begins with. -/
def start : List (BitVec 32) :=
  [0x7380166f, 0x4914b2b9, 0x172442d7, 0xda8a0600, 0xa96f30bc, 0x163138aa, 0xe38dee4d, 0xb0fb0e4e]

/-- Mix a word with its copies in the steps. -/
def mixState (word : BitVec 32) : BitVec 32 := word ^^^ word.rotateLeft 9 ^^^ word.rotateLeft 17

/-- Mix a word with its copies in the schedule. -/
def mixSchedule (word : BitVec 32) : BitVec 32 := word ^^^ word.rotateLeft 15 ^^^ word.rotateLeft 23

/-- The words of all steps: those of the block, and then each one made of earlier ones. -/
def schedule (block : Array (BitVec 32)) : Array (BitVec 32) :=
  (List.range 52).foldl (fun words place =>
    let word := fun (back : Nat) => words.getD (place + 16 - back) 0
    words.push (mixSchedule (word 16 ^^^ word 9 ^^^ (word 3).rotateLeft 15) ^^^ (word 13).rotateLeft 7 ^^^ word 6)) block

/-- One step. -/
def step (words : Array (BitVec 32)) (state : List (BitVec 32)) (step : Nat) : List (BitVec 32) :=
  match state with
  | [a, b, c, d, e, f, g, h] =>
    let constant : BitVec 32 := if step < 16 then 0x79cc4519 else 0x7a879d8a
    let turned := a.rotateLeft 12
    let sum := (turned + e + constant.rotateLeft (step % 32)).rotateLeft 7
    let most := if step < 16 then a ^^^ b ^^^ c else (a &&& b) ||| (a &&& c) ||| (b &&& c)
    let choice := if step < 16 then e ^^^ f ^^^ g else (e &&& f) ||| (~~~e &&& g)
    let word := words.getD step 0
    let first := most + d + (sum ^^^ turned) + (word ^^^ words.getD (step + 4) 0)
    let second := choice + h + sum + word
    [first, a, b.rotateLeft 9, c, mixState second, e, f.rotateLeft 19, g]
  | other => other

/-- Take a block in. -/
def absorb (state : List (BitVec 32)) (block : Array (BitVec 32)) : List (BitVec 32) :=
  List.zipWith (· ^^^ ·) state ((List.range 64).foldl (step (schedule block)) state)

/-- The digest of a message. -/
def digest (message : Bytes) : Bytes :=
  layout.octets (layout.absorb absorb start message)

end AnswerQuery.Host.Digest.Sm3

/-! The digests that are made of words of thirty-two or of sixty-four bits in the same way. All their constants are the
fractions of roots of primes. -/

namespace AnswerQuery.Host.Digest.Sha2

/-- Whether a number is a prime. -/
def isPrime (number : Nat) : Bool :=
  2 ≤ number && (List.range number).all fun divisor => divisor < 2 || number % divisor != 0

/-- The first eighty primes. -/
def primes : List Nat := (List.range 410).filter isPrime

/-- The greatest number whose power is no greater than another one, with so many bits that are still to be found. -/
def rootFrom (power number : Nat) : Nat → Nat → Nat
  | 0, found => found
  | bits + 1, found =>
    let more := found + Nat.pow 2 bits
    rootFrom power number bits (if Nat.pow more power ≤ number then more else found)

/-- The first sixty-four bits behind the point of a root. -/
def fraction (power number : Nat) : Nat :=
  rootFrom power (number * Nat.pow 2 (64 * power)) 72 0 % Nat.pow 2 64

/-- The constants of the steps, in sixty-four bits. -/
def constants : List Nat := (primes.take 80).map (fraction 3)

/-- What digests begin with, in sixty-four bits: the roots of the primes from some place on. -/
def beginnings (place : Nat) : List Nat := ((primes.drop place).take 8).map (fraction 2)

/-- Two turns and a shift, or three turns. -/
structure Spread where
  /-- By how many places the first copy is turned. -/
  first : Nat
  /-- By how many places the second copy is turned. -/
  second : Nat
  /-- By how many places the third copy is turned or shifted. -/
  third : Nat
  /-- Whether the third copy is shifted. -/
  shifts : Bool

/-- Mix a word with its copies. -/
def Spread.apply {w : Nat} (spread : Spread) (word : BitVec w) : BitVec w :=
  let third := if spread.shifts then word >>> spread.third else word.rotateRight spread.third
  word.rotateRight spread.first ^^^ word.rotateRight spread.second ^^^ third

/-- A way to make digests of words of so many bits. -/
structure Scheme (w : Nat) where
  /-- The constants of the steps. -/
  constants : Array (BitVec w)
  /-- How words become later words of the schedule: the one that stands fifteen places back. -/
  early : Spread
  /-- How words become later words of the schedule: the one that stands two places back. -/
  late : Spread
  /-- How the first word of the state is mixed. -/
  upper : Spread
  /-- How the fifth word of the state is mixed. -/
  lower : Spread

/-- The scheme for words of thirty-two bits: the constants keep the higher half of their bits. -/
def narrow : Scheme 32 where
  constants := ((constants.take 64).map fun bits => BitVec.ofNat 32 (bits / Nat.pow 2 32)).toArray
  early := ⟨7, 18, 3, true⟩
  late := ⟨17, 19, 10, true⟩
  upper := ⟨2, 13, 22, false⟩
  lower := ⟨6, 11, 25, false⟩

/-- The scheme for words of sixty-four bits. -/
def wide : Scheme 64 where
  constants := (constants.map fun bits => BitVec.ofNat 64 bits).toArray
  early := ⟨1, 8, 7, true⟩
  late := ⟨19, 61, 6, true⟩
  upper := ⟨28, 34, 39, false⟩
  lower := ⟨14, 18, 41, false⟩

/-- Eight words. -/
structure State (w : Nat) where
  /-- The first one. -/
  a : BitVec w
  /-- The second one. -/
  b : BitVec w
  /-- The third one. -/
  c : BitVec w
  /-- The fourth one. -/
  d : BitVec w
  /-- The fifth one. -/
  e : BitVec w
  /-- The sixth one. -/
  f : BitVec w
  /-- The seventh one. -/
  g : BitVec w
  /-- The eighth one. -/
  h : BitVec w

/-- The words of a state. -/
def State.words {w : Nat} (state : State w) : List (BitVec w) :=
  [state.a, state.b, state.c, state.d, state.e, state.f, state.g, state.h]

/-- The state of eight words. -/
def State.ofWords {w : Nat} (words : List (BitVec w)) : State w :=
  let word := fun (place : Nat) => words[place]?.getD 0
  ⟨word 0, word 1, word 2, word 3, word 4, word 5, word 6, word 7⟩

/-- The words of all steps: those of the block, and then each one made of earlier ones. -/
def Scheme.schedule {w : Nat} (scheme : Scheme w) (block : Array (BitVec w)) : Array (BitVec w) :=
  (List.range (scheme.constants.size - 16)).foldl (fun words place =>
    let word := fun (back : Nat) => words.getD (place + 16 - back) 0
    words.push (word 16 + scheme.early.apply (word 15) + word 7 + scheme.late.apply (word 2))) block

/-- One step. -/
def Scheme.step {w : Nat} (scheme : Scheme w) (words : Array (BitVec w)) (state : State w) (step : Nat) : State w :=
  let choice := (state.e &&& state.f) ^^^ (~~~state.e &&& state.g)
  let most := (state.a &&& state.b) ^^^ (state.a &&& state.c) ^^^ (state.b &&& state.c)
  let first := state.h + scheme.lower.apply state.e + choice + scheme.constants.getD step 0 + words.getD step 0
  let second := scheme.upper.apply state.a + most
  ⟨first + second, state.a, state.b, state.c, state.d + first, state.e, state.f, state.g⟩

/-- Take a block in. -/
def Scheme.absorb {w : Nat} (scheme : Scheme w) (state : State w) (block : Array (BitVec w)) : State w :=
  let words := scheme.schedule block
  let mixed := (List.range scheme.constants.size).foldl (scheme.step words) state
  .ofWords (List.zipWith (· + ·) state.words mixed.words)

/-- The first octets of the digest that begins with some words. -/
def Scheme.digest {w : Nat} (scheme : Scheme w) (start : List (BitVec w)) (size : Nat) (message : Bytes) : Bytes :=
  let layout : Layout := { word := w / 8, order := .highFirst }
  (layout.octets (layout.absorb scheme.absorb (.ofWords start) message).words).take size

/-- The digest of twenty-eight octets. -/
def digest224 : Bytes → Bytes :=
  narrow.digest ((beginnings 8).map (BitVec.ofNat 32)) 28

/-- The digest of thirty-two octets. -/
def digest256 : Bytes → Bytes :=
  narrow.digest ((beginnings 0).map fun bits => BitVec.ofNat 32 (bits / Nat.pow 2 32)) 32

/-- The digest of forty-eight octets. -/
def digest384 : Bytes → Bytes :=
  wide.digest ((beginnings 8).map (BitVec.ofNat 64)) 48

/-- The digest of sixty-four octets. -/
def digest512 : Bytes → Bytes :=
  wide.digest ((beginnings 0).map (BitVec.ofNat 64)) 64

end AnswerQuery.Host.Digest.Sha2

/-! The digest of up to sixty-four octets that mixes words of sixty-four bits in columns and in diagonals. -/

namespace AnswerQuery.Host.Digest.Blake2

/-- The words of a message begin with their lowest octets. -/
def layout : Layout := { word := 8, order := .lowFirst }

/-- In which order each of ten rounds takes the words of a block. -/
def orders : Array (Array Nat) := #[
  #[0, 1, 2, 3, 4, 5, 6, 7, 8, 9, 10, 11, 12, 13, 14, 15],
  #[14, 10, 4, 8, 9, 15, 13, 6, 1, 12, 0, 2, 11, 7, 5, 3],
  #[11, 8, 12, 0, 5, 2, 15, 13, 10, 14, 3, 6, 7, 1, 9, 4],
  #[7, 9, 3, 1, 13, 12, 11, 14, 2, 6, 5, 10, 4, 0, 15, 8],
  #[9, 0, 5, 7, 2, 4, 10, 15, 14, 1, 11, 12, 6, 8, 3, 13],
  #[2, 12, 6, 10, 0, 11, 8, 3, 4, 13, 7, 5, 15, 14, 1, 9],
  #[12, 5, 1, 15, 14, 13, 4, 10, 0, 7, 6, 3, 9, 2, 8, 11],
  #[13, 11, 7, 14, 12, 1, 3, 9, 5, 0, 15, 4, 8, 6, 2, 10],
  #[6, 15, 14, 9, 11, 3, 0, 8, 12, 2, 13, 7, 1, 4, 10, 5],
  #[10, 2, 8, 4, 7, 6, 1, 5, 15, 11, 9, 14, 3, 12, 13, 0]]

/-- The words that are mixed together: the four columns of a square, and then its four diagonals. -/
def groups : List (Nat × Nat × Nat × Nat) :=
  [(0, 4, 8, 12), (1, 5, 9, 13), (2, 6, 10, 14), (3, 7, 11, 15), (0, 5, 10, 15), (1, 6, 11, 12), (2, 7, 8, 13),
    (3, 4, 9, 14)]

/-- Mix four words of a square with two words of the block. -/
def mix (square : Array (BitVec 64)) (group : Nat × Nat × Nat × Nat) (first second : BitVec 64) : Array (BitVec 64) :=
  let (i, j, k, l) := group
  let a := square.getD i 0 + square.getD j 0 + first
  let d := (square.getD l 0 ^^^ a).rotateRight 32
  let c := square.getD k 0 + d
  let b := (square.getD j 0 ^^^ c).rotateRight 24
  let a := a + b + second
  let d := (d ^^^ a).rotateRight 16
  let c := c + d
  let b := (b ^^^ c).rotateRight 63
  (((square.setIfInBounds i a).setIfInBounds j b).setIfInBounds k c).setIfInBounds l d

/-- What digests begin with, before their length is told. -/
def beginnings : List (BitVec 64) := (Sha2.beginnings 0).map (BitVec.ofNat 64)

/-- One round. -/
def round (block square : Array (BitVec 64)) (number : Nat) : Array (BitVec 64) :=
  let order := orders.getD (number % 10) #[]
  groups.zipIdx.foldl (fun square (group, place) =>
    let word := fun (place : Nat) => block.getD (order.getD place 0) 0
    mix square group (word (2 * place)) (word (2 * place + 1))) square

/-- Take in a block that ends behind so many octets of the message. -/
def absorb (isLast : Bool) (state : List (BitVec 64)) (behind : Nat) (block : Array (BitVec 64)) : List (BitVec 64) :=
  let count : BitVec 128 := BitVec.ofNat 128 behind
  let marks : List (BitVec 64) := [count.setWidth 64, (count >>> 64).setWidth 64, if isLast then ~~~0 else 0, 0]
  let square := (state ++ beginnings.take 4 ++ List.zipWith (· ^^^ ·) (beginnings.drop 4) marks).toArray
  let mixed := ((List.range 12).foldl (round block) square).toList
  List.zipWith (· ^^^ ·) state (List.zipWith (· ^^^ ·) (mixed.take 8) (mixed.drop 8))

/-- Take the rest of a message in; so many octets came before. -/
def absorbAll (state : List (BitVec 64)) (before : Nat) : List Bytes → List (BitVec 64)
  | [] => state
  | [last] =>
    let whole := last ++ List.replicate (layout.block - last.length) 0
    absorb true state (before + last.length) (layout.words whole).toArray
  | block :: rest =>
    let before := before + block.length
    absorbAll (absorb false state before (layout.words block).toArray) before rest

/-- The digest of so many octets. -/
def digest (size : Nat) (message : Bytes) : Bytes :=
  let start := match beginnings with
    | first :: rest => (first ^^^ BitVec.ofNat 64 (0x01010000 + size)) :: rest
    | [] => []
  let blocks := if message.isEmpty then [[]] else pieces layout.block message
  (layout.octets (absorbAll start 0 blocks)).take size

end AnswerQuery.Host.Digest.Blake2
