import AnswerQuery.Host.Tool.Source

/-! The prime factors of numbers. -/

namespace AnswerQuery.Host.Tool

namespace Factors

/-- A power modulo a number, by squaring so many times at most. -/
def powerModulo (modulus : Nat) : Nat → Nat → Nat → Nat
  | 0, _, _ => 1 % modulus
  | steps + 1, base, exponent =>
    if exponent = 0 then 1 % modulus
    else
      let half := powerModulo modulus steps (base * base % modulus) (exponent / 2)
      if exponent % 2 = 1 then half * base % modulus else half

/-- Whether squaring leads to the greatest rest within so many steps. -/
def meetsLast (modulus : Nat) : Nat → Nat → Bool
  | 0, _ => false
  | steps + 1, value => value == modulus - 1 || meetsLast modulus steps (value * value % modulus)

/-- How often a number can be halved, and what is left. -/
def halves : Nat → Nat → Nat × Nat
  | 0, number => (0, number)
  | steps + 1, number =>
    if number % 2 = 0 && number != 0 then
      let (count, rest) := halves steps (number / 2)
      (count + 1, rest)
    else (0, number)

/-- Whether a base does not show that an odd number is no prime. -/
def allows (number base : Nat) : Bool :=
  let (count, odd) := halves (number.log2 + 1) (number - 1)
  let first := powerModulo number (number.log2 + 1) base odd
  first == 1 || meetsLast number count first

/-- The small primes. -/
def smallPrimes : List Nat :=
  [2, 3, 5, 7, 11, 13, 17, 19, 23, 29, 31, 37, 41, 43, 47, 53, 59, 61, 67, 71, 73, 79, 83, 89, 97]

/-- Whether a number is a prime, as far as the small primes can tell. -/
def isPrime (number : Nat) : Bool :=
  2 ≤ number && smallPrimes.all fun prime => number == prime || (number % prime != 0 && allows number prime)

/-- Divide out the numbers from one on while their squares are not too great; so many are tried. -/
def divideOut : Nat → Nat → Nat → List Nat × Nat
  | 0, _, number => ([], number)
  | steps + 1, divisor, number =>
    if number < divisor * divisor then ([], number)
    else if number % divisor = 0 then
      let (factors, rest) := divideOut steps divisor (number / divisor)
      (divisor :: factors, rest)
    else divideOut steps (if divisor = 2 then 3 else divisor + 2) number

/-- Walk along a sequence that runs into a circle modulo each divisor, with one pace twice as fast as the other, until
their distance has a divisor in common with the number. -/
def meet (number step : Nat) : Nat → Nat → Nat → Nat
  | 0, _, _ => number
  | steps + 1, slow, fast =>
    let next := fun (value : Nat) => (value * value + step) % number
    let slow := next slow
    let fast := next (next fast)
    let divisor := Nat.gcd (if slow < fast then fast - slow else slow - fast) number
    if divisor = 1 then meet number step steps slow fast else divisor

/-- A divisor of a number that is no prime; several sequences are tried. -/
def divisor (number : Nat) : Nat → Nat → Nat
  | 0, _ => number
  | tries + 1, step =>
    let found := meet number step 100000000 2 2
    if found == number then divisor number tries (step + 1) else found

/-- The prime factors of a number that has no small ones. -/
def split : Nat → Nat → List Nat
  | 0, number => [number]
  | depth + 1, number =>
    if number ≤ 1 then []
    else if isPrime number then [number]
    else
      let found := divisor number 20 1
      if found == number || found ≤ 1 then [number] else split depth found ++ split depth (number / found)

/-- The prime factors of a number, the smallest first. -/
def of (number : Nat) : List Nat :=
  if number ≤ 1 then []
  else
    let (small, rest) := divideOut 6000 2 number
    small ++ (split (rest.log2 + 1) rest).mergeSort (· ≤ ·)

/-- Write the factors of a number that is told; the result tells whether it is one. -/
def tell (text : Raw) : Act Bool := do
  let bare := text.dropWhile (· == ' ')
  let bare := if bare.head? == some '+' then bare.drop 1 else bare
  match Numeral.natural? bare with
  | some number => do
    let line := decimal number ++ [':'] ++ (of number).flatMap (fun factor => ' ' :: decimal factor) ++ ['\n']
    -- What is said of numbers of more than two words does not wait for the rest.
    if number < Nat.pow 2 127 then Act.say line
    else
      let _ ← Act.ask (.write 1 (Raw.octets line))
    pure true
  | none => do
    Act.report ((← get).name ++ ": ".toList ++ quoted text ++ " is not a valid positive integer\n".toList)
    Act.fail 1
    pure false

/-- The words of a text. -/
def wordsOf (text : Raw) : List Raw :=
  (text.splitOnP fun c => c == ' ' || c == '\t' || c == '\n').filter (!List.isEmpty ·)

end Factors

/-- Write the prime factors of numbers. -/
def factor : Utility := ofAct fun arguments => do
  let invocation ← Act.readOptions 1 [] false arguments
  if invocation.operands.isEmpty then
    match ← Act.readFile ['-'] with
    | .error reason => Act.die 1 ("error reading input: ".toList ++ reason.description)
    | .ok octets =>
      for word in Factors.wordsOf (Raw.ofOctets octets) do
        let _ ← Factors.tell word
  else
    for text in invocation.operands do
      let _ ← Factors.tell text

/-- The programs of this kind. -/
def factorTools : List (String × Utility) :=
  [("factor", factor)]

end AnswerQuery.Host.Tool
