import AnswerQuery.Literal

/-! Clauses are read back as the facts that they state, so that different facts have different clauses. -/

namespace AnswerQuery

/-- Read a decimal numeral. -/
def readDecimal? (digits : Text) : Option Nat :=
  if digits.isEmpty || !digits.all Char.isDigit then none else some (Nat.ofDigitChars 10 digits 0)

/-- What stands before the first occurrence of a character, and what stands after it. -/
def cutAt? (c : Char) (text : Text) : Option (Text × Text) :=
  match text.dropWhile (· != c) with
  | [] => none
  | _ :: after => some (text.takeWhile (· != c), after)

/-- What stands before the parenthesis and the period at the end of a clause. -/
def withoutClosing? (text : Text) : Option Text :=
  match text.reverse with
  | '.' :: ')' :: front => some front.reverse
  | _ => none

namespace Fact

/-- Read the number of a model, a comma, an atom, and the end of a clause. -/
def ofArguments? (polarity : Polarity) (arguments : Text) : Option Fact := do
  let (digits, closed) ← cutAt? ',' arguments
  let model ← readDecimal? digits
  let atom ← withoutClosing? closed
  pure ⟨model, ⟨atom, polarity⟩⟩

/-- Read a clause: the atom is what stands between the first comma and the end. -/
def ofClause? : Text → Option Fact
  | 'n' :: 'e' :: 'g' :: '(' :: arguments => ofArguments? .negative arguments
  | 'p' :: 'o' :: 's' :: '(' :: arguments => ofArguments? .positive arguments
  | _ => none

end Fact

/-- A decimal numeral consists of digits. -/
theorem isDigit_of_mem_decimal {n : Nat} {c : Char} (member : c ∈ decimal n) : c.isDigit = true :=
  Nat.isDigit_of_mem_toDigits (by decide) (by decide) member

/-- A character that is no digit does not occur in a decimal numeral. -/
theorem not_mem_decimal {c : Char} (other : c.isDigit = false) (n : Nat) : c ∉ decimal n := by
  intro member
  rw [isDigit_of_mem_decimal member] at other
  contradiction

/-- A number is read back from its decimal numeral. -/
theorem readDecimal?_decimal (n : Nat) : readDecimal? (decimal n) = some n := by
  -- The numeral has a digit, and its digits have the value of the number.
  have digits : (decimal n).all Char.isDigit = true :=
    List.all_eq_true.mpr fun _ member => isDigit_of_mem_decimal member
  have nonempty : (decimal n).isEmpty = false := by simp [decimal, Nat.toDigits_ne_nil]
  have value : Nat.ofDigitChars 10 (decimal n) 0 = n := Nat.ofDigitChars_ten_toDigits
  simp [readDecimal?, digits, nonempty, value]

/-- A text is cut at a character that does not occur before. -/
theorem cutAt?_append {c : Char} {front : Text} (absent : c ∉ front) (back : Text) :
    cutAt? c (front ++ c :: back) = some (front, back) := by
  -- The characters of the front are passed, and the next one is found.
  have passed : ∀ other ∈ front, (other != c) = true := by
    intro other member
    exact bne_iff_ne.mpr fun same => absent (same ▸ member)
  simp [cutAt?, List.dropWhile_append_of_pos passed, List.takeWhile_append_of_pos passed]

/-- What a clause ends with is taken from its end. -/
theorem withoutClosing?_append (front : Text) : withoutClosing? (front ++ [')', '.']) = some front := by
  simp [withoutClosing?]

namespace Fact

/-- A fact as a functor, and its arguments up to the end of the clause. -/
theorem render_eq (fact : Fact) :
    fact.render = fact.literal.polarity.functor ++
      '(' :: (decimal fact.model ++ ',' :: (fact.literal.atom ++ [')', '.'])) := by
  simp [render, term]

/-- The arguments of a fact are read back, whatever its atom is. -/
theorem ofArguments?_append (model : Nat) (literal : Literal) :
    ofArguments? literal.polarity (decimal model ++ ',' :: (literal.atom ++ [')', '.'])) =
      some ⟨model, literal⟩ := by
  -- The numeral holds no comma, so that the first one comes before the atom.
  have first := cutAt?_append (not_mem_decimal (c := ',') (by decide) model) (literal.atom ++ [')', '.'])
  simp [ofArguments?, first, readDecimal?_decimal, withoutClosing?_append]

/-- A fact is read back from its clause. -/
theorem ofClause?_render (fact : Fact) : ofClause? fact.render = some fact := by
  -- The functor tells the polarity.
  obtain ⟨model, atom, polarity⟩ := fact
  rw [render_eq]
  cases polarity with
  | negative => exact ofArguments?_append model ⟨atom, .negative⟩
  | positive => exact ofArguments?_append model ⟨atom, .positive⟩

/-- Different facts have different clauses. -/
theorem render_inj {first second : Fact} : first.render = second.render ↔ first = second := by
  -- Both are read back from the same clause.
  constructor
  · intro same
    have read := congrArg ofClause? same
    rwa [ofClause?_render, ofClause?_render, Option.some_inj] at read
  · rintro rfl
    rfl

end Fact

example : Fact.ofClause? "neg(10,p(a,b).),c).".toList = some ⟨10, ⟨"p(a,b).),c".toList, .negative⟩⟩ := by decide

end AnswerQuery
