import AnswerQuery.Host.Program
import AnswerQuery.Host.Numeral

/-! Modes: who may use a file, and how a mode is changed. -/

namespace AnswerQuery.Host.Tool

namespace Mode

/-- All bits that a mode can have. -/
def all : Nat := 0o7777

/-- The bits that are in one mode and not in another. -/
def without (mode bits : Nat) : Nat :=
  mode - Nat.land mode bits

/-- What is done with bits. -/
inductive Sign where
  | add
  | remove
  | set
  deriving DecidableEq, Repr

/-- Where bits come from. -/
inductive Source where
  /-- They are told. -/
  | told
  /-- They are those that some users have already. -/
  | copied
  /-- They are told, and the use of programs is added if it makes sense. -/
  | withSearch
  deriving DecidableEq, Repr

/-- A change of a mode. -/
structure Change where
  /-- What is done. -/
  sign : Sign
  /-- The bits of the users that are meant; none if no users were named. -/
  affected : Option Nat
  /-- The bits that are told. -/
  bits : Nat
  /-- Where bits come from. -/
  source : Source
  /-- The bits that are named. -/
  mentioned : Nat

/-- The bits of users by their letters. -/
def usersOf (c : Char) : Option Nat :=
  match c with
  | 'u' => some 0o4700
  | 'g' => some 0o2070
  | 'o' => some 0o1007
  | 'a' => some all
  | _ => none

/-- The bits of uses by their letters. -/
def usesOf (c : Char) : Option Nat :=
  match c with
  | 'r' => some 0o444
  | 'w' => some 0o222
  | 'x' => some 0o111
  | 's' => some 0o6000
  | 't' => some 0o1000
  | 'X' => some 0
  | _ => none

/-- The sign that a character is. -/
def signOf (c : Char) : Option Sign :=
  match c with
  | '+' => some .add
  | '-' => some .remove
  | '=' => some .set
  | _ => none

/-- Read signs, each with what follows it, for users that have been named. -/
def readSigns (affected : Option Nat) : Nat → Raw → Option (List Change)
  | 0, _ => none
  | _ + 1, [] => some []
  | steps + 1, c :: rest => do
    let sign ← signOf c
    let digits := rest.takeWhile (Numeral.isDigitIn 8)
    let goOn := fun (change : Change) (rest : Raw) =>
      let mentioned := match affected with
        | some affected => Nat.land affected change.bits
        | none => change.bits
      (readSigns affected steps rest).map ({ change with mentioned := if change.mentioned = 0 then mentioned else change.mentioned } :: ·)
    if !digits.isEmpty then
      let bits := Numeral.valueOf 8 digits
      if affected.isSome || !(rest.drop digits.length).isEmpty || all < bits then none
      else some [⟨sign, some all, bits, .told, all⟩]
    else
      match rest with
      | 'u' :: after => goOn ⟨sign, affected, 0o700, .copied, 0⟩ after
      | 'g' :: after => goOn ⟨sign, affected, 0o070, .copied, 0⟩ after
      | 'o' :: after => goOn ⟨sign, affected, 0o007, .copied, 0⟩ after
      | _ =>
        let letters := rest.takeWhile fun c => (usesOf c).isSome
        let bits := letters.foldl (fun bits c => Nat.lor bits ((usesOf c).getD 0)) 0
        goOn ⟨sign, affected, bits, if letters.contains 'X' then .withSearch else .told, 0⟩ (rest.drop letters.length)

/-- Read the changes that a text describes. -/
def read (text : Raw) : Option (List Change) :=
  if (text.head?.map (Numeral.isDigitIn 8)).getD false then
    let bits := Numeral.valueOf 8 text
    if !text.all (Numeral.isDigitIn 8) || all < bits then none
    else
      let mentioned := if text.length < 5 then Nat.lor (Nat.land bits 0o7000) 0o777 else all
      some [⟨.set, some all, bits, .told, mentioned⟩]
  else do
    let clauses ← (Raw.split ',' text).mapM fun clause =>
      let users := clause.takeWhile fun c => (usersOf c).isSome
      let affected := if users.isEmpty then none
        else some (users.foldl (fun bits c => Nat.lor bits ((usersOf c).getD 0)) 0)
      let rest := clause.drop users.length
      if rest.isEmpty then none else readSigns affected (rest.length + 1) rest
    pure clauses.flatten

/-- Change a mode, given whether it is that of a directory and which bits new files are not to have. -/
def apply (isDirectory : Bool) (mask : Nat) (mode : Nat) (change : Change) : Nat :=
  let omitted := if isDirectory then without 0o6000 change.mentioned else 0
  let bits := match change.source with
    | .told => change.bits
    | .copied =>
      let had := Nat.land change.bits mode
      [0o444, 0o222, 0o111].foldl (fun bits use => if Nat.land had use = 0 then bits else Nat.lor bits use) had
    | .withSearch => if isDirectory || Nat.land mode 0o111 != 0 then Nat.lor change.bits 0o111 else change.bits
  let bits := match change.affected with
    | some affected => Nat.land bits affected
    | none => without bits mask
  let bits := without bits omitted
  match change.sign with
  | .set =>
    let kept := Nat.lor (match change.affected with
      | some affected => without all affected
      | none => 0) omitted
    Nat.lor (Nat.land mode kept) bits
  | .add => Nat.lor mode bits
  | .remove => without mode bits

/-- Change a mode in several ways. -/
def adjust (isDirectory : Bool) (mask : Nat) (changes : List Change) (mode : Nat) : Nat :=
  changes.foldl (apply isDirectory mask) mode

/-- The letters of a mode, without the one of the kind of file. -/
def letters (mode : Nat) : Raw :=
  let has := fun (bit : Nat) => Nat.land mode bit != 0
  let triple := fun (read write run extra : Nat) (small great : Char) =>
    [if has read then 'r' else '-', if has write then 'w' else '-',
      if has extra then (if has run then small else great) else (if has run then 'x' else '-')]
  triple 0o400 0o200 0o100 0o4000 's' 'S' ++ triple 0o040 0o020 0o010 0o2000 's' 'S' ++
    triple 0o004 0o002 0o001 0o1000 't' 'T'

/-- The letter of a kind of file. -/
def kindLetter (kind : Kind) : Char :=
  match kind with
  | .directory => 'd'
  | .file => '-'
  | .link => 'l'
  | .device => 'c'
  | .channel => 'p'

/-- A mode as four octal digits. -/
def octal (mode : Nat) : Raw :=
  let digits := Numeral.inBase 8 mode
  List.replicate (4 - digits.length) '0' ++ digits

end Mode

end AnswerQuery.Host.Tool
