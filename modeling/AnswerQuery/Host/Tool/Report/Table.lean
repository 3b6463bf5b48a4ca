import AnswerQuery.Host.Tool.Report.Cell
import Std.Data.HashMap

/-! Tables: cells under keys, which are visited in an order that depends on how they were used before. -/

namespace AnswerQuery.Host.Tool.Report

/-- A key of a table. -/
inductive Key where
  | whole (n : Int)
  | text (text : Raw)

namespace Key

/-- A key as a text. -/
def toText : Key → Raw
  | whole n => Numeral.ofInt n
  | text content => content

/-- The whole number that is written as a text in the one way it is written. -/
def wholeOf? (text : Raw) : Option Int :=
  match Numeral.integer? text with
  | some n => if Numeral.ofInt n == text then some n else none
  | none => none

/-- A number that is made of a text and spreads well. -/
def mix (text : Raw) : Nat :=
  (text.foldl (fun (sum : UInt32) c => (sum ^^^ c.val) * 16777619) 2166136261).toNat

end Key

/-- Cells in rows: those that have been named by whole numbers are in rows of numbers, and those that have been named by
texts in rows of texts. What is found moves to the front of its row. -/
structure Rows where
  /-- The cells. -/
  cells : Std.HashMap Raw Cell := {}
  /-- The whole numbers in use. -/
  numbers : Array (List Int) := Array.replicate 64 []
  /-- The texts in use, if there are any. -/
  texts : Option (Array (List Raw)) := none

namespace Rows

/-- How many cells a row has on average at most. -/
def fullness : Nat := 12

/-- The row of a whole number. -/
def rowOfNumber (rows : Nat) (n : Int) : Nat :=
  (n % Int.ofNat rows).toNat

/-- The row of a text. -/
def rowOfText (rows : Nat) (text : Raw) : Nat :=
  Key.mix text % rows

/-- The rows of texts, which are made of the rows of numbers if there are none. -/
def withTexts (rows : Rows) : Rows :=
  match rows.texts with
  | some _ => rows
  | none =>
    let count := rows.numbers.size
    let texts := rows.numbers.foldl (fun texts row =>
      row.foldl (fun (texts : Array (List Raw)) n =>
        let text := Numeral.ofInt n
        texts.modify (rowOfText count text) (text :: ·)) texts) (Array.replicate count [])
    { rows with texts := some texts }

/-- Whether a row has something; it moves to the front, or is put there if that is wanted. -/
def moveToFront {α : Type} [BEq α] (one : α) (adds : Bool) (row : List α) : Bool × List α :=
  match row with
  | [] => (false, if adds then [one] else [])
  | first :: _ =>
    if first == one then (true, row)
    else if row.contains one then (true, one :: row.erase one)
    else (false, if adds then one :: row else row)

/-- Look for a text, and put a cell there if that is wanted. -/
def touchText (creates : Bool) (text : Raw) (rows : Rows) : Bool × Rows :=
  let rows := rows.withTexts
  let texts := rows.texts.getD #[]
  let place := rowOfText texts.size text
  let (found, row) := moveToFront text creates (texts.getD place [])
  let rows := { rows with texts := some (texts.set! place row) }
  if found then (true, rows)
  else if creates then (true, { rows with cells := rows.cells.insert text .blank })
  else (false, rows)

/-- Look for a whole number, and put a cell there if that is wanted. -/
def touchNumber (creates : Bool) (n : Int) (rows : Rows) : Bool × Rows :=
  let place := rowOfNumber rows.numbers.size n
  let (found, row) := moveToFront n false (rows.numbers.getD place [])
  if found then (true, { rows with numbers := rows.numbers.set! place row })
  else
    let (found, rows) :=
      if rows.texts.isSome then rows.touchText creates (Numeral.ofInt n)
      else if creates then (true, { rows with cells := rows.cells.insert (Numeral.ofInt n) .blank })
      else (false, rows)
    if found then (true, { rows with numbers := rows.numbers.modify place (n :: ·) }) else (false, rows)

/-- Spread what is in rows over so many others. -/
def spread {α : Type} (count : Nat) (rowOf : α → Nat) (old : Array (List α)) : Array (List α) :=
  let add := fun (new : Array (List α)) one => new.modify (rowOf one) (one :: ·)
  (old.foldl (fun new row => row.foldl add new) (Array.replicate count [])).map List.reverse

/-- Twice as many rows if they have become full. -/
def grown (rows : Rows) : Rows :=
  let count := rows.numbers.size
  if rows.cells.size ≤ count * fullness then rows
  else
    { rows with
      numbers := spread (2 * count) (rowOfNumber (2 * count)) rows.numbers
      texts := rows.texts.map fun texts => spread (2 * count) (rowOfText (2 * count)) texts }

/-- Look for a key, and put a cell there if that is wanted. -/
def touch (creates : Bool) (key : Key) (rows : Rows) : Bool × Rows :=
  let (found, rows) := match key with
    | .whole n => rows.touchNumber creates n
    | .text text => rows.touchText creates text
  (found, if creates then rows.grown else rows)

/-- Leave out a key. -/
def erase (key : Key) (rows : Rows) : Rows :=
  let (found, rows) := rows.touch false key
  if !found then rows
  else
    let text := key.toText
    let count := rows.numbers.size
    let numbers := match Key.wholeOf? text with
      | some n => rows.numbers.modify (rowOfNumber count n) (·.erase n)
      | none => rows.numbers
    let texts := rows.texts.map fun texts => texts.modify (rowOfText count text) (·.erase text)
    { cells := rows.cells.erase text, numbers, texts }

/-- The rows of cells that are counted from one. -/
def ofCells (cells : Array Cell) : Rows :=
  let count := (List.range 40).foldl (fun count _ => if cells.size ≤ count * fullness then count else 2 * count) 64
  let numbers := (List.range cells.size).foldl (fun (numbers : Array (List Int)) i =>
    let n := Int.ofNat (i + 1)
    numbers.modify (rowOfNumber count n) (n :: ·)) (Array.replicate count [])
  let cells := (List.range cells.size).foldl (fun (map : Std.HashMap Raw Cell) i =>
    map.insert (decimal (i + 1)) (cells.getD i .blank)) {}
  { cells, numbers }

end Rows

/-- A table. -/
inductive Table where
  | nothing
  /-- Cells that are counted from one. -/
  | counted (cells : Array Cell)
  | spread (rows : Rows)

namespace Table

/-- How many cells there are. -/
def size : Table → Nat
  | nothing => 0
  | counted cells => cells.size
  | spread rows => rows.cells.size

/-- The table as rows. -/
def toRows : Table → Rows
  | nothing => {}
  | counted cells => Rows.ofCells cells
  | spread rows => rows

/-- The index of a key among cells that are counted from one. -/
def indexOf? (key : Key) (count : Nat) : Option Nat :=
  match key with
  | .whole n => if 1 ≤ n && n ≤ Int.ofNat count then some (n.toNat - 1) else none
  | .text _ => none

/-- Look for a key without making it. -/
def find (key : Key) : Table → Bool × Table
  | nothing => (false, nothing)
  | counted cells =>
    match key, indexOf? key cells.size with
    | _, some _ => (true, counted cells)
    | .whole _, none => (false, counted cells)
    | .text _, none =>
      let (found, rows) := (Rows.ofCells cells).touch false key
      (found, spread rows)
  | spread rows =>
    let (found, rows) := rows.touch false key
    (found, spread rows)

/-- The cell of a key, which is made if it is not there. -/
def get (key : Key) (table : Table) : Cell × Table :=
  match table with
  | counted cells =>
    match indexOf? key cells.size with
    | some i => (cells.getD i .blank, counted cells)
    | none =>
      let (_, rows) := (Rows.ofCells cells).touch true key
      (rows.cells.getD key.toText .blank, spread rows)
  | other =>
    let (_, rows) := other.toRows.touch true key
    (rows.cells.getD key.toText .blank, spread rows)

/-- Put a cell under a key. -/
def put (key : Key) (cell : Cell) (table : Table) : Table :=
  let among := fun (rows : Rows) =>
    let (_, rows) := rows.touch true key
    spread { rows with cells := rows.cells.insert key.toText cell }
  match table with
  | counted cells =>
    match indexOf? key cells.size with
    | some i => counted (cells.set! i cell)
    | none => among (Rows.ofCells cells)
  | other => among other.toRows

/-- Leave out a key. -/
def erase (key : Key) (table : Table) : Table :=
  let among := fun (rows : Rows) =>
    let rows := rows.erase key
    if rows.cells.isEmpty then nothing else spread rows
  match table with
  | nothing => nothing
  | counted cells =>
    match key, indexOf? key cells.size with
    | .whole _, none => counted cells
    | _, _ => among (Rows.ofCells cells)
  | spread rows => among rows

/-- The keys in the order in which they are visited. -/
def keys (table : Table) : List Raw × Table :=
  match table with
  | nothing => ([], nothing)
  | other =>
    let rows := other.toRows.withTexts
    (((rows.texts.getD #[]).toList).flatten, spread rows)

end Table

end AnswerQuery.Host.Tool.Report
