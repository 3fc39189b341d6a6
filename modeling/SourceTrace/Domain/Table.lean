/-!
# Tables of code points

Large tables are written as lines of text: rows are words divided by spaces, and the hexadecimal
numbers of a row are divided by dots. A row of one number is also a range with both ends in one
place.
-/
namespace SourceTrace.Domain.Table

def digit (c : Char) : Nat := if c.isDigit then c.toNat - 48 else c.toNat - 87

/-- What has been read of a line: the rows before this one, backwards, the numbers of this row,
backwards, and the number that is being read. -/
structure Progress where
  rows : List (List Nat)
  numbers : List Nat
  value : Nat

/-- The rows read so far, backwards, with the one that is being read. -/
def Progress.closed (p : Progress) : List (List Nat) := (p.value :: p.numbers).reverse :: p.rows

/-- Reads one character of a line. -/
def Progress.next (p : Progress) (c : Char) : Progress :=
  if c == ' ' then ⟨p.closed, [], 0⟩
  else if c == '.' then ⟨p.rows, p.value :: p.numbers, 0⟩
  else ⟨p.rows, p.numbers, p.value * 16 + digit c⟩

def rowsOfLine (line : String) : List (List Nat) :=
  (line.toList.foldl Progress.next ⟨[], [], 0⟩).closed.reverse

def rows (text : List String) : List (List Nat) := text.flatMap rowsOfLine

def range : List Nat → Nat × Nat
  | [] => (0, 0)
  | [only] => (only, only)
  | low :: high :: _ => (low, high)

def ranges (text : List String) : List (Nat × Nat) := (rows text).map range

/-- Whether a code point lies in one of the ranges. -/
def holds (ranges : List (Nat × Nat)) (n : Nat) : Bool :=
  ranges.any fun (low, high) => low ≤ n && n ≤ high

end SourceTrace.Domain.Table
