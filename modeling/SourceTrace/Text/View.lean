import SourceTrace.Text.Basic
import SourceTrace.Text.Identifier
import SourceTrace.Text.Utf16

/-!
# Lines and columns of a text

A view gives access to a text by line and column. A line ends at a line feed, at a carriage return,
or at the pair of both, and the text behind the last terminator is a line too, even when it is
empty. Columns count UTF-16 units.
-/
namespace SourceTrace.Text

/-- The lines of a text, without their terminators. -/
def lines : List Char → List (List Char)
  | [] => [[]]
  | '\n' :: rest => [] :: lines rest
  | '\r' :: '\n' :: rest => [] :: lines rest
  | '\r' :: rest => [] :: lines rest
  | c :: rest =>
    match lines rest with
    | [] => [[c]]
    | line :: more => (c :: line) :: more

/-- A place in a text: a line and a column, both counted from zero. -/
structure Place where
  line : Nat
  column : Nat
  deriving DecidableEq, Repr

structure View where
  lines : List (List Char)
  deriving DecidableEq, Repr

namespace View

def ofString (text : String) : View := ⟨Text.lines text.toList⟩

/-- A line without its terminator. -/
def line? (view : View) (index : Nat) : Option (List Char) := view.lines[index]?

def from? (view : View) (line column : Nat) : Option (List Char) := do
  let text ← view.line? line
  let (_, here) ← cutAtColumn? text column
  return here

def slice? (view : View) (line column span : Nat) : Option (List Char) := do
  let here ← view.from? line column
  let (part, _) ← cutAtColumn? here span
  return part

def identifier? (view : View) (line column : Nat) : Option (List Char) :=
  (view.from? line column).bind Identifier.leading?

def hasText (view : View) (line column : Nat) (text : List Char) : Bool :=
  match view.from? line column with
  | some here => (after? text here).isSome
  | none => false

def width? (view : View) (line : Nat) : Option Nat := (view.line? line).map units

end View

/-- Whether a needle with the given neighbours is part of a longer identifier: it starts with an
identifier character and one precedes it, or it ends with one and one follows it. -/
def insideIdentifier (needle : List Char) (before following : Option Char) : Bool :=
  let continues (c : Option Char) := c.any Identifier.isContinue
  (continues needle.head? && continues before) || (continues needle.getLast? && continues following)

/-- The columns of the occurrences of a needle in the rest of a line, where `before` is the last
character in front of the rest and `column` is where the rest starts. The search goes on behind
each occurrence, so occurrences that overlap an earlier one do not count; `skip` counts the
characters of the last one that are still to be passed. -/
def occurrencesFrom (needle : List Char) (column : Nat) (before : Option Char) :
    Nat → List Char → List Nat
  | _, [] => []
  | skip + 1, c :: rest => occurrencesFrom needle (column + unitWidth c) (some c) skip rest
  | 0, c :: rest =>
    match after? needle (c :: rest) with
    | none => occurrencesFrom needle (column + unitWidth c) (some c) 0 rest
    | some following =>
      let more := occurrencesFrom needle (column + unitWidth c) (some c) (needle.length - 1) rest
      if insideIdentifier needle before following.head? then more else column :: more

def occurrences (needle line : List Char) : List Nat := occurrencesFrom needle 0 none 0 line

/-- Every place where a needle occurs, in order. The empty needle occurs nowhere. -/
def View.findAll (view : View) (needle : List Char) : List Place :=
  if needle.isEmpty then []
  else
    view.lines.zipIdx.flatMap fun (line, index) =>
      (occurrences needle line).map fun column => ⟨index, column⟩

/-- Every text has a line. -/
theorem lines_ne_nil (text : List Char) : lines text ≠ [] := by
  fun_cases lines text <;> simp

end SourceTrace.Text
