import SourceTrace.Domain.DirectionTable
import SourceTrace.Domain.Table

/-!
# Names that run in two directions

A name with a letter that runs from right to left must have labels whose characters cannot move past
their ends when the name is shown: each label starts with a letter, holds only characters that go
along with that letter's direction, and ends in a letter or a digit.
-/
namespace SourceTrace.Domain.Direction

inductive Class where
  | left
  | right
  | arabic
  | arabicNumber
  | number
  | sign
  | separator
  | terminator
  | neutral
  | boundary
  | mark
  | other
  deriving DecidableEq, Repr

def classes : List (Class × List (Nat × Nat)) :=
  [(.right, rightText), (.arabic, arabicText), (.arabicNumber, arabicNumberText),
    (.number, numberText), (.sign, signText), (.separator, separatorText),
    (.terminator, terminatorText), (.neutral, neutralText), (.boundary, boundaryText),
    (.mark, markText), (.other, otherText)].map fun (cls, text) => (cls, Table.ranges text)

def classOf (c : Char) : Class :=
  if c.isAlpha then .left
  else if c.isDigit then .number
  else
    match classes.find? fun (_, ranges) => Table.holds ranges c.toNat with
    | some (cls, _) => cls
    | none => .left

/-- Whether a character makes a name run in two directions. -/
def isBackward (c : Char) : Bool :=
  128 ≤ c.toNat && [Class.right, .arabic, .arabicNumber].contains (classOf c)

/-- The classes that go along with either direction. -/
def common : List Class :=
  [.number, .sign, .separator, .terminator, .neutral, .boundary, .mark]

/-- Whether a label may stand in a name that runs in two directions. -/
def fits (label : List Char) : Bool :=
  match label.map classOf with
  | [] => true
  | first :: rest =>
    let allowed (within last : List Class) : Bool :=
      rest.all within.contains &&
        match rest.reverse.dropWhile (· == .mark) with
        | [] => true
        | cls :: _ => last.contains cls
    if first == .left then allowed (.left :: common) [.left, .number]
    else if first == .right || first == .arabic then
      allowed (.right :: .arabic :: .arabicNumber :: common)
          [.right, .arabic, .number, .arabicNumber] &&
        !(rest.contains .number && rest.contains .arabicNumber)
    else false

/-- Whether the labels of a name can be shown together. -/
def areShowable (labels : List (List Char)) : Bool :=
  if labels.any (·.any isBackward) then labels.all fits else true

end SourceTrace.Domain.Direction
