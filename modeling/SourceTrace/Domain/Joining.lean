import SourceTrace.Domain.Composition
import SourceTrace.Domain.JoiningTable

/-!
# Joiners inside a label

The zero-width joiner and non-joiner change nothing but the shape of letters, so a label may hold
them only where they have a shape to change: behind a mark that suppresses a vowel, and the
non-joiner also between two letters that would join each other.
-/
namespace SourceTrace.Domain.Joining

def leftRanges : List (Nat × Nat) := Table.ranges leftText

def rightRanges : List (Nat × Nat) := Table.ranges rightText

def dualRanges : List (Nat × Nat) := Table.ranges dualText

def transparentRanges : List (Nat × Nat) := Table.ranges transparentText

def joinsNext (c : Char) : Bool :=
  Table.holds leftRanges c.toNat || Table.holds dualRanges c.toNat

def joinsPrevious (c : Char) : Bool :=
  Table.holds rightRanges c.toNat || Table.holds dualRanges c.toNat

/-- Whether the first character that joining does not look through satisfies `joins`. -/
def meets (joins : Char → Bool) : List Char → Bool
  | [] => false
  | c :: rest =>
    if joins c then true
    else if Table.holds transparentRanges c.toNat then meets joins rest
    else false

/-- Whether a character may stand where it does: `before` is what precedes it, backwards, and
`behind` is what follows it. Only the two joiners are bound to a place. -/
def isPlaced (before : List Char) (c : Char) (behind : List Char) : Bool :=
  let afterVirama := before.head?.any Composition.isVirama
  if c == '\u200d' then afterVirama
  else if c == '\u200c' then
    afterVirama || (meets joinsNext before && meets joinsPrevious behind)
  else true

/-- Whether all characters of a text may stand where they do, with `before` in front, backwards. -/
def arePlacedFrom (before : List Char) : List Char → Bool
  | [] => true
  | c :: rest => isPlaced before c rest && arePlacedFrom (c :: before) rest

/-- Whether all characters of a label may stand where they do. -/
def arePlaced (label : List Char) : Bool := arePlacedFrom [] label

end SourceTrace.Domain.Joining
