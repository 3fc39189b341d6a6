import SourceTrace.Domain.CompositionTable
import SourceTrace.Domain.Table

/-!
# Composed form

A letter with marks can be written in several ways. The composed form is the one in which everything
that has a character of its own is written as that character: the text is taken apart, the marks
behind each letter are put in the order of their classes, and then every letter takes up the marks
it combines with. Hangul syllables are taken apart and combined by arithmetic.
-/
namespace SourceTrace.Domain.Composition

/-- Two code points that combine, and the code point of both. -/
structure Pair where
  first : Nat
  second : Nat
  whole : Nat

def pairs : List Pair :=
  (Table.rows pairText).filterMap fun row =>
    match row with
    | [first, second, whole] => some ⟨first, second, whole⟩
    | _ => none

def classes : List (Nat × Nat × Nat) :=
  (Table.rows classText).filterMap fun row =>
    match row with
    | [cls, only] => some (cls, only, only)
    | [cls, low, high] => some (cls, low, high)
    | _ => none

def markRanges : List (Nat × Nat) := Table.ranges markText

/-- The combining class of a code point, zero for all that is no mark of a class. -/
def classOf (n : Nat) : Nat :=
  if n < 128 then 0
  else
    match classes.find? fun (_, low, high) => low ≤ n && n ≤ high with
    | some (cls, _, _) => cls
    | none => 0

def isMark (c : Char) : Bool := 128 ≤ c.toNat && Table.holds markRanges c.toNat

/-- Whether a character is a mark that suppresses the vowel of a letter. -/
def isVirama (c : Char) : Bool := classOf c.toNat == 9

def isSyllable (n : Nat) : Bool := 0xac00 ≤ n && n < 0xac00 + 11172

def letters (n : Nat) : List Nat :=
  let index := n - 0xac00
  let head := [0x1100 + index / 588, 0x1161 + index % 588 / 28]
  if index % 28 == 0 then head else head ++ [0x11a7 + index % 28]

/-- The parts of a code point, taken apart at most `fuel` times. -/
def partsFrom : Nat → Nat → List Nat
  | 0, n => [n]
  | fuel + 1, n =>
    if n < 128 then [n]
    else if isSyllable n then letters n
    else
      match pairs.find? (·.whole == n) with
      | some pair => partsFrom fuel pair.first ++ [pair.second]
      | none => [n]

/-- The parts of a code point. No letter carries more than three marks. -/
def parts (n : Nat) : List Nat := partsFrom 4 n

/-- Puts a code point behind a text that is kept backwards, but before all marks of higher classes
at its end. -/
def place (n : Nat) : List Nat → List Nat
  | [] => [n]
  | last :: before =>
    if classOf n != 0 && classOf n < classOf last then last :: place n before
    else n :: last :: before

/-- A text taken apart, with the marks behind each letter in the order of their classes. -/
def takeApart (text : List Nat) : List Nat :=
  ((text.flatMap parts).foldl (fun placed n => place n placed) []).reverse

def combine? (first second : Nat) : Option Nat :=
  if 0x1100 ≤ first && first < 0x1113 && 0x1161 ≤ second && second < 0x1176 then
    some (0xac00 + ((first - 0x1100) * 21 + (second - 0x1161)) * 28)
  else if isSyllable first && (first - 0xac00) % 28 == 0 && 0x11a8 ≤ second && second < 0x11c3 then
    some (first + (second - 0x11a7))
  else (pairs.find? fun pair => pair.first == first && pair.second == second).map (·.whole)

/-- A text on the way to its composed form: what is finished, backwards, then the last letter, then
the marks behind it that it did not take up, backwards. -/
structure Progress where
  done : List Nat
  letter : Option Nat
  marks : List Nat

/-- Everything so far, backwards. -/
def Progress.all (p : Progress) : List Nat := p.marks ++ p.letter.toList ++ p.done

/-- The last letter takes up a code point if they combine and no mark of the same class or a higher
one stands between. -/
def Progress.next (p : Progress) (n : Nat) : Progress :=
  let free := match p.marks with
    | [] => true
    | last :: _ => classOf last < classOf n
  match p.letter.bind fun letter => if free then combine? letter n else none with
  | some whole => { p with letter := some whole }
  | none =>
    if classOf n == 0 then ⟨p.all, some n, []⟩
    else if p.letter.isNone then { p with done := n :: p.done }
    else { p with marks := n :: p.marks }

def composeNumbers (text : List Nat) : List Nat :=
  ((takeApart text).foldl Progress.next ⟨[], none, []⟩).all.reverse

/-- The composed form of a text. -/
def compose (text : List Char) : List Char :=
  if text.all (·.toNat < 128) then text
  else (composeNumbers (text.map Char.toNat)).map Char.ofNat

def isComposed (text : List Char) : Bool := compose text == text

end SourceTrace.Domain.Composition
