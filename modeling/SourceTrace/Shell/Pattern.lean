import SourceTrace.Text.Basic

/-!
# Patterns

A pattern matches whole texts: a star stands for any characters, a question mark for one, brackets
for one of those between them, and everything else, quoted characters among it, for itself.
-/
namespace SourceTrace.Shell

/-- A character of a word, and whether it was quoted. -/
structure Glyph where
  char : Char
  isQuoted : Bool
  deriving DecidableEq, Repr

inductive Matcher where
  | exact (c : Char)
  /-- Any one character. -/
  | any
  /-- Any characters. -/
  | many
  /-- One character inside, or outside, of the ranges. -/
  | oneOf (outside : Bool) (ranges : List (Char × Char))
  deriving DecidableEq, Repr

namespace Pattern

def ranges : List Char → List (Char × Char)
  | first :: '-' :: last :: rest => (first, last) :: ranges rest
  | c :: rest => (c, c) :: ranges rest
  | [] => []

def bracket : List Char → Matcher
  | '!' :: rest => .oneOf true (ranges rest)
  | rest => .oneOf false (ranges rest)

/-- The characters up to the closing bracket and the glyphs behind it. The first character never
closes. -/
def bracketed? (glyphs : List Glyph) : Option (List Char × List Glyph) :=
  let isEnd (glyph : Glyph) := glyph.char = ']' && !glyph.isQuoted
  match glyphs with
  | [] => none
  | first :: rest =>
    let inner := rest.takeWhile fun glyph => !isEnd glyph
    match rest.drop inner.length with
    | [] => none
    | _ :: following => some ((first :: inner).map Glyph.char, following)

/-- The pattern that at most `fuel` glyphs stand for. -/
def within : Nat → List Glyph → List Matcher
  | 0, _ => []
  | _, [] => []
  | fuel + 1, glyph :: rest =>
    if glyph.isQuoted then .exact glyph.char :: within fuel rest
    else if glyph.char = '*' then .many :: within fuel rest
    else if glyph.char = '?' then .any :: within fuel rest
    else if glyph.char = '[' then
      match bracketed? rest with
      | some (inner, following) => bracket inner :: within fuel following
      | none => .exact '[' :: within fuel rest
    else .exact glyph.char :: within fuel rest

def ofGlyphs (glyphs : List Glyph) : List Matcher := within glyphs.length glyphs

/-- A text and everything that is left of it when characters are taken away in front. -/
def suffixes : List Char → List (List Char)
  | [] => [[]]
  | c :: rest => (c :: rest) :: suffixes rest

/-- Whether a pattern matches a whole text. -/
def covers : List Matcher → List Char → Bool
  | [], text => text.isEmpty
  | .many :: rest, text => (suffixes text).any fun suffix => covers rest suffix
  | .exact c :: rest, d :: text => c = d && covers rest text
  | .any :: rest, _ :: text => covers rest text
  | .oneOf outside ranges :: rest, c :: text =>
    (outside != ranges.any fun (first, last) => first ≤ c && c ≤ last) && covers rest text
  | _ :: _, [] => false

/-- All ways to cut a text in two, the shorter first parts first. -/
def cuts : List Char → List (List Char × List Char)
  | [] => [([], [])]
  | c :: rest => ([], c :: rest) :: (cuts rest).map fun (first, second) => (c :: first, second)

/-- A text without what a pattern matches at its start. -/
def dropStart (longest : Bool) (pattern : List Matcher) (text : List Char) : List Char :=
  let found := (cuts text).filter fun (first, _) => covers pattern first
  match if longest then found.getLast? else found.head? with
  | some (_, rest) => rest
  | none => text

/-- A text without what a pattern matches at its end. -/
def dropEnd (longest : Bool) (pattern : List Matcher) (text : List Char) : List Char :=
  let found := (cuts text).filter fun (_, second) => covers pattern second
  match if longest then found.head? else found.getLast? with
  | some (rest, _) => rest
  | none => text

/-- Whether glyphs have anything in them that is more than a character. -/
def isOpen (glyphs : List Glyph) : Bool :=
  glyphs.any fun glyph => !glyph.isQuoted && ['*', '?', '['].contains glyph.char

end Pattern

end SourceTrace.Shell
