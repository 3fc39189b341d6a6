import SourceTrace.Check.Failure
import SourceTrace.Document.Basic
import SourceTrace.Text.Blank
import SourceTrace.Text.View

/-!
# Every line of code is mapped

The first column of a line's code must be mapped, and no segment may end the mapping before the line
ends. Lines that hold nothing but blanks and comments have no code.
-/
namespace SourceTrace.Check

/-- Passes block comments and the blanks before, between and behind them. Gives what was passed and
what is left; `fuel` bounds the number of comments. -/
def passComments : Nat → List Char → List Char × List Char
  | 0, text => (text.takeWhile Text.isBlank, text.dropWhile Text.isBlank)
  | fuel + 1, text =>
    let blanks := text.takeWhile Text.isBlank
    let rest := text.dropWhile Text.isBlank
    match (Text.after? "/*".toList rest).bind (Text.cutAt? "*/".toList) with
    | some (inner, rest) =>
      let (passed, left) := passComments fuel rest
      (blanks ++ "/*".toList ++ inner ++ "*/".toList ++ passed, left)
    | none => (blanks, rest)

/-- Passes the comment that an earlier line left open. -/
def passOpenComment (isOpen : Bool) (line : List Char) : Option (List Char × List Char) :=
  if isOpen then
    (Text.cutAt? "*/".toList line).map fun (inner, rest) => (inner ++ "*/".toList, rest)
  else some ([], line)

/-- Cuts a line where its code starts, if it has code, and tells whether a comment is open at its
end as far as the start of the line shows it. -/
def codeStart (isOpen : Bool) (line : List Char) : Option (List Char × List Char) × Bool :=
  match passOpenComment isOpen line with
  | none => (none, isOpen)
  | some (opened, rest) =>
    let (comments, code) := passComments rest.length rest
    if (Text.after? "/*".toList code).isSome then (none, true)
    else if code.isEmpty || ["//", "#!"].any fun lead => (Text.after? lead.toList code).isSome then
      (none, false)
    else (some (opened ++ comments, code), false)

/-- What is wrong with the mapping of a line whose code starts behind `before`. -/
def lineCoverage (doc : Document) (index : Nat) (before code : List Char) : Option Failure :=
  let line := before ++ code
  let first := Text.units before
  if (doc.lookup? index first).isNone then
    some <| (Failure.of .coverage s!"line {index} is not mapped at column {first}")
      |>.observing (String.ofList (Text.trimEnd code))
  else
    let width := Text.units line
    let ends (segment : Segment) : Bool :=
      segment.isUnmapped && first ≤ segment.column && segment.column < width
    ((doc.lineSegments index).find? ends).map fun segment =>
      let rest := ((Text.cutAtColumn? line segment.column).map (·.2)).getD []
      (Failure.of .coverage s!"line {index} loses its mapping at column {segment.column}")
        |>.observing (String.ofList rest)

def coverageFrom (doc : Document) (index : Nat) (isOpen : Bool) :
    List (List Char) → List Failure
  | [] => []
  | line :: rest =>
    let (cut, isOpen) := codeStart isOpen line
    let here := (cut.bind fun (before, code) => lineCoverage doc index before code).toList
    here ++ coverageFrom doc (index + 1) isOpen rest

/-- Every line of code must be mapped from its first column to its end. -/
def coverage (code : String) (doc : Document) : List Failure :=
  coverageFrom doc 0 false (Text.lines code.toList)

end SourceTrace.Check
