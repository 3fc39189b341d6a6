import SourceTrace.DataUrl
import SourceTrace.Text.Blank
import SourceTrace.Text.View

/-!
# References from generated files to their maps

A generated file names its map in a comment on a line of its own, by the text `sourceMappingURL=`
behind `#` or, as older tools write it, behind `@`. If there are several such lines the last one
counts.
-/
namespace SourceTrace

/-- A reference to a map. -/
structure Reference where
  url : String
  /-- Whether it is written behind `@`. -/
  legacy : Bool
  deriving DecidableEq, Repr

namespace Reference

/-- The inside of a comment that fills a trimmed line, and whether it is a block comment. -/
def comment? (line : List Char) : Option (List Char × Bool) :=
  match Text.after? "//".toList line with
  | some body => some (body, false)
  | none =>
    (Text.after? "/*".toList line).bind fun body =>
      (Text.before? "*/".toList body).map fun inner => (inner, true)

def ofLine? (line : List Char) : Option Reference := do
  let (body, isBlock) ← comment? (Text.trim line)
  let (legacy, rest) ←
    match body with
    | '#' :: rest => some (false, rest)
    | '@' :: rest => some (true, rest)
    | _ => none
  let url ← Text.after? "sourceMappingURL=".toList (Text.trimStart rest)
  let url := if isBlock then Text.trim url else Text.trimEnd url
  return ⟨String.ofList url, legacy⟩

/-- The last reference among the lines of a text. -/
def locate? (text : String) : Option Reference :=
  ((Text.split (· == '\n') text.toList).filterMap ofLine?).getLast?

/-- The last reference of a file given by its bytes. -/
def locateBytes? (bytes : List UInt8) : Except Error (Option Reference) :=
  match Text.Utf8.decode? bytes with
  | some text => .ok (locate? text)
  | none => .error (.file .notText)

/-- The pieces of a text that end with their line feed; only the last one may lack it. -/
def linesWithEnds : List Char → List (List Char)
  | [] => []
  | '\n' :: rest => ['\n'] :: linesWithEnds rest
  | c :: rest =>
    match linesWithEnds rest with
    | [] => [[c]]
    | line :: more => (c :: line) :: more

/-- The lines in front of the last one that is a reference, if there is one. -/
def linesBefore? : List (List Char) → Option (List (List Char))
  | [] => none
  | line :: rest =>
    match linesBefore? rest with
    | some before => some (line :: before)
    | none => if (ofLine? line).isSome then some [] else none

/-- The text in front of the line with the last reference; the whole text if there is none. -/
def codeOf (text : String) : String :=
  match linesBefore? (linesWithEnds text.toList) with
  | some before => String.ofList before.flatten
  | none => text

def isEmbedded (reference : Reference) : Bool := DataUrl.isDataUrl reference.url

def embedded (reference : Reference) : Except Error (Option Document) :=
  if reference.isEmbedded then some <$> DataUrl.decode reference.url else .ok none

/-- The file that a reference links to, seen from the generated file. Carried maps and addresses
with a scheme are no files. -/
def path? (reference : Reference) (artifact : Path) : Option Path :=
  let url := reference.url.toList
  if reference.isEmbedded || Text.contains "://".toList url then none
  else
    let file := url.takeWhile fun c => c != '?' && c != '#'
    some ((artifact.parent?.getD ⟨""⟩) / String.ofList file)

end Reference

end SourceTrace
