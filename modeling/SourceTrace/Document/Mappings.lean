import SourceTrace.Document.Basic
import SourceTrace.Error
import SourceTrace.Text.Basic
import SourceTrace.Vlq

/-!
# The mappings of a document as text

Semicolons divide the generated lines and commas the segments of a line. A segment is a sequence of
one, four or five quantities, each the difference to the segment before: the generated column, which
starts anew on every line, and then the source, the source line and column, and the name, which
all run on through the whole text. Empty segments say nothing.

`decode` adds the differences up and refuses everything that leads out of range; `encode` writes
them.
-/
namespace SourceTrace.Mappings

/-- The values that the next differences are added to. -/
structure Cursor where
  column : Int
  source : Int
  sourceLine : Int
  sourceColumn : Int
  name : Int
  deriving DecidableEq, Repr

def Cursor.start : Cursor := ⟨0, 0, 0, 0, 0⟩

/-- Numbers of lines, columns, sources and names are below this one. -/
def limit : Nat := 4294967296

/-- A line or column that is in range. -/
def position (value : Int) : Except Error Nat :=
  if 0 ≤ value ∧ value < limit then .ok value.toNat else .error (.badPosition value)

/-- A reference that names one of `count` things. One that does not is reported modulo the limit. -/
def reference (count : Nat) (refuse : Nat → Error) (value : Int) : Except Error Nat :=
  if 0 ≤ value ∧ value < count then .ok value.toNat
  else .error (refuse (value % limit).toNat)

/-- A reference that not every segment has. -/
def optionalReference (present : Bool) (count : Nat) (refuse : Nat → Error) (value : Int) :
    Except Error (Option Nat) :=
  if present then some <$> reference count refuse value else .ok none

/-- The cursor moved by the differences of one segment. -/
def advance (cursor : Cursor) : List Int → Except Error Cursor
  | [column] => .ok { cursor with column := cursor.column + column }
  | [column, source, line, sourceColumn] =>
    .ok { cursor with
      column := cursor.column + column, source := cursor.source + source,
      sourceLine := cursor.sourceLine + line, sourceColumn := cursor.sourceColumn + sourceColumn }
  | [column, source, line, sourceColumn, name] =>
    .ok {
      column := cursor.column + column, source := cursor.source + source,
      sourceLine := cursor.sourceLine + line, sourceColumn := cursor.sourceColumn + sourceColumn,
      name := cursor.name + name }
  | values => .error (.badSegmentSize values.length)

/-- The segment of a line that a text stands for, and the cursor behind it. -/
def decodeSegment (sources names line : Nat) (cursor : Cursor) (text : List Char) :
    Except Error (Segment × Cursor) := do
  let values ← (Vlq.decode text).mapError Error.vlq
  let cursor ← advance cursor values
  let source ←
    optionalReference (1 < values.length) sources Error.badSourceReference cursor.source
  let name ← optionalReference (4 < values.length) names Error.badNameReference cursor.name
  let line ← position line
  let column ← position cursor.column
  let sourceLine ← position cursor.sourceLine
  let sourceColumn ← position cursor.sourceColumn
  return ({ line, column, sourceLine, sourceColumn, source, name }, cursor)

def decodeLine (sources names line : Nat) (cursor : Cursor) :
    List (List Char) → Except Error (List Segment × Cursor)
  | [] => .ok ([], cursor)
  | text :: rest => do
    if text.isEmpty then decodeLine sources names line cursor rest
    else
      let (segment, cursor) ← decodeSegment sources names line cursor text
      let (segments, cursor) ← decodeLine sources names line cursor rest
      return (segment :: segments, cursor)

def decodeLines (sources names line : Nat) (cursor : Cursor) :
    List (List Char) → Except Error (List Segment)
  | [] => .ok []
  | text :: rest => do
    let pieces := Text.split (· == ',') text
    let (here, cursor) ← decodeLine sources names line { cursor with column := 0 } pieces
    let more ← decodeLines sources names (line + 1) cursor rest
    return here ++ more

/-- The segments that a text stands for in a document with so many sources and names. -/
def decode (text : List Char) (sources names : Nat) : Except Error (List Segment) :=
  decodeLines sources names 0 Cursor.start (Text.split (· == ';') text)

/-- The differences of a segment to the cursor, and the cursor behind it. A name that the document
does not have is left out. -/
def differences (names : Nat) (cursor : Cursor) (segment : Segment) : List Int × Cursor :=
  let column : Int := segment.column
  let moved := { cursor with column := column }
  match segment.source with
  | none => ([column - cursor.column], moved)
  | some source =>
    let moved := { moved with
      source := source, sourceLine := segment.sourceLine, sourceColumn := segment.sourceColumn }
    let fields := [column - cursor.column, source - cursor.source,
      segment.sourceLine - cursor.sourceLine, segment.sourceColumn - cursor.sourceColumn]
    match segment.name with
    | some name =>
      if name < names then (fields ++ [name - cursor.name], { moved with name := name })
      else (fields, moved)
    | none => (fields, moved)

/-- The text of the segments from `line` on. `first` tells that the line has no segment yet. -/
def encodeFrom (names : Nat) (cursor : Cursor) (line : Nat) (first : Bool) :
    List Segment → List Char
  | [] => []
  | segment :: rest =>
    let sameLine := segment.line == line
    let divider :=
      if !sameLine then List.replicate (segment.line - line) ';'
      else if first then [] else [',']
    let cursor := if sameLine then cursor else { cursor with column := 0 }
    let (fields, cursor) := differences names cursor segment
    divider ++ fields.flatMap Vlq.encodeOne ++ encodeFrom names cursor segment.line false rest

def encode (doc : Document) : List Char :=
  encodeFrom doc.names.length Cursor.start 0 true doc.segments

end SourceTrace.Mappings
