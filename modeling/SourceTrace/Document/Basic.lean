import SourceTrace.Path
import SourceTrace.Sorting

/-!
# Source map documents

A document relates positions of a generated file to positions of its sources. It holds segments, the
texts of sources and names that the segments refer to by number, and the sources' contents where the
document carries them.

Segments are kept in the order of their generated positions. `lineStarts` holds, for every generated
line up to the last one with a segment, the index of its first segment, and behind them the number
of all segments, so that the segments of line `n` are those from `lineStarts[n]` up to
`lineStarts[n + 1]`.
-/
namespace SourceTrace

/-- A segment: a generated position and, unless the segment only ends the one before it, the
source position it stems from. -/
structure Segment where
  /-- The generated line. -/
  line : Nat
  /-- The generated column. -/
  column : Nat
  /-- The source line. -/
  sourceLine : Nat
  /-- The source column. -/
  sourceColumn : Nat
  /-- The number of the source. Without one the segment is unmapped. -/
  source : Option Nat
  /-- The number of the name that the position had in the source. -/
  name : Option Nat
  deriving DecidableEq, Repr

namespace Segment

/-- Whether a segment maps nothing and only marks a generated column. -/
def isUnmapped (segment : Segment) : Bool := segment.source.isNone

def le (left right : Segment) : Bool :=
  left.line < right.line || (left.line == right.line && left.column ≤ right.column)

end Segment

structure SourcePosition where
  source : String
  line : Nat
  column : Nat
  name : Option String
  deriving DecidableEq, Repr

structure GeneratedPosition where
  line : Nat
  column : Nat
  deriving DecidableEq, Repr

def SourcePosition.text (position : SourcePosition) : String :=
  let place := s!"{position.source}:{position.line}:{position.column}"
  match position.name with
  | some name => s!"{place} name={name}"
  | none => place

def GeneratedPosition.text (position : GeneratedPosition) : String :=
  s!"{position.line}:{position.column}"

def GeneratedPosition.le (left right : GeneratedPosition) : Bool :=
  left.line < right.line || (left.line == right.line && left.column ≤ right.column)

/-- A source map. -/
structure Document where
  /-- The name of the generated file. -/
  file : Option String
  /-- The segments in the order of their generated positions. -/
  segments : List Segment
  /-- Where the segments of each generated line start. -/
  lineStarts : List Nat
  names : List String
  sources : List String
  /-- The contents of the sources, if the document carries any. -/
  contents : Option (List (Option String))
  /-- The directory that relative sources are seen from. -/
  baseDir : Option Path
  deriving DecidableEq, Repr

/-- The line starts from line `line` on, where `index` segments lie before that line: each of the
`count` lines starts where the segments of the line before end. -/
def lineStartsFrom (line index : Nat) : Nat → List Segment → List Nat
  | 0, rest => [index + rest.length]
  | count + 1, rest =>
    let here := (rest.takeWhile (·.line == line)).length
    index :: lineStartsFrom (line + 1) (index + here) count (rest.drop here)

/-- The line starts of segments that are in order. -/
def startsOfLines (segments : List Segment) : List Nat :=
  let count := match segments.getLast? with
    | some last => last.line + 1
    | none => 0
  lineStartsFrom 0 0 count segments

namespace Document

/-- The document with the given parts. The segments are put in order; those of one generated
position keep theirs. -/
def ofParts (file : Option String) (segments : List Segment) (names sources : List String)
    (contents : Option (List (Option String))) : Document :=
  let sorted := Sorting.sort Segment.le segments
  { file, segments := sorted, lineStarts := startsOfLines sorted, names, sources, contents,
    baseDir := none }

def version : Nat := 3

/-- The number of generated lines up to the last one with a segment. -/
def lineCount (doc : Document) : Nat := doc.lineStarts.length - 1

def lineSegments (doc : Document) (line : Nat) : List Segment :=
  match doc.lineStarts[line]?, doc.lineStarts[line + 1]? with
  | some start, some stop => (doc.segments.take stop).drop start
  | _, _ => []

/-- The segment that governs a generated position: the last one of the line that starts at the
column or before it. -/
def segmentAt? (doc : Document) (line column : Nat) : Option Segment :=
  ((doc.lineSegments line).takeWhile (·.column ≤ column)).getLast?

def source? (doc : Document) (id : Nat) : Option String := doc.sources[id]?

def name? (doc : Document) (id : Nat) : Option String := doc.names[id]?

/-- The source text of a segment. -/
def segmentSource? (doc : Document) (segment : Segment) : Option String :=
  segment.source.bind doc.source?

def segmentName? (doc : Document) (segment : Segment) : Option String :=
  segment.name.bind doc.name?

/-- The source position of a segment whose source is known. -/
def sourcePosition? (doc : Document) (segment : Segment) : Option SourcePosition :=
  (doc.segmentSource? segment).map fun source =>
    { source, line := segment.sourceLine, column := segment.sourceColumn,
      name := doc.segmentName? segment }

/-- The source position of a generated one. -/
def lookup? (doc : Document) (line column : Nat) : Option SourcePosition :=
  (doc.segmentAt? line column).bind doc.sourcePosition?

/-- A segment as text: its source position, or its generated one if its source is not known. -/
def segmentText (doc : Document) (segment : Segment) : String :=
  match doc.sourcePosition? segment with
  | some position => position.text
  | none => s!"<partial {segment.line}:{segment.column}>"

def sourceId? (doc : Document) (source : String) : Option Nat := doc.sources.idxOf? source

/-- The sources that are listed more than once, in the order of their second mention. -/
def duplicateSources (doc : Document) : List String :=
  let step (state : List String × List String) (source : String) :=
    let (seen, found) := state
    if seen.contains source then (seen, if found.contains source then found else found ++ [source])
    else (source :: seen, found)
  (doc.sources.foldl step ([], [])).2

def content? (doc : Document) (id : Nat) : Option String :=
  doc.contents.bind fun contents => (contents[id]?).join

def sourceContents (doc : Document) : List (Option String) :=
  (List.range doc.sources.length).map doc.content?

def setSource (doc : Document) (id : Nat) (source : String) : Document :=
  { doc with sources := doc.sources.set id source }

/-- A list of contents with as many entries as there are sources, at least. -/
def padContents (count : Nat) (contents : List (Option String)) : List (Option String) :=
  contents ++ List.replicate (count - contents.length) none

/-- The document with the content of a source replaced. A document that carried no contents carries
some from then on. -/
def setContent (doc : Document) (id : Nat) (content : Option String) : Document :=
  let contents := padContents doc.sources.length (doc.contents.getD [])
  { doc with contents := some (contents.set id content) }

def setBaseDir (doc : Document) (dir : Option Path) : Document := { doc with baseDir := dir }

end Document

end SourceTrace
