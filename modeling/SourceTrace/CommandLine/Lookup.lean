import SourceTrace.CommandLine.Arguments
import SourceTrace.Compose.Composer
import SourceTrace.Json.Pretty
import SourceTrace.Text.Blank
import SourceTrace.Text.View

/-!
# Looking up a generated position

The document of an artifact, composed with those of earlier builds if there are any, is asked where
a generated position comes from. Without a position its sources are listed.
-/
namespace SourceTrace.CommandLine.Lookup

/-- What is printed, and whether the position was found. -/
structure Answer where
  lines : List String
  found : Bool
  deriving DecidableEq, Repr

/-- The document to ask: that of the artifact, or its composition with the tracked outputs. -/
def documentFor (tree : FileTree) (artifact : Artifact) (track : List Path) :
    Except Error Document :=
  if track.isEmpty then .ok artifact.document
  else
    let tracked := track.foldl TrackedArtifacts.track TrackedArtifacts.empty
    let resolver := TrackedArtifacts.resolver tree
    let composing := Composer.composeArtifact resolver tree artifact.document artifact.path
    (composing.run.run (Composer.ofMemory tracked)).1

/-- How the document is attached, and its sources. -/
def summary (artifact : Artifact) (doc : Document) : List String :=
  let mapLine :=
    match artifact.mapPath with
    | some path => [s!"source map path: {Text.Quoted.text path.text}"]
    | none => []
  s!"embedding: {artifact.embedding.text}" :: mapLine ++
    doc.sources.map fun source => s!"  source: {source}"

/-- A segment as JSON, with the keys in ascending order. -/
def segmentValue (doc : Document) (segment : Segment) : Json.Value :=
  let source := doc.segmentSource? segment
  .object [
    ("column", .ofNumber? (source.map fun _ => segment.sourceColumn)),
    ("generated", .object [("column", .number segment.column), ("line", .number segment.line)]),
    ("line", .ofNumber? (source.map fun _ => segment.sourceLine)),
    ("name", .ofText? (doc.segmentName? segment)),
    ("source", .ofText? source)]

def sourceLine (tree : FileTree) (doc : Document) (segment : Segment) : List String :=
  match (ContentStore.empty.resolve tree doc (segment.source.getD 0)).1 with
  | .error cause => [s!"  cannot find source: {cause.message}"]
  | .ok (text, found) =>
    match (Text.View.ofString text).line? segment.sourceLine with
    | none => ["  cannot find source line"]
    | some line =>
      [s!"  source line ({found.text}):", "    " ++ String.ofList (Text.trim line)]

def segmentAnswer (tree : FileTree) (doc : Document) (segment : Segment) : Answer :=
  match doc.segmentSource? segment with
  | none => ⟨["  source file: not mapped"], false⟩
  | some source =>
    let name :=
      match doc.segmentName? segment with
      | some name => Text.Quoted.text name
      | none => "not found"
    ⟨[s!"  source file: {Text.Quoted.text source}",
      s!"  name: {name}",
      s!"  source line: {segment.sourceLine}",
      s!"  source column: {segment.sourceColumn}",
      s!"  generated line: {segment.line}",
      s!"  generated column: {segment.column}"] ++ sourceLine tree doc segment, true⟩

def positionAnswer (tree : FileTree) (doc : Document) (json : Bool) (line column : Nat) : Answer :=
  let asked := s!"lookup line: {line}, column: {column}:"
  match doc.segmentAt? line column with
  | none => ⟨[asked ++ " no match"], false⟩
  | some segment =>
    if json then ⟨[(segmentValue doc segment).pretty], !segment.isUnmapped⟩
    else
      let answer := segmentAnswer tree doc segment
      { answer with lines := asked :: answer.lines }

def answer (arguments : LookupArguments) (tree : FileTree) : Except Error Answer := do
  let artifact ← Artifact.load tree arguments.artifact
  let doc ← documentFor tree artifact arguments.track
  match arguments.position? with
  | none => return ⟨summary artifact doc, true⟩
  | some (line, column) => return positionAnswer tree doc arguments.json line column

end SourceTrace.CommandLine.Lookup
