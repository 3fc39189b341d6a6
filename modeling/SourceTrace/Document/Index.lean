import SourceTrace.Document.Basic

/-!
# Looking up positions in both directions

An index groups the mapped segments of a document by their source position. Forward lookups go to
the document itself.
-/
namespace SourceTrace

/-- A source position with the source given by its number. -/
structure Origin where
  source : Nat
  line : Nat
  column : Nat
  deriving DecidableEq, Repr

/-- A document with the generated positions of every source position. -/
structure Index where
  document : Document
  /-- Every source position once, with its generated positions in ascending order. -/
  groups : List (Origin × List GeneratedPosition)
  deriving DecidableEq, Repr

namespace Index

def addTo (origin : Origin) (position : GeneratedPosition) :
    List (Origin × List GeneratedPosition) → List (Origin × List GeneratedPosition)
  | [] => [(origin, [position])]
  | (known, positions) :: rest =>
    if known = origin then (known, positions ++ [position]) :: rest
    else (known, positions) :: addTo origin position rest

def origin? (segment : Segment) : Option Origin :=
  segment.source.map fun source => ⟨source, segment.sourceLine, segment.sourceColumn⟩

/-- Positions in ascending order, each once. -/
def ascending (positions : List GeneratedPosition) : List GeneratedPosition :=
  Sorting.dedup (Sorting.sort GeneratedPosition.le positions)

/-- The index of a document. -/
def ofDocument (doc : Document) : Index :=
  let add (groups : List (Origin × List GeneratedPosition)) (segment : Segment) :=
    match origin? segment with
    | some origin => addTo origin ⟨segment.line, segment.column⟩ groups
    | none => groups
  let groups := doc.segments.foldl add []
  ⟨doc, groups.map fun (origin, positions) => (origin, ascending positions)⟩

/-- The source position of a generated one. -/
def sourcePosition? (index : Index) (line column : Nat) : Option SourcePosition :=
  index.document.lookup? line column

def generatedFromId (index : Index) (source line column : Nat) : List GeneratedPosition :=
  (List.lookup (⟨source, line, column⟩ : Origin) index.groups).getD []

/-- The generated positions of a source position. Every number that the source has counts. -/
def generated (index : Index) (source : String) (line column : Nat) : List GeneratedPosition :=
  let ids := (index.document.sources.zipIdx.filter (·.1 == source)).map (·.2)
  ascending (ids.flatMap fun id => index.generatedFromId id line column)

def originCount (index : Index) : Nat := index.groups.length

end Index

end SourceTrace
