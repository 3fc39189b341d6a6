import SourceTrace.Artifact

/-!
# Documents of sources that are build outputs themselves

A resolver answers, for a source of a document, with the document of the build output that the
source is, or with nothing if it is none. Answers may depend on what was asked before, so a resolver
carries a memory.
-/
namespace SourceTrace

/-- Finds the documents of sources that are build outputs. -/
structure Resolver (σ : Type) where
  /-- The document of a source that a document in the given directory names. -/
  answer : String → Option Path → σ → Except Error (Option Document) × σ
  /-- How many different sources are answered with a document at most. -/
  bound : σ → Nat

namespace Resolver

/-- The resolver that knows nothing but a table from source texts to documents. A document of the
table can be asked for from each of the others, so there are at most as many sources as there are
pairs of an asking document and an entry. -/
def ofTable {σ : Type} (table : List (String × Except Error Document)) : Resolver σ where
  answer source _ memory :=
    match List.lookup source table with
    | none => (.ok none, memory)
    | some (.ok doc) => (.ok (some doc), memory)
    | some (.error cause) => (.error cause, memory)
  bound _ := (table.length + 1) * table.length

end Resolver

/-- Build outputs of earlier builds, with the documents that were loaded from them so far. -/
structure TrackedArtifacts where
  /-- The paths of the outputs, without detours. -/
  outputs : List Path
  loaded : List (Path × Document)
  deriving DecidableEq, Repr

namespace TrackedArtifacts

def empty : TrackedArtifacts := ⟨[], []⟩

def isTracked (tracked : TrackedArtifacts) (path : Path) : Bool :=
  tracked.outputs.contains path.normalize

def track (tracked : TrackedArtifacts) (path : Path) : TrackedArtifacts :=
  if tracked.isTracked path then tracked
  else { tracked with outputs := tracked.outputs ++ [path.normalize] }

/-- The document of a source that is an output. It is loaded once and kept. -/
def answer (tree : FileTree) (source : String) (base : Option Path) (tracked : TrackedArtifacts) :
    Except Error (Option Document) × TrackedArtifacts :=
  match Source.resolve? base source with
  | none => (.ok none, tracked)
  | some path =>
    if !tracked.outputs.contains path then (.ok none, tracked)
    else
      match List.lookup path tracked.loaded with
      | some doc => (.ok (some doc), tracked)
      | none =>
        match Artifact.load tree path with
        | .error cause => (.error cause, tracked)
        | .ok artifact =>
          (.ok (some artifact.document),
            { tracked with loaded := tracked.loaded ++ [(path, artifact.document)] })

/-- The resolver that reads the documents of outputs from files. -/
def resolver (tree : FileTree) : Resolver TrackedArtifacts where
  answer := answer tree
  bound tracked := tracked.outputs.length

end TrackedArtifacts

end SourceTrace
