import SourceTrace.Compose.Resolver
import SourceTrace.Content
import SourceTrace.Document.Builder

/-!
# Composing documents across builds

When a build takes in what an earlier build generated, its document leads into that intermediate
file. Composing replaces every such position by the one that the intermediate file's own document
leads to, layer by layer, so that the result leads to the earliest sources known.

A composer remembers the documents it has composed, and keeps every source text that a layer gave
access to.
-/
namespace SourceTrace

/-- The state of composing with one resolver. -/
structure Composer (σ : Type) where
  /-- What the resolver remembers. -/
  memory : σ
  /-- The source texts found on the way. -/
  contents : ContentStore
  /-- Finished answers by the key of the source: its composed document, or that it has none. -/
  cache : List (String × Option Document)
  /-- The keys of the files whose documents are being composed, the innermost first. -/
  stack : List String

/-- A step of composing, which may fail but keeps what was learned until then. -/
abbrev Composing (σ α : Type) := ExceptT Error (StateM (Composer σ)) α

namespace Compose

/-- The segment of the composed document that stands for a segment of the outer one. A segment that
leads into an intermediate file is continued there, or maps nothing if the intermediate file maps
nothing; the name in the innermost layer wins, and a source gets the first content that comes with
one of its segments. -/
def addComposed (outer : Document) (inners : List (Option Document)) (b : Builder)
    (segment : Segment) : Builder :=
  let unmapped := (b.addUnmapped segment.line segment.column).2
  match segment.source, outer.segmentSource? segment with
  | some id, some source =>
    match (inners[id]?).join with
    | none =>
      let (added, b) := b.add segment.line segment.column segment.sourceLine segment.sourceColumn
        (some source) (outer.segmentName? segment)
      b.offerContent (added.source.getD 0) (outer.content? id)
    | some inner =>
      match inner.segmentAt? segment.sourceLine segment.sourceColumn with
      | none => unmapped
      | some found =>
        match found.source with
        | none => unmapped
        | some innerId =>
          let innerSource := (inner.segmentSource? found).getD ""
          let rebased := Source.rebase innerSource inner.baseDir outer.baseDir
          let name := (inner.segmentName? found).or (outer.segmentName? segment)
          let (added, b) := b.add segment.line segment.column found.sourceLine found.sourceColumn
            (some rebased) name
          b.offerContent (added.source.getD 0) (inner.content? innerId)
  | _, _ => unmapped

/-- The outer document composed with the composed documents of its sources, in their order. -/
def assemble (outer : Document) (inners : List (Option Document)) : Document :=
  let start := (Builder.empty outer.file).setBaseDir outer.baseDir
  (outer.segments.foldl (addComposed outer inners) start).finish

variable {σ : Type}

/-- Runs a step with a key on the stack. -/
def withFrame {α : Type} (key : String) (step : Composing σ α) : Composing σ α :=
  ExceptT.mk fun composer =>
    let (result, after) := step.run.run { composer with stack := key :: composer.stack }
    (result, { after with stack := after.stack.tail })

def ask (resolver : Resolver σ) (source : String) (base : Option Path) :
    Composing σ (Option Document) :=
  ExceptT.mk fun composer =>
    let (answer, memory) := resolver.answer source base composer.memory
    (answer.mapError (Error.brokenChain source), { composer with memory })

def remember (key : String) (answer : Option Document) : Composing σ Unit :=
  modify fun composer => { composer with cache := (key, answer) :: composer.cache }

/-- Keeps the texts of all sources of a composed document that can be found. -/
def keepContents (tree : FileTree) (doc : Document) (store : ContentStore) : ContentStore :=
  doc.sources.zipIdx.foldl (fun store (source, id) =>
    match store.resolve tree doc id with
    | (.ok (text, _), store) => store.record doc.baseDir source text
    | (.error _, store) => store) store

/-- The composed document of a source, if the source is a build output. `descend` composes the
document that the resolver answers with. -/
def innerFor (resolver : Resolver σ) (tree : FileTree)
    (descend : String → Document → Composing σ Document) (base : Option Path) (source : String) :
    Composing σ (Option Document) := do
  let key := Source.key base source
  let composer ← get
  match List.lookup key composer.cache with
  | some known => return known
  | none =>
    if composer.stack.contains key then throw (.cycle source)
    match ← ask resolver source base with
    | none =>
      remember key none
      return none
    | some inner =>
      let composed ← withFrame key (descend source inner)
      modify fun composer =>
        { composer with contents := keepContents tree composed composer.contents }
      remember key (some composed)
      return some composed

/-- Composes a document, with `descend` for the documents that the resolver answers with. -/
def composeLayer (resolver : Resolver σ) (tree : FileTree)
    (descend : String → Document → Composing σ Document) (outer : Document) :
    Composing σ Document := do
  let inners ← outer.sources.mapM (innerFor resolver tree descend outer.baseDir)
  return assemble outer inners

/-- Composes a document whose sources may be at most `depth` builds away. What is further away is
left to `beyond`. -/
def composeWithin (resolver : Resolver σ) (tree : FileTree)
    (beyond : String → Document → Composing σ Document) : Nat → Document → Composing σ Document
  | 0 => composeLayer resolver tree beyond
  | depth + 1 =>
    composeLayer resolver tree fun _ inner => composeWithin resolver tree beyond depth inner

end Compose

namespace Composer

variable {σ : Type}

/-- A composer that has composed nothing yet. -/
def ofMemory (memory : σ) : Composer σ :=
  { memory, contents := ContentStore.empty, cache := [], stack := [] }

/-- Composes a document with the documents of its sources. A chain that is longer than the number
of build outputs comes back to one of them. -/
def compose (resolver : Resolver σ) (tree : FileTree) (outer : Document) :
    Composing σ Document := do
  let composer ← get
  let beyond : String → Document → Composing σ Document := fun source _ => throw (.cycle source)
  Compose.composeWithin resolver tree beyond (resolver.bound composer.memory) outer

/-- Composes the document of the artifact at a path, which must not be among its own inputs. -/
def composeArtifact (resolver : Resolver σ) (tree : FileTree) (outer : Document) (path : Path) :
    Composing σ Document :=
  Compose.withFrame path.normalize.text (compose resolver tree outer)

end Composer

/-- Composes a document with a resolver that has its first memory. -/
def compose {σ : Type} (resolver : Resolver σ) (tree : FileTree) (memory : σ) (outer : Document) :
    Except Error Document :=
  ((Composer.compose resolver tree outer).run.run (Composer.ofMemory memory)).1

end SourceTrace
