import SourceTrace.Proofs.Compose.Following
import SourceTrace.Proofs.Document.WellFormed

/-!
# A composed document and its outermost layer

A composed document leads where the document it was composed from leads, continued once in the
composed document of the source. What lies further below is part of the latter, so that facts about
composed documents can be proved one layer at a time.
-/
namespace SourceTrace.Compose

variable {answers : Answers}

theorem Composed.inOrder {doc composed : Document} (holds : Composed answers doc composed) :
    composed.InOrder := by
  cases holds with
  | assembled _ => exact assemble_inOrder _ _

theorem Composed.closed {doc composed : Document} (holds : Composed answers doc composed) :
    Closed composed := by
  cases holds with
  | assembled _ =>
    intro segment member
    exact ((assemble_wellFormed _ _).refers segment member).source

theorem Layers.closed {base : Option Path} {sources : List String}
    {inners : List (Option Document)} (layers : Layers answers base sources inners)
    (inner : Document) (member : some inner ∈ inners) : Closed inner := by
  induction sources generalizing inners with
  | nil =>
    cases layers
    simp at member
  | cons source rest ih =>
    cases layers with
    | cons head tail =>
      rcases List.mem_cons.mp member with rfl | further
      · cases head with
        | layer _ below => exact below.closed
      · exact ih tail further

theorem Composed.baseDir_eq {doc composed : Document} (holds : Composed answers doc composed) :
    composed.baseDir = doc.baseDir := by
  cases holds with
  | assembled layers => exact assemble_baseDir layers.closed

theorem Layers.getElem? {base : Option Path} {sources : List String}
    {inners : List (Option Document)} (layers : Layers answers base sources inners) {id : Nat}
    {source : String} (listed : sources[id]? = some source) :
    ∃ inner, inners[id]? = some inner ∧ Inner answers (Source.key base source) inner := by
  induction sources generalizing inners id with
  | nil => simp at listed
  | cons head rest ih =>
    cases layers with
    | @cons _ _ _ inner inners here tail =>
      cases id with
      | zero =>
        simp only [List.getElem?_cons_zero, Option.some.injEq] at listed
        exact ⟨inner, rfl, listed ▸ here⟩
      | succ id => exact ih tail listed

/-- Sources that can be composed one by one can be composed together. -/
theorem exists_layers {base : Option Path} {sources : List String}
    (each : ∀ source ∈ sources, ∃ inner, Inner answers (Source.key base source) inner) :
    ∃ inners, Layers answers base sources inners := by
  induction sources with
  | nil => exact ⟨[], .nil⟩
  | cons source rest ih =>
    obtain ⟨inner, head⟩ := each source (by simp)
    obtain ⟨inners, tail⟩ := ih fun other member => each other (by simp [member])
    exact ⟨inner :: inners, .cons head tail⟩

/-- Where a position of a document in directory `base` leads, when its source has the given composed
document or none. -/
def continued? (base : Option Path) (inner : Option Document) (position : SourcePosition) :
    Option SourcePosition :=
  match inner with
  | none => some position
  | some inner =>
    (inner.lookup? position.line position.column).map fun found =>
      { found with
        source := Source.rebase found.source inner.baseDir base
        name := found.name.or position.name }

theorem composedPosition?_of_inner {outer : Document} {inners : List (Option Document)}
    {segment : Segment} {position : SourcePosition} {id : Nat} {inner : Option Document}
    (known : outer.sourcePosition? segment = some position) (number : segment.source = some id)
    (found : inners[id]? = some inner) :
    composedPosition? outer inners segment = continued? outer.baseDir inner position := by
  simp only [composedPosition?, known, number, Option.bind_some, found, Option.join_some]
  rfl

theorem composedPosition?_of_layers {outer : Document} {inners : List (Option Document)}
    (layers : Layers answers outer.baseDir outer.sources inners) {segment : Segment}
    {position : SourcePosition} (known : outer.sourcePosition? segment = some position) :
    ∃ inner, Inner answers (Source.key outer.baseDir position.source) inner ∧
      composedPosition? outer inners segment = continued? outer.baseDir inner position := by
  obtain ⟨id, number, listed⟩ := source_of_sourcePosition? known
  obtain ⟨inner, found, holds⟩ := layers.getElem? listed
  exact ⟨inner, holds, composedPosition?_of_inner known number found⟩

/-- A composed document leads nowhere where its outer layer leads nowhere. -/
theorem Composed.lookup?_of_none {doc composed : Document} (holds : Composed answers doc composed)
    (order : doc.InOrder) {line column : Nat} (nothing : doc.lookup? line column = none) :
    composed.lookup? line column = none := by
  cases holds with
  | assembled layers =>
    rw [lookup?_assemble order layers.closed]
    cases at? : doc.segmentAt? line column with
    | none => rfl
    | some segment =>
      rw [Document.lookup?, at?, Option.bind_some] at nothing
      rw [Option.bind_some, composedPosition?, nothing, Option.bind_none]

/-- A composed document leads where its outer layer leads, continued in the layer below. -/
theorem Composed.lookup?_of_some {doc composed : Document} (holds : Composed answers doc composed)
    (order : doc.InOrder) {line column : Nat} {position : SourcePosition}
    (hit : doc.lookup? line column = some position) :
    ∃ inner, Inner answers (Source.key doc.baseDir position.source) inner ∧
      composed.lookup? line column = continued? doc.baseDir inner position := by
  cases holds with
  | assembled layers =>
    obtain ⟨segment, at?, known⟩ := Option.bind_eq_some_iff.mp hit
    rw [lookup?_assemble order layers.closed, at?, Option.bind_some]
    exact composedPosition?_of_layers layers known

end SourceTrace.Compose
