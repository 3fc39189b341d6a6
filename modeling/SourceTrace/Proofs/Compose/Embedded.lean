import SourceTrace.Proofs.Compose.Assembly
import SourceTrace.Proofs.Document.WellFormed

/-!
# The contents of an assembled document

Every segment that assembling adds offers a content to its source: the one that the outer document
carries, or the one that the layer below carries when the segment leads through it. The first
content that is offered for a source stays. Sources are registered by their text, so segments that
come from different layers may offer contents for one source.
-/
namespace SourceTrace

namespace Builder

/-- The content of a source, by its text. -/
def contentOf? (b : Builder) (source : String) : Option String :=
  (b.sources.idxOf? source).bind b.content?

/-- An offer counts for one source, which has no content yet. -/
theorem content?_offerContent {b : Builder} {id : Nat} (registered : id < b.sources.length)
    (content : Option String) (other : Nat) :
    (b.offerContent id content).content? other =
      (b.content? other).or (if other = id then content else none) := by
  unfold offerContent
  cases content with
  | none => simp
  | some text =>
    cases taken : b.content? id with
    | some earlier =>
      by_cases same : other = id
      · simp [same, taken]
      · simp [same]
    | none =>
      obtain ⟨after, done⟩ := exists_setContent? registered (some text)
      simp only [done, Option.getD_some, content?_setContent? done]
      by_cases same : other = id
      · simp [same, taken]
      · simp [same]

/-- A source that is registered for the first time has no content. -/
theorem content?_register {b : Builder} (short : b.contents.length ≤ b.sources.length)
    (source : String) : b.content? (register b.sources source).1 = b.contentOf? source := by
  unfold register contentOf?
  cases b.sources.idxOf? source with
  | some id => rfl
  | none => exact content?_eq_none short

/-- Adding a segment offers its content to its source and leaves the other sources alone. -/
theorem contentOf?_addPosition {b : Builder} (short : b.contents.length ≤ b.sources.length)
    (line column : Nat) (position? : Option SourcePosition) (content : Option String)
    (source : String) :
    (b.addPosition line column position? content).contentOf? source =
      (b.contentOf? source).or (position?.bind fun position =>
        if position.source = source then content else none) := by
  cases position? with
  | none => exact (Option.or_none).symm
  | some position =>
    obtain ⟨number, sources, contents⟩ := b.add_parts line column position.line position.column
      position.source position.name
    simp only [addPosition, number, Option.getD_some, Option.bind_some]
    generalize (b.add line column position.line position.column (some position.source)
      position.name).2 = after at sources contents
    have kept : (after.offerContent (register b.sources position.source).1 content).sources =
        after.sources := by
      obtain ⟨_, same⟩ := after.offerContent_eq (register b.sources position.source).1 content
      rw [same]
    have content_eq : after.content? = b.content? := by
      funext id
      rw [content?, content?, contents]
    have registered : (register b.sources position.source).1 < after.sources.length := by
      rw [sources]
      exact register_lt b.sources position.source
    have offered := content?_offerContent registered content
    rw [contentOf?, kept, sources, idxOf?_register]
    by_cases same : source = position.source
    · subst same
      simp only [↓reduceIte, Option.bind_some, offered, content_eq, content?_register short]
    · simp only [same, Ne.symm same, ↓reduceIte, Option.or_none, contentOf?]
      cases found : b.sources.idxOf? source with
      | none => rfl
      | some id =>
        -- A number stands for one text, so the offer goes to another source.
        have different : id ≠ (register b.sources position.source).1 := by
          rintro rfl
          obtain ⟨bound, text, _⟩ := List.idxOf?_eq_some_iff.mp found
          obtain ⟨grown, again⟩ := register_spec b.sources position.source
          have still := getElem?_of_prefix grown bound
          rw [again, List.getElem?_eq_getElem bound, text] at still
          exact same (Option.some.inj still).symm
        simp [offered, different, content_eq]

theorem nodup_sources_addPosition {b : Builder} (distinct : b.sources.Nodup) (line column : Nat)
    (position? : Option SourcePosition) (content : Option String) :
    (b.addPosition line column position? content).sources.Nodup := by
  cases position? with
  | none => exact distinct
  | some position =>
    have sources := (b.add_parts line column position.line position.column position.source
      position.name).2.1
    simp only [addPosition]
    obtain ⟨contents, same⟩ := offerContent_eq (b.add line column position.line
      position.column (some position.source) position.name).2 _ content
    rw [same, sources]
    exact nodup_register distinct position.source

end Builder

namespace Compose

/-- The content that a segment of the outer document offers to a source of the composed one. -/
def offered? (outer : Document) (inners : List (Option Document)) (source : String)
    (segment : Segment) : Option String :=
  (composedPosition? outer inners segment).bind fun position =>
    if position.source = source then suppliedContent? outer inners segment else none

/-- A builder that has gone over the segments `done` of the outer document: every source has the
first content that was offered for it. -/
structure Filled (outer : Document) (inners : List (Option Document)) (done : List Segment)
    (b : Builder) : Prop where
  built : b.Built
  distinct : b.sources.Nodup
  texts : ∀ source, b.contentOf? source = done.findSome? (offered? outer inners source)

variable {outer : Document} {inners : List (Option Document)}

/-- One step of assembling. -/
theorem Filled.step (closed : ∀ inner, some inner ∈ inners → Closed inner) {done : List Segment}
    {b : Builder} (filled : Filled outer inners done b) (segment : Segment) :
    Filled outer inners (done ++ [segment]) (addComposed outer inners b segment) := by
  refine ⟨addComposed_built filled.built segment, ?_, ?_⟩
  · rw [addComposed_eq closed]
    exact Builder.nodup_sources_addPosition filled.distinct _ _ _ _
  · intro source
    rw [addComposed_eq closed, Builder.contentOf?_addPosition filled.built.tidy.contents_le,
      filled.texts, List.findSome?_append, List.findSome?_singleton]
    rfl

theorem Filled.run (closed : ∀ inner, some inner ∈ inners → Closed inner)
    (segments : List Segment) {done : List Segment} {b : Builder}
    (filled : Filled outer inners done b) :
    Filled outer inners (done ++ segments) (segments.foldl (addComposed outer inners) b) := by
  induction segments generalizing done b with
  | nil => simpa using filled
  | cons segment rest ih => simpa using ih (filled.step closed segment)

/-- An assembled document carries for each of its sources the first content that a segment offers,
and nothing else. -/
theorem content?_assemble (closed : ∀ inner, some inner ∈ inners → Closed inner) (id : Nat) :
    (assemble outer inners).content? id = ((assemble outer inners).source? id).bind fun source =>
      outer.segments.findSome? (offered? outer inners source) := by
  have start : Filled outer inners [] ((Builder.empty outer.file).setBaseDir outer.baseDir) :=
    ⟨.setBaseDir (.empty outer.file) outer.baseDir, List.nodup_nil, fun _ => rfl⟩
  have filled := start.run closed outer.segments
  rw [assemble, Builder.content?_finish]
  generalize outer.segments.foldl (addComposed outer inners) _ = b at filled
  have source_eq : b.finish.source? id = b.sources[id]? := rfl
  rw [source_eq]
  cases listed : b.sources[id]? with
  | none =>
    have beyond := List.getElem?_eq_none_iff.mp listed
    exact Builder.content?_eq_none (Nat.le_trans filled.built.tidy.contents_le beyond)
  | some source =>
    obtain ⟨bound, text⟩ := List.getElem?_eq_some_iff.mp listed
    have first : b.sources.idxOf? source = some id := by
      refine List.idxOf?_eq_some_iff.mpr ⟨bound, text, ?_⟩
      intro earlier before again
      have same := (List.Nodup.getElem_inj_iff filled.distinct).mp (again.trans text.symm)
      omega
    rw [Option.bind_some, ← List.nil_append outer.segments, ← filled.texts source,
      Builder.contentOf?, first, Option.bind_some]

end Compose

end SourceTrace
