import SourceTrace.Compose.Composer
import SourceTrace.Proofs.Document.Building
import SourceTrace.Proofs.Document.Lookup

/-!
# Lookups in an assembled document

Assembling goes over the segments of the outer document with a builder. What comes out is a document
in order with one segment for each of the outer ones, at the same generated position, and a lookup
in it is a lookup in the outer document that is continued in the document of the source it leads to.
-/
namespace SourceTrace.Compose

/-- Every mapped segment has a source that the document lists. -/
def Closed (doc : Document) : Prop :=
  ∀ segment ∈ doc.segments, ∀ id ∈ segment.source, id < doc.sources.length

/-- Where a segment of the outer document leads when its source has a composed document. -/
def composedPosition? (outer : Document) (inners : List (Option Document)) (segment : Segment) :
    Option SourcePosition :=
  (outer.sourcePosition? segment).bind fun position =>
    match segment.source.bind fun id => (inners[id]?).join with
    | none => some position
    | some inner =>
      (inner.lookup? position.line position.column).map fun found =>
        { found with
          source := Source.rebase found.source inner.baseDir outer.baseDir
          name := found.name.or position.name }

/-- The content that comes with a segment of the outer document: that of its source, or that of the
source it leads to when its source has a composed document. -/
def suppliedContent? (outer : Document) (inners : List (Option Document)) (segment : Segment) :
    Option String :=
  match segment.source.bind fun id => (inners[id]?).join with
  | none => segment.source.bind outer.content?
  | some inner =>
    (inner.segmentAt? segment.sourceLine segment.sourceColumn).bind fun found =>
      found.source.bind inner.content?

/-- A builder that has gone over the segments `done` of the outer document. -/
structure Assembled (outer : Document) (inners : List (Option Document)) (done : List Segment)
    (b : Builder) : Prop where
  images : List.Forall₂ (fun segment image => (image.line = segment.line ∧
    image.column = segment.column ∧ b.position? image = composedPosition? outer inners segment) ∧
    b.Registered image) done b.segments
  file : b.file = outer.file
  baseDir : b.baseDir = outer.baseDir

variable {outer : Document} {inners : List (Option Document)}

theorem Assembled.adds {done : List Segment} {b after : Builder} {segment image : Segment}
    (assembled : Assembled outer inners done b) (adds : Builder.Adds b after image)
    (line : image.line = segment.line) (column : image.column = segment.column)
    (position : after.position? image = composedPosition? outer inners segment) :
    Assembled outer inners (done ++ [segment]) after := by
  refine ⟨?_, adds.file.trans assembled.file, adds.baseDir.trans assembled.baseDir⟩
  rw [adds.segments]
  refine List.rel_append (assembled.images.imp ?_)
    (.cons ⟨⟨line, column, position⟩, adds.registered⟩ .nil)
  rintro segment image ⟨⟨line, column, position⟩, registered⟩
  exact ⟨⟨line, column, (Builder.position?_grow registered adds.grows).trans position⟩,
    registered.grow adds.grows⟩

/-- Contents say nothing about positions. -/
theorem Assembled.offerContent {done : List Segment} {b : Builder} (id : Nat)
    (content : Option String) (assembled : Assembled outer inners done b) :
    Assembled outer inners done (b.offerContent id content) := by
  obtain ⟨contents, same⟩ := b.offerContent_eq id content
  rw [same]
  exact ⟨assembled.images.imp fun _ _ image => ⟨image.1, ⟨image.2.source, image.2.name⟩⟩,
    assembled.file, assembled.baseDir⟩

theorem Assembled.unmapped {done : List Segment} {b : Builder} {segment : Segment}
    (assembled : Assembled outer inners done b)
    (nowhere : composedPosition? outer inners segment = none) :
    Assembled outer inners (done ++ [segment]) (b.addUnmapped segment.line segment.column).2 :=
  assembled.adds (b.addUnmapped_adds _ _) rfl rfl nowhere.symm

/-- A mapped image comes with a content for its source. -/
theorem Assembled.mapped {done : List Segment} {b : Builder} {segment : Segment}
    (assembled : Assembled outer inners done b) (sourceLine sourceColumn : Nat) (source : String)
    (name content : Option String)
    (leads : composedPosition? outer inners segment =
      some { source, line := sourceLine, column := sourceColumn, name }) :
    let added := b.add segment.line segment.column sourceLine sourceColumn (some source) name
    Assembled outer inners (done ++ [segment])
      (added.2.offerContent (added.1.source.getD 0) content) := by
  obtain ⟨adds, position⟩ :=
    b.add_adds segment.line segment.column sourceLine sourceColumn source name
  exact Assembled.offerContent _ _ (assembled.adds adds rfl rfl (position.trans leads.symm))

/-- A segment whose source has a document is continued there. -/
theorem composedPosition?_of_layer {segment : Segment} {id : Nat} {source : String}
    {inner : Document} (sourceId : segment.source = some id)
    (known : outer.segmentSource? segment = some source)
    (answer : (inners[id]?).join = some inner) :
    composedPosition? outer inners segment =
      ((inner.segmentAt? segment.sourceLine segment.sourceColumn).bind inner.sourcePosition?).map
        fun found => { found with
          source := Source.rebase found.source inner.baseDir outer.baseDir
          name := found.name.or (outer.segmentName? segment) } := by
  simp [composedPosition?, Document.sourcePosition?, known, sourceId, answer, Document.lookup?]

/-- A segment is added with the position it leads to and the content that comes with it. -/
theorem addComposed_eq (closed : ∀ inner, some inner ∈ inners → Closed inner) (b : Builder)
    (segment : Segment) :
    addComposed outer inners b segment = b.addPosition segment.line segment.column
      (composedPosition? outer inners segment) (suppliedContent? outer inners segment) := by
  unfold addComposed
  cases sourceId : segment.source with
  | none =>
    have nowhere : composedPosition? outer inners segment = none := by
      simp [composedPosition?, Document.sourcePosition?, Document.segmentSource?, sourceId]
    simp only [nowhere, Builder.addPosition]
  | some id =>
    cases known : outer.segmentSource? segment with
    | none =>
      have nowhere : composedPosition? outer inners segment = none := by
        simp [composedPosition?, Document.sourcePosition?, known]
      simp only [nowhere, Builder.addPosition]
    | some source =>
      cases answer : (inners[id]?).join with
      | none =>
        simp only [answer]
        simp [composedPosition?, suppliedContent?, Document.sourcePosition?, known, sourceId,
          answer, Builder.addPosition]
      | some inner =>
        have continued := composedPosition?_of_layer sourceId known answer
        cases hit : inner.segmentAt? segment.sourceLine segment.sourceColumn with
        | none =>
          simp only [answer, hit]
          simp [continued, hit, Builder.addPosition]
        | some found =>
          cases innerId : found.source with
          | none =>
            have nowhere : composedPosition? outer inners segment = none := by
              simp [continued, hit, Document.sourcePosition?, Document.segmentSource?, innerId]
            simp only [answer, hit, innerId, nowhere, Builder.addPosition]
          | some foundId =>
            have listed := closed inner (List.mem_of_getElem? (Option.join_eq_some_iff.mp answer))
            have bound := listed found (Document.mem_of_segmentAt? hit) foundId innerId
            have text : inner.segmentSource? found = some (inner.sources.get ⟨foundId, bound⟩) := by
              simp [Document.segmentSource?, innerId, Document.source?, bound]
            simp only [answer, hit, innerId]
            simp [continued, suppliedContent?, hit, innerId, sourceId, answer,
              Document.sourcePosition?, text, Builder.addPosition]

/-- One step of assembling. -/
theorem Assembled.step (closed : ∀ inner, some inner ∈ inners → Closed inner) {done : List Segment}
    {b : Builder} (assembled : Assembled outer inners done b) (segment : Segment) :
    Assembled outer inners (done ++ [segment]) (addComposed outer inners b segment) := by
  rw [addComposed_eq closed]
  cases leads : composedPosition? outer inners segment with
  | none => exact assembled.unmapped leads
  | some position => exact assembled.mapped _ _ _ _ _ leads

theorem Assembled.run (closed : ∀ inner, some inner ∈ inners → Closed inner)
    (segments : List Segment) {done : List Segment} {b : Builder}
    (assembled : Assembled outer inners done b) :
    Assembled outer inners (done ++ segments) (segments.foldl (addComposed outer inners) b) := by
  induction segments generalizing done b with
  | nil => simpa using assembled
  | cons segment rest ih => simpa using ih (assembled.step closed segment)

/-- The builder of an assembled document, when it has gone over all segments. -/
theorem assembled_all (outer : Document) (closed : ∀ inner, some inner ∈ inners → Closed inner) :
    ∃ b, assemble outer inners = Builder.finish b ∧ Assembled outer inners outer.segments b := by
  have start : Assembled outer inners [] ((Builder.empty outer.file).setBaseDir outer.baseDir) :=
    ⟨.nil, rfl, rfl⟩
  exact ⟨_, rfl, start.run closed outer.segments⟩

theorem Assembled.registered {done : List Segment} {b : Builder}
    (assembled : Assembled outer inners done b) (image : Segment) (member : image ∈ b.segments) :
    b.Registered image := by
  obtain ⟨index, rfl⟩ := List.mem_iff_get.mp member
  have images := List.forall₂_iff_get.mp assembled.images
  exact (images.2 index (by rw [images.1]; exact index.isLt) index.isLt).2

/-- Images are in order if the segments are, since they stand at the same generated positions. -/
theorem Assembled.sorted {done : List Segment} {b : Builder}
    (assembled : Assembled outer inners done b) (sorted : done.Pairwise (Segment.le · ·)) :
    b.segments.Pairwise (Segment.le · ·) :=
  Segment.sorted_of_places
    (assembled.images.imp fun _ _ image => ⟨image.1.1, image.1.2.1⟩) sorted

theorem assemble_inOrder (outer : Document) (inners : List (Option Document)) :
    (assemble outer inners).InOrder := by
  have order := Document.ofParts_inOrder outer.file (outer.segments.foldl
    (addComposed outer inners) ((Builder.empty outer.file).setBaseDir outer.baseDir)).segments
    [] [] none
  exact ⟨order.sorted, order.starts⟩

theorem assemble_baseDir (closed : ∀ inner, some inner ∈ inners → Closed inner) :
    (assemble outer inners).baseDir = outer.baseDir := by
  obtain ⟨b, same, assembled⟩ := assembled_all outer closed
  rw [same]
  exact assembled.baseDir

theorem assemble_file (closed : ∀ inner, some inner ∈ inners → Closed inner) :
    (assemble outer inners).file = outer.file := by
  obtain ⟨b, same, assembled⟩ := assembled_all outer closed
  rw [same]
  exact assembled.file

theorem assemble_closed (closed : ∀ inner, some inner ∈ inners → Closed inner) :
    Closed (assemble outer inners) := by
  obtain ⟨b, same, assembled⟩ := assembled_all outer closed
  rw [same]
  intro segment member
  exact (assembled.registered segment ((Sorting.sort_perm _ _).subset member)).source

/-- Images at the places of segments, in their order. -/
def SamePlaces : List Segment → List Segment → Prop :=
  List.Forall₂ fun segment image => image.line = segment.line ∧ image.column = segment.column

/-- Whatever it leads to, every segment of the outer document gets one image at its place. -/
theorem addComposed_segments (outer : Document) (inners : List (Option Document)) (b : Builder)
    (segment : Segment) :
    ∃ image, (addComposed outer inners b segment).segments = b.segments ++ [image] ∧
      image.line = segment.line ∧ image.column = segment.column := by
  have mapped : ∀ (sourceLine sourceColumn : Nat) (source : String) (name content : Option String),
      let added := b.add segment.line segment.column sourceLine sourceColumn (some source) name
      ∃ image, (added.2.offerContent (added.1.source.getD 0) content).segments =
        b.segments ++ [image] ∧ image.line = segment.line ∧ image.column = segment.column := by
    intro sourceLine sourceColumn source name content added
    have adds := (b.add_adds segment.line segment.column sourceLine sourceColumn source name).1
    obtain ⟨contents, same⟩ := added.2.offerContent_eq (added.1.source.getD 0) content
    rw [same]
    exact ⟨added.1, adds.segments, rfl, rfl⟩
  have unmapped : ∃ image, (b.addUnmapped segment.line segment.column).2.segments =
      b.segments ++ [image] ∧ image.line = segment.line ∧ image.column = segment.column :=
    ⟨_, rfl, rfl, rfl⟩
  unfold addComposed
  dsimp only
  split
  · split
    · exact mapped _ _ _ _ _
    · split
      · exact unmapped
      · split
        · exact unmapped
        · exact mapped _ _ _ _ _
  · exact unmapped

theorem foldl_addComposed_places (outer : Document) (inners : List (Option Document))
    (segments : List Segment) {done : List Segment} {b : Builder}
    (places : SamePlaces done b.segments) :
    SamePlaces (done ++ segments) (segments.foldl (addComposed outer inners) b).segments := by
  induction segments generalizing done b with
  | nil => simpa using places
  | cons segment rest ih =>
    obtain ⟨image, added, place⟩ := addComposed_segments outer inners b segment
    have further :
        SamePlaces (done ++ [segment]) (addComposed outer inners b segment).segments := by
      rw [added]
      exact List.rel_append places (.cons place .nil)
    simpa using ih further

/-- The segments of an assembled document stand at the places of the outer ones, whatever the
documents of the sources are. -/
theorem assemble_places (order : outer.InOrder) (inners : List (Option Document)) :
    SamePlaces outer.segments (assemble outer inners).segments := by
  let start := (Builder.empty outer.file).setBaseDir outer.baseDir
  have none : SamePlaces [] start.segments := .nil
  have places := foldl_addComposed_places outer inners outer.segments none
  rw [List.nil_append] at places
  have unsorted : (assemble outer inners).segments =
      (outer.segments.foldl (addComposed outer inners) start).segments :=
    Sorting.sort_eq_self _ (Segment.sorted_of_places places order.sorted)
  rw [unsorted]
  exact places

/-- The segments of an assembled document stand at the places of the outer ones, in their order, and
lead where these lead when they are continued. -/
theorem assemble_images (order : outer.InOrder)
    (closed : ∀ inner, some inner ∈ inners → Closed inner) :
    List.Forall₂ (fun segment image => image.line = segment.line ∧ image.column = segment.column ∧
      (assemble outer inners).sourcePosition? image = composedPosition? outer inners segment)
      outer.segments (assemble outer inners).segments := by
  obtain ⟨b, same, assembled⟩ := assembled_all outer closed
  have unsorted : (Builder.finish b).segments = b.segments :=
    Sorting.sort_eq_self b.segments (assembled.sorted order.sorted)
  rw [same, unsorted]
  exact assembled.images.imp fun _ _ image => image.1

/-- A lookup in an assembled document. -/
theorem lookup?_assemble (order : outer.InOrder)
    (closed : ∀ inner, some inner ∈ inners → Closed inner) (line column : Nat) :
    (assemble outer inners).lookup? line column =
      (outer.segmentAt? line column).bind (composedPosition? outer inners) :=
  order.lookup?_eq (assemble_inOrder outer inners) (assemble_images order closed) line column

end SourceTrace.Compose
