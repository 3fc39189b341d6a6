import SourceTrace.Proofs.Compose.Assembly
import SourceTrace.Proofs.Compose.Semantics
import SourceTrace.Proofs.Mappings.Range

/-!
# Documents whose parts fit together

Lookups, indexes and composition rely on the parts of a document to fit: the segments are in order,
the line starts cut them into their lines, every number in a segment stands for a source or a name
that is listed, and contents, where there are any, are as many as the sources. Every way to make a
document establishes this and every way to change one keeps it.
-/
namespace SourceTrace

/-- A document whose parts fit together. -/
structure Document.WellFormed (doc : Document) : Prop where
  sorted : doc.segments.Pairwise (Segment.le · ·)
  lineSegments_eq : ∀ line, doc.lineSegments line = doc.segments.filter (·.line == line)
  refers : ∀ segment ∈ doc.segments, segment.Refers doc.sources.length doc.names.length
  contents_length : ∀ contents ∈ doc.contents, contents.length = doc.sources.length

namespace Document

theorem ofParts_wellFormed (file : Option String) {segments : List Segment}
    {names sources : List String} {contents : Option (List (Option String))}
    (refers : ∀ segment ∈ segments, segment.Refers sources.length names.length)
    (lengths : ∀ list ∈ contents, list.length = sources.length) :
    (ofParts file segments names sources contents).WellFormed := by
  have order := ofParts_inOrder file segments names sources contents
  refine ⟨order.sorted, order.lineSegments_eq, ?_, lengths⟩
  intro segment member
  exact refers segment ((Sorting.sort_perm _ _).subset member)

theorem length_rootedSources (root : Option String) (sources : List String) :
    (rootedSources root sources).length = sources.length := by
  unfold rootedSources
  split
  · split <;> simp
  · rfl

/-- A record that is accepted has as many contents as sources, if it has any, and mappings that can
be decoded. -/
theorem exists_of_ofRaw {raw : RawMap} {doc : Document} (accepted : ofRaw raw = .ok doc) :
    ∃ sources names segments,
      (∀ contents ∈ raw.contents, contents.length = sources.length) ∧
      Mappings.decode (raw.mappings.getD "").toList sources.length names.length = .ok segments ∧
      doc = ofParts (raw.file.map fileText) segments names (rootedSources raw.sourceRoot sources)
        raw.contents := by
  refine ⟨(raw.sources.getD []).map (·.getD ""), (raw.names.getD []).map nameText, ?_⟩
  unfold ofRaw at accepted
  cases carried : raw.contents with
  | none =>
    simp only [carried] at accepted
    split at accepted
    · cases accepted
    · obtain ⟨segments, decoded, made⟩ := exists_of_bind_eq_ok accepted
      cases made
      exact ⟨segments, by simp, decoded, rfl⟩
  | some contents =>
    simp only [carried] at accepted
    split at accepted
    · cases accepted
    · split at accepted
      · cases accepted
      · next same =>
        obtain ⟨segments, decoded, made⟩ := exists_of_bind_eq_ok accepted
        cases made
        exact ⟨segments, by simpa using same, decoded, rfl⟩

/-- What decoding a document establishes. Its segments are in bounds and not only in order. -/
structure Decoded (doc : Document) : Prop where
  inOrder : doc.InOrder
  inBounds : ∀ segment ∈ doc.segments, segment.InBounds doc.sources.length doc.names.length
  contents_length : ∀ contents ∈ doc.contents, contents.length = doc.sources.length

theorem Decoded.wellFormed {doc : Document} (decoded : doc.Decoded) : doc.WellFormed :=
  ⟨decoded.inOrder.sorted, decoded.inOrder.lineSegments_eq,
    fun segment member => (decoded.inBounds segment member).toRefers, decoded.contents_length⟩

theorem decoded_of_decode {bytes : List UInt8} {doc : Document}
    (accepted : decode bytes = .ok doc) : doc.Decoded := by
  obtain ⟨json, _, accepted⟩ := exists_of_bind_eq_ok accepted
  split at accepted
  · obtain ⟨sources, names, segments, lengths, decoded, rfl⟩ := exists_of_ofRaw accepted
    refine ⟨ofParts_inOrder _ _ _ _ _, ?_, ?_⟩
    · intro segment member
      change segment.InBounds (rootedSources _ sources).length names.length
      rw [length_rootedSources]
      exact Mappings.decode_inBounds decoded segment ((Sorting.sort_perm _ _).subset member)
    · intro contents carried
      exact (lengths contents carried).trans (length_rootedSources _ sources).symm
  · cases accepted

/-- What a change of the directory does not touch. -/
theorem Decoded.setBaseDir {doc : Document} (decoded : doc.Decoded) (dir : Option Path) :
    (doc.setBaseDir dir).Decoded :=
  ⟨decoded.inOrder.setBaseDir dir, decoded.inBounds, decoded.contents_length⟩

theorem Decoded.rebase {doc : Document} (decoded : doc.Decoded) (dir : Path) :
    (doc.rebase dir).Decoded := by
  refine ⟨⟨decoded.inOrder.sorted, decoded.inOrder.starts⟩, ?_, ?_⟩
  · simpa [Document.rebase] using decoded.inBounds
  · simpa [Document.rebase] using decoded.contents_length

theorem WellFormed.setBaseDir {doc : Document} (formed : doc.WellFormed) (dir : Option Path) :
    (doc.setBaseDir dir).WellFormed :=
  ⟨formed.sorted, formed.lineSegments_eq, formed.refers, formed.contents_length⟩

theorem WellFormed.setSource {doc : Document} (formed : doc.WellFormed) (id : Nat)
    (source : String) : (doc.setSource id source).WellFormed := by
  refine ⟨formed.sorted, formed.lineSegments_eq, ?_, ?_⟩
  · simpa [Document.setSource] using formed.refers
  · simpa [Document.setSource] using formed.contents_length

theorem length_padContents {count : Nat} {contents : List (Option String)}
    (short : contents.length ≤ count) : (padContents count contents).length = count := by
  rw [padContents, List.length_append, List.length_replicate]
  omega

theorem WellFormed.setContent {doc : Document} (formed : doc.WellFormed) (id : Nat)
    (content : Option String) : (doc.setContent id content).WellFormed := by
  refine ⟨formed.sorted, formed.lineSegments_eq, formed.refers, ?_⟩
  have short : (doc.contents.getD []).length ≤ doc.sources.length := by
    cases carried : doc.contents with
    | none => simp
    | some contents => exact Nat.le_of_eq (formed.contents_length contents carried)
  rintro contents ⟨⟩
  rw [List.length_set, length_padContents short]
  rfl

/-- Contents are there exactly if a source has one. -/
def ContentsSettled (doc : Document) : Prop :=
  doc.contents = if doc.sourceContents.any Option.isSome then some doc.sourceContents else none

end Document

theorem Segment.Refers.mono {sources names moreSources moreNames : Nat} {segment : Segment}
    (refers : segment.Refers sources names) (fewer : sources ≤ moreSources)
    (fewerNames : names ≤ moreNames) : segment.Refers moreSources moreNames :=
  ⟨fun id member => Nat.lt_of_lt_of_le (refers.source id member) fewer,
    fun id member => Nat.lt_of_lt_of_le (refers.name id member) fewerNames, refers.unnamed⟩

namespace Builder

/-- The builders that come out of an empty one by any sequence of operations. A content can only be
set for a source that is registered. -/
inductive Built : Builder → Prop
  | empty (file : Option String) : Built (empty file)
  | setBaseDir {b : Builder} (built : Built b) (dir : Option Path) : Built (b.setBaseDir dir)
  | addSource {b : Builder} (built : Built b) (source : String) : Built (b.addSource source).2
  | addName {b : Builder} (built : Built b) (name : String) : Built (b.addName name).2
  | addUnmapped {b : Builder} (built : Built b) (line column : Nat) :
      Built (b.addUnmapped line column).2
  | add {b : Builder} (built : Built b) (line column sourceLine sourceColumn : Nat)
      (source name : Option String) :
      Built (b.add line column sourceLine sourceColumn source name).2
  | setContent {b after : Builder} (built : Built b) (id : Nat) (content : Option String)
      (done : b.setContent? id content = some after) : Built after

/-- A builder whose segments refer to what is registered, with no content too many. -/
structure Tidy (b : Builder) : Prop where
  refers : ∀ segment ∈ b.segments, segment.Refers b.sources.length b.names.length
  contents_le : b.contents.length ≤ b.sources.length

/-- Texts may be registered without a segment. -/
theorem Tidy.grow {b after : Builder} (tidy : b.Tidy) (grows : Grows b after)
    (segments : after.segments = b.segments) (contents : after.contents = b.contents) :
    after.Tidy := by
  have sources := grows.sources.length_le
  refine ⟨?_, ?_⟩
  · rw [segments]
    intro segment member
    exact (tidy.refers segment member).mono sources grows.names.length_le
  · rw [contents]
    exact Nat.le_trans tidy.contents_le sources

theorem Tidy.adds {b after : Builder} {segment : Segment} (tidy : b.Tidy)
    (adds : Adds b after segment) (unnamed : segment.source = none → segment.name = none)
    (contents : after.contents = b.contents) : after.Tidy := by
  have sources := adds.grows.sources.length_le
  refine ⟨?_, ?_⟩
  · rw [adds.segments]
    intro other member
    rcases List.mem_append.mp member with earlier | last
    · exact (tidy.refers other earlier).mono sources adds.grows.names.length_le
    · rw [List.mem_singleton.mp last]
      exact ⟨adds.registered.source, adds.registered.name, unnamed⟩
  · rw [contents]
    exact Nat.le_trans tidy.contents_le sources

theorem Tidy.add {b : Builder} (tidy : b.Tidy) (line column sourceLine sourceColumn : Nat)
    (source name : Option String) :
    (b.add line column sourceLine sourceColumn source name).2.Tidy := by
  cases source with
  | none =>
    have adds : Adds b (b.add line column sourceLine sourceColumn none name).2
        (b.add line column sourceLine sourceColumn none name).1 :=
      ⟨⟨List.prefix_rfl, List.prefix_rfl⟩, rfl, ⟨by simp [Builder.add], by simp [Builder.add]⟩,
        rfl, rfl⟩
    exact tidy.adds adds (fun _ => rfl) rfl
  | some source =>
    have adds := (b.add_adds line column sourceLine sourceColumn source name).1
    refine tidy.adds adds ?_ ?_
    · cases name <;> simp [Builder.add]
    · cases name <;> rfl

theorem Tidy.setContent {b after : Builder} (tidy : b.Tidy) {id : Nat} {content : Option String}
    (done : b.setContent? id content = some after) : after.Tidy := by
  obtain ⟨-, rfl⟩ := setContent?_eq_some done
  refine ⟨tidy.refers, ?_⟩
  simp only [List.length_set, Document.length_padContents tidy.contents_le, Nat.le_refl]

/-- No sequence of operations makes a builder untidy. -/
theorem Built.tidy {b : Builder} (built : Built b) : b.Tidy := by
  induction built with
  | empty file => exact ⟨by simp [Builder.empty], Nat.le_refl 0⟩
  | setBaseDir _ dir ih => exact ⟨ih.refers, ih.contents_le⟩
  | @addSource b _ source ih =>
    exact ih.grow ⟨(register_spec b.sources source).1, List.prefix_rfl⟩ rfl rfl
  | @addName b _ name ih =>
    exact ih.grow ⟨List.prefix_rfl, (register_spec b.names name).1⟩ rfl rfl
  | @addUnmapped b _ line column ih =>
    exact ih.adds (b.addUnmapped_adds line column) (fun _ => rfl) rfl
  | add _ line column sourceLine sourceColumn source name ih =>
    exact ih.add line column sourceLine sourceColumn source name
  | setContent _ id content done ih => exact ih.setContent done

theorem Tidy.finish {b : Builder} (tidy : b.Tidy) : b.finish.WellFormed := by
  refine (Document.ofParts_wellFormed b.file tidy.refers ?_).setBaseDir b.baseDir
  intro contents carried
  split at carried
  · cases carried
    exact Document.length_padContents tidy.contents_le
  · cases carried

/-- A finished document has a content for every source, or none at all. -/
theorem Tidy.contentsSettled {b : Builder} (tidy : b.Tidy) :
    b.finish.ContentsSettled := by
  have padded : b.finish.sourceContents = Document.padContents b.sources.length b.contents := by
    refine List.ext_getElem? fun id => ?_
    have length := Document.length_padContents tidy.contents_le
    have sources : b.finish.sources = b.sources := rfl
    by_cases listed : id < b.sources.length
    · have inside : id < (Document.padContents b.sources.length b.contents).length := by omega
      have entry := getElem?_padContents_join b.sources.length b.contents id
      rw [List.getElem?_eq_getElem inside, Option.join_some] at entry
      simp [Document.sourceContents, sources, listed, content?_finish, content?, ← entry, inside]
    · have beyond : ¬ id < (Document.padContents b.sources.length b.contents).length := by omega
      simp [Document.sourceContents, sources, listed, beyond]
  have carried : b.finish.sourceContents.any Option.isSome = b.contents.any Option.isSome := by
    simp [padded, Document.padContents]
  rw [Document.ContentsSettled, carried, padded]
  rfl

theorem Built.offerContent {b : Builder} (built : Built b) (id : Nat) (content : Option String) :
    Built (b.offerContent id content) := by
  unfold Builder.offerContent
  split
  · next text _ =>
    cases done : b.setContent? id (some text) with
    | none => exact built
    | some after => exact .setContent built id (some text) done
  · exact built

end Builder

namespace Compose

/-- Assembling uses a builder by its operations only. -/
theorem addComposed_built {outer : Document} {inners : List (Option Document)} {b : Builder}
    (built : b.Built) (segment : Segment) : (addComposed outer inners b segment).Built := by
  have mapped : ∀ sourceLine sourceColumn source name content,
      let added := b.add segment.line segment.column sourceLine sourceColumn source name
      (added.2.offerContent (added.1.source.getD 0) content).Built := by
    intro sourceLine sourceColumn source name content
    exact (Builder.Built.add built _ _ sourceLine sourceColumn source name).offerContent _ content
  have unmapped : (b.addUnmapped segment.line segment.column).2.Built := .addUnmapped built _ _
  unfold addComposed
  dsimp only
  split
  · split
    · exact mapped _ _ _ _ _
    · split
      · exact unmapped
      · split
        · exact unmapped
        · exact mapped _ _ _ _ _
  · exact unmapped

theorem foldl_addComposed_built {outer : Document} {inners : List (Option Document)}
    (segments : List Segment) {b : Builder} (built : b.Built) :
    (segments.foldl (addComposed outer inners) b).Built := by
  induction segments generalizing b with
  | nil => exact built
  | cons segment rest ih => exact ih (addComposed_built built segment)

theorem assemble_wellFormed (outer : Document) (inners : List (Option Document)) :
    (assemble outer inners).WellFormed :=
  let start := Builder.Built.setBaseDir (.empty outer.file) outer.baseDir
  (foldl_addComposed_built outer.segments start).tidy.finish

end Compose

namespace Artifact

/-- The artifacts there can be: those of a text, and those of a file. -/
inductive Made : Artifact → Prop
  | ofText {tree : FileTree} {path : Path} {text : String} {artifact : Artifact}
      (made : ofText tree path text = .ok artifact) : Made artifact
  | load {tree : FileTree} {path : Path} {artifact : Artifact}
      (made : load tree path = .ok artifact) : Made artifact

/-- An artifact keeps its path and its text, which has a reference, and its document was decoded and
then put into a directory. -/
structure OfText (path : Path) (text : String) (artifact : Artifact) : Prop where
  path_eq : artifact.path = path
  text_eq : artifact.text = text
  referred : (Reference.locate? text).isSome
  decoded : artifact.document.Decoded

theorem ofText_spec {tree : FileTree} {path : Path} {text : String} {artifact : Artifact}
    (made : ofText tree path text = .ok artifact) : OfText path text artifact := by
  unfold ofText at made
  split at made
  · next reference located =>
    have referred : (Reference.locate? text).isSome := by simp [located]
    split at made
    · obtain ⟨⟨_, bytes⟩, _, made⟩ := exists_of_bind_eq_ok made
      obtain ⟨document, read, made⟩ := exists_of_bind_eq_ok made
      cases made
      exact ⟨rfl, rfl, referred, (Document.decoded_of_decode read).setBaseDir _⟩
    · split at made
      · obtain ⟨bytes, _, made⟩ := exists_of_bind_eq_ok made
        obtain ⟨document, read, made⟩ := exists_of_bind_eq_ok made
        cases made
        exact ⟨rfl, rfl, referred, (Document.decoded_of_decode read).setBaseDir _⟩
      · cases made
  · cases made

theorem Made.spec {artifact : Artifact} (made : artifact.Made) :
    OfText artifact.path artifact.text artifact := by
  cases made with
  | ofText made =>
    have spec := ofText_spec made
    rwa [← spec.path_eq, ← spec.text_eq] at spec
  | load made =>
    obtain ⟨text, _, made⟩ := exists_of_bind_eq_ok made
    have spec := ofText_spec made
    rwa [← spec.path_eq, ← spec.text_eq] at spec

end Artifact

/-- Every document that is decoded, built, composed or moved to another directory has parts that
fit together, and no change of a document makes them misfit. -/
theorem documents_wellFormed :
    (∀ bytes doc, Document.decode bytes = .ok doc → doc.WellFormed) ∧
    (∀ url doc, DataUrl.decode url = .ok doc → doc.WellFormed) ∧
    (∀ b : Builder, b.Built → b.finish.WellFormed) ∧
    (∀ (σ : Type) (resolver : Resolver σ) tree outer composer composed after,
      (Composer.compose resolver tree outer).run.run composer = (.ok composed, after) →
        composed.WellFormed) ∧
    (∀ artifact : Artifact, artifact.Made → ∀ dir, (artifact.document.rebase dir).WellFormed) ∧
    ∀ doc : Document, doc.WellFormed →
      (∀ id source, (doc.setSource id source).WellFormed) ∧
      (∀ id content, (doc.setContent id content).WellFormed) ∧
      ∀ dir, (doc.setBaseDir dir).WellFormed := by
  refine ⟨?_, ?_, ?_, ?_, ?_, ?_⟩
  · intro bytes doc read
    exact (Document.decoded_of_decode read).wellFormed
  · intro url doc read
    obtain ⟨⟨_, bytes⟩, _, read⟩ := exists_of_bind_eq_ok read
    exact (Document.decoded_of_decode read).wellFormed
  · intro b built
    exact built.tidy.finish
  · intro σ resolver tree outer composer composed after ends
    obtain ⟨inners, rfl⟩ := Compose.exists_assemble_of_compose ends
    exact Compose.assemble_wellFormed outer inners
  · intro artifact made dir
    exact (made.spec.decoded.rebase dir).wellFormed
  · intro doc formed
    exact ⟨formed.setSource, formed.setContent, formed.setBaseDir⟩

/-- A builder with a named segment on line 2, an unmapped one on line 0, a source without a segment
and one content, and the document that comes of it with its second source replaced. -/
theorem built_out_of_order :
    ∃ b : Builder, b.Built ∧ b.finish.WellFormed ∧ b.finish.segments.length = 2 ∧
      b.finish.lineSegments 1 = [] ∧ b.finish.contents = some [some "let a;", none] ∧
      (b.finish.setSource 1 "c.ts").WellFormed ∧
      (b.finish.setContent 7 (some "lost")).WellFormed := by
  have mapped := (Builder.Built.empty (some "out.js")).add 2 4 0 1 (some "a.ts") (some "alpha")
  have filled := (mapped.addUnmapped 0 9).setContent 0 (some "let a;") rfl
  have built := filled.addSource "b.ts"
  have formed := documents_wellFormed.2.2.1 _ built
  have changed := documents_wellFormed.2.2.2.2.2 _ formed
  exact ⟨_, built, formed, rfl, rfl, rfl, changed.1 1 "c.ts", changed.2.1 7 (some "lost")⟩

end SourceTrace
