import SourceTrace.Proofs.Compose.Embedded
import SourceTrace.Proofs.Compose.Passes

/-!
# Composed documents are in normal form

A composed document stands at the generated positions of the document it was composed from. It lists
the sources and the names that its segments use, each once and in the order of first use, and none
of its sources has a document, through however many layers their texts were renamed.

Composing it again therefore changes nothing. Its segments lead where they led, so that a second
builder registers the same texts in the same order, and every source is offered the content that it
already has.
-/
namespace SourceTrace

namespace Document

/-- The sources and the names of a document are those in use, each once and in the order of first
use. -/
structure ListsUsed (doc : Document) : Prop where
  sources : doc.sources = (doc.segments.filterMap doc.segmentSource?).eraseDups
  names : doc.names = (doc.segments.filterMap doc.segmentName?).eraseDups

theorem ListsUsed.nodup {doc : Document} (lists : doc.ListsUsed) :
    doc.sources.Nodup ∧ doc.names.Nodup := by
  rw [lists.sources, lists.names]
  exact ⟨nodup_eraseDups _, nodup_eraseDups _⟩

theorem map_source_sourcePosition? (doc : Document) (segment : Segment) :
    (doc.sourcePosition? segment).map (·.source) = doc.segmentSource? segment := by
  unfold sourcePosition?
  cases doc.segmentSource? segment with
  | none => rfl
  | some source => rfl

/-- Only a segment with a source has a name. -/
theorem WellFormed.bind_name_sourcePosition? {doc : Document} (formed : doc.WellFormed)
    {segment : Segment} (member : segment ∈ doc.segments) :
    (doc.sourcePosition? segment).bind (·.name) = doc.segmentName? segment := by
  have refers := formed.refers segment member
  cases number : segment.source with
  | none =>
    simp [sourcePosition?, segmentSource?, segmentName?, number, refers.unnamed number]
  | some id =>
    have listed := refers.source id number
    simp [sourcePosition?, segmentSource?, source?, number, listed]

/-- Documents that differ in their contents only and give every source the same one are equal. -/
theorem eq_of_bare {left right : Document} (leftSettled : left.ContentsSettled)
    (rightSettled : right.ContentsSettled) (same : left.bare = right.bare)
    (contents : ∀ id, left.content? id = right.content? id) : left = right := by
  have sources : left.sources = right.sources := (Document.mk.inj same).2.2.2.2.1
  have each : left.sourceContents = right.sourceContents := by
    rw [sourceContents, sourceContents, sources, funext contents]
  have whole : left.contents = right.contents := by
    rw [leftSettled, rightSettled, each]
  obtain ⟨file, segments, lineStarts, names, sources, contents, dir⟩ := left
  cases whole
  cases same
  rfl

end Document

namespace Compose

/-- The places of a document's segments and the positions they lead to. -/
def placesOf (doc : Document) : List ((Nat × Nat) × Option SourcePosition) :=
  doc.segments.map fun segment => ((segment.line, segment.column), doc.sourcePosition? segment)

/-- A builder that has registered the texts of the given positions. -/
structure Registers (used : List SourcePosition) (b : Builder) : Prop where
  sources : b.sources = (used.map (·.source)).eraseDups
  names : b.names = (used.filterMap (·.name)).eraseDups

theorem Registers.step {used : List SourcePosition} {b : Builder} (registers : Registers used b)
    (line column : Nat) (position? : Option SourcePosition) (content : Option String) :
    Registers (used ++ position?.toList) (b.addPosition line column position? content) := by
  cases position? with
  | none => simpa using ⟨registers.sources, registers.names⟩
  | some position =>
    obtain ⟨source, sourceLine, sourceColumn, name⟩ := position
    simp only [Builder.addPosition]
    obtain ⟨contents, same⟩ := (b.add line column sourceLine sourceColumn (some source)
      name).2.offerContent_eq _ content
    rw [same]
    refine ⟨?_, ?_⟩
    · dsimp only
      rw [(b.add_parts line column sourceLine sourceColumn source name).2.1, registers.sources,
        register_eraseDups]
      simp
    · cases name with
      | none =>
        change b.names = _
        simpa using registers.names
      | some name =>
        change (register b.names name).2 = _
        rw [registers.names, register_eraseDups]
        simp

variable {outer : Document} {inners : List (Option Document)}

theorem Registers.run (closed : ∀ inner, some inner ∈ inners → Closed inner)
    (segments : List Segment) {used : List SourcePosition} {b : Builder}
    (registers : Registers used b) :
    Registers (used ++ segments.filterMap (composedPosition? outer inners))
      (segments.foldl (addComposed outer inners) b) := by
  induction segments generalizing used b with
  | nil => simpa using registers
  | cons segment rest ih =>
    have further := ih (registers.step segment.line segment.column
      (composedPosition? outer inners segment) (suppliedContent? outer inners segment))
    rw [← addComposed_eq closed] at further
    cases leads : composedPosition? outer inners segment with
    | none => simpa [leads] using further
    | some position => simpa [leads] using further

/-- The segments of an assembled document are at the places of the outer ones. -/
theorem placesOf_assemble (order : outer.InOrder)
    (closed : ∀ inner, some inner ∈ inners → Closed inner) :
    placesOf (assemble outer inners) = places outer inners := by
  unfold places placesOf
  rw [← List.forall₂_eq_eq_eq, List.forall₂_map_left_iff, List.forall₂_map_right_iff]
  refine (assemble_images order closed).flip.imp ?_
  rintro image segment ⟨line, column, leads⟩
  rw [line, column, leads]

/-- An assembled document lists what it uses. -/
theorem assemble_listsUsed (order : outer.InOrder)
    (closed : ∀ inner, some inner ∈ inners → Closed inner) :
    (assemble outer inners).ListsUsed := by
  have start : Registers [] ((Builder.empty outer.file).setBaseDir outer.baseDir) := ⟨rfl, rfl⟩
  have registers : Registers _ (outer.segments.foldl (addComposed outer inners) _) :=
    start.run closed outer.segments
  have formed := assemble_wellFormed outer inners
  have places_eq := congrArg (List.filterMap Prod.snd) (placesOf_assemble order closed)
  simp only [places, placesOf, List.filterMap_map, Function.comp_def] at places_eq
  rw [List.nil_append, ← places_eq] at registers
  refine ⟨registers.sources.trans ?_, registers.names.trans ?_⟩
  · simp only [List.map_filterMap, Document.map_source_sourcePosition?]
  · rw [List.filterMap_filterMap]
    congr 1
    exact List.filterMap_congr fun segment member => formed.bind_name_sourcePosition? member

theorem assemble_contentsSettled (outer : Document) (inners : List (Option Document)) :
    (assemble outer inners).ContentsSettled :=
  let start := Builder.Built.setBaseDir (.empty outer.file) outer.baseDir
  (foldl_addComposed_built outer.segments start).tidy.contentsSettled

theorem inner_leaves (count : Nat) (number : Option Nat) :
    number.bind (fun id => ((List.replicate count (none : Option Document))[id]?).join) = none := by
  cases number with
  | none => rfl
  | some id =>
    rw [Option.bind_some, List.getElem?_replicate]
    split
    · rfl
    · rfl

/-- Where no source has a document, a segment leads where it led. -/
theorem composedPosition?_leaves (doc : Document) (count : Nat) (segment : Segment) :
    composedPosition? doc (List.replicate count none) segment = doc.sourcePosition? segment := by
  rw [composedPosition?, inner_leaves, Option.bind_fun_some]

/-- Where no source has a document, a source is offered its own content by each of its segments. -/
theorem offered?_leaves {doc : Document} (distinct : doc.sources.Nodup) (count : Nat) {id : Nat}
    {source : String} (listed : doc.sources[id]? = some source) (segment : Segment) :
    offered? doc (List.replicate count none) source segment =
      if segment.source = some id then doc.content? id else none := by
  rw [offered?, composedPosition?_leaves, suppliedContent?, inner_leaves]
  dsimp only
  cases number : segment.source with
  | none => simp [Document.sourcePosition?, Document.segmentSource?, number]
  | some other =>
    by_cases same : other = id
    · subst same
      simp [Document.sourcePosition?, Document.segmentSource?, Document.source?, number, listed]
    · rw [if_neg (by simpa using same)]
      refine Option.bind_eq_none_iff.mpr fun position known => if_neg ?_
      rintro rfl
      obtain ⟨again, numberAgain, listedAgain⟩ := source_of_sourcePosition? known
      have bound := (List.getElem?_eq_some_iff.mp listed).1
      have twice := (List.getElem?_inj bound distinct).mp (listed.trans listedAgain.symm)
      rw [number, Option.some.injEq] at numberAgain
      exact same (numberAgain.trans twice.symm)

/-- A source in use keeps its content where no source has a document. -/
theorem findSome?_offered?_leaves {doc : Document} (lists : doc.ListsUsed) (count : Nat) {id : Nat}
    {source : String} (listed : doc.sources[id]? = some source) :
    doc.segments.findSome? (offered? doc (List.replicate count none) source) =
      doc.content? id := by
  have offers := offered?_leaves lists.nodup.1 count listed
  have used : source ∈ doc.segments.filterMap doc.segmentSource? := by
    rw [← List.mem_eraseDups, ← lists.sources]
    exact List.mem_of_getElem? listed
  obtain ⟨segment, member, known⟩ := List.mem_filterMap.mp used
  obtain ⟨again, number, listedAgain⟩ := Option.bind_eq_some_iff.mp known
  have bound := (List.getElem?_eq_some_iff.mp listed).1
  obtain rfl := (List.getElem?_inj bound lists.nodup.1).mp (listed.trans listedAgain.symm)
  cases content : doc.content? id with
  | none =>
    refine List.findSome?_eq_none_iff.mpr fun other _ => ?_
    rw [offers, content, ite_self]
  | some text =>
    have found : (doc.segments.findSome?
        (offered? doc (List.replicate count none) source)).isSome := by
      refine List.findSome?_isSome_iff.mpr ⟨segment, member, ?_⟩
      rw [offers, number, if_pos rfl, content]
      rfl
    obtain ⟨other, first⟩ := Option.isSome_iff_exists.mp found
    obtain ⟨giver, _, gives⟩ := List.exists_of_findSome?_eq_some first
    rw [offers, content] at gives
    rw [first]
    split at gives
    · exact gives.symm
    · cases gives

/-- An assembled document whose sources have no documents is assembled to itself. -/
theorem assemble_leaves (order : outer.InOrder)
    (closed : ∀ inner, some inner ∈ inners → Closed inner) (count : Nat) :
    assemble (assemble outer inners) (List.replicate count none) = assemble outer inners := by
  have none_closed : ∀ inner, some inner ∈ List.replicate count none → Closed inner := by
    intro inner member
    cases List.eq_of_mem_replicate member
  have lists := assemble_listsUsed order closed
  have same : (assemble (assemble outer inners) (List.replicate count none)).bare =
      (assemble outer inners).bare := by
    rw [bare_assemble none_closed, bare_assemble closed, ← placesOf_assemble order closed,
      assemble_file closed, assemble_baseDir closed]
    congr 1
    exact List.map_congr_left fun segment _ => by rw [composedPosition?_leaves]
  refine Document.eq_of_bare (assemble_contentsSettled _ _) (assemble_contentsSettled _ _) same ?_
  intro id
  have sources : (assemble (assemble outer inners) (List.replicate count none)).source? id =
      (assemble outer inners).source? id := by
    rw [Document.source?, (Document.mk.inj same).2.2.2.2.1]
    rfl
  rw [content?_assemble none_closed, sources]
  cases listed : (assemble outer inners).source? id with
  | none => rw [content?_assemble closed, listed, Option.bind_none, Option.bind_none]
  | some source => exact findSome?_offered?_leaves lists count listed

variable {answers : Answers}

/-- Following stops at a source without a document. -/
theorem Follows.stops {base : Option Path} {position : SourcePosition}
    {found : Option (SourcePosition × Option Path)} (follows : Follows answers base position found)
    {last : SourcePosition × Option Path} (ends : found = some last) :
    answers (Source.key last.2 last.1.source) = .ok none := by
  induction follows with
  | stop answer =>
    cases ends
    exact answer
  | lost _ _ => cases ends
  | pass _ _ _ ih => exact ih ends

/-- No source of a composed document has a document. -/
theorem Composed.leaves {docs : Document → Prop} (setting : Setting answers docs)
    {doc composed : Document} (holds : Composed answers doc composed) (involved : docs doc)
    (source : String) (member : source ∈ composed.sources) :
    answers (Source.key composed.baseDir source) = .ok none := by
  rw [holds.baseDir_eq]
  cases holds with
  | assembled layers =>
    obtain ⟨segment, position, leads, rfl⟩ := exists_position_of_mem_sources layers.closed member
    obtain ⟨start, known, _⟩ := Option.bind_eq_some_iff.mp leads
    obtain ⟨found, follows, related⟩ :=
      composedPosition?_leads setting involved (layers.faithful setting) known
    rw [leads] at related
    cases related with
    | some denotes =>
      rw [denotes.source.key_eq]
      exact follows.stops rfl

theorem layers_leaves {base : Option Path} {sources : List String}
    (leaves : ∀ source ∈ sources, answers (Source.key base source) = .ok none) :
    Layers answers base sources (List.replicate sources.length none) := by
  induction sources with
  | nil => exact .nil
  | cons source rest ih =>
    exact .cons (.leaf (leaves source List.mem_cons_self))
      (ih fun other member => leaves other (List.mem_cons_of_mem source member))

/-- A composed document is its own composed document. -/
theorem Composed.again {docs : Document → Prop} (setting : Setting answers docs)
    {doc composed : Document} (holds : Composed answers doc composed) (involved : docs doc) :
    Composed answers composed composed := by
  have step := Composed.assembled (layers_leaves (holds.leaves setting involved))
  cases holds with
  | assembled layers =>
    rwa [assemble_leaves (setting.inOrder _ involved) layers.closed] at step

end Compose

open Compose

/-- A composed document stands at the generated positions of the outer one, with its file and its
directory. It lists the sources and the names in use, each once and in the order of first use, and
it is composed to itself. -/
theorem compose_normalForm {σ : Type} {resolver : Resolver σ} {answers : Answers}
    {valid : σ → Prop} (keyed : resolver.Keyed answers valid) (tree : FileTree) {memory : σ}
    (start : valid memory) {outer composed : Document}
    (inOrder : ∀ doc, Involved answers outer doc → doc.InOrder)
    (placed : Placed (Involved answers outer))
    (succeeds : compose resolver tree memory outer = .ok composed) :
    composed.segments.map (fun segment => (segment.line, segment.column)) =
        outer.segments.map (fun segment => (segment.line, segment.column)) ∧
      composed.file = outer.file ∧ composed.baseDir = outer.baseDir ∧
      composed.sources.Nodup ∧
      composed.sources = (composed.segments.filterMap composed.segmentSource?).eraseDups ∧
      composed.names.Nodup ∧
      composed.names = (composed.segments.filterMap composed.segmentName?).eraseDups ∧
      ∀ (other : FileTree) (fresh : σ), valid fresh →
        compose resolver other fresh composed = .ok composed := by
  have holds := (compose_eq_ok_iff keyed tree start).mp succeeds
  have setting : Setting answers (Involved answers outer) :=
    ⟨fun key doc found => .inr ⟨key, found⟩, inOrder, placed⟩
  have again := holds.again setting (.inl rfl)
  have order := inOrder outer (.inl rfl)
  have dir := holds.baseDir_eq
  cases holds with
  | assembled layers =>
    have lists := assemble_listsUsed order layers.closed
    have places_eq := congrArg (List.map Prod.fst) (placesOf_assemble order layers.closed)
    simp only [places, placesOf, List.map_map, Function.comp_def] at places_eq
    exact ⟨places_eq, assemble_file layers.closed, dir, lists.nodup.1, lists.sources, lists.nodup.2,
      lists.names, fun _ _ current => (compose_eq_ok_iff keyed _ current).mpr again⟩

namespace Compose

/-- The document of `/w/out/c.js`, which was built from `/w/out/lib.ts` and `/w/b.js` and uses the
second of them first. -/
def packed : Document :=
  (Document.ofParts (some "c.js")
    [⟨0, 0, 2, 4, some 1, none⟩, ⟨0, 7, 0, 0, none, none⟩, ⟨1, 0, 1, 1, some 0, some 0⟩]
    ["g"] ["lib.ts", "../b.js"] (some [none, some "let b;"])).setBaseDir (some ⟨"/w/out"⟩)

/-- The document of `/w/b.js`, which was built from `/w/src/a.ts` and carries its text. -/
def transpiled : Document :=
  (Document.ofParts none [⟨2, 1, 5, 3, some 0, some 0⟩] ["f"] ["src/a.ts"]
    (some [some "let a;"])).setBaseDir (some ⟨"/w"⟩)

theorem involved_packed (doc : Document)
    (involved : Involved (Answers.ofTable [("/w/b.js", .ok transpiled)]) packed doc) :
    doc = packed ∨ doc = transpiled := by
  rcases involved with same | ⟨key, answer⟩
  · exact .inl same
  · have entry := Answers.mem_of_ofTable answer
    simp only [List.mem_singleton, Prod.mk.injEq, Except.ok.injEq] at entry
    exact .inr entry.2

theorem placed_packed :
    Placed (Involved (Answers.ofTable [("/w/b.js", .ok transpiled)]) packed) := by
  refine .inr fun doc involved => ?_
  rcases involved_packed doc involved with rfl | rfl
  · refine ⟨⟨"/w/out"⟩, rfl, ⟨by decide, by decide, by decide⟩, ?_⟩
    intro source listed path named
    simp only [packed, Document.setBaseDir, Document.ofParts, List.mem_cons, List.not_mem_nil,
      or_false] at listed
    rcases listed with rfl | rfl
    · obtain rfl : Path.mk "/w/out/lib.ts" = path := Option.some.inj named
      exact ⟨by decide, by decide⟩
    · obtain rfl : Path.mk "/w/b.js" = path := Option.some.inj named
      exact ⟨by decide, by decide⟩
  · refine ⟨⟨"/w"⟩, rfl, ⟨by decide, by decide, by decide⟩, ?_⟩
    intro source listed path named
    rw [List.mem_singleton.mp listed] at named
    obtain rfl : Path.mk "/w/src/a.ts" = path := Option.some.inj named
    exact ⟨by decide, by decide⟩

end Compose

theorem compose_normalForm_packed : ∃ composed,
    compose (Resolver.ofKeys [("/w/b.js", .ok transpiled)]) FileTree.empty () packed =
      .ok composed ∧
    composed.sources = ["../src/a.ts", "lib.ts"] ∧ composed.names = ["f", "g"] ∧
    composed.contents = some [some "let a;", none] ∧ composed.sources.Nodup ∧
    compose (Resolver.ofKeys [("/w/b.js", .ok transpiled)]) FileTree.empty () composed =
      .ok composed := by
  obtain ⟨composed, succeeds, sources, names, contents⟩ : ∃ composed,
      compose (Resolver.ofKeys [("/w/b.js", .ok transpiled)]) FileTree.empty () packed =
        .ok composed ∧
      composed.sources = ["../src/a.ts", "lib.ts"] ∧ composed.names = ["f", "g"] ∧
      composed.contents = some [some "let a;", none] :=
    ⟨_, rfl, by decide, by decide, by decide⟩
  have inOrder : ∀ doc, Involved (Answers.ofTable [("/w/b.js", .ok transpiled)]) packed doc →
      doc.InOrder := by
    intro doc involved
    rcases involved_packed doc involved with rfl | rfl
    · exact (Document.ofParts_inOrder _ _ _ _ _).setBaseDir _
    · exact (Document.ofParts_inOrder _ _ _ _ _).setBaseDir _
  obtain ⟨_, _, _, distinct, _, _, _, again⟩ := compose_normalForm
    (Resolver.ofKeys_keyed [("/w/b.js", .ok transpiled)]) FileTree.empty trivial inOrder
    placed_packed succeeds
  exact ⟨composed, succeeds, sources, names, contents, distinct, again FileTree.empty () trivial⟩

end SourceTrace
