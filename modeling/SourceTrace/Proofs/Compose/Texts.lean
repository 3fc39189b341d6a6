import SourceTrace.Proofs.Compose.Embedded
import SourceTrace.Proofs.Compose.Layers
import SourceTrace.Proofs.Compose.Reuse
import SourceTrace.Proofs.Content.Keeping

/-!
# Composing loses no text

When a document has been composed, the texts of its sources that can be found are kept in the
content store, each under the key of its source, before the document goes into the cache. Whatever a
composer does afterwards, on files that do not change, only adds to the store. So a source that
comes up from a composed document has a text in the store if it had one below: the document above
names it differently, seen from another directory, but under the same key.
-/
namespace SourceTrace.Compose

open ContentStore (Leads Resolvable)

variable {σ α β : Type} {tree : FileTree}

/-- The texts of all composed documents in the cache have been kept. -/
def Kept (tree : FileTree) (composer : Composer σ) : Prop :=
  ∀ key inner, List.lookup key composer.cache = some (some inner) →
    ∃ moment, Leads tree (keepContents tree inner moment) composer.contents

/-- What becomes of a composer: it forgets no text and no key, and what it newly has in its cache
has been kept. -/
structure Advances (tree : FileTree) (before after : Composer σ) : Prop where
  contents : Leads tree before.contents after.contents
  cached : ∀ key, (List.lookup key before.cache).isSome → (List.lookup key after.cache).isSome
  kept : Kept tree before → Kept tree after

namespace Advances

variable {composer before after last : Composer σ}

theorem refl (composer : Composer σ) : Advances tree composer composer :=
  ⟨.refl, fun _ known => known, id⟩

theorem trans (first : Advances tree before after) (second : Advances tree after last) :
    Advances tree before last :=
  ⟨first.contents.trans second.contents,
    fun key known => second.cached key (first.cached key known),
    fun kept => second.kept (first.kept kept)⟩

/-- Memory and stack do not count. -/
theorem of_same (contents : after.contents = before.contents) (cache : after.cache = before.cache) :
    Advances tree before after := by
  refine ⟨?_, fun key known => cache ▸ known, ?_⟩
  · rw [contents]
    exact .refl
  · intro kept key inner cached
    rw [contents]
    exact kept key inner (cache ▸ cached)

/-- Only texts come in. -/
theorem of_leads {store : ContentStore} (leads : Leads tree composer.contents store) :
    Advances tree composer { composer with contents := store } where
  contents := leads
  cached _ known := known
  kept kept key inner cached := by
    obtain ⟨moment, earlier⟩ := kept key inner cached
    exact ⟨moment, earlier.trans leads⟩

/-- An answer comes into the cache, whose texts have been kept. -/
theorem remember {key : String} {answer : Option Document}
    (recorded : ∀ inner, answer = some inner →
      ∃ moment, Leads tree (keepContents tree inner moment) composer.contents) :
    Advances tree composer { composer with cache := (key, answer) :: composer.cache } where
  contents := .refl
  cached queried known := by
    rw [List.lookup_cons]
    split
    · rfl
    · exact known
  kept kept queried inner cached := by
    rw [List.lookup_cons] at cached
    split at cached
    · exact recorded inner (Option.some.inj cached)
    · exact kept queried inner cached

end Advances

/-- A step after which every composer has advanced, also if the step fails. -/
def Advancing (tree : FileTree) (step : Composing σ α) : Prop :=
  ∀ composer, Advances tree composer (outcome step composer).2

namespace Advancing

theorem pure (value : α) : Advancing tree (Pure.pure value : Composing σ α) :=
  fun composer => .refl composer

theorem throw (cause : Error) : Advancing tree (MonadExcept.throw cause : Composing σ α) :=
  fun composer => .refl composer

theorem bind {step : Composing σ α} {next : α → Composing σ β} (first : Advancing tree step)
    (second : ∀ value, Advancing tree (next value)) : Advancing tree (step >>= next) := by
  intro composer
  have start := first composer
  rw [outcome_bind]
  generalize outcome step composer = reply at start
  rcases reply with ⟨cause | value, middle⟩
  · exact start
  · exact start.trans (second value middle)

theorem mapM {γ : Type} {step : γ → Composing σ α} (each : ∀ item, Advancing tree (step item))
    (items : List γ) : Advancing tree (items.mapM step) := by
  induction items with
  | nil =>
    rw [List.mapM_nil]
    exact .pure []
  | cons item rest ih =>
    rw [List.mapM_cons]
    exact (each item).bind fun value => ih.bind fun values => .pure (value :: values)

theorem withFrame {step : Composing σ α} (advancing : Advancing tree step) (key : String) :
    Advancing tree (withFrame key step) := by
  intro composer
  have pushed : Advances tree composer { composer with stack := key :: composer.stack } :=
    .of_same rfl rfl
  exact (pushed.trans (advancing _)).trans (.of_same rfl rfl)

end Advancing

variable {resolver : Resolver σ} {descend : String → Document → Composing σ Document}

/-- One source: its document is composed, its texts are kept, and then it goes into the cache. -/
theorem innerFor_advances (resolver : Resolver σ)
    (descends : ∀ source doc, Advancing tree (descend source doc)) (base : Option Path)
    (source : String) (composer : Composer σ) :
    let reply := outcome (innerFor resolver tree descend base source) composer
    Advances tree composer reply.2 ∧ ∀ inner, reply.1 = .ok inner →
      List.lookup (Source.key base source) reply.2.cache = some inner := by
  dsimp only
  cases unknown : List.lookup (Source.key base source) composer.cache with
  | some known =>
    rw [outcome_innerFor_of_cached resolver tree descend base source composer known unknown]
    refine ⟨.refl composer, ?_⟩
    rintro inner ⟨⟩
    exact unknown
  | none =>
    by_cases onStack : Source.key base source ∈ composer.stack
    · rw [outcome_innerFor_of_stacked resolver tree descend base source composer unknown onStack]
      refine ⟨.refl composer, ?_⟩
      rintro inner ⟨⟩
    · rw [outcome_innerFor_of_asked resolver tree descend base source composer unknown onStack]
      rcases resolver.answer source base composer.memory with ⟨answer, memory⟩
      have asked : Advances tree composer { composer with memory } := .of_same rfl rfl
      rcases answer with cause | _ | doc
      · refine ⟨asked, ?_⟩
        rintro inner ⟨⟩
      · refine ⟨asked.trans (.remember fun inner impossible => by cases impossible), ?_⟩
        rintro inner ⟨⟩
        exact List.lookup_cons_self
      · have below := asked.trans ((descends source doc).withFrame (Source.key base source) _)
        dsimp only
        generalize outcome (withFrame (Source.key base source) (descend source doc))
          { composer with memory } = reply at below
        rcases reply with ⟨cause | composed, after⟩
        · refine ⟨below, ?_⟩
          rintro inner ⟨⟩
        · have texts := keepContents_leads tree composed after.contents
          refine ⟨(below.trans (.of_leads texts)).trans (.remember ?_), ?_⟩
          · rintro inner ⟨⟩
            exact ⟨after.contents, .refl⟩
          · rintro inner ⟨⟩
            exact List.lookup_cons_self

theorem innerFor_advancing (resolver : Resolver σ)
    (descends : ∀ source doc, Advancing tree (descend source doc)) (base : Option Path)
    (source : String) : Advancing tree (innerFor resolver tree descend base source) :=
  fun composer => (innerFor_advances resolver descends base source composer).1

theorem outcome_bind_ok {step : Composing σ α} {next : α → Composing σ β}
    {composer after : Composer σ} {value : β}
    (ends : outcome (step >>= next) composer = (.ok value, after)) :
    ∃ first middle, outcome step composer = (.ok first, middle) ∧
      outcome (next first) middle = (.ok value, after) := by
  rw [outcome_bind] at ends
  split at ends
  · next first middle run => exact ⟨first, middle, run, ends⟩
  · cases ends

/-- All sources, one after another: what is in the cache stays there. -/
theorem sources_cached (descends : ∀ source doc, Advancing tree (descend source doc))
    {base : Option Path} {sources : List String} {inners : List (Option Document)}
    {composer after : Composer σ}
    (ends : outcome (sources.mapM (innerFor resolver tree descend base)) composer =
      (.ok inners, after)) (source : String) (listed : source ∈ sources) :
    (List.lookup (Source.key base source) after.cache).isSome := by
  induction sources generalizing composer inners with
  | nil => simp at listed
  | cons head rest ih =>
    rw [List.mapM_cons] at ends
    obtain ⟨inner, middle, first, ends⟩ := outcome_bind_ok ends
    obtain ⟨others, last, further, ends⟩ := outcome_bind_ok ends
    cases ends
    rcases List.mem_cons.mp listed with rfl | later
    · have known := (innerFor_advances resolver descends base source composer).2 inner
      have advances := Advancing.mapM (innerFor_advancing resolver descends base) rest middle
      rw [first] at known
      rw [further] at advances
      exact advances.cached _ (by rw [known rfl]; rfl)
    · exact ih further later

theorem composeLayer_advancing (descends : ∀ source doc, Advancing tree (descend source doc))
    (outer : Document) : Advancing tree (composeLayer resolver tree descend outer) :=
  (Advancing.mapM (innerFor_advancing resolver descends outer.baseDir) outer.sources).bind
    fun inners => .pure (assemble outer inners)

/-- A run of any depth. -/
theorem composeWithin_advancing {beyond : String → Document → Composing σ Document}
    (advancing : ∀ source doc, Advancing tree (beyond source doc)) (depth : Nat)
    (outer : Document) : Advancing tree (composeWithin resolver tree beyond depth outer) := by
  induction depth generalizing outer with
  | zero => exact composeLayer_advancing advancing outer
  | succ depth ih => exact composeLayer_advancing (fun _ inner => ih inner) outer

theorem descent_advancing {beyond : String → Document → Composing σ Document}
    (advancing : ∀ source doc, Advancing tree (beyond source doc)) (depth : Nat) (source : String)
    (doc : Document) : Advancing tree (descent resolver tree beyond depth source doc) := by
  cases depth with
  | zero => exact advancing source doc
  | succ depth => exact composeWithin_advancing advancing depth doc

/-- A composer only advances, whatever it composes. -/
theorem compose_advancing (resolver : Resolver σ) (outer : Document) :
    Advancing tree (Composer.compose resolver tree outer) := by
  intro composer
  exact composeWithin_advancing (fun source _ => .throw (.cycle source))
    (resolver.bound composer.memory) outer composer

/-- When a document has been composed, all its sources are in the cache. -/
theorem compose_cached {outer composed : Document} {composer after : Composer σ}
    (succeeds : outcome (Composer.compose resolver tree outer) composer = (.ok composed, after))
    (source : String) (listed : source ∈ outer.sources) :
    (List.lookup (Source.key outer.baseDir source) after.cache).isSome := by
  have run : outcome (composeWithin resolver tree (fun source _ => throw (.cycle source))
    (resolver.bound composer.memory) outer) composer = (.ok composed, after) := succeeds
  rw [composeWithin_eq] at run
  obtain ⟨inners, middle, first, ends⟩ := outcome_bind_ok run
  cases ends
  exact sources_cached (descent_advancing (fun source _ => .throw (.cycle source)) _)
    first source listed

variable {answers : Answers} {valid : σ → Prop} {composer after : Composer σ}

/-- No call makes a composer forget, as long as the files do not change. -/
theorem Used.kept (used : Used resolver valid (· = tree) composer) : Kept tree composer := by
  induction used with
  | new _ =>
    intro key inner cached
    simp [Composer.ofMemory] at cached
  | compose _ current outer ih =>
    subst current
    exact (compose_advancing resolver outer _).kept ih
  | artifact _ current outer path ih =>
    subst current
    exact ((compose_advancing resolver outer).withFrame path.normalize.text _).kept ih
  | contents _ current event ih =>
    subst current
    exact (Advances.of_leads (.single ⟨event, rfl⟩)).kept ih

/-- The composed documents of the sources of a document, as they are in the cache. -/
def cachedInners (composer : Composer σ) (outer : Document) : List (Option Document) :=
  outer.sources.map fun source =>
    (List.lookup (Source.key outer.baseDir source) composer.cache).join

/-- A cache that is right has the one document that there is. -/
theorem Sound.map_cache (sound : Sound answers valid [] composer) {base : Option Path}
    {sources : List String} {inners : List (Option Document)}
    (layers : Layers answers base sources inners)
    (cached : ∀ source ∈ sources, (List.lookup (Source.key base source) composer.cache).isSome) :
    (sources.map fun source => (List.lookup (Source.key base source) composer.cache).join) =
      inners := by
  induction sources generalizing inners with
  | nil =>
    cases layers
    rfl
  | cons source rest ih =>
    cases layers with
    | cons head tail =>
      obtain ⟨inner, known⟩ := Option.isSome_iff_exists.mp (cached source (by simp))
      have others := ih tail fun other member => cached other (by simp [member])
      rw [List.map_cons, others, known, (sound.cache _ _ known).unique head, Option.join_some]

/-- A source that comes up from a composed document keeps its key. -/
theorem Inner.key_rebase {docs : Document → Prop} (setting : Setting answers docs)
    {outer inner : Document} (involved : docs outer) {key : String}
    (holds : Inner answers key (some inner)) {line column : Nat} {position : SourcePosition}
    (hit : inner.lookup? line column = some position) :
    Source.key outer.baseDir (Source.rebase position.source inner.baseDir outer.baseDir) =
      Source.key inner.baseDir position.source := by
  obtain ⟨doc, answer, faithful⟩ := holds.faithful setting
  rw [faithful.baseDir_eq]
  cases first : doc.lookup? line column with
  | none => cases (faithful.none_of_none line column first).symm.trans hit
  | some next =>
    obtain ⟨found, _, related⟩ := faithful.leads line column next first
    rw [hit] at related
    cases related with
    | some denotes =>
      have compatible := setting.placed.compatible (setting.answered key doc answer) involved
      exact (denotes.source.rebase compatible).key_eq.trans denotes.source.key_eq.symm

/-- A segment that leads somewhere has an image with the same index, in the source it leads to. -/
theorem exists_image {outer : Document} {inners : List (Option Document)} (order : outer.InOrder)
    (closed : ∀ inner, some inner ∈ inners → Closed inner) {index : Nat} {segment : Segment}
    (at? : outer.segments[index]? = some segment) {position : SourcePosition}
    (leads : composedPosition? outer inners segment = some position) :
    ∃ image id, (assemble outer inners).segments[index]? = some image ∧ image.source = some id ∧
      (assemble outer inners).source? id = some position.source := by
  obtain ⟨lengths, each⟩ := List.forall₂_iff_get.mp (assemble_images order closed)
  obtain ⟨bound, same⟩ := List.getElem?_eq_some_iff.mp at?
  have image := (each index bound (lengths ▸ bound)).2.2
  simp only [List.get_eq_getElem, same, leads] at image
  obtain ⟨id, number, listed⟩ := source_of_sourcePosition? image
  exact ⟨_, id, List.getElem?_eq_getElem (lengths ▸ bound), number, listed⟩

/-- A segment of the outer document is composed through a segment of a composed document in the
cache, which lies in the source with the given number. -/
structure Through (composer : Composer σ) (outer : Document) (segment : Segment)
    (inner : Document) (innerId : Nat) : Prop where
  cached : ∃ source, outer.segmentSource? segment = some source ∧
    List.lookup (Source.key outer.baseDir source) composer.cache = some (some inner)
  found : ∃ found, inner.segmentAt? segment.sourceLine segment.sourceColumn = some found ∧
    found.source = some innerId

/-- A segment that is composed through a composed document leads to the source it has there, renamed
for the outer document. -/
theorem Through.leads {outer inner : Document} {inners : List (Option Document)} {segment : Segment}
    {innerId : Nat} (through : Through composer outer segment inner innerId)
    (sound : Sound answers valid [] composer)
    (layers : Layers answers outer.baseDir outer.sources inners) :
    ∃ key line column position other, Inner answers key (some inner) ∧
      inner.lookup? line column = some position ∧
      inner.source? innerId = some position.source ∧
      composedPosition? outer inners segment = some other ∧
      other.source = Source.rebase position.source inner.baseDir outer.baseDir := by
  obtain ⟨source, named, cached⟩ := through.cached
  obtain ⟨found, hit, number⟩ := through.found
  have holds := sound.cache _ _ cached
  obtain ⟨id, sourceId, listed⟩ := Option.bind_eq_some_iff.mp named
  obtain ⟨answer, at?, again⟩ := layers.getElem? listed
  have answer_eq : (inners[id]?).join = some inner := by
    rw [at?, again.unique holds, Option.join_some]
  have bound := layers.closed inner (List.mem_of_getElem? (Option.join_eq_some_iff.mp answer_eq))
    found (Document.mem_of_segmentAt? hit) innerId number
  have below : inner.segmentSource? found = some (inner.sources.get ⟨innerId, bound⟩) := by
    simp [Document.segmentSource?, number, Document.source?, bound]
  have position : inner.sourcePosition? found = some
      { source := inner.sources.get ⟨innerId, bound⟩, line := found.sourceLine,
        column := found.sourceColumn, name := inner.segmentName? found } := by
    rw [Document.sourcePosition?, below, Option.map_some]
  have continued := composedPosition?_of_layer sourceId named answer_eq
  rw [hit, Option.bind_some, position, Option.map_some] at continued
  refine ⟨_, segment.sourceLine, segment.sourceColumn, _, _, holds, ?_, ?_, continued, rfl⟩
  · rw [Document.lookup?, hit, Option.bind_some, position]
  · simp [Document.source?, bound]

/-- Composing loses no text, on files that do not change. The composed documents of all sources are
in the cache. If a segment is composed through a segment of one of them whose source has a text that
the composer could find at any moment before, also when that document was composed, then the
composer can find a text of the source that the image is in. And the result carries for each of its
sources the first content that comes with a segment leading there, and nothing else: that of the
outer document, or that of the composed document which the segment is composed through. -/
theorem compose_loses_no_text (keyed : resolver.Keyed answers valid)
    (used : Used resolver valid (· = tree) composer) {outer composed : Document}
    (inOrder : ∀ doc, Involved answers outer doc → doc.InOrder)
    (placed : Placed (Involved answers outer))
    (succeeds : outcome (Composer.compose resolver tree outer) composer = (.ok composed, after)) :
    (∀ source ∈ outer.sources, ∃ inner, Inner answers (Source.key outer.baseDir source) inner ∧
      List.lookup (Source.key outer.baseDir source) after.cache = some inner) ∧
    (∀ (index : Nat) (segment : Segment) (inner : Document) (innerId : Nat) (moment : ContentStore),
      outer.segments[index]? = some segment → Through after outer segment inner innerId →
      Leads tree moment after.contents → moment.Resolvable tree inner innerId →
      ∃ image id, composed.segments[index]? = some image ∧ image.source = some id ∧
        after.contents.Resolvable tree composed id) ∧
    ∀ id, composed.content? id = (composed.source? id).bind fun source =>
      outer.segments.findSome? (offered? outer (cachedInners after outer) source) := by
  obtain ⟨known, sound⟩ := (used.sound keyed).compose keyed tree outer
  have kept := (compose_advancing resolver outer composer).kept used.kept
  rw [succeeds] at known sound kept
  have holds : Composed answers outer composed := known
  have setting : Setting answers (Involved answers outer) :=
    ⟨fun key doc answer => .inr ⟨key, answer⟩, inOrder, placed⟩
  have cached := compose_cached succeeds
  cases holds with
  | @assembled _ inners layers =>
    refine ⟨?_, ?_, ?_⟩
    · intro source listed
      obtain ⟨inner, there⟩ := Option.isSome_iff_exists.mp (cached source listed)
      exact ⟨inner, sound.cache _ inner there, there⟩
    · intro index segment inner innerId moment at? through earlier resolvable
      obtain ⟨_, _, there⟩ := through.cached
      obtain ⟨_, texts⟩ := kept _ inner there
      obtain ⟨key, line, column, position, other, holds, hit, listed, leads, renamed⟩ :=
        through.leads sound layers
      have recorded := backfill?_of_keepContents texts listed (resolvable.mono listed earlier)
      obtain ⟨image, id, image_eq, number, same⟩ :=
        exists_image (inOrder outer (.inl rfl)) layers.closed at? leads
      refine ⟨image, id, image_eq, number, (ContentStore.resolvable_iff same).mpr (.inr (.inr ?_))⟩
      -- The text was recorded under the key that the renamed source has here.
      have key_eq := holds.key_rebase setting (.inl rfl) hit
      rw [ContentStore.backfill?, assemble_baseDir layers.closed, renamed, key_eq]
      exact recorded
    · intro id
      have inners_eq : cachedInners after outer = inners := sound.map_cache layers cached
      rw [inners_eq]
      exact content?_assemble layers.closed id

/-- The document of `/w/out/d.js`, which was built from `/w/b.js` and `/w/c.ts`. -/
def linked : Document :=
  (Document.ofParts none [⟨0, 0, 2, 4, some 0, none⟩, ⟨0, 7, 1, 0, some 1, none⟩] []
    ["../b.js", "../c.ts"] (some [none, some "c"])).setBaseDir (some ⟨"/w/out"⟩)

/-- Files with the text of `/w/src/a.ts`, which no document carries. -/
def sourceFiles : FileTree :=
  ⟨["home"], [(["w"], .directory), (["w", "src"], .directory), (["w", "src", "a.ts"], .file [97])]⟩

/-- The text of `/w/src/a.ts` is found in its file, and that of `/w/c.ts` in the outer document. -/
theorem compose_loses_no_text_linked : ∃ composed after,
    outcome (Composer.compose (Resolver.ofKeys [("/w/b.js", .ok compiled)]) sourceFiles linked)
      (Composer.ofMemory ()) = (.ok composed, after) ∧
    composed.sources = ["../src/a.ts", "../c.ts"] ∧ composed.content? 1 = some "c" ∧
    ∃ image id, composed.segments[0]? = some image ∧ image.source = some id ∧
      after.contents.Resolvable sourceFiles composed id := by
  have both : ∀ doc, Involved (Answers.ofTable [("/w/b.js", .ok compiled)]) linked doc →
      doc = linked ∨ doc = compiled := by
    rintro doc (rfl | ⟨key, answer⟩)
    · exact .inl rfl
    · have entry := List.mem_singleton.mp (Answers.mem_of_ofTable answer)
      cases entry
      exact .inr rfl
  have inOrder : ∀ doc, Involved (Answers.ofTable [("/w/b.js", .ok compiled)]) linked doc →
      doc.InOrder := by
    intro doc involved
    rcases both doc involved with rfl | rfl
    · exact (Document.ofParts_inOrder _ _ _ _ _).setBaseDir _
    · exact (Document.ofParts_inOrder _ _ _ _ _).setBaseDir _
  have placed : Placed (Involved (Answers.ofTable [("/w/b.js", .ok compiled)]) linked) := by
    refine .inr ?_
    intro doc involved
    rcases both doc involved with rfl | rfl
    · refine ⟨⟨"/w/out"⟩, rfl, ⟨by decide, by decide, by decide⟩, ?_⟩
      intro source listed path named
      rcases List.mem_pair.mp listed with rfl | rfl
      · have path_eq : some (Path.mk "/w/b.js") = some path := named
        cases path_eq
        exact ⟨by decide, by decide⟩
      · have path_eq : some (Path.mk "/w/c.ts") = some path := named
        cases path_eq
        exact ⟨by decide, by decide⟩
    · refine ⟨⟨"/w"⟩, rfl, ⟨by decide, by decide, by decide⟩, ?_⟩
      intro source listed path named
      rw [List.mem_singleton.mp listed] at named
      have path_eq : some (Path.mk "/w/src/a.ts") = some path := named
      cases path_eq
      exact ⟨by decide, by decide⟩
  have used : Used (Resolver.ofKeys [("/w/b.js", .ok compiled)]) (fun _ => True)
      (· = sourceFiles) (Composer.ofMemory ()) := .new trivial
  have succeeds : outcome (Composer.compose (Resolver.ofKeys [("/w/b.js", .ok compiled)])
      sourceFiles linked) (Composer.ofMemory ()) =
        (.ok (assemble linked [some (assemble compiled [none]), none]),
          (outcome (Composer.compose (Resolver.ofKeys [("/w/b.js", .ok compiled)]) sourceFiles
            linked) (Composer.ofMemory ())).2) := rfl
  obtain ⟨_, texts, contents⟩ := compose_loses_no_text
    (Resolver.ofKeys_keyed [("/w/b.js", .ok compiled)]) used inOrder placed succeeds
  refine ⟨_, _, succeeds, by decide, (contents 1).trans (by decide), ?_⟩
  refine texts 0 ⟨0, 0, 2, 4, some 0, none⟩ (assemble compiled [none]) 0 ContentStore.empty
    (by decide) ⟨⟨"../b.js", by decide, rfl⟩, ⟨2, 1, 5, 3, some 0, some 0⟩, by decide, rfl⟩
    (compose_advancing _ linked (Composer.ofMemory ())).contents ?_
  have listed : (assemble compiled [none]).source? 0 = some "src/a.ts" := by decide
  exact (ContentStore.resolvable_iff listed).mpr (.inr (.inl (by decide)))

end SourceTrace.Compose
