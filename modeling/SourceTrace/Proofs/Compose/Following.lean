import SourceTrace.Compose.Layered
import SourceTrace.Proofs.Compose.Assembly
import SourceTrace.Proofs.Compose.Cycles
import SourceTrace.Proofs.Source.Rebase

/-!
# A composed document agrees with its layers

A position can be followed through the layers one document at a time, or looked up in the composed
document. `Follows` states where the layers lead without fuel and without the keys seen so far.
Every composed document leads where its layers lead (`Composed.faithful`), and following ends there,
because a document that can be composed reaches no cycle (`Follows.follow_eq`).
-/
namespace SourceTrace.Compose

/-- Where a position of a document in directory `base` leads: to a position whose source has no
document, with the directory of the map that it stands in, or nowhere. -/
inductive Follows (answers : Answers) :
    Option Path → SourcePosition → Option (SourcePosition × Option Path) → Prop
  | stop {base : Option Path} {position : SourcePosition}
      (answer : answers (Source.key base position.source) = .ok none) :
      Follows answers base position (some (position, base))
  | lost {base : Option Path} {position : SourcePosition} {inner : Document}
      (answer : answers (Source.key base position.source) = .ok (some inner))
      (missing : inner.lookup? position.line position.column = none) :
      Follows answers base position none
  | pass {base : Option Path} {position next : SourcePosition} {inner : Document}
      {found : Option (SourcePosition × Option Path)}
      (answer : answers (Source.key base position.source) = .ok (some inner))
      (hit : inner.lookup? position.line position.column = some next)
      (further : Follows answers inner.baseDir { next with name := next.name.or position.name }
        found) : Follows answers base position found

/-- A position with a name to fall back on. -/
def withName (name : Option String) (position : SourcePosition) : SourcePosition :=
  { position with name := position.name.or name }

/-- A name to fall back on changes nothing but the name at the end. -/
theorem Follows.withName {answers : Answers} {base : Option Path} {position : SourcePosition}
    {found : Option (SourcePosition × Option Path)} (follows : Follows answers base position found)
    (name : Option String) :
    Follows answers base (withName name position)
      (found.map fun (position, base) => (withName name position, base)) := by
  induction follows with
  | stop answer => exact .stop answer
  | lost answer missing => exact .lost answer missing
  | pass answer hit further ih =>
    refine .pass answer hit ?_
    simpa only [Compose.withName, Option.or_assoc] using ih

/-- A position of a composed document in directory `base` and the end of its chain of layers. -/
structure Denotes (base : Option Path) (position : SourcePosition)
    (found : SourcePosition × Option Path) : Prop where
  line : position.line = found.1.line
  column : position.column = found.1.column
  name : position.name = found.1.name
  source : Source.Same base position.source found.2 found.1.source

/-- A document and its composed one: the composed document has at every generated position what the
layers lead to. -/
structure Faithful (answers : Answers) (doc composed : Document) : Prop where
  closed : Closed composed
  baseDir_eq : composed.baseDir = doc.baseDir
  none_of_none : ∀ line column, doc.lookup? line column = none →
    composed.lookup? line column = none
  leads : ∀ line column position, doc.lookup? line column = some position →
    ∃ found, Follows answers doc.baseDir position found ∧
      Option.Rel (Denotes doc.baseDir) (composed.lookup? line column) found

/-- What is known of the composed document of a key. -/
def FaithfulInner (answers : Answers) (key : String) : Option Document → Prop
  | none => answers key = .ok none
  | some composed => ∃ doc, answers key = .ok (some doc) ∧ Faithful answers doc composed

/-- Documents between which sources can be renamed: none has a directory, or all have anchored ones
and list sources that can be written in all of them. -/
def Placed (docs : Document → Prop) : Prop :=
  (∀ doc, docs doc → doc.baseDir = none) ∨
  ∀ doc, docs doc → ∃ dir, doc.baseDir = some dir ∧ Source.Anchored dir ∧
    ∀ source ∈ doc.sources, ∀ path, Source.resolve? (some dir) source = some path →
      Source.Plain path

theorem Placed.compatible {docs : Document → Prop} (placed : Placed docs) {left right : Document}
    (first : docs left) (second : docs right) :
    Source.Compatible left.baseDir right.baseDir := by
  rcases placed with unknown | anchored
  · rw [unknown left first, unknown right second]
    exact .unknown
  · obtain ⟨leftDir, leftEq, leftAnchored, _⟩ := anchored left first
    obtain ⟨rightDir, rightEq, rightAnchored, _⟩ := anchored right second
    rw [leftEq, rightEq]
    exact .anchored leftAnchored rightAnchored

theorem Placed.same {docs : Document → Prop} (placed : Placed docs) {doc : Document}
    (involved : docs doc) {source : String} (listed : source ∈ doc.sources) :
    Source.Same doc.baseDir source doc.baseDir source := by
  refine ⟨placed.compatible involved involved, rfl, fun _ => rfl, fun _ => rfl, ?_⟩
  intro known
  rcases placed with unknown | anchored
  · exact absurd (unknown doc involved) known
  · obtain ⟨dir, dirEq, _, plain⟩ := anchored doc involved
    rw [dirEq]
    exact plain source listed

/-- The documents in use with the given answers: they are in order, and sources can be renamed
between them. -/
structure Setting (answers : Answers) (docs : Document → Prop) : Prop where
  answered : ∀ key doc, answers key = .ok (some doc) → docs doc
  inOrder : ∀ doc, docs doc → doc.InOrder
  placed : Placed docs

/-- The source of a segment's position is listed under the number that the segment gives. -/
theorem source_of_sourcePosition? {doc : Document} {segment : Segment} {position : SourcePosition}
    (known : doc.sourcePosition? segment = some position) :
    ∃ id, segment.source = some id ∧ doc.sources[id]? = some position.source := by
  unfold Document.sourcePosition? Document.segmentSource? at known
  cases number : segment.source with
  | none => simp [number] at known
  | some id =>
    simp only [number, Option.bind_some, Option.map_eq_some_iff, Document.source?] at known
    obtain ⟨source, found, rfl⟩ := known
    exact ⟨id, rfl, found⟩

theorem source_mem_of_lookup? {doc : Document} {line column : Nat} {position : SourcePosition}
    (hit : doc.lookup? line column = some position) : position.source ∈ doc.sources := by
  obtain ⟨segment, _, known⟩ := Option.bind_eq_some_iff.mp hit
  obtain ⟨id, _, found⟩ := source_of_sourcePosition? known
  exact List.mem_of_getElem? found

/-- One layer more. The end of the chain is renamed for the new document, and the name of the new
document is only a name to fall back on. -/
theorem Denotes.layer {base innerBase : Option Path} {position inner : SourcePosition}
    {found : SourcePosition × Option Path} (denotes : Denotes innerBase inner found)
    (compatible : Source.Compatible innerBase base) :
    Denotes base { inner with
        source := Source.rebase inner.source innerBase base
        name := inner.name.or position.name }
      (withName position.name found.1, found.2) where
  line := denotes.line
  column := denotes.column
  name := by rw [withName, denotes.name]
  source := denotes.source.rebase compatible

/-- A segment of an assembled document, when the documents of the sources are faithful. -/
theorem composedPosition?_leads {answers : Answers} {docs : Document → Prop}
    (setting : Setting answers docs) {outer : Document} (involved : docs outer)
    {inners : List (Option Document)}
    (faithful : List.Forall₂ (fun source => FaithfulInner answers (Source.key outer.baseDir source))
      outer.sources inners) {segment : Segment} {position : SourcePosition}
    (known : outer.sourcePosition? segment = some position) :
    ∃ found, Follows answers outer.baseDir position found ∧
      Option.Rel (Denotes outer.baseDir) (composedPosition? outer inners segment) found := by
  obtain ⟨id, number, listed⟩ := source_of_sourcePosition? known
  obtain ⟨bound, sourceEq⟩ := List.getElem?_eq_some_iff.mp listed
  obtain ⟨lengths, each⟩ := List.forall₂_iff_get.mp faithful
  have innerFaithful := each id bound (lengths ▸ bound)
  have innerEq : inners[id]? = some (inners.get ⟨id, lengths ▸ bound⟩) := by simp
  generalize inners.get ⟨id, lengths ▸ bound⟩ = inner at innerFaithful innerEq
  rw [List.get_eq_getElem, sourceEq] at innerFaithful
  simp only [composedPosition?, known, number, Option.bind_some, innerEq, Option.join_some]
  cases inner with
  | none =>
    have same := setting.placed.same involved (List.mem_of_getElem? listed)
    exact ⟨_, .stop innerFaithful, .some ⟨rfl, rfl, rfl, same⟩⟩
  | some composed =>
    obtain ⟨doc, answer, below⟩ := innerFaithful
    cases hit : doc.lookup? position.line position.column with
    | none =>
      refine ⟨none, .lost answer hit, ?_⟩
      simp only [below.none_of_none _ _ hit, Option.map_none]
      exact .none
    | some next =>
      obtain ⟨found, follows, related⟩ := below.leads _ _ next hit
      refine ⟨_, .pass answer hit (follows.withName position.name), ?_⟩
      dsimp only
      generalize composed.lookup? position.line position.column = seen at related
      cases related with
      | none => exact .none
      | some denotes =>
        refine .some ?_
        rw [below.baseDir_eq]
        exact denotes.layer (setting.placed.compatible (setting.answered _ doc answer) involved)

/-- Assembling keeps documents faithful. -/
theorem assemble_faithful {answers : Answers} {docs : Document → Prop}
    (setting : Setting answers docs) {outer : Document} (involved : docs outer)
    {inners : List (Option Document)}
    (faithful : List.Forall₂ (fun source => FaithfulInner answers (Source.key outer.baseDir source))
      outer.sources inners) : Faithful answers outer (assemble outer inners) := by
  have closed : ∀ inner, some inner ∈ inners → Closed inner := by
    intro inner member
    obtain ⟨index, same⟩ := List.mem_iff_get.mp member
    obtain ⟨lengths, each⟩ := List.forall₂_iff_get.mp faithful
    have known := each index (by rw [lengths]; exact index.isLt) index.isLt
    rw [same] at known
    obtain ⟨_, _, below⟩ := known
    exact below.closed
  have lookup := lookup?_assemble (setting.inOrder outer involved) closed
  refine ⟨assemble_closed closed, assemble_baseDir closed, ?_, ?_⟩
  · intro line column nothing
    rw [lookup]
    cases at? : outer.segmentAt? line column with
    | none => rfl
    | some segment =>
      rw [Document.lookup?, at?, Option.bind_some] at nothing
      rw [Option.bind_some, composedPosition?, nothing, Option.bind_none]
  · intro line column position hit
    obtain ⟨segment, at?, known⟩ := Option.bind_eq_some_iff.mp hit
    rw [lookup, at?, Option.bind_some]
    exact composedPosition?_leads setting involved faithful known

mutual
/-- A composed document leads where its layers lead. -/
theorem Composed.faithful {answers : Answers} {docs : Document → Prop}
    (setting : Setting answers docs) {doc composed : Document} :
    Composed answers doc composed → docs doc → Faithful answers doc composed
  | .assembled layers, involved => assemble_faithful setting involved (layers.faithful setting)

theorem Inner.faithful {answers : Answers} {docs : Document → Prop}
    (setting : Setting answers docs) {key : String} {inner : Option Document} :
    Inner answers key inner → FaithfulInner answers key inner
  | .leaf answer => answer
  | .layer answer below => ⟨_, answer, below.faithful setting (setting.answered _ _ answer)⟩

theorem Layers.faithful {answers : Answers} {docs : Document → Prop}
    (setting : Setting answers docs) {base : Option Path} {sources : List String}
    {inners : List (Option Document)} : Layers answers base sources inners →
      List.Forall₂ (fun source => FaithfulInner answers (Source.key base source)) sources inners
  | .nil => .nil
  | .cons head tail => .cons (head.faithful setting) (tail.faithful setting)
end

/-- The keys that have been passed on the way to a key. All of them have documents and lead to it,
and no chain of documents that starts at the key goes on forever. -/
structure Trail (answers : Answers) (keys seen : List String) (key : String) : Prop where
  distinct : seen.Nodup
  within : seen ⊆ keys
  answered : ∀ earlier ∈ seen, ∃ doc, answers earlier = .ok (some doc)
  leads : ∀ doc, answers key = .ok (some doc) → ∀ earlier ∈ seen,
    Relation.TransGen (Edge answers) earlier key
  accessible : ∀ doc, answers key = .ok (some doc) →
    Acc (fun next key => Edge answers key next) key

theorem Trail.fresh {answers : Answers} {keys seen : List String} {key : String}
    (trail : Trail answers keys seen key) : key ∉ seen := by
  intro passed
  obtain ⟨doc, answer⟩ := trail.answered key passed
  exact not_onCycle_of_accessible (trail.accessible doc answer) (trail.leads doc answer key passed)

theorem Trail.push {answers : Answers} {keys seen : List String} {key next : String}
    {doc : Document} (trail : Trail answers keys seen key) (member : key ∈ keys)
    (answer : answers key = .ok (some doc)) (listed : next ∈ doc.keys) :
    Trail answers keys (key :: seen) next where
  distinct := List.nodup_cons.mpr ⟨trail.fresh, trail.distinct⟩
  within := List.cons_subset.mpr ⟨member, trail.within⟩
  answered earlier passed := by
    rcases List.mem_cons.mp passed with rfl | before
    · exact ⟨doc, answer⟩
    · exact trail.answered earlier before
  leads inner found earlier passed := by
    have edge : Edge answers key next := ⟨⟨doc, answer, listed⟩, ⟨inner, found⟩⟩
    rcases List.mem_cons.mp passed with rfl | before
    · exact .single edge
    · exact (trail.leads doc answer earlier before).tail edge
  accessible inner found :=
    (trail.accessible doc answer).inv ⟨⟨doc, answer, listed⟩, ⟨inner, found⟩⟩

theorem Trail.length_le {answers : Answers} {keys seen : List String} {key : String}
    (trail : Trail answers keys seen key) : seen.length ≤ keys.length :=
  (List.Nodup.subperm trail.distinct trail.within).length_le

/-- One step of following, at a key that has not been passed. -/
theorem follow_succ {σ : Type} {resolver : Resolver σ} {answers : Answers} {valid : σ → Prop}
    (keyed : resolver.Keyed answers valid) (fuel : Nat) {seen : List String} {base : Option Path}
    {position : SourcePosition} (fresh : Source.key base position.source ∉ seen) {memory : σ}
    (start : valid memory) :
    ∃ after, valid after ∧ Layered.follow resolver (fuel + 1) seen base position memory =
      match answers (Source.key base position.source) with
      | .error cause => (.error (.brokenChain position.source cause), after)
      | .ok none => (.ok (some (position, base)), after)
      | .ok (some inner) =>
        match inner.lookup? position.line position.column with
        | none => (.ok none, after)
        | some next => Layered.follow resolver fuel (Source.key base position.source :: seen)
          inner.baseDir (withName position.name next) after := by
  have answered := keyed.answer_eq memory start position.source base
  refine ⟨_, keyed.valid_after memory start position.source base, ?_⟩
  rw [← answered, Layered.follow, List.contains_eq_mem, decide_eq_false fresh]
  rcases resolver.answer position.source base memory with ⟨cause | _ | inner, after⟩
  · rfl
  · rfl
  · rfl

/-- Following ends where the layers lead, when there is fuel for all keys not passed yet. -/
theorem Follows.follow_eq {σ : Type} {resolver : Resolver σ} {answers : Answers}
    {valid : σ → Prop} (keyed : resolver.Keyed answers valid) {keys : List String}
    (complete : ∀ key doc, answers key = .ok (some doc) → key ∈ keys) {base : Option Path}
    {position : SourcePosition} {found : Option (SourcePosition × Option Path)}
    (follows : Follows answers base position found) {fuel : Nat} {seen : List String}
    (trail : Trail answers keys seen (Source.key base position.source))
    (enough : keys.length < fuel + seen.length) {memory : σ} (start : valid memory) :
    ∃ after, Layered.follow resolver fuel seen base position memory = (.ok found, after) := by
  induction follows generalizing fuel seen memory with
  | stop answer =>
    cases fuel with
    | zero => exact absurd trail.length_le (by omega)
    | succ fuel =>
      obtain ⟨after, _, step⟩ := follow_succ keyed fuel trail.fresh start
      rw [answer] at step
      exact ⟨after, step⟩
  | lost answer missing =>
    cases fuel with
    | zero => exact absurd trail.length_le (by omega)
    | succ fuel =>
      obtain ⟨after, _, step⟩ := follow_succ keyed fuel trail.fresh start
      simp only [answer, missing] at step
      exact ⟨after, step⟩
  | @pass base position next inner found answer hit further ih =>
    cases fuel with
    | zero => exact absurd trail.length_le (by omega)
    | succ fuel =>
      obtain ⟨after, validAfter, step⟩ := follow_succ keyed fuel trail.fresh start
      simp only [answer, hit] at step
      have listed : Source.key inner.baseDir next.source ∈ inner.keys :=
        List.mem_map_of_mem (source_mem_of_lookup? hit)
      have left : keys.length < fuel + (Source.key base position.source :: seen).length := by
        rw [List.length_cons]
        omega
      obtain ⟨final, ends⟩ :=
        ih (trail.push (complete _ _ answer) answer listed) left validAfter
      exact ⟨final, step.trans ends⟩

/-- A document in use: the outer one, or one that a key has. -/
def Involved (answers : Answers) (outer doc : Document) : Prop :=
  doc = outer ∨ ∃ key, answers key = .ok (some doc)

/-- A key that a composed document lists, with nothing passed before it. -/
theorem Composed.trail {answers : Answers} {outer composed : Document} {key : String}
    (holds : Composed answers outer composed) (listed : key ∈ outer.keys) (keys : List String) :
    Trail answers keys [] key where
  distinct := List.nodup_nil
  within := List.nil_subset keys
  answered earlier passed := by simp at passed
  leads doc answer earlier passed := by simp at passed
  accessible doc answer := by
    obtain ⟨inner, known⟩ := holds.inner_of_mem listed
    exact known.accessible

/-- When a document can be composed, following any generated position through the layers ends, and
it ends where the composed document leads: nowhere for both, or at the same line and column, with
the same name, in sources with one key. Without directories the two positions are equal. -/
theorem resolve_eq_lookup?_compose {σ : Type} {resolver : Resolver σ} {answers : Answers}
    {valid : σ → Prop} (keyed : resolver.Keyed answers valid) (tree : FileTree)
    {memory fresh : σ} (start : valid memory) (again : valid fresh) {outer composed : Document}
    (inOrder : ∀ doc, Involved answers outer doc → doc.InOrder)
    (placed : Placed (Involved answers outer))
    (succeeds : compose resolver tree memory outer = .ok composed) (line column : Nat) :
    ∃ found after, Layered.resolve resolver outer line column fresh = (.ok found, after) ∧
      (found = none ↔ composed.lookup? line column = none) ∧
      ∀ position other, found = some position → composed.lookup? line column = some other →
        position.line = other.line ∧ position.column = other.column ∧
        position.name = other.name ∧
        Source.key outer.baseDir position.source = Source.key outer.baseDir other.source ∧
        (outer.baseDir = none → position = other) := by
  obtain ⟨result, _, _, known, same⟩ := composeWithin_ends tree keyed outer (sound_ofMemory start)
  have result_eq : result = .ok composed :=
    (congrArg Prod.fst (same _ _ (Nat.le_refl _))).symm.trans succeeds
  rw [result_eq] at known
  have holds : Composed answers outer composed := known
  have setting : Setting answers (Involved answers outer) :=
    ⟨fun key doc answer => .inr ⟨key, answer⟩, inOrder, placed⟩
  have faithful := holds.faithful setting (.inl rfl)
  unfold Layered.resolve
  cases hit : outer.lookup? line column with
  | none =>
    refine ⟨none, fresh, rfl, ?_, ?_⟩
    · simp [faithful.none_of_none line column hit]
    · intro position other impossible
      cases impossible
  | some position =>
    obtain ⟨found, follows, related⟩ := faithful.leads line column position hit
    obtain ⟨keys, complete, bounded⟩ := keyed.bounded
    have trail := holds.trail (List.mem_map_of_mem (source_mem_of_lookup? hit)) keys
    obtain ⟨after, ends⟩ := follows.follow_eq keyed complete trail
      (Nat.lt_succ_of_le (bounded fresh again)) again
    simp only [ends]
    generalize composed.lookup? line column = seen at related
    cases related with
    | none => exact ⟨none, after, rfl, Iff.rfl, fun _ _ impossible => by cases impossible⟩
    | @some other last denotes =>
      refine ⟨_, after, rfl, by simp, ?_⟩
      rintro _ _ ⟨⟩ ⟨⟩
      have renamed := denotes.source.self_right.rebase denotes.source.compatible.symm
      refine ⟨denotes.line.symm, denotes.column.symm, denotes.name.symm,
        renamed.key_eq.trans denotes.source.key_eq.symm, ?_⟩
      intro unknown
      have text := (renamed.unknown_eq unknown).trans (denotes.source.unknown_eq unknown).symm
      simp only [text, ← denotes.line, ← denotes.column, ← denotes.name]

/-- The document of `/w/out/c.js`, which was built from `/w/b.js`. -/
def bundled : Document :=
  (Document.ofParts none [⟨0, 0, 2, 4, some 0, none⟩, ⟨0, 7, 0, 0, none, none⟩] [] ["../b.js"]
    none).setBaseDir (some ⟨"/w/out"⟩)

/-- The document of `/w/b.js`, which was built from `/w/src/a.ts`. -/
def compiled : Document :=
  (Document.ofParts none [⟨2, 1, 5, 3, some 0, some 0⟩] ["f"] ["src/a.ts"] none).setBaseDir
    (some ⟨"/w"⟩)

theorem resolve_bundled : ∃ composed,
    compose (Resolver.ofKeys [("/w/b.js", .ok compiled)]) FileTree.empty () bundled =
      .ok composed ∧
    composed.lookup? 0 3 = some ⟨"../src/a.ts", 5, 3, some "f"⟩ ∧
    ∀ line column, ∃ found after,
      Layered.resolve (Resolver.ofKeys [("/w/b.js", .ok compiled)]) bundled line column () =
        (.ok found, after) ∧ (found = none ↔ composed.lookup? line column = none) := by
  have both : ∀ doc, Involved (Answers.ofTable [("/w/b.js", .ok compiled)]) bundled doc →
      doc = bundled ∨ doc = compiled := by
    rintro doc (rfl | ⟨key, answer⟩)
    · exact .inl rfl
    · by_cases same : key = "/w/b.js"
      · simp only [Answers.ofTable, same, List.lookup_cons, beq_self_eq_true] at answer
        cases answer
        exact .inr rfl
      · simp [Answers.ofTable, List.lookup_cons, beq_eq_false_iff_ne.mpr same] at answer
  have inOrder : ∀ doc, Involved (Answers.ofTable [("/w/b.js", .ok compiled)]) bundled doc →
      doc.InOrder := by
    intro doc involved
    rcases both doc involved with rfl | rfl
    · exact (Document.ofParts_inOrder _ _ _ _ _).setBaseDir _
    · exact (Document.ofParts_inOrder _ _ _ _ _).setBaseDir _
  have placed : Placed (Involved (Answers.ofTable [("/w/b.js", .ok compiled)]) bundled) := by
    refine .inr ?_
    intro doc involved
    rcases both doc involved with rfl | rfl
    · refine ⟨⟨"/w/out"⟩, rfl, ⟨by decide, by decide, by decide⟩, ?_⟩
      intro source listed path named
      rw [List.mem_singleton.mp listed] at named
      have path_eq : some (Path.mk "/w/b.js") = some path := named
      cases path_eq
      exact ⟨by decide, by decide⟩
    · refine ⟨⟨"/w"⟩, rfl, ⟨by decide, by decide, by decide⟩, ?_⟩
      intro source listed path named
      rw [List.mem_singleton.mp listed] at named
      have path_eq : some (Path.mk "/w/src/a.ts") = some path := named
      cases path_eq
      exact ⟨by decide, by decide⟩
  obtain ⟨composed, succeeds, leads⟩ : ∃ composed,
      compose (Resolver.ofKeys [("/w/b.js", .ok compiled)]) FileTree.empty () bundled =
        .ok composed ∧ composed.lookup? 0 3 = some ⟨"../src/a.ts", 5, 3, some "f"⟩ :=
    ⟨_, rfl, by decide⟩
  refine ⟨composed, succeeds, leads, ?_⟩
  intro line column
  obtain ⟨found, after, ends, nothing, _⟩ := resolve_eq_lookup?_compose
    (Resolver.ofKeys_keyed [("/w/b.js", .ok compiled)]) FileTree.empty trivial trivial inOrder
    placed succeeds line column
  exact ⟨found, after, ends, nothing⟩

end SourceTrace.Compose
