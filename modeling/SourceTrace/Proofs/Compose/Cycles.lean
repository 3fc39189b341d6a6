import Mathlib.Logic.Relation
import SourceTrace.Proofs.Compose.Semantics

/-!
# When composing succeeds

The documents that a resolver knows form a graph: a document leads to the keys of its sources that
have a document themselves. Composing a document succeeds exactly if nothing that the document
reaches lies on a cycle and the resolver fails for nothing that it reaches. A failure names a source
that is to blame, with the resolver's own failure as its cause and no further wrapping.
-/
namespace SourceTrace.Compose

/-- The document of a key lists a source with another key, and that one has a document too. -/
def Edge (answers : Answers) (key next : String) : Prop :=
  (∃ doc, answers key = .ok (some doc) ∧ next ∈ doc.keys) ∧ ∃ doc, answers next = .ok (some doc)

/-- A key on a cycle of documents. -/
def OnCycle (answers : Answers) (key : String) : Prop := Relation.TransGen (Edge answers) key key

/-- The keys that a document reaches through the documents of its sources. -/
inductive Reaches (answers : Answers) (outer : Document) : String → Prop
  | listed {key : String} (member : key ∈ outer.keys) : Reaches answers outer key
  | through {key next : String} {doc : Document} (above : Reaches answers outer key)
      (answer : answers key = .ok (some doc)) (member : next ∈ doc.keys) :
      Reaches answers outer next

/-- A source of the document itself or of a document that it reaches, with its key. -/
def Sourced (answers : Answers) (outer : Document) (source key : String) : Prop :=
  ∃ doc, (doc = outer ∨ ∃ via, Reaches answers outer via ∧ answers via = .ok (some doc)) ∧
    source ∈ doc.sources ∧ Source.key doc.baseDir source = key

theorem Sourced.reaches {answers : Answers} {outer : Document} {source key : String}
    (sourced : Sourced answers outer source key) : Reaches answers outer key := by
  obtain ⟨doc, place, member, rfl⟩ := sourced
  have listed : Source.key doc.baseDir source ∈ doc.keys := List.mem_map_of_mem member
  rcases place with rfl | ⟨via, above, answer⟩
  · exact .listed listed
  · exact .through above answer listed

theorem Layers.inner_of_mem {answers : Answers} {base : Option Path} {sources : List String}
    {inners : List (Option Document)} {source : String}
    (layers : Layers answers base sources inners) (member : source ∈ sources) :
    ∃ inner, Inner answers (Source.key base source) inner := by
  induction sources generalizing inners with
  | nil => simp at member
  | cons first rest ih =>
    cases layers with
    | @cons _ _ _ inner inners head tail =>
      rcases List.mem_cons.mp member with rfl | further
      · exact ⟨inner, head⟩
      · exact ih tail further

theorem Composed.inner_of_mem {answers : Answers} {doc composed : Document} {key : String}
    (holds : Composed answers doc composed) (member : key ∈ doc.keys) :
    ∃ inner, Inner answers key inner := by
  obtain ⟨source, listed, rfl⟩ := List.mem_map.mp member
  cases holds with
  | assembled layers => exact layers.inner_of_mem listed

/-- Everything that a composed document reaches is composed too. -/
theorem Composed.inner_of_reaches {answers : Answers} {outer composed : Document} {key : String}
    (holds : Composed answers outer composed) (reached : Reaches answers outer key) :
    ∃ inner, Inner answers key inner := by
  induction reached with
  | listed member => exact holds.inner_of_mem member
  | through _ answer member ih =>
    obtain ⟨inner, known⟩ := ih
    cases known with
    | leaf missing => rw [answer] at missing; cases missing
    | layer found below =>
      rw [answer] at found
      cases found
      exact below.inner_of_mem member

mutual
/-- No path of documents that starts at a composed one goes on forever. -/
theorem Inner.accessible {answers : Answers} {key : String} {inner : Option Document} :
    Inner answers key inner → Acc (fun next key => Edge answers key next) key
  | .leaf missing => by
    refine ⟨_, ?_⟩
    rintro next ⟨⟨doc, answer, _⟩, _⟩
    rw [missing] at answer
    cases answer
  | .layer found (.assembled layers) => by
    refine ⟨_, ?_⟩
    rintro next ⟨⟨doc, answer, member⟩, _⟩
    rw [found] at answer
    cases answer
    obtain ⟨source, listed, rfl⟩ := List.mem_map.mp member
    exact layers.accessible source listed

theorem Layers.accessible {answers : Answers} {base : Option Path} {sources : List String}
    {inners : List (Option Document)} :
    Layers answers base sources inners → ∀ source ∈ sources,
      Acc (fun next key => Edge answers key next) (Source.key base source)
  | .nil, source, member => by simp at member
  | .cons head tail, source, member => by
    rcases List.mem_cons.mp member with same | further
    · rw [same]
      exact head.accessible
    · exact tail.accessible source further
end

theorem not_onCycle_of_accessible {answers : Answers} {key : String}
    (accessible : Acc (fun next key => Edge answers key next) key) : ¬ OnCycle answers key := by
  induction accessible with
  | intro key _ ih =>
    intro cycle
    obtain ⟨next, edge, back⟩ := Relation.TransGen.head'_iff.mp cycle
    exact ih next edge (Relation.TransGen.tail' back edge)

/-- The chain of documents that are being composed: each lists the key of the next one, and the last
one is `doc`. -/
inductive Stacked (answers : Answers) (outer : Document) : List String → Document → Prop
  | start : Stacked answers outer [] outer
  | push {stack : List String} {doc inner : Document} {key : String}
      (above : Stacked answers outer stack doc) (member : key ∈ doc.keys)
      (answer : answers key = .ok (some inner)) : Stacked answers outer (key :: stack) inner

theorem Stacked.place {answers : Answers} {outer doc : Document} {stack : List String}
    (stacked : Stacked answers outer stack doc) :
    doc = outer ∨ ∃ via, Reaches answers outer via ∧ answers via = .ok (some doc) := by
  induction stacked with
  | start => exact .inl rfl
  | @push _ above _ key _ member answer ih =>
    rcases ih with rfl | ⟨via, reached, found⟩
    · exact .inr ⟨key, .listed member, answer⟩
    · exact .inr ⟨key, .through reached found member, answer⟩

theorem Stacked.answered {answers : Answers} {outer doc : Document} {stack : List String}
    (stacked : Stacked answers outer stack doc) (key : String) (member : key ∈ stack) :
    ∃ inner, answers key = .ok (some inner) := by
  induction stacked with
  | start => simp at member
  | push _ _ answer ih =>
    rcases List.mem_cons.mp member with rfl | further
    · exact ⟨_, answer⟩
    · exact ih further

/-- Every key on the stack leads to every document that the last one lists. -/
theorem Stacked.leads {answers : Answers} {outer doc : Document} {stack : List String}
    (stacked : Stacked answers outer stack doc) (key next : String) (member : key ∈ stack)
    (listed : next ∈ doc.keys) (answer : ∃ inner, answers next = .ok (some inner)) :
    Relation.TransGen (Edge answers) key next := by
  induction stacked generalizing next with
  | start => simp at member
  | push _ pushed found ih =>
    have last := Relation.TransGen.single
      (show Edge answers _ next from ⟨⟨_, found, listed⟩, answer⟩)
    rcases List.mem_cons.mp member with rfl | further
    · exact last
    · exact (ih _ further pushed ⟨_, found⟩).trans last

/-- A failure and the reachable source that is to blame. -/
def Blamed (answers : Answers) (outer : Document) (cause : Error) : Prop :=
  (∃ source key, cause = .cycle source ∧ Sourced answers outer source key ∧
    OnCycle answers key) ∨
  ∃ source key reason, cause = .brokenChain source reason ∧ Sourced answers outer source key ∧
    answers key = .error reason

mutual
theorem Fails.blamed {answers : Answers} {outer doc : Document} {stack : List String}
    {cause : Error} : Fails answers stack doc cause → Stacked answers outer stack doc →
      Blamed answers outer cause
  | .at listed _ failed, stacked => failed.blamed rfl stacked (by simp [listed])

theorem SourceFails.blamed {answers : Answers} {outer doc : Document} {stack : List String}
    {base : Option Path} {source : String} {cause : Error} :
    SourceFails answers stack base source cause → base = doc.baseDir →
      Stacked answers outer stack doc → source ∈ doc.sources → Blamed answers outer cause
  | .cycle onStack, place, stacked, listed => by
    rw [place] at onStack
    have member : Source.key doc.baseDir source ∈ doc.keys := List.mem_map_of_mem listed
    exact .inl ⟨source, _, rfl, ⟨doc, stacked.place, listed, rfl⟩,
      stacked.leads _ _ onStack member (stacked.answered _ onStack)⟩
  | .broken _ answer, place, stacked, listed => by
    rw [place] at answer
    exact .inr ⟨source, _, _, rfl, ⟨doc, stacked.place, listed, rfl⟩, answer⟩
  | .inner _ answer failed, place, stacked, listed => by
    have member : Source.key base source ∈ doc.keys := place ▸ List.mem_map_of_mem listed
    exact failed.blamed (.push stacked member answer)
end

/-- Composing from scratch ends in the same way at every depth from the resolver's bound on. It
succeeds exactly if no cycle and no failure of the resolver can be reached, and a failure names a
reachable source on a cycle, or one that the resolver fails for together with the reason. -/
theorem compose_succeeds_iff {σ : Type} {resolver : Resolver σ} {answers : Answers}
    {valid : σ → Prop} (keyed : resolver.Keyed answers valid) (tree : FileTree) {memory : σ}
    (start : valid memory) (outer : Document) :
    (∀ beyond depth, resolver.bound memory ≤ depth →
      outcome (composeWithin resolver tree beyond depth outer) (Composer.ofMemory memory) =
        outcome (Composer.compose resolver tree outer) (Composer.ofMemory memory)) ∧
    ((∃ composed, compose resolver tree memory outer = .ok composed) ↔
      ∀ key, Reaches answers outer key →
        ¬ OnCycle answers key ∧ ∀ reason, answers key ≠ .error reason) ∧
    ∀ cause, compose resolver tree memory outer = .error cause →
      (∃ source key, cause = .cycle source ∧ Sourced answers outer source key ∧
        OnCycle answers key) ∨
      ∃ source key reason, cause = .brokenChain source reason ∧
        Sourced answers outer source key ∧ answers key = .error reason := by
  obtain ⟨result, after, _, known, same⟩ := composeWithin_ends tree keyed outer
    (sound_ofMemory start)
  have ends : outcome (Composer.compose resolver tree outer) (Composer.ofMemory memory) =
      (result, after) := same _ _ (Nat.le_refl _)
  have result_eq : compose resolver tree memory outer = result := congrArg Prod.fst ends
  have blamed : ∀ cause, result = .error cause → Blamed answers outer cause := by
    rintro cause rfl
    exact Fails.blamed known .start
  refine ⟨fun beyond depth enough => (same beyond depth enough).trans ends.symm, ?_, ?_⟩
  · rw [result_eq]
    constructor
    · rintro ⟨composed, rfl⟩ key reached
      obtain ⟨inner, found⟩ := Composed.inner_of_reaches known reached
      refine ⟨not_onCycle_of_accessible found.accessible, ?_⟩
      cases found with
      | leaf answer => simp [answer]
      | layer answer _ => simp [answer]
    · intro clean
      cases result with
      | ok composed => exact ⟨composed, rfl⟩
      | error cause =>
        rcases blamed cause rfl with ⟨source, key, _, sourced, cycle⟩ |
          ⟨_, key, _, _, sourced, failed⟩
        · exact absurd cycle (clean key sourced.reaches).1
        · exact absurd failed ((clean key sourced.reaches).2 _)
  · rw [result_eq]
    exact blamed

/-- Two files share an input whose document leads back to one of them. -/
def sharedCycle : List (String × Except Error Document) :=
  [("b.js", .ok (Document.ofParts none [] [] ["d.js"] none)),
   ("c.js", .ok (Document.ofParts none [] [] ["d.js"] none)),
   ("d.js", .ok (Document.ofParts none [] [] ["e.js", "b.js"] none))]

theorem compose_sharedCycle_fails : ¬ ∃ composed, compose (Resolver.ofKeys sharedCycle)
    FileTree.empty () (Document.ofParts none [] [] ["c.js", "e.js"] none) = .ok composed := by
  rw [(compose_succeeds_iff (Resolver.ofKeys_keyed sharedCycle) FileTree.empty trivial _).2.1]
  intro clean
  have first : Edge (Answers.ofTable sharedCycle) "d.js" "b.js" :=
    ⟨⟨_, rfl, by decide⟩, ⟨_, rfl⟩⟩
  have second : Edge (Answers.ofTable sharedCycle) "b.js" "d.js" :=
    ⟨⟨_, rfl, by decide⟩, ⟨_, rfl⟩⟩
  have reached : Reaches (Answers.ofTable sharedCycle)
      (Document.ofParts none [] [] ["c.js", "e.js"] none) "d.js" :=
    .through (.listed (show "c.js" ∈ _ by decide)) rfl (by decide)
  exact (clean "d.js" reached).1 (.tail (.single first) second)

end SourceTrace.Compose
