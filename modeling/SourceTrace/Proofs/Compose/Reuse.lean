import SourceTrace.Proofs.Compose.Cycles
import SourceTrace.Proofs.Content.Stability

/-!
# A composer can be used again

A composer keeps its cache and its content store from one call to the next, also when the call
fails. With a resolver whose answers are fixed no call can tell: there is one result for a document,
composed or failed, and every composer that comes out of any calls gives it.

That there is one result is shown for `Composed` and `Fails`. The first source that fails is the
same in all of them, because a source that was composed lies on no cycle and reaches no failure, so
that it cannot fail under any stack that leads to it.
-/
namespace SourceTrace.Compose

mutual
/-- There is one composed document of a document. -/
theorem Composed.unique {answers : Answers} {doc left right : Document} :
    Composed answers doc left → Composed answers doc right → left = right
  | .assembled first, .assembled second => by rw [first.unique second]

theorem Inner.unique {answers : Answers} {key : String} {left right : Option Document} :
    Inner answers key left → Inner answers key right → left = right
  | .leaf _, .leaf _ => rfl
  | .leaf missing, .layer found _ => by
    rw [missing] at found
    cases found
  | .layer found _, .leaf missing => by
    rw [missing] at found
    cases found
  | .layer found first, .layer again second => by
    rw [found] at again
    cases again
    rw [first.unique second]

theorem Layers.unique {answers : Answers} {base : Option Path} {sources : List String}
    {left right : List (Option Document)} :
    Layers answers base sources left → Layers answers base sources right → left = right
  | .nil, .nil => rfl
  | .cons first firstRest, .cons second secondRest => by
    rw [first.unique second, firstRest.unique secondRest]
end

/-- A source of the document that is being composed, which the keys of the stack lead to. -/
def Pending (answers : Answers) (outer : Document) (stack : List String) (base : Option Path)
    (source : String) : Prop :=
  ∃ doc, Stacked answers outer stack doc ∧ base = doc.baseDir ∧ source ∈ doc.sources

theorem Pending.push {answers : Answers} {outer inner : Document} {stack : List String}
    {base : Option Path} {source : String} (pending : Pending answers outer stack base source)
    (answer : answers (Source.key base source) = .ok (some inner)) :
    Stacked answers outer (Source.key base source :: stack) inner := by
  obtain ⟨doc, stacked, rfl, member⟩ := pending
  exact .push stacked (List.mem_map_of_mem member) answer

/-- A pending source whose key is on the stack closes a cycle. -/
theorem Pending.onCycle {answers : Answers} {outer : Document} {stack : List String}
    {base : Option Path} {source : String} (pending : Pending answers outer stack base source)
    (onStack : Source.key base source ∈ stack) : OnCycle answers (Source.key base source) := by
  obtain ⟨doc, stacked, rfl, member⟩ := pending
  exact stacked.leads _ _ onStack (List.mem_map_of_mem member) (stacked.answered _ onStack)

mutual
/-- A document that fails cannot be composed. -/
theorem Fails.not_composed {answers : Answers} {outer doc composed : Document}
    {stack : List String} {cause : Error} : Fails answers stack doc cause →
      Stacked answers outer stack doc → ¬ Composed answers doc composed
  | .at listed _ failed, stacked, .assembled layers => by
    have member := listed ▸ List.mem_append_cons_self
    obtain ⟨inner, known⟩ := layers.inner_of_mem member
    exact failed.not_inner ⟨doc, stacked, rfl, member⟩ known

theorem SourceFails.not_inner {answers : Answers} {outer : Document} {stack : List String}
    {base : Option Path} {source : String} {cause : Error} {inner : Option Document} :
    SourceFails answers stack base source cause → Pending answers outer stack base source →
      ¬ Inner answers (Source.key base source) inner
  | .cycle onStack, pending, known =>
    not_onCycle_of_accessible known.accessible (pending.onCycle onStack)
  | .broken _ answer, _, .leaf missing => by cases missing.symm.trans answer
  | .broken _ answer, _, .layer found _ => by cases found.symm.trans answer
  | .inner _ answer _, _, .leaf missing => by cases missing.symm.trans answer
  | .inner _ answer failed, pending, .layer found composed => by
    cases found.symm.trans answer
    exact failed.not_composed (pending.push answer) composed
end

/-- Two ways to cut a list at an element: they are the same, or one of the elements lies in front of
the other cut. -/
theorem cut_cases {left right leftRest rightRest : List String} {first second : String}
    (same : left ++ first :: leftRest = right ++ second :: rightRest) :
    (left = right ∧ first = second) ∨ first ∈ right ∨ second ∈ left := by
  rcases List.append_eq_append_iff.mp same with ⟨between, rfl, rest⟩ | ⟨between, rfl, rest⟩
  · cases between with
    | nil => exact .inl ⟨by simp, (List.cons.inj rest).1⟩
    | cons head tail =>
      obtain ⟨rfl, _⟩ := List.cons.inj rest
      exact .inr (.inl (by simp))
  · cases between with
    | nil => exact .inl ⟨by simp, (List.cons.inj rest).1.symm⟩
    | cons head tail =>
      obtain ⟨rfl, _⟩ := List.cons.inj rest
      exact .inr (.inr (by simp))

mutual
/-- A document fails in one way. -/
theorem Fails.unique {answers : Answers} {outer doc : Document} {stack : List String}
    {cause other : Error} : Fails answers stack doc cause → Fails answers stack doc other →
      Stacked answers outer stack doc → cause = other
  | .at listed passed failed, .at listedToo passedToo failedToo, stacked => by
    have member := listed ▸ List.mem_append_cons_self
    have memberToo := listedToo ▸ List.mem_append_cons_self
    -- If one failure were in front of the other, its source would have been passed there.
    rcases cut_cases (listed.symm.trans listedToo) with ⟨_, same⟩ | early | early
    · subst same
      exact failed.unique failedToo ⟨doc, stacked, rfl, member⟩
    · obtain ⟨inner, known⟩ := passedToo.inner_of_mem early
      exact absurd known (failed.not_inner ⟨doc, stacked, rfl, member⟩)
    · obtain ⟨inner, known⟩ := passed.inner_of_mem early
      exact absurd known (failedToo.not_inner ⟨doc, stacked, rfl, memberToo⟩)

theorem SourceFails.unique {answers : Answers} {outer : Document} {stack : List String}
    {base : Option Path} {source : String} {cause other : Error} :
    SourceFails answers stack base source cause → SourceFails answers stack base source other →
      Pending answers outer stack base source → cause = other
  | .cycle _, .cycle _, _ => rfl
  | .cycle onStack, .broken fresh _, _ => absurd onStack fresh
  | .cycle onStack, .inner fresh _ _, _ => absurd onStack fresh
  | .broken fresh _, .cycle onStack, _ => absurd onStack fresh
  | .broken _ answer, .broken _ again, _ => by
    cases answer.symm.trans again
    rfl
  | .broken _ answer, .inner _ again _, _ => by cases answer.symm.trans again
  | .inner fresh _ _, .cycle onStack, _ => absurd onStack fresh
  | .inner _ answer _, .broken _ again, _ => by cases answer.symm.trans again
  | .inner _ answer failed, .inner _ again failedToo, pending => by
    cases answer.symm.trans again
    exact failed.unique failedToo (pending.push answer)
end

/-- There is one result for a document. -/
theorem DocumentResult.unique {answers : Answers} {doc : Document}
    {left right : Except Error Document} (first : DocumentResult answers [] doc left)
    (second : DocumentResult answers [] doc right) : left = right := by
  cases left with
  | ok composed =>
    cases right with
    | ok other => exact congrArg Except.ok (Composed.unique first second)
    | error cause => exact absurd first (Fails.not_composed second .start)
  | error cause =>
    cases right with
    | ok composed => exact absurd second (Fails.not_composed first .start)
    | error other => exact congrArg Except.error (Fails.unique first second .start)

variable {σ : Type} {resolver : Resolver σ} {answers : Answers} {valid : σ → Prop}
  {composer : Composer σ}

/-- A composer that composes nothing at the moment gives the one result there is, and is sound
afterwards. -/
theorem Sound.compose (keyed : resolver.Keyed answers valid) (tree : FileTree) (outer : Document)
    (sound : Sound answers valid [] composer) :
    DocumentResult answers [] outer (outcome (Composer.compose resolver tree outer) composer).1 ∧
      Sound answers valid [] (outcome (Composer.compose resolver tree outer) composer).2 := by
  obtain ⟨result, after, soundAfter, known, same⟩ := composeWithin_ends tree keyed outer sound
  have ends : outcome (Composer.compose resolver tree outer) composer = (result, after) :=
    same _ _ (Nat.le_refl _)
  rw [ends]
  exact ⟨known, soundAfter⟩

/-- The file of an artifact takes part in cycle detection as one more key, and is off the stack
afterwards. -/
theorem Sound.composeArtifact (keyed : resolver.Keyed answers valid) (tree : FileTree)
    (outer : Document) (path : Path) (sound : Sound answers valid [] composer) :
    Sound answers valid [] (outcome (Composer.composeArtifact resolver tree outer path)
      composer).2 := by
  obtain ⟨keys, complete, bounded⟩ := keyed.bounded
  have completeToo : ∀ key doc, answers key = .ok (some doc) →
      key ∈ path.normalize.text :: keys :=
    fun key doc answer => List.mem_cons_of_mem _ (complete key doc answer)
  have framed : Sound answers valid [path.normalize.text]
      { composer with stack := path.normalize.text :: composer.stack } :=
    ⟨sound.memory, sound.cache, by rw [sound.stack_eq]⟩
  obtain ⟨result, after, ⟨soundAfter, _⟩, same⟩ := composeLayer_determined tree keyed completeToo
    (resolver.bound composer.memory) [path.normalize.text] (by simp) (by simp)
    (by simpa using bounded _ sound.memory) outer _ framed
  have ends : outcome (Composer.compose resolver tree outer)
      { composer with stack := path.normalize.text :: composer.stack } = (result, after) := by
    refine Eq.trans ?_ (same _ ⟨fun source _ => throw (.cycle source), _, Nat.le_refl _, rfl⟩)
    dsimp only
    rw [← composeWithin_eq]
    rfl
  have popped : after.stack.tail = [] := by rw [soundAfter.stack_eq]; rfl
  rw [Composer.composeArtifact, outcome_withFrame, ends]
  exact ⟨soundAfter.memory, soundAfter.cache, popped⟩

/-- Composing from scratch succeeds with the composed document, if there is one. -/
theorem compose_eq_ok_iff (keyed : resolver.Keyed answers valid) (tree : FileTree) {memory : σ}
    (start : valid memory) {outer composed : Document} :
    SourceTrace.compose resolver tree memory outer = .ok composed ↔
      Composed answers outer composed := by
  have known := ((sound_ofMemory start).compose keyed tree outer).1
  constructor
  · intro succeeds
    have result : DocumentResult answers [] outer (.ok composed) := succeeds ▸ known
    exact result
  · intro holds
    have result : DocumentResult answers [] outer (.ok composed) := holds
    exact known.unique result

/-- The composers that come out of a new one by any sequence of calls, each on some state of the
files: documents are composed, with or without an artifact they belong to, or the texts that were
found are asked for or added to. -/
inductive Used (resolver : Resolver σ) (valid : σ → Prop) (files : FileTree → Prop) :
    Composer σ → Prop
  | new {memory : σ} (start : valid memory) : Used resolver valid files (Composer.ofMemory memory)
  | compose {composer : Composer σ} (used : Used resolver valid files composer) {tree : FileTree}
      (current : files tree) (outer : Document) :
      Used resolver valid files (outcome (Composer.compose resolver tree outer) composer).2
  | artifact {composer : Composer σ} (used : Used resolver valid files composer) {tree : FileTree}
      (current : files tree) (outer : Document) (path : Path) :
      Used resolver valid files (outcome (Composer.composeArtifact resolver tree outer path)
        composer).2
  | contents {composer : Composer σ} (used : Used resolver valid files composer) {tree : FileTree}
      (current : files tree) (event : ContentStore.Event) :
      Used resolver valid files
        { composer with contents := event.apply tree composer.contents }

/-- No call makes a composer unsound. -/
theorem Used.sound (keyed : resolver.Keyed answers valid) {files : FileTree → Prop}
    (used : Used resolver valid files composer) : Sound answers valid [] composer := by
  induction used with
  | new start => exact sound_ofMemory start
  | compose _ _ outer ih => exact (ih.compose keyed _ outer).2
  | artifact _ _ outer path ih => exact ih.composeArtifact keyed _ outer path
  | contents _ _ _ ih => exact ⟨ih.memory, ih.cache, ih.stack_eq⟩

/-- A composer that has been used gives for every document what a new one gives, be it a document or
a failure, and leaves its stack as it was. -/
theorem compose_reused (keyed : resolver.Keyed answers valid) {files : FileTree → Prop}
    (used : Used resolver valid files composer) (tree other : FileTree) (memory : σ)
    (start : valid memory) (outer : Document) :
    (outcome (Composer.compose resolver tree outer) composer).1 =
        SourceTrace.compose resolver other memory outer ∧
      (outcome (Composer.compose resolver tree outer) composer).2.stack = composer.stack := by
  have sound := used.sound keyed
  obtain ⟨result, after⟩ := sound.compose keyed tree outer
  obtain ⟨fresh, _⟩ := (sound_ofMemory start).compose keyed other outer
  exact ⟨result.unique fresh, after.stack_eq.trans sound.stack_eq.symm⟩

/-- `a.js` was built from `x.ts`, and `b.js` from `a.js` and itself. -/
def halfCyclic : List (String × Except Error Document) :=
  [("a.js", .ok (Document.ofParts none [⟨0, 0, 3, 1, some 0, none⟩] [] ["x.ts"] none)),
   ("b.js", .ok (Document.ofParts none [] [] ["a.js", "b.js"] none))]

/-- The document of `c.js`, which was built from `a.js`. -/
def behindCycle : Document :=
  Document.ofParts none [⟨0, 2, 0, 5, some 0, none⟩] [] ["a.js"] none

/-- A call that fails leaves a document in the cache, and the next one uses it. -/
theorem compose_reused_halfCyclic :
    let failed := outcome (Composer.compose (Resolver.ofKeys halfCyclic) FileTree.empty
      (Document.ofParts none [] [] ["b.js"] none)) (Composer.ofMemory ())
    failed.1 = .error (.cycle "b.js") ∧ (List.lookup "a.js" failed.2.cache).isSome ∧
    (outcome (Composer.compose (Resolver.ofKeys halfCyclic) FileTree.empty behindCycle)
      failed.2).1 = compose (Resolver.ofKeys halfCyclic) FileTree.empty () behindCycle ∧
    (compose (Resolver.ofKeys halfCyclic) FileTree.empty () behindCycle).toOption.bind
      (·.lookup? 0 9) = some ⟨"x.ts", 3, 1, none⟩ := by
  have used : Used (Resolver.ofKeys halfCyclic) (fun _ => True) (fun _ => True)
      (outcome (Composer.compose (Resolver.ofKeys halfCyclic) FileTree.empty
        (Document.ofParts none [] [] ["b.js"] none)) (Composer.ofMemory ())).2 :=
    .compose (.new trivial) trivial _
  have reused := compose_reused (Resolver.ofKeys_keyed halfCyclic) used FileTree.empty
    FileTree.empty () trivial behindCycle
  exact ⟨rfl, rfl, reused.1, by decide⟩

end SourceTrace.Compose
