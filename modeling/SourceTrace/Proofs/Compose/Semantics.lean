import Mathlib.Data.List.Perm.Subperm
import SourceTrace.Compose.Composer

/-!
# What composing computes

A composer threads a cache, a stack, the resolver's memory and a content store through its work.
None of them shows in the result when the resolver's answers are fixed: this module states what a
composed document is (`Composed`) and how composing fails (`Fails`) without any of them, and proves
that a run from a sound composer ends in one of the two.

Runs carry a depth. `Determined` says that a run ends in the same way for every large enough depth
and whatever lies beyond it, so the depth is never reached.
-/
namespace SourceTrace

/-- The answer for the key of a source: a document, that there is none, or a failure. -/
abbrev Answers := String → Except Error (Option Document)

/-- A resolver that answers by the key of a source alone, and always in the same way. Its memory may
change as long as it stays valid, and its bound counts every key that has a document. -/
structure Resolver.Keyed {σ : Type} (resolver : Resolver σ) (answers : Answers)
    (valid : σ → Prop) : Prop where
  answer_eq : ∀ memory, valid memory → ∀ source base,
    (resolver.answer source base memory).1 = answers (Source.key base source)
  valid_after : ∀ memory, valid memory → ∀ source base,
    valid (resolver.answer source base memory).2
  bounded : ∃ keys : List String, (∀ key doc, answers key = .ok (some doc) → key ∈ keys) ∧
    ∀ memory, valid memory → keys.length ≤ resolver.bound memory

/-- The answers of a finite table of keys. -/
def Answers.ofTable (table : List (String × Except Error Document)) : Answers := fun key =>
  match List.lookup key table with
  | none => .ok none
  | some (.ok doc) => .ok (some doc)
  | some (.error cause) => .error cause

/-- A document that is answered stands in the table. -/
theorem Answers.mem_of_ofTable {table : List (String × Except Error Document)} {key : String}
    {doc : Document} (answer : Answers.ofTable table key = .ok (some doc)) :
    (key, .ok doc) ∈ table := by
  unfold Answers.ofTable at answer
  cases found : List.lookup key table with
  | none => simp [found] at answer
  | some entry =>
    obtain ⟨before, after, rfl, _⟩ := List.lookup_eq_some_iff.mp found
    cases entry with
    | error cause => simp [found] at answer
    | ok other =>
      simp only [found, Except.ok.injEq, Option.some.injEq] at answer
      simp [answer]

/-- The resolver of a finite table of keys. -/
def Resolver.ofKeys (table : List (String × Except Error Document)) : Resolver Unit where
  answer source base memory := (Answers.ofTable table (Source.key base source), memory)
  bound _ := table.length

/-- Every finite table of keys is the table of a resolver. -/
theorem Resolver.ofKeys_keyed (table : List (String × Except Error Document)) :
    (Resolver.ofKeys table).Keyed (Answers.ofTable table) fun _ => True where
  answer_eq _ _ _ _ := rfl
  valid_after _ _ _ _ := trivial
  bounded := by
    refine ⟨table.map Prod.fst, ?_, fun _ _ => by simp [Resolver.ofKeys]⟩
    intro key doc answer
    exact List.mem_map_of_mem (Answers.mem_of_ofTable answer)

/-- The keys of the sources that a document lists. -/
def Document.keys (doc : Document) : List String := doc.sources.map (Source.key doc.baseDir)

namespace Compose

mutual
/-- The composed document of a document. -/
inductive Composed (answers : Answers) : Document → Document → Prop
  | assembled {outer : Document} {inners : List (Option Document)}
      (layers : Layers answers outer.baseDir outer.sources inners) :
      Composed answers outer (assemble outer inners)

/-- The composed document of a key, if the key has a document. -/
inductive Inner (answers : Answers) : String → Option Document → Prop
  | leaf {key : String} (answer : answers key = .ok none) : Inner answers key none
  | layer {key : String} {doc composed : Document} (answer : answers key = .ok (some doc))
      (inner : Composed answers doc composed) : Inner answers key (some composed)

/-- The composed documents of the sources of a document in directory `base`. -/
inductive Layers (answers : Answers) : Option Path → List String → List (Option Document) → Prop
  | nil {base : Option Path} : Layers answers base [] []
  | cons {base : Option Path} {source : String} {sources : List String} {inner : Option Document}
      {inners : List (Option Document)} (head : Inner answers (Source.key base source) inner)
      (tail : Layers answers base sources inners) :
      Layers answers base (source :: sources) (inner :: inners)
end

mutual
/-- How composing a document fails while the keys of `stack` are being composed: at the first of its
sources that fails, behind others that do not. -/
inductive Fails (answers : Answers) : List String → Document → Error → Prop
  | at {stack : List String} {doc : Document} {before after : List String} {source : String}
      {inners : List (Option Document)} {cause : Error}
      (listed : doc.sources = before ++ source :: after)
      (passed : Layers answers doc.baseDir before inners)
      (failed : SourceFails answers stack doc.baseDir source cause) : Fails answers stack doc cause

/-- How composing fails at a source. -/
inductive SourceFails (answers : Answers) : List String → Option Path → String → Error → Prop
  | cycle {stack : List String} {base : Option Path} {source : String}
      (onStack : Source.key base source ∈ stack) :
      SourceFails answers stack base source (.cycle source)
  | broken {stack : List String} {base : Option Path} {source : String} {cause : Error}
      (fresh : Source.key base source ∉ stack)
      (answer : answers (Source.key base source) = .error cause) :
      SourceFails answers stack base source (.brokenChain source cause)
  | inner {stack : List String} {base : Option Path} {source : String} {doc : Document}
      {cause : Error} (fresh : Source.key base source ∉ stack)
      (answer : answers (Source.key base source) = .ok (some doc))
      (failed : Fails answers (Source.key base source :: stack) doc cause) :
      SourceFails answers stack base source cause
end

variable {σ α β : Type}

/-- The outcome of a step from a composer. -/
def outcome (step : Composing σ α) (composer : Composer σ) : Except Error α × Composer σ :=
  step.run.run composer

@[simp] theorem outcome_pure (value : α) (composer : Composer σ) :
    outcome (pure value) composer = (.ok value, composer) := rfl

@[simp] theorem outcome_throw (cause : Error) (composer : Composer σ) :
    outcome (throw cause : Composing σ α) composer = (.error cause, composer) := rfl

@[simp] theorem outcome_get (composer : Composer σ) :
    outcome (get : Composing σ (Composer σ)) composer = (.ok composer, composer) := rfl

@[simp] theorem outcome_modify (change : Composer σ → Composer σ) (composer : Composer σ) :
    outcome (modify change : Composing σ Unit) composer = (.ok (), change composer) := rfl

theorem outcome_bind (step : Composing σ α) (next : α → Composing σ β) (composer : Composer σ) :
    outcome (step >>= next) composer =
      match outcome step composer with
      | (.ok value, after) => outcome (next value) after
      | (.error cause, after) => (.error cause, after) := by
  simp only [outcome, bind, ExceptT.bind, ExceptT.run, ExceptT.mk, StateT.run, StateT.bind]
  cases step composer with
  | mk result after => cases result <;> rfl

theorem outcome_withFrame (key : String) (step : Composing σ α) (composer : Composer σ) :
    outcome (withFrame key step) composer =
      let inside := outcome step { composer with stack := key :: composer.stack }
      (inside.1, { inside.2 with stack := inside.2.stack.tail }) :=
  rfl

/-- A key in the cache is answered from there. -/
theorem outcome_innerFor_of_cached (resolver : Resolver σ) (tree : FileTree)
    (descend : String → Document → Composing σ Document) (base : Option Path) (source : String)
    (composer : Composer σ) (known : Option Document)
    (cached : List.lookup (Source.key base source) composer.cache = some known) :
    outcome (innerFor resolver tree descend base source) composer = (.ok known, composer) := by
  simp [innerFor, outcome_bind, cached]

/-- A key on the stack is a cycle. -/
theorem outcome_innerFor_of_stacked (resolver : Resolver σ) (tree : FileTree)
    (descend : String → Document → Composing σ Document) (base : Option Path) (source : String)
    (composer : Composer σ) (unknown : List.lookup (Source.key base source) composer.cache = none)
    (stacked : Source.key base source ∈ composer.stack) :
    outcome (innerFor resolver tree descend base source) composer =
      (.error (.cycle source), composer) := by
  simp [innerFor, outcome_bind, unknown, stacked]

/-- A new key goes to the resolver, and its document, if it has one, is composed. -/
theorem outcome_innerFor_of_asked (resolver : Resolver σ) (tree : FileTree)
    (descend : String → Document → Composing σ Document) (base : Option Path) (source : String)
    (composer : Composer σ) (unknown : List.lookup (Source.key base source) composer.cache = none)
    (fresh : Source.key base source ∉ composer.stack) :
    outcome (innerFor resolver tree descend base source) composer =
      match resolver.answer source base composer.memory with
      | (.error cause, memory) => (.error (.brokenChain source cause), { composer with memory })
      | (.ok none, memory) =>
        (.ok none, { composer with
          memory, cache := (Source.key base source, none) :: composer.cache })
      | (.ok (some doc), memory) =>
        match outcome (withFrame (Source.key base source) (descend source doc))
          { composer with memory } with
        | (.error cause, after) => (.error cause, after)
        | (.ok composed, after) =>
          (.ok (some composed), { after with
            contents := keepContents tree composed after.contents
            cache := (Source.key base source, some composed) :: after.cache }) := by
  have asked : outcome (ask resolver source base) composer =
      ((resolver.answer source base composer.memory).1.mapError (Error.brokenChain source),
        { composer with memory := (resolver.answer source base composer.memory).2 }) := rfl
  simp only [innerFor, outcome_bind, outcome_get, unknown, List.contains_eq_mem, fresh,
    decide_false, Bool.false_eq_true, ↓reduceIte, asked]
  rcases resolver.answer source base composer.memory with ⟨answer, memory⟩
  rcases answer with cause | _ | doc
  · rfl
  · rfl
  · simp only [Except.mapError, outcome_bind]
    rcases outcome (withFrame (Source.key base source) (descend source doc))
      { composer with memory } with ⟨result, after⟩
    cases result <;> rfl

/-- A composer between two steps: its memory is valid, every answer in its cache is right, and the
keys of `stack` are being composed. -/
structure Sound (answers : Answers) (valid : σ → Prop) (stack : List String)
    (composer : Composer σ) : Prop where
  memory : valid composer.memory
  cache : ∀ key inner, List.lookup key composer.cache = some inner → Inner answers key inner
  stack_eq : composer.stack = stack

/-- A composer that has composed nothing yet is sound. -/
theorem sound_ofMemory {answers : Answers} {valid : σ → Prop} {memory : σ} (start : valid memory) :
    Sound answers valid [] (Composer.ofMemory memory) :=
  ⟨start, fun _ _ cached => by simp [Composer.ofMemory] at cached, rfl⟩

/-- A right answer may be remembered. -/
theorem cache_cons {answers : Answers} {cache : List (String × Option Document)} {key : String}
    {inner : Option Document}
    (right : ∀ key inner, List.lookup key cache = some inner → Inner answers key inner)
    (new : Inner answers key inner) (queried : String) (known : Option Document)
    (cached : List.lookup queried ((key, inner) :: cache) = some known) :
    Inner answers queried known := by
  rw [List.lookup_cons] at cached
  by_cases same : queried = key
  · subst same
    simp only [beq_self_eq_true, Option.some.injEq] at cached
    exact cached ▸ new
  · simp only [beq_eq_false_iff_ne.mpr same] at cached
    exact right queried known cached

/-- A step that needs a descent ends in the same way, and as `post` says, for every allowed one. -/
def Determined (allowed : (String → Document → Composing σ Document) → Prop)
    (step : (String → Document → Composing σ Document) → Composing σ α) (composer : Composer σ)
    (post : Except Error α → Composer σ → Prop) : Prop :=
  ∃ result after, post result after ∧
    ∀ descend, allowed descend → outcome (step descend) composer = (result, after)

variable {allowed : (String → Document → Composing σ Document) → Prop}

theorem Determined.of_eq {step : (String → Document → Composing σ Document) → Composing σ α}
    {composer after : Composer σ} {result : Except Error α}
    {post : Except Error α → Composer σ → Prop}
    (same : ∀ descend, allowed descend → outcome (step descend) composer = (result, after))
    (holds : post result after) : Determined allowed step composer post :=
  ⟨result, after, holds, same⟩

theorem Determined.pure {value : α} {composer : Composer σ}
    {post : Except Error α → Composer σ → Prop} (holds : post (.ok value) composer) :
    Determined allowed (fun _ => Pure.pure value) composer post :=
  ⟨.ok value, composer, holds, fun _ _ => rfl⟩

theorem Determined.bind {step : (String → Document → Composing σ Document) → Composing σ α}
    {next : (String → Document → Composing σ Document) → α → Composing σ β} {composer : Composer σ}
    {between : Except Error α → Composer σ → Prop} {post : Except Error β → Composer σ → Prop}
    (first : Determined allowed step composer between)
    (second : ∀ value after, between (.ok value) after →
      Determined allowed (fun descend => next descend value) after post)
    (failed : ∀ cause after, between (.error cause) after → post (.error cause) after) :
    Determined allowed (fun descend => step descend >>= next descend) composer post := by
  obtain ⟨result, middle, reached, same⟩ := first
  cases result with
  | error cause =>
    refine ⟨.error cause, middle, failed cause middle reached, ?_⟩
    intro descend within
    rw [outcome_bind, same descend within]
  | ok value =>
    obtain ⟨result, after, ends, sameNext⟩ := second value middle reached
    refine ⟨result, after, ends, ?_⟩
    intro descend within
    rw [outcome_bind, same descend within]
    exact sameNext descend within

/-- What is known of the result for a document. -/
def DocumentResult (answers : Answers) (stack : List String) (doc : Document) :
    Except Error Document → Prop
  | .ok composed => Composed answers doc composed
  | .error cause => Fails answers stack doc cause

/-- What is known of the result for a source. -/
def SourceResult (answers : Answers) (stack : List String) (base : Option Path) (source : String) :
    Except Error (Option Document) → Prop
  | .ok inner => Inner answers (Source.key base source) inner
  | .error cause => SourceFails answers stack base source cause

/-- What is known of the result for a list of sources. -/
def SourcesResult (answers : Answers) (stack : List String) (base : Option Path)
    (sources : List String) : Except Error (List (Option Document)) → Prop
  | .ok inners => Layers answers base sources inners
  | .error cause => ∃ before source after inners, sources = before ++ source :: after ∧
      Layers answers base before inners ∧ SourceFails answers stack base source cause

/-- One source. The hypothesis `inner` is what is known of the document that the source leads to. -/
theorem innerFor_determined {resolver : Resolver σ} {tree : FileTree} {answers : Answers}
    {valid : σ → Prop} (keyed : resolver.Keyed answers valid) {stack : List String}
    {base : Option Path} {source : String} {composer : Composer σ}
    (sound : Sound answers valid stack composer)
    (inner : ∀ doc, Source.key base source ∉ stack →
      answers (Source.key base source) = .ok (some doc) → ∀ framed,
      Sound answers valid (Source.key base source :: stack) framed →
      Determined allowed (fun descend => descend source doc) framed fun result after =>
        Sound answers valid (Source.key base source :: stack) after ∧
          DocumentResult answers (Source.key base source :: stack) doc result) :
    Determined allowed (fun descend => innerFor resolver tree descend base source) composer
      fun result after => Sound answers valid stack after ∧
        SourceResult answers stack base source result := by
  cases unknown : List.lookup (Source.key base source) composer.cache with
  | some known =>
    have right := sound.cache _ _ unknown
    exact .of_eq (fun descend _ => outcome_innerFor_of_cached resolver tree descend base source
      composer known unknown) ⟨sound, right⟩
  | none =>
    by_cases onStack : Source.key base source ∈ stack
    · exact .of_eq (fun descend _ => outcome_innerFor_of_stacked resolver tree descend base source
        composer unknown (sound.stack_eq ▸ onStack)) ⟨sound, SourceFails.cycle onStack⟩
    · have asked := fun descend => outcome_innerFor_of_asked resolver tree descend base source
        composer unknown (sound.stack_eq ▸ onStack)
      have answered := keyed.answer_eq composer.memory sound.memory source base
      have validAfter := keyed.valid_after composer.memory sound.memory source base
      generalize resolver.answer source base composer.memory = reply at asked answered validAfter
      rcases reply with ⟨cause | _ | doc, memory⟩ <;> simp only at asked answered validAfter
      · exact .of_eq (fun descend _ => asked descend)
          ⟨⟨validAfter, sound.cache, sound.stack_eq⟩, SourceFails.broken onStack answered.symm⟩
      · have leaf := Inner.leaf answered.symm
        exact .of_eq (fun descend _ => asked descend)
          ⟨⟨validAfter, cache_cons sound.cache leaf, sound.stack_eq⟩, leaf⟩
      · obtain ⟨result, after, ⟨soundAfter, known⟩, same⟩ := inner doc onStack answered.symm
          { composer with memory, stack := Source.key base source :: composer.stack }
          ⟨validAfter, sound.cache, by rw [sound.stack_eq]⟩
        have popped : after.stack.tail = stack := by rw [soundAfter.stack_eq]; rfl
        simp only [outcome_withFrame] at asked
        cases result with
        | error cause =>
          have ends := fun descend within => (same descend within) ▸ asked descend
          exact .of_eq ends ⟨⟨soundAfter.memory, soundAfter.cache, popped⟩,
            SourceFails.inner onStack answered.symm known⟩
        | ok composed =>
          have layer := Inner.layer answered.symm known
          have ends := fun descend within => (same descend within) ▸ asked descend
          exact .of_eq ends
            ⟨⟨soundAfter.memory, cache_cons soundAfter.cache layer, popped⟩, layer⟩

/-- The sources of a document, one after another. -/
theorem sources_determined {resolver : Resolver σ} (tree : FileTree) {answers : Answers}
    {valid : σ → Prop} {stack : List String} {base : Option Path} (sources : List String)
    (each : ∀ source ∈ sources, ∀ composer, Sound answers valid stack composer →
      Determined allowed (fun descend => innerFor resolver tree descend base source) composer
        fun result after => Sound answers valid stack after ∧
          SourceResult answers stack base source result)
    (composer : Composer σ) (sound : Sound answers valid stack composer) :
    Determined allowed (fun descend => sources.mapM (innerFor resolver tree descend base)) composer
      fun result after => Sound answers valid stack after ∧
        SourcesResult answers stack base sources result := by
  induction sources generalizing composer with
  | nil =>
    simp only [List.mapM_nil]
    exact .pure ⟨sound, Layers.nil⟩
  | cons source sources ih =>
    simp only [List.mapM_cons]
    refine (each source (by simp) composer sound).bind ?_ ?_
    · rintro inner middle ⟨soundMiddle, head⟩
      have others := ih (fun source member => each source (by simp [member])) middle soundMiddle
      refine others.bind ?_ ?_
      · rintro inners after ⟨soundAfter, tail⟩
        exact .pure ⟨soundAfter, Layers.cons head tail⟩
      · rintro cause after ⟨soundAfter, before, failing, behind, inners, rfl, passed, failed⟩
        exact ⟨soundAfter, source :: before, failing, behind, inner :: inners, rfl,
          .cons head passed, failed⟩
    · rintro cause after ⟨soundAfter, failed⟩
      exact ⟨soundAfter, [], source, sources, [], rfl, .nil, failed⟩

/-- One document. The hypothesis `inner` is what is known of the documents of its sources. -/
theorem layer_determined {resolver : Resolver σ} {tree : FileTree} {answers : Answers}
    {valid : σ → Prop} (keyed : resolver.Keyed answers valid) {stack : List String}
    {doc : Document} {composer : Composer σ} (sound : Sound answers valid stack composer)
    (inner : ∀ source ∈ doc.sources, ∀ inner, Source.key doc.baseDir source ∉ stack →
      answers (Source.key doc.baseDir source) = .ok (some inner) → ∀ framed,
      Sound answers valid (Source.key doc.baseDir source :: stack) framed →
      Determined allowed (fun descend => descend source inner) framed fun result after =>
        Sound answers valid (Source.key doc.baseDir source :: stack) after ∧
          DocumentResult answers (Source.key doc.baseDir source :: stack) inner result) :
    Determined allowed (fun descend => composeLayer resolver tree descend doc) composer
      fun result after => Sound answers valid stack after ∧
        DocumentResult answers stack doc result := by
  have sources := sources_determined tree doc.sources (fun source member composer sound =>
    innerFor_determined keyed sound (inner source member)) composer sound
  refine sources.bind ?_ ?_
  · rintro inners after ⟨soundAfter, layers⟩
    exact .pure ⟨soundAfter, Composed.assembled layers⟩
  · rintro cause after ⟨soundAfter, before, source, behind, inners, listed, passed, failed⟩
    exact ⟨soundAfter, Fails.at listed passed failed⟩

/-- How a run of a given depth composes the documents of the sources. -/
def descent (resolver : Resolver σ) (tree : FileTree)
    (beyond : String → Document → Composing σ Document) : Nat → String → Document →
    Composing σ Document
  | 0 => beyond
  | depth + 1 => fun _ inner => composeWithin resolver tree beyond depth inner

theorem composeWithin_eq (resolver : Resolver σ) (tree : FileTree)
    (beyond : String → Document → Composing σ Document) (depth : Nat) :
    composeWithin resolver tree beyond depth =
      composeLayer resolver tree (descent resolver tree beyond depth) := by
  cases depth <;> rfl

/-- Whatever a composer composes was assembled. -/
theorem exists_assemble_of_composeLayer {resolver : Resolver σ} {tree : FileTree}
    {descend : String → Document → Composing σ Document} {outer composed : Document}
    {composer after : Composer σ}
    (ends : outcome (composeLayer resolver tree descend outer) composer = (.ok composed, after)) :
    ∃ inners, composed = assemble outer inners := by
  rw [composeLayer, outcome_bind] at ends
  split at ends
  · next inners middle _ =>
    cases ends
    exact ⟨inners, rfl⟩
  · cases ends

theorem exists_assemble_of_compose {resolver : Resolver σ} {tree : FileTree}
    {outer composed : Document} {composer after : Composer σ}
    (ends : outcome (Composer.compose resolver tree outer) composer = (.ok composed, after)) :
    ∃ inners, composed = assemble outer inners := by
  rw [Composer.compose, outcome_bind, outcome_get] at ends
  dsimp only at ends
  rw [composeWithin_eq] at ends
  exact exists_assemble_of_composeLayer ends

/-- The descents of all runs of at least the given depth. -/
def Deep (resolver : Resolver σ) (tree : FileTree) (room : Nat)
    (descend : String → Document → Composing σ Document) : Prop :=
  ∃ beyond depth, room ≤ depth ∧ descend = descent resolver tree beyond depth

/-- A document, with room for all keys that have a document and are not on the stack yet. Every key
that is put on the stack takes one of them, so no run goes deeper. -/
theorem composeLayer_determined {resolver : Resolver σ} (tree : FileTree) {answers : Answers}
    {valid : σ → Prop} (keyed : resolver.Keyed answers valid) {keys : List String}
    (complete : ∀ key doc, answers key = .ok (some doc) → key ∈ keys) (room : Nat)
    (stack : List String) (distinct : stack.Nodup) (within : stack ⊆ keys)
    (enough : keys.length ≤ room + stack.length) (doc : Document) (composer : Composer σ)
    (sound : Sound answers valid stack composer) :
    Determined (Deep resolver tree room) (fun descend => composeLayer resolver tree descend doc)
      composer fun result after => Sound answers valid stack after ∧
        DocumentResult answers stack doc result := by
  induction room generalizing stack doc composer with
  | zero =>
    refine layer_determined keyed sound ?_
    intro source _ inner fresh answer
    have longer : (Source.key doc.baseDir source :: stack).length ≤ keys.length :=
      (List.Nodup.subperm (List.nodup_cons.mpr ⟨fresh, distinct⟩)
        (List.cons_subset.mpr ⟨complete _ inner answer, within⟩)).length_le
    simp only [List.length_cons] at longer
    omega
  | succ room ih =>
    refine layer_determined keyed sound ?_
    intro source _ inner fresh answer framed soundFramed
    obtain ⟨result, after, known, same⟩ := ih (Source.key doc.baseDir source :: stack)
      (List.nodup_cons.mpr ⟨fresh, distinct⟩)
      (List.cons_subset.mpr ⟨complete _ inner answer, within⟩)
      (by simp only [List.length_cons]; omega) inner framed soundFramed
    refine .of_eq ?_ known
    rintro descend ⟨beyond, depth, enough, rfl⟩
    cases depth with
    | zero => omega
    | succ depth =>
      change outcome (composeWithin resolver tree beyond depth inner) framed = (result, after)
      rw [composeWithin_eq]
      exact same _ ⟨beyond, depth, by omega, rfl⟩

/-- A run from a composer that composes nothing at the moment: it ends in the same way for every
depth from the resolver's bound on, whatever lies beyond, and its result is the composed document or
a failure of composing it. -/
theorem composeWithin_ends {resolver : Resolver σ} (tree : FileTree) {answers : Answers}
    {valid : σ → Prop} (keyed : resolver.Keyed answers valid) (doc : Document)
    {composer : Composer σ} (sound : Sound answers valid [] composer) :
    ∃ result after, Sound answers valid [] after ∧ DocumentResult answers [] doc result ∧
      ∀ beyond depth, resolver.bound composer.memory ≤ depth →
        outcome (composeWithin resolver tree beyond depth doc) composer = (result, after) := by
  obtain ⟨keys, complete, bounded⟩ := keyed.bounded
  obtain ⟨result, after, ⟨soundAfter, known⟩, same⟩ := composeLayer_determined tree keyed
    complete (resolver.bound composer.memory) [] List.nodup_nil (List.nil_subset keys)
    (bounded _ sound.memory) doc composer sound
  refine ⟨result, after, soundAfter, known, ?_⟩
  intro beyond depth enough
  rw [composeWithin_eq]
  exact same _ ⟨beyond, depth, enough, rfl⟩

end Compose

end SourceTrace
