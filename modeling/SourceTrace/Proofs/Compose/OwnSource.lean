import SourceTrace.Proofs.Compose.Reuse

/-!
# An artifact among its own sources

The file of an artifact is put on the stack while its document is composed, so that a source which
is that file is reported as a cycle. A source is looked for in the cache before it is looked for on
the stack, though. A composer that has met the file before, in whatever call, passes the source and
goes on as if no artifact had been named; any other composer reports it.

Nothing is asked of the resolver here. What carries both halves is one fact about steps: none of
them changes the stack, none brings a key into the cache that is on the stack, and none can tell
whether a key in the cache lies at the bottom of the stack (`Respects`).
-/
namespace SourceTrace.Compose

variable {σ α β : Type}

/-- The composer with one more key at the bottom of its stack. -/
def restingOn (key : String) (composer : Composer σ) : Composer σ :=
  { composer with stack := composer.stack ++ [key] }

/-- How a step treats the stack, and a key. -/
structure Respects (key : String) (step : Composing σ α) : Prop where
  /-- The stack is afterwards what it was before. -/
  stack_eq : ∀ composer, (outcome step composer).2.stack = composer.stack
  /-- A key on the stack does not come into the cache. -/
  unknown : ∀ composer, key ∈ composer.stack → List.lookup key composer.cache = none →
    List.lookup key (outcome step composer).2.cache = none
  /-- A key in the cache stays there. -/
  known : ∀ composer, (List.lookup key composer.cache).isSome →
    (List.lookup key (outcome step composer).2.cache).isSome
  /-- A key in the cache may lie at the bottom of the stack or not. -/
  restingOn_eq : ∀ composer, (List.lookup key composer.cache).isSome →
    outcome step (restingOn key composer) =
      ((outcome step composer).1, restingOn key (outcome step composer).2)

namespace Respects

variable {key : String}

theorem pure (value : α) : Respects key (Pure.pure value : Composing σ α) :=
  ⟨fun _ => rfl, fun _ _ unknown => unknown, fun _ known => known, fun _ _ => rfl⟩

theorem throw (cause : Error) : Respects key (MonadExcept.throw cause : Composing σ α) :=
  ⟨fun _ => rfl, fun _ _ unknown => unknown, fun _ known => known, fun _ _ => rfl⟩

theorem bind {step : Composing σ α} {next : α → Composing σ β} (first : Respects key step)
    (second : ∀ value, Respects key (next value)) : Respects key (step >>= next) where
  stack_eq composer := by
    have here := first.stack_eq composer
    rw [outcome_bind]
    generalize outcome step composer = reply at here
    rcases reply with ⟨cause | value, middle⟩
    · exact here
    · exact ((second value).stack_eq middle).trans here
  unknown composer stacked missing := by
    have stack := first.stack_eq composer
    have here := first.unknown composer stacked missing
    rw [outcome_bind]
    generalize outcome step composer = reply at stack here
    rcases reply with ⟨cause | value, middle⟩
    · exact here
    · exact (second value).unknown middle (stack ▸ stacked) here
  known composer there := by
    have here := first.known composer there
    rw [outcome_bind]
    generalize outcome step composer = reply at here
    rcases reply with ⟨cause | value, middle⟩
    · exact here
    · exact (second value).known middle here
  restingOn_eq composer there := by
    have here := first.known composer there
    rw [outcome_bind, outcome_bind, first.restingOn_eq composer there]
    generalize outcome step composer = reply at here
    rcases reply with ⟨cause | value, middle⟩
    · rfl
    · exact (second value).restingOn_eq middle here

theorem mapM {γ : Type} {step : γ → Composing σ α} (each : ∀ item, Respects key (step item))
    (items : List γ) : Respects key (items.mapM step) := by
  induction items with
  | nil =>
    rw [List.mapM_nil]
    exact .pure []
  | cons item rest ih =>
    rw [List.mapM_cons]
    exact (each item).bind fun value => ih.bind fun values => .pure (value :: values)

theorem withFrame {step : Composing σ α} (respects : Respects key step) (frame : String) :
    Respects key (withFrame frame step) where
  stack_eq composer := by
    rw [outcome_withFrame]
    dsimp only
    rw [respects.stack_eq]
    rfl
  unknown composer stacked missing :=
    respects.unknown { composer with stack := frame :: composer.stack }
      (List.mem_cons_of_mem frame stacked) missing
  known composer there := respects.known { composer with stack := frame :: composer.stack } there
  restingOn_eq composer there := by
    have stack := respects.stack_eq { composer with stack := frame :: composer.stack }
    have inside := respects.restingOn_eq { composer with stack := frame :: composer.stack } there
    -- The frame is taken off again, not the key below it.
    change (let inside := outcome step (restingOn key
      { composer with stack := frame :: composer.stack }); (inside.1, { inside.2 with
        stack := inside.2.stack.tail })) = _
    rw [inside]
    simp only [outcome_withFrame, restingOn, stack, List.cons_append, List.tail_cons]

variable {resolver : Resolver σ} {tree : FileTree}
  {descend : String → Document → Composing σ Document}

/-- A step respects a key if it does so from every single composer. -/
theorem of_each {step : Composing σ α}
    (each : ∀ composer, let reply := outcome step composer
      reply.2.stack = composer.stack ∧
      (key ∈ composer.stack → List.lookup key composer.cache = none →
        List.lookup key reply.2.cache = none) ∧
      ((List.lookup key composer.cache).isSome → (List.lookup key reply.2.cache).isSome ∧
        outcome step (restingOn key composer) = (reply.1, restingOn key reply.2))) :
    Respects key step :=
  ⟨fun composer => (each composer).1, fun composer => (each composer).2.1,
    fun composer there => ((each composer).2.2 there).1,
    fun composer there => ((each composer).2.2 there).2⟩

/-- Another key comes into the cache. -/
theorem lookup_remember {other : String} (apart : key ≠ other) (answer : Option Document)
    (cache : List (String × Option Document)) :
    List.lookup key ((other, answer) :: cache) = List.lookup key cache := by
  rw [List.lookup_cons, beq_eq_false_iff_ne.mpr apart]

/-- One source. It is looked for in the cache before it is looked for on the stack. -/
theorem innerFor (descends : ∀ source doc, Respects key (descend source doc))
    (base : Option Path) (source : String) :
    Respects key (innerFor resolver tree descend base source) := by
  refine of_each fun composer => ?_
  dsimp only
  cases unknown : List.lookup (Source.key base source) composer.cache with
  | some answer =>
    rw [outcome_innerFor_of_cached resolver tree descend base source composer answer unknown,
      outcome_innerFor_of_cached resolver tree descend base source (restingOn key composer) answer
        unknown]
    exact ⟨rfl, fun _ missing => missing, fun there => ⟨there, rfl⟩⟩
  | none =>
    by_cases onStack : Source.key base source ∈ composer.stack
    · rw [outcome_innerFor_of_stacked resolver tree descend base source composer unknown onStack,
        outcome_innerFor_of_stacked resolver tree descend base source (restingOn key composer)
          unknown (List.mem_append_left [key] onStack)]
      exact ⟨rfl, fun _ missing => missing, fun there => ⟨there, rfl⟩⟩
    · have apart_of_stacked : key ∈ composer.stack → key ≠ Source.key base source := by
        rintro stacked rfl
        exact onStack stacked
      have apart_of_known : (List.lookup key composer.cache).isSome →
          key ≠ Source.key base source := by
        rintro there rfl
        simp [unknown] at there
      have below : (List.lookup key composer.cache).isSome →
          Source.key base source ∉ (restingOn key composer).stack := by
        intro there
        simp [restingOn, onStack, (apart_of_known there).symm]
      have asked := outcome_innerFor_of_asked resolver tree descend base source composer unknown
        onStack
      have resting := fun there => outcome_innerFor_of_asked resolver tree descend base source
        (restingOn key composer) unknown (below there)
      have memory_eq : (restingOn key composer).memory = composer.memory := rfl
      rw [memory_eq] at resting
      generalize resolver.answer source base composer.memory = answer at asked resting
      rcases answer with ⟨cause | _ | doc, memory⟩ <;> simp only at asked resting <;> rw [asked]
      · exact ⟨rfl, fun _ missing => missing, fun there => ⟨there, resting there⟩⟩
      · refine ⟨rfl, ?_, ?_⟩
        · intro stacked missing
          rwa [lookup_remember (apart_of_stacked stacked)]
        · intro there
          rw [lookup_remember (apart_of_known there)]
          exact ⟨there, resting there⟩
      · have framed := (descends source doc).withFrame (Source.key base source)
        have stack := framed.stack_eq { composer with memory }
        have missing := framed.unknown { composer with memory }
        have there := framed.known { composer with memory }
        have same := framed.restingOn_eq { composer with memory }
        have moved : { restingOn key composer with memory } =
            restingOn key { composer with memory } := rfl
        rw [moved] at resting
        generalize outcome (Compose.withFrame (Source.key base source) (descend source doc))
          { composer with memory } = reply at stack missing there same
        rcases reply with ⟨cause | composed, after⟩
        · refine ⟨stack, missing, fun known => ⟨there known, ?_⟩⟩
          rw [resting known, same known]
        · refine ⟨stack, ?_, ?_⟩
          · intro stacked unmet
            rw [lookup_remember (apart_of_stacked stacked)]
            exact missing stacked unmet
          · intro known
            rw [lookup_remember (apart_of_known known)]
            refine ⟨there known, ?_⟩
            rw [resting known, same known]
            rfl

theorem composeLayer (descends : ∀ source doc, Respects key (descend source doc))
    (outer : Document) : Respects key (composeLayer resolver tree descend outer) :=
  (mapM (innerFor descends outer.baseDir) outer.sources).bind fun inners =>
    .pure (assemble outer inners)

/-- A run of any depth. -/
theorem composeWithin {beyond : String → Document → Composing σ Document}
    (respects : ∀ source doc, Respects key (beyond source doc)) (depth : Nat) (outer : Document) :
    Respects key (composeWithin resolver tree beyond depth outer) := by
  induction depth generalizing outer with
  | zero => exact composeLayer respects outer
  | succ depth ih => exact composeLayer (fun _ inner => ih inner) outer

theorem descent {beyond : String → Document → Composing σ Document}
    (respects : ∀ source doc, Respects key (beyond source doc)) (depth : Nat) (source : String)
    (doc : Document) : Respects key (descent resolver tree beyond depth source doc) := by
  cases depth with
  | zero => exact respects source doc
  | succ depth => exact composeWithin respects depth doc

theorem compose (resolver : Resolver σ) (tree : FileTree) (outer : Document) :
    Respects key (Composer.compose resolver tree outer) := by
  have within : ∀ depth, Respects key (Compose.composeWithin resolver tree
      (fun source _ => MonadExcept.throw (.cycle source)) depth outer) :=
    fun depth => composeWithin (fun source _ => .throw (.cycle source)) depth outer
  -- The depth is taken from the composer, which has the same memory with another stack.
  refine of_each fun composer => ?_
  have respects := within (resolver.bound composer.memory)
  exact ⟨respects.stack_eq composer, respects.unknown composer,
    fun there => ⟨respects.known composer there, respects.restingOn_eq composer there⟩⟩

end Respects

variable {resolver : Resolver σ} {valid : σ → Prop} {files : FileTree → Prop}
  {composer middle : Composer σ}

/-- Between two calls a composer composes nothing. -/
theorem Used.stack_eq (used : Used resolver valid files composer) : composer.stack = [] := by
  induction used with
  | new _ => rfl
  | @compose _ _ tree _ outer ih =>
    have respects : Respects "" (Composer.compose resolver tree outer) :=
      .compose resolver tree outer
    exact (respects.stack_eq _).trans ih
  | @artifact _ _ tree _ outer path ih =>
    have respects : Respects "" (Composer.compose resolver tree outer) :=
      .compose resolver tree outer
    exact ((respects.withFrame path.normalize.text).stack_eq _).trans ih
  | contents _ _ _ ih => exact ih

/-- One source of a document in a call from a composer. -/
def innerOf (resolver : Resolver σ) (tree : FileTree) (composer : Composer σ) (base : Option Path)
    (source : String) : Composing σ (Option Document) :=
  innerFor resolver tree (descent resolver tree (fun source _ => throw (.cycle source))
    (resolver.bound composer.memory)) base source

theorem innerOf_respects {key : String} (tree : FileTree) (base : Option Path) (source : String) :
    Respects key (innerOf resolver tree composer base source) :=
  .innerFor (.descent (fun source _ => .throw (.cycle source)) _) base source

/-- A composer whose stack holds other keys composes as deep as before. -/
theorem outcome_compose (resolver : Resolver σ) (tree : FileTree) (outer : Document)
    (composer : Composer σ) (stack : List String) :
    outcome (Composer.compose resolver tree outer) { composer with stack } =
      outcome (outer.sources.mapM (innerOf resolver tree composer outer.baseDir) >>= fun inners =>
        pure (assemble outer inners)) { composer with stack } := by
  change outcome (composeWithin resolver tree (fun source _ => throw (.cycle source))
    (resolver.bound composer.memory) outer) { composer with stack } = _
  rw [composeWithin_eq]
  rfl

/-- An artifact that is put on the stack below everything else is noticed only if its key is not
known yet. -/
theorem outcome_composeArtifact_of_known (tree : FileTree) (outer : Document) (path : Path)
    (empty : composer.stack = [])
    (known : (List.lookup path.normalize.text composer.cache).isSome) :
    outcome (Composer.composeArtifact resolver tree outer path) composer =
      outcome (Composer.compose resolver tree outer) composer := by
  have respects : Respects path.normalize.text (Composer.compose resolver tree outer) :=
    .compose resolver tree outer
  have stack := respects.stack_eq composer
  have resting := respects.restingOn_eq composer known
  have framed : restingOn path.normalize.text composer =
      { composer with stack := path.normalize.text :: composer.stack } := by
    rw [restingOn, empty, List.nil_append]
  rw [framed] at resting
  rw [Composer.composeArtifact, outcome_withFrame, resting]
  generalize outcome (Composer.compose resolver tree outer) composer = reply at stack
  obtain ⟨result, memory, contents, cache, frames⟩ := reply
  obtain rfl : frames = [] := stack.trans empty
  rfl

/-- The artifact is among the sources, and the sources in front of it can be composed. -/
theorem outcome_composeArtifact_of_unknown (tree : FileTree) {outer : Document} {path : Path}
    {before after : List String} {source : String} {inners : List (Option Document)}
    (listed : outer.sources = before ++ source :: after)
    (own : Source.key outer.baseDir source = path.normalize.text)
    (passed : outcome (before.mapM (innerOf resolver tree composer outer.baseDir))
      { composer with stack := path.normalize.text :: composer.stack } = (.ok inners, middle))
    (unknown : List.lookup path.normalize.text composer.cache = none) :
    (outcome (Composer.composeArtifact resolver tree outer path) composer).1 =
      .error (.cycle source) := by
  have respects : Respects path.normalize.text
      (before.mapM (innerOf resolver tree composer outer.baseDir)) :=
    .mapM (innerOf_respects tree outer.baseDir) before
  have stack := respects.stack_eq { composer with stack := path.normalize.text :: composer.stack }
  have missing := respects.unknown { composer with stack := path.normalize.text :: composer.stack }
    List.mem_cons_self unknown
  rw [passed] at stack missing
  dsimp only at stack missing
  rw [← own] at stack missing
  have fails : outcome (innerOf resolver tree composer outer.baseDir source) middle =
      (.error (.cycle source), middle) :=
    outcome_innerFor_of_stacked resolver tree _ outer.baseDir source middle missing
      (by rw [stack]; exact List.mem_cons_self)
  rw [Composer.composeArtifact, outcome_withFrame, outcome_compose, outcome_bind, listed,
    List.mapM_append, outcome_bind, passed]
  dsimp only
  rw [List.mapM_cons, outcome_bind, outcome_bind, fails]

/-- A document whose file is among its own sources, where the sources in front of it can be
composed: a composer that has been used reports the cycle exactly if the file's key has not come
into its cache, and otherwise gives what it gives for the document alone. -/
theorem composeArtifact_own_source (used : Used resolver valid files composer) (tree : FileTree)
    {outer : Document} {path : Path} {before after : List String} {source : String}
    {inners : List (Option Document)} (listed : outer.sources = before ++ source :: after)
    (own : Source.key outer.baseDir source = path.normalize.text)
    (passed : outcome (before.mapM (innerOf resolver tree composer outer.baseDir))
      { composer with stack := path.normalize.text :: composer.stack } = (.ok inners, middle)) :
    (outcome (Composer.composeArtifact resolver tree outer path) composer).1 =
      if (List.lookup path.normalize.text composer.cache).isSome then
        (outcome (Composer.compose resolver tree outer) composer).1
      else .error (.cycle source) := by
  split
  case isTrue known =>
    rw [outcome_composeArtifact_of_known tree outer path used.stack_eq known]
  case isFalse unknown =>
    exact outcome_composeArtifact_of_unknown tree listed own passed
      (Option.not_isSome_iff_eq_none.mp unknown)

/-- A document that maps `out.js` to itself. -/
def looped : Document :=
  Document.ofParts none [⟨0, 0, 0, 0, some 0, none⟩] [] ["out.js"] none

/-- A composer that has composed that document once, without being told whose it is. -/
def afterLooped : Composer Unit :=
  (outcome (Composer.compose (Resolver.ofKeys []) FileTree.empty looped) (Composer.ofMemory ())).2

theorem used_afterLooped :
    Used (Resolver.ofKeys []) (fun _ => True) (fun _ => True) afterLooped :=
  .compose (.new trivial) trivial looped

/-- Both outcomes occur, with the same call on the same files. -/
theorem composeArtifact_looped :
    (outcome (Composer.composeArtifact (Resolver.ofKeys []) FileTree.empty looped ⟨"out.js"⟩)
      (Composer.ofMemory ())).1 = .error (.cycle "out.js") ∧
    (outcome (Composer.composeArtifact (Resolver.ofKeys []) FileTree.empty looped ⟨"out.js"⟩)
      afterLooped).1 = .ok looped := by
  have fresh : Used (Resolver.ofKeys []) (fun _ => True) (fun _ => True) (Composer.ofMemory ()) :=
    .new trivial
  have own : Source.key looped.baseDir "out.js" = (Path.mk "out.js").normalize.text := by decide
  have listed : looped.sources = [] ++ "out.js" :: [] := rfl
  constructor
  · exact (composeArtifact_own_source fresh FileTree.empty listed own rfl).trans rfl
  · exact (composeArtifact_own_source used_afterLooped FileTree.empty listed own rfl).trans rfl

/-- A composer that has been used need not notice an artifact that is its own first source. -/
theorem composeArtifact_unnoticed : ¬ ∀ (composer : Composer Unit) (outer : Document) (path : Path)
    (before after : List String) (source : String) (inners : List (Option Document))
    (middle : Composer Unit), Used (Resolver.ofKeys []) (fun _ => True) (fun _ => True) composer →
      outer.sources = before ++ source :: after →
      Source.key outer.baseDir source = path.normalize.text →
      outcome (before.mapM (innerOf (Resolver.ofKeys []) FileTree.empty composer outer.baseDir))
        { composer with stack := path.normalize.text :: composer.stack } = (.ok inners, middle) →
      (outcome (Composer.composeArtifact (Resolver.ofKeys []) FileTree.empty outer path)
        composer).1 = .error (.cycle source) := by
  intro noticed
  have cycle := noticed afterLooped looped ⟨"out.js"⟩ [] [] "out.js" [] _ used_afterLooped rfl
    (by decide) rfl
  have composed : (outcome (Composer.composeArtifact (Resolver.ofKeys []) FileTree.empty looped
      ⟨"out.js"⟩) afterLooped).1 = .ok looped := rfl
  rw [composed] at cycle
  cases cycle

end SourceTrace.Compose
