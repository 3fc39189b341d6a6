import SourceTrace.Proofs.Check.Markers
import SourceTrace.Verify
import Mathlib.Data.List.Forall2

/-!
# Steps of a run that passes

A run that ends without a failure has passed every check on its way, since failures that were noted
stay noted. For such a run every step says what it was given and what it left behind; in particular
a note was a note of nothing and changed nothing.
-/
namespace SourceTrace

/-- Two actions in a row end if the first one ends and then the second one does. -/
theorem run_bind_eq_ok_iff {ε σ α β : Type} {step : ExceptT ε (StateM σ) α}
    {next : α → ExceptT ε (StateM σ) β} {start finish : σ} {result : β} :
    (step >>= next).run.run start = (.ok result, finish) ↔
      ∃ value middle, step.run.run start = (.ok value, middle) ∧
        (next value).run.run middle = (.ok result, finish) := by
  simp only [ExceptT.run_bind, StateT.run_bind]
  generalize step.run.run start = first
  obtain ⟨ended | value, middle⟩ := first
  · constructor
    · intro impossible
      cases impossible
    · rintro ⟨_, _, impossible, _⟩
      cases impossible
  · constructor
    · intro ends
      exact ⟨value, middle, rfl, ends⟩
    · rintro ⟨_, _, ⟨⟩, ends⟩
      exact ends

theorem run_pure_eq_ok_iff {ε σ α : Type} {value result : α} {start finish : σ} :
    (pure value : ExceptT ε (StateM σ) α).run.run start = (.ok result, finish) ↔
      result = value ∧ finish = start := by
  constructor
  · rintro ⟨⟩
    exact ⟨rfl, rfl⟩
  · rintro ⟨rfl, rfl⟩
    rfl

/-- Actions in a row, each of which gives a value that depends on its argument alone. -/
theorem run_mapM_eq {ε σ α β : Type} {step : α → ExceptT ε (StateM σ) β} {value : α → β}
    (each : ∀ item start result finish, (step item).run.run start = (.ok result, finish) →
      result = value item) (items : List α) {start finish : σ} {results : List β}
    (ends : (items.mapM step).run.run start = (.ok results, finish)) :
    results = items.map value := by
  induction items generalizing start results finish with
  | nil => exact (run_pure_eq_ok_iff.mp ends).1
  | cons item rest ih =>
    rw [List.mapM_cons] at ends
    obtain ⟨first, middle, here, ends⟩ := run_bind_eq_ok_iff.mp ends
    obtain ⟨others, after, there, ends⟩ := run_bind_eq_ok_iff.mp ends
    rw [(run_pure_eq_ok_iff.mp ends).1, each item _ _ _ here, ih there, List.map_cons]

/-- Steps for the parts of all items are steps for one item after another. -/
theorem forM_flatMap {m : Type → Type} [Monad m] [LawfulMonad m] {α β : Type}
    (parts : α → List β) (step : β → m Unit) (items : List α) :
    (items.flatMap parts).forM step = items.forM fun item => (parts item).forM step := by
  induction items with
  | nil => rfl
  | cons item rest ih =>
    have parted : (parts item ++ rest.flatMap parts).forM step =
        (parts item).forM step >>= fun _ => (rest.flatMap parts).forM step := List.forM_append
    rw [List.flatMap_cons, parted, ih]
    rfl

/-- What is in the second of two lists that correspond has a counterpart in the first. -/
theorem exists_mem_of_forall₂ {α β : Type} {related : α → β → Prop} {items : List α}
    {values : List β} (all : List.Forall₂ related items values) {value : β}
    (listed : value ∈ values) : ∃ item ∈ items, related item value := by
  induction all with
  | nil => cases listed
  | cons here _ ih =>
    rcases List.mem_cons.mp listed with rfl | later
    · exact ⟨_, List.mem_cons_self, here⟩
    · obtain ⟨item, member, found⟩ := ih later
      exact ⟨item, List.mem_cons_of_mem _ member, found⟩

/-- The files of a fixture as they are written into a directory. -/
theorem Fixture.writeTo_files {fixture : Fixture} {dir : Path} {ending : LineEnding}
    {tree after : FileTree} {written : WrittenFixture}
    (ends : (fixture.writeTo dir ending).run.run tree = (.ok written, after)) :
    written.files = fixture.files.map fun (name, text) =>
      ⟨name, (dir / name).normalize, ending.apply text⟩ := by
  unfold writeTo at ends
  obtain ⟨files, middle, writes, ends⟩ := run_bind_eq_ok_iff.mp ends
  rw [(run_pure_eq_ok_iff.mp ends).1]
  refine run_mapM_eq ?_ _ writes
  rintro ⟨name, text⟩ start result finish ends
  dsimp only at ends
  -- with a directory to create in front, or without
  split at ends
  · obtain ⟨_, _, _, ends⟩ := run_bind_eq_ok_iff.mp ends
    obtain ⟨_, _, _, ends⟩ := run_bind_eq_ok_iff.mp ends
    exact (run_pure_eq_ok_iff.mp ends).1
  · obtain ⟨_, _, _, ends⟩ := run_bind_eq_ok_iff.mp ends
    exact (run_pure_eq_ok_iff.mp ends).1

/-- What was written is what the fixture says. -/
theorem Fixture.writeTo_text? {fixture : Fixture} {dir : Path} {ending : LineEnding}
    {tree after : FileTree} {written : WrittenFixture}
    (ends : (fixture.writeTo dir ending).run.run tree = (.ok written, after)) :
    written.text? = fixture.text? ending := by
  funext name
  unfold WrittenFixture.text? WrittenFixture.get? text?
  rw [writeTo_files ends]
  induction fixture.files with
  | nil => rfl
  | cons entry rest ih =>
    obtain ⟨known, text⟩ := entry
    by_cases same : name = known
    · simp [same]
    · have differs : (name == known) = false := beq_eq_false_iff_ne.mpr same
      have apart : (known == name) = false := beq_eq_false_iff_ne.mpr (Ne.symm same)
      simpa [differs, apart, List.lookup_cons, List.find?_cons] using ih

namespace Verifying

variable {σ α β : Type}

/-- What a step guarantees when it ends and nothing has failed by then: nothing had failed before,
and the step, what it gave and the states around it are as stated. -/
def Ensures (step : Verifying σ α) (holds : RunState σ → α → RunState σ → Prop) : Prop :=
  ∀ start result finish, step.run.run start = (.ok result, finish) → finish.failures = [] →
    start.failures = [] ∧ holds start result finish

namespace Ensures

theorem imp {step : Verifying σ α} {holds weaker : RunState σ → α → RunState σ → Prop}
    (ensures : Ensures step holds)
    (implies : ∀ start result finish, holds start result finish → weaker start result finish) :
    Ensures step weaker := by
  intro start result finish ends passed
  obtain ⟨before, known⟩ := ensures start result finish ends passed
  exact ⟨before, implies start result finish known⟩

theorem pure (value : α) :
    Ensures (Pure.pure value : Verifying σ α) fun start result finish =>
      finish = start ∧ result = value := by
  intro start result finish ends passed
  obtain ⟨rfl, rfl⟩ := run_pure_eq_ok_iff.mp ends
  exact ⟨passed, rfl, rfl⟩

theorem bind {step : Verifying σ α} {next : α → Verifying σ β}
    {first : RunState σ → α → RunState σ → Prop} {second : α → RunState σ → β → RunState σ → Prop}
    (here : Ensures step first) (there : ∀ value, Ensures (next value) (second value)) :
    Ensures (step >>= next) fun start result finish =>
      ∃ value middle, middle.failures = [] ∧ first start value middle ∧
        second value middle result finish := by
  intro start result finish ends passed
  obtain ⟨value, middle, begins, ends⟩ := run_bind_eq_ok_iff.mp ends
  -- backwards: only the second step tells that nothing had failed when the first one ended
  obtain ⟨between, after⟩ := there value middle result finish ends passed
  obtain ⟨before, known⟩ := here start value middle begins between
  exact ⟨before, value, middle, between, known, after⟩

/-- A note in a run that passes is empty. -/
theorem note (context : String) (failures : List Failure) :
    Ensures (Verifying.note context failures : Verifying σ Unit) fun start _ finish =>
      failures = [] ∧ finish = start := by
  intro start _ finish noted passed
  cases noted
  obtain ⟨before, empty⟩ := List.append_eq_nil_iff.mp passed
  cases List.map_eq_nil_iff.mp empty
  refine ⟨before, rfl, ?_⟩
  simp only [List.map_nil, List.append_nil]

theorem note_bind {context : String} {failures : List Failure} {next : Unit → Verifying σ β}
    {holds : RunState σ → β → RunState σ → Prop} (there : ∀ noted, Ensures (next noted) holds) :
    Ensures (Verifying.note context failures >>= next) fun start result finish =>
      failures = [] ∧ holds start result finish := by
  refine ((note context failures).bind there).imp ?_
  rintro start result finish ⟨_, _, _, ⟨empty, rfl⟩, known⟩
  exact ⟨empty, known⟩

/-- A run that passes throws nothing. -/
theorem throw_bind {cause : Error} {next : α → Verifying σ β}
    {holds : RunState σ → β → RunState σ → Prop} :
    Ensures ((throw cause : Verifying σ α) >>= next) holds := by
  intro start result finish ends
  obtain ⟨_, _, thrown, _⟩ := run_bind_eq_ok_iff.mp ends
  cases thrown

theorem ite {condition : Prop} [Decidable condition] {yes no : Verifying σ α}
    {holds : RunState σ → α → RunState σ → Prop} (first : condition → Ensures yes holds)
    (second : ¬ condition → Ensures no holds) : Ensures (if condition then yes else no) holds := by
  by_cases decided : condition
  · rw [if_pos decided]
    exact first decided
  · rw [if_neg decided]
    exact second decided

theorem files_bind {next : FileTree → Verifying σ β}
    {holds : FileTree → RunState σ → β → RunState σ → Prop}
    (there : ∀ tree, Ensures (next tree) (holds tree)) :
    Ensures (files >>= next) fun start result finish =>
      holds start.files start result finish := by
  intro start result finish ends passed
  obtain ⟨_, middle, asked, ends⟩ := run_bind_eq_ok_iff.mp ends
  cases asked
  exact there _ _ result finish ends passed

theorem ofExcept_bind {given : Except Error α} {next : α → Verifying σ β}
    {holds : α → RunState σ → β → RunState σ → Prop}
    (there : ∀ value, Ensures (next value) (holds value)) :
    Ensures (ofExcept given >>= next) fun start result finish =>
      ∃ value, given = .ok value ∧ holds value start result finish := by
  intro start result finish ends passed
  obtain ⟨value, middle, asked, ends⟩ := run_bind_eq_ok_iff.mp ends
  cases asked
  obtain ⟨before, known⟩ := there value _ result finish ends passed
  exact ⟨before, value, rfl, known⟩

theorem onFiles (action : FileAction α) :
    Ensures (Verifying.onFiles action : Verifying σ α) fun start result finish =>
      action.run.run start.files = (.ok result, finish.files) ∧ finish.tool = start.tool := by
  intro start result finish ends passed
  obtain ⟨outcome, state⟩ := Prod.mk.inj ends
  subst state
  exact ⟨passed, Prod.ext outcome rfl, rfl⟩

theorem build (tool : BuildTool σ) (request : BuildRequest) :
    Ensures (Verifying.build tool request) fun start result finish =>
      (tool.build request).run.run (start.tool, start.files) =
        (.ok result, (finish.tool, finish.files)) := by
  intro start result finish ends passed
  obtain ⟨outcome, state⟩ := Prod.mk.inj ends
  subst state
  exact ⟨passed, Prod.ext outcome rfl⟩

/-- Steps that leave the state as it is, one for each item. -/
theorem mapM {step : α → Verifying σ β} {holds : RunState σ → α → β → Prop}
    (each : ∀ item, Ensures (step item) fun start result finish =>
      finish = start ∧ holds start item result) (items : List α) :
    Ensures (items.mapM step) fun start results finish =>
      finish = start ∧ List.Forall₂ (holds start) items results := by
  induction items with
  | nil =>
    refine (Ensures.pure []).imp ?_
    rintro start results finish ⟨rfl, rfl⟩
    exact ⟨rfl, .nil⟩
  | cons item rest ih =>
    rw [List.mapM_cons]
    refine ((each item).bind fun value => ih.bind fun others => Ensures.pure _).imp ?_
    rintro start results finish
      ⟨value, _, _, ⟨rfl, here⟩, others, _, _, ⟨rfl, there⟩, rfl, rfl⟩
    exact ⟨rfl, .cons here there⟩

/-- Steps one after another, with the states between them. -/
theorem forM {step : α → Verifying σ Unit} {holds : α → RunState σ → RunState σ → Prop}
    (each : ∀ item, Ensures (step item) fun start _ finish => holds item start finish)
    (items : List α) :
    Ensures (items.forM step) fun start _ _ =>
      ∀ before item rest, items = before ++ item :: rest →
        ∃ reached next, (before.forM step).run.run start = (.ok (), reached) ∧
          holds item reached next := by
  induction items with
  | nil =>
    refine (Ensures.pure ()).imp ?_
    rintro start _ finish ⟨rfl, rfl⟩ before item rest impossible
    simp at impossible
  | cons first others ih =>
    intro start _ finish ends passed
    obtain ⟨_, middle, here, ends⟩ := run_bind_eq_ok_iff.mp ends
    obtain ⟨between, later⟩ := ih middle () finish ends passed
    obtain ⟨before, known⟩ := each first start () middle here between
    refine ⟨before, ?_⟩
    -- the item is the first one, or the steps in front of it start with the first one
    rintro (_ | ⟨earlier, passedBy⟩) item rest split
    · cases split
      exact ⟨start, middle, rfl, known⟩
    · cases split
      obtain ⟨reached, next, runs, holds⟩ := later passedBy item rest rfl
      exact ⟨reached, next, run_bind_eq_ok_iff.mpr ⟨(), middle, here, runs⟩, holds⟩

end Ensures

end Verifying

end SourceTrace
