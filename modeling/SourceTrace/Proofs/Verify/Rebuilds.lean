import SourceTrace.Proofs.Verify.Attribution

/-!
# Builds of a run that passes

A run stops when its first build gives no artifacts. What a later build gives is only compared with
the hits of the artifact that it was made from, so a later build that gives nothing loses exactly
these hits: it is noticed if there are any, and passes unnoticed if there are none.
-/
namespace SourceTrace

namespace Verify

variable {σ : Type} {tool : BuildTool σ} {fixture : Fixture} {flags : BuildFlags}
  {chain : ChainSetup} {written : WrittenFixture}

/-- What the first build of a run is asked for. -/
def primaryRequest (fixture : Fixture) (flags : BuildFlags) (dir : Path) : BuildRequest where
  inputDir := dir / "in"
  entries := fixture.entries
  outDir := dir / "out"
  flags := flags

/-- The first build of a run that begins in a state gives these artifacts. -/
def Builds (tool : BuildTool σ) (fixture : Fixture) (flags : BuildFlags) (dir : Path)
    (start : RunState σ) (written : WrittenFixture) (artifacts : List Artifact)
    (built : RunState σ) : Prop :=
  ∃ files, (fixture.writeTo (dir / "in") flags.lineEnding).run.run start.files =
      (.ok written, files) ∧
    (tool.build (primaryRequest fixture flags dir)).run.run (start.tool, files) =
      (.ok artifacts, (built.tool, built.files))

/-- The later build that a job asks for in a state gives these artifacts. -/
def Rebuilds (tool : BuildTool σ) (flags : BuildFlags) (chain : ChainSetup) (job : ChainJob)
    (reached : RunState σ) (secondaries : List Artifact) : Prop :=
  ∃ input entry files tools after,
    (writeChainInput flags chain job.artifact job.dir job.embedding job.order).run.run
      reached.files = (.ok (input, entry), files) ∧
    (tool.build (chainRequest flags job.dir entry)).run.run (reached.tool, files) =
      (.ok secondaries, (tools, after))

theorem run_onFiles_eq_ok_iff {α : Type} {action : FileAction α} {start finish : RunState σ}
    {result : α} :
    (Verifying.onFiles action).run.run start = (.ok result, finish) ↔
      ∃ files, action.run.run start.files = (.ok result, files) ∧
        finish = { start with files } := by
  constructor
  · intro ends
    obtain ⟨outcome, state⟩ := Prod.mk.inj ends
    exact ⟨_, Prod.ext outcome rfl, state.symm⟩
  · rintro ⟨files, acts, rfl⟩
    have same : (Verifying.onFiles action).run.run start = ((action.run.run start.files).1,
      { start with files := (action.run.run start.files).2 }) := rfl
    rw [same, acts]

theorem run_build_eq_ok_iff {request : BuildRequest} {start finish : RunState σ}
    {artifacts : List Artifact} :
    (Verifying.build tool request).run.run start = (.ok artifacts, finish) ↔
      ∃ tools files, (tool.build request).run.run (start.tool, start.files) =
          (.ok artifacts, (tools, files)) ∧
        finish = { start with tool := tools, files } := by
  constructor
  · intro ends
    obtain ⟨outcome, state⟩ := Prod.mk.inj ends
    exact ⟨_, _, Prod.ext outcome rfl, state.symm⟩
  · rintro ⟨tools, files, builds, rfl⟩
    have same : (Verifying.build tool request).run.run start =
      (((tool.build request).run.run (start.tool, start.files)).1, { start with
        tool := ((tool.build request).run.run (start.tool, start.files)).2.1
        files := ((tool.build request).run.run (start.tool, start.files)).2.2 }) := rfl
    rw [same, builds]

/-- A run does not get past a first build that gives nothing. -/
theorem builds_something {dir : Path} {start finish : RunState σ}
    (ends : (verify tool fixture flags dir).run.run start = (.ok (), finish))
    {artifacts : List Artifact} {built : RunState σ}
    (builds : Builds tool fixture flags dir start written artifacts built) :
    artifacts ≠ [] := by
  rintro rfl
  obtain ⟨files, writes, builds⟩ := builds
  unfold verify at ends
  obtain ⟨_, middle, first, ends⟩ := run_bind_eq_ok_iff.mp ends
  obtain ⟨_, again, rfl⟩ := run_onFiles_eq_ok_iff.mp first
  cases writes.symm.trans again
  obtain ⟨_, built, second, ends⟩ := run_bind_eq_ok_iff.mp ends
  obtain ⟨_, _, again, rfl⟩ := run_build_eq_ok_iff.mp second
  cases builds.symm.trans again
  -- nothing was built, so the run throws
  obtain ⟨_, _, thrown, _⟩ := run_bind_eq_ok_iff.mp ends
  cases thrown

/-- A later build that gives nothing loses the hits of its artifact and nothing else. -/
theorem verifyJob_of_nothing {job : ChainJob} {reached : RunState σ}
    (nothing : Rebuilds tool flags chain job reached []) :
    ∃ tools after, (verifyJob tool fixture flags chain written job).run.run reached =
      (.ok (), ⟨tools, after, reached.failures ++ (Check.chainHits job.hits []).map
        (·.within s!"chain {job.embedding.text} {job.order.text}")⟩) := by
  obtain ⟨input, entry, files, tools, after, writes, builds⟩ := nothing
  refine ⟨tools, after, run_bind_eq_ok_iff.mpr ⟨(input, entry), { reached with files }, ?_, ?_⟩⟩
  · exact run_onFiles_eq_ok_iff.mpr ⟨files, writes, rfl⟩
  · refine run_bind_eq_ok_iff.mpr ⟨[], ⟨tools, after, reached.failures⟩, ?_, rfl⟩
    exact run_build_eq_ok_iff.mpr ⟨tools, after, builds, rfl⟩

theorem chainHits_nil_iff {hits : List MarkerHit} : Check.chainHits hits [] = [] ↔ hits = [] := by
  rw [Check.chainHits_eq_nil_iff, List.eq_nil_iff_forall_not_mem]
  simp only [List.not_mem_nil, false_iff]

/-- A job whose hits came out again built something, unless there were no hits. -/
theorem Reproduces.rebuilds {job : ChainJob} {reached : RunState σ}
    (reproduces : Reproduces tool fixture flags chain written job reached) :
    ∃ secondaries, Rebuilds tool flags chain job reached secondaries ∧
      (secondaries = [] → job.hits = []) := by
  obtain ⟨input, entry, files, secondaries, tools, after, writes, builds, -, hits⟩ := reproduces
  refine ⟨secondaries, ⟨input, entry, files, tools, after, writes, builds⟩, ?_⟩
  rintro rfl
  refine List.eq_nil_iff_forall_not_mem.mpr ?_
  intro hit among
  obtain ⟨_, listed, _⟩ := (hits hit).mpr among
  cases listed

/-- A job of a list was done in its turn, and its build gave something unless its artifact has no
hits. -/
def RebuiltAmong (tool : BuildTool σ) (fixture : Fixture) (flags : BuildFlags) (chain : ChainSetup)
    (written : WrittenFixture) (built : RunState σ) (jobs : List ChainJob) (job : ChainJob) :
    Prop :=
  job ∈ jobs ∧ ∀ before rest, jobs = before ++ job :: rest →
    ∃ reached secondaries,
      (before.forM (verifyJob tool fixture flags chain written)).run.run built =
        (.ok (), reached) ∧
      Rebuilds tool flags chain job reached secondaries ∧ (secondaries = [] → job.hits = [])

theorem DoneAmong.rebuilt {built : RunState σ} {jobs : List ChainJob} {job : ChainJob}
    (done : DoneAmong tool fixture flags chain written built jobs job) :
    RebuiltAmong tool fixture flags chain written built jobs job := by
  refine ⟨done.1, ?_⟩
  intro before rest split
  obtain ⟨reached, runs, reproduces⟩ := done.2 before rest split
  obtain ⟨secondaries, rebuilds, unnoticed⟩ := reproduces.rebuilds
  exact ⟨reached, secondaries, runs, rebuilds, unnoticed⟩

end Verify

namespace Verifier

open Verify

variable {σ : Type}

/-- In a run that passes the first build gave artifacts, and every later build gave some unless the
artifact that it was made from has no hits. A later build that gives nothing ends its job without an
error, and what is noted about it is nothing exactly if there are no hits. -/
theorem runOne_builds (tool : BuildTool σ) (options : VerifyOptions) (fixture : Fixture)
    (flags : BuildFlags) (verifier : Verifier σ)
    (passed : (verifier.runOne tool options fixture flags).1.passed = true) :
    (∃ dir placed written artifacts built,
      verifier.allocateDir options = (.ok dir, placed) ∧
      Builds tool fixture flags dir ⟨placed.tool, placed.files, []⟩ written artifacts built ∧
      artifacts ≠ [] ∧
      ∀ chain, fixture.chain = some chain → flags.bundle = true → flags.codeSplitting = false →
        ∀ index artifact, artifacts[index]? = some artifact →
          ∀ embedding ∈ chain.embeddings, ∀ order ∈ chain.orders,
            RebuiltAmong tool fixture flags chain written built
              (chainJobs chain dir (withHits fixture written artifacts))
              (chainJob dir index
                (artifact, markerHits fixture written artifact.code artifact.document)
                embedding order)) ∧
    ∀ chain written job reached, Rebuilds tool flags chain job reached [] →
      ∃ tools after failures,
        (verifyJob tool fixture flags chain written job).run.run reached =
          (.ok (), ⟨tools, after, reached.failures ++ failures⟩) ∧
        (failures = [] ↔ job.hits = []) := by
  constructor
  · obtain ⟨noFailure, noError⟩ := Outcome.passed_iff.mp passed
    obtain ⟨dir, placed, state, allocated, ends, clean⟩ := ends_of_passed noFailure noError
    obtain ⟨_, written, artifacts, built, shown⟩ := verify_ensures dir _ _ _ ends clean
    obtain ⟨files, writes, builds, _⟩ := shown.builds
    have first : Builds tool fixture flags dir ⟨placed.tool, placed.files, []⟩ written artifacts
      built := ⟨files, writes, builds⟩
    refine ⟨dir, placed, written, artifacts, built, allocated, first,
      builds_something ends first, ?_⟩
    intro chain asked bundled whole index artifact listed embedding embedded order ordered
    exact (shown.chains chain asked bundled whole index artifact listed embedding embedded order
      ordered).rebuilt
  · intro chain written job reached nothing
    obtain ⟨tools, after, ends⟩ := verifyJob_of_nothing nothing
    exact ⟨tools, after, _, ends, by rw [List.map_eq_nil_iff, chainHits_nil_iff]⟩

theorem single_builds :
    (fresh.runOne copier options single bundling).1.passed = true ∧
      ∃ dir placed written artifacts built,
        fresh.allocateDir options = (.ok dir, placed) ∧
        Builds copier single bundling dir ⟨placed.tool, placed.files, []⟩ written artifacts built ∧
        artifacts ≠ [] ∧
        ∀ artifact, artifacts[0]? = some artifact →
          RebuiltAmong copier single bundling ⟨[.linked], [.alone], ⟨"x", ""⟩⟩ written built
            (chainJobs ⟨[.linked], [.alone], ⟨"x", ""⟩⟩ dir (withHits single written artifacts))
            (chainJob dir 0 (artifact, markerHits single written artifact.code artifact.document)
              .linked .alone) := by
  obtain ⟨dir, placed, written, artifacts, built, allocated, builds, some, rebuilt⟩ :=
    (runOne_builds copier options single bundling fresh single_passes).1
  refine ⟨single_passes, dir, placed, written, artifacts, built, allocated, builds, some, ?_⟩
  intro artifact listed
  exact rebuilt _ rfl rfl rfl 0 artifact listed _ List.mem_cons_self _ List.mem_cons_self

/-- The fixture without its marker. -/
def unmarked : Fixture := { single with markers := [] }

/-- A tool that builds the files of a fixture and nothing else. Its state tells how many artifacts
each build gave. -/
def dropper : BuildTool (List Nat) where
  build request := do
    let artifacts :=
      if request.entries = ["a"] then [direct (request.outDir / "b") "../in/a"] else []
    modify fun (counts, files) => (counts ++ [artifacts.length], files)
    return artifacts

/-- A run passes although its later build gives nothing. -/
theorem runOne_unnoticed :
    let run := runOne dropper options unmarked bundling ⟨[], FileTree.empty, 0⟩
    run.1.passed = true ∧ run.2.tool = [1, 0] := by
  decide +kernel

end Verifier

end SourceTrace
