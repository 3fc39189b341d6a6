import SourceTrace.Proofs.Verify.Steps

/-!
# Runs that pass attribute every marker

If a run reports nothing, then every occurrence of a marker in what was built is attributed to a
declared place, every declared place is reached, and whatever was built once more reaches the same
places as before.
-/
namespace SourceTrace

theorem Outcome.passed_iff {outcome : Outcome} :
    outcome.passed = true ↔ outcome.failures = [] ∧ outcome.error = none := by
  simp [passed]

namespace Verify

variable {σ : Type} {tool : BuildTool σ} {fixture : Fixture} {flags : BuildFlags}
  {written : WrittenFixture}

/-- The hits of the markers in generated code. -/
def markerHits (fixture : Fixture) (written : WrittenFixture) (code : String) (doc : Document) :
    List MarkerHit :=
  (Check.roundTrip code (Index.ofDocument doc) fixture written).1

/-- Every occurrence of every marker in generated code is attributed. -/
def Attributes (fixture : Fixture) (written : WrittenFixture) (code : String) (doc : Document) :
    Prop :=
  ∀ marker ∈ fixture.markers,
    ∀ occurrence ∈ (Text.View.ofString code).findAll marker.text.toList,
      ∃ position file, marker.Attributed written doc occurrence position file

/-- An artifact that is to be built once more, with the hits of its markers. -/
structure ChainJob where
  artifact : Artifact
  hits : List MarkerHit
  dir : Path
  embedding : Embedding
  order : ChainOrder

/-- The job of the artifact with a number, in an embedding and an order. -/
def chainJob (dir : Path) (index : Nat) (artifact : Artifact × List MarkerHit)
    (embedding : Embedding) (order : ChainOrder) : ChainJob :=
  ⟨artifact.1, artifact.2, dir / s!"chain-{index}-{embedding.text}-{order.text}", embedding, order⟩

/-- All jobs in the order in which they are done. -/
def chainJobs (chain : ChainSetup) (dir : Path) (artifacts : List (Artifact × List MarkerHit)) :
    List ChainJob :=
  artifacts.zipIdx.flatMap fun (artifact, index) =>
    chain.embeddings.flatMap fun embedding =>
      chain.orders.map fun order => chainJob dir index artifact embedding order

/-- Does a job. -/
def verifyJob (tool : BuildTool σ) (fixture : Fixture) (flags : BuildFlags) (chain : ChainSetup)
    (written : WrittenFixture) (job : ChainJob) : Verifying σ Unit :=
  verifyChain tool fixture flags chain job.artifact job.hits written job.dir job.embedding job.order

/-- The document of an artifact of a later build, composed with what it was built from. -/
def composed (tree : FileTree) (tracked : TrackedArtifacts) (secondary : Artifact) :
    Except Error Document :=
  ((Composer.composeArtifact (TrackedArtifacts.resolver tree) tree secondary.document
    secondary.path).run.run (Composer.ofMemory tracked)).1

/-- What is asked for to build an artifact once more. -/
def chainRequest (flags : BuildFlags) (dir : Path) (entry : String) : BuildRequest where
  inputDir := dir
  entries := [entry]
  outDir := dir / "out"
  flags := { flags with entryMode := .file, bundle := true, codeSplitting := false }

/-- An artifact was built once more, and the composed documents of what was built lead the markers
to the places that they were led to before. -/
def Reproduces (tool : BuildTool σ) (fixture : Fixture) (flags : BuildFlags) (chain : ChainSetup)
    (written : WrittenFixture) (job : ChainJob) (reached : RunState σ) : Prop :=
  ∃ input entry files secondaries tools after,
    (writeChainInput flags chain job.artifact job.dir job.embedding job.order).run.run
      reached.files = (.ok (input, entry), files) ∧
    (tool.build (chainRequest flags job.dir entry)).run.run (reached.tool, files) =
      (.ok secondaries, (tools, after)) ∧
    (∀ secondary ∈ secondaries, ∃ doc,
      composed after (TrackedArtifacts.empty.track input.path) secondary = .ok doc ∧
      Attributes fixture written secondary.code doc) ∧
    ∀ hit, (∃ secondary ∈ secondaries, ∃ doc,
        composed after (TrackedArtifacts.empty.track input.path) secondary = .ok doc ∧
        hit ∈ markerHits fixture written secondary.code doc) ↔
      hit ∈ job.hits

/-- Checking an artifact of the first build. -/
theorem checkPrimary_ensures (dir : Path) (artifact : Artifact) :
    Verifying.Ensures (σ := σ) (checkPrimary fixture flags dir written artifact)
      fun start found finish => finish = start ∧
        Attributes fixture written artifact.code artifact.document ∧
        found = markerHits fixture written artifact.code artifact.document := by
  unfold checkPrimary
  dsimp only
  -- coverage is checked unless everything is bundled
  split
  · refine .imp (.note_bind fun _ => .note_bind fun _ => .note_bind fun _ => .note_bind fun _ =>
      .files_bind fun tree => .note_bind fun _ => .pure _) ?_
    rintro start found finish ⟨_, passed, _, _, _, rfl, rfl⟩
    exact ⟨rfl, Check.roundTrip_eq_nil_iff.mp passed, rfl⟩
  · refine .imp (.note_bind fun _ => .note_bind fun _ => .note_bind fun _ =>
      .files_bind fun tree => .note_bind fun _ => .pure _) ?_
    rintro start found finish ⟨_, passed, _, _, rfl, rfl⟩
    exact ⟨rfl, Check.roundTrip_eq_nil_iff.mp passed, rfl⟩

/-- Checking an artifact of a later build. -/
theorem checkSecondary_ensures (tracked : TrackedArtifacts) (root : Path) (embedding : Embedding)
    (secondary : Artifact) :
    Verifying.Ensures (σ := σ) (checkSecondary fixture written tracked root embedding secondary)
      fun start found finish => finish = start ∧ ∃ doc,
        composed start.files tracked secondary = .ok doc ∧
        Attributes fixture written secondary.code doc ∧
        found = markerHits fixture written secondary.code doc := by
  unfold checkSecondary
  dsimp only
  refine .imp (.files_bind fun tree => .ofExcept_bind fun doc => .note_bind fun _ =>
    .note_bind fun _ => .note_bind fun _ => .note_bind fun _ => .note_bind fun _ => .pure _) ?_
  rintro start found finish ⟨doc, composes, _, passed, _, _, _, rfl, rfl⟩
  exact ⟨rfl, doc, composes, Check.roundTrip_eq_nil_iff.mp passed, rfl⟩

/-- Doing a job. -/
theorem verifyJob_ensures (chain : ChainSetup) (job : ChainJob) :
    Verifying.Ensures (verifyJob tool fixture flags chain written job) fun start _ _ =>
      Reproduces tool fixture flags chain written job start := by
  unfold verifyJob verifyChain
  dsimp only
  refine .imp (.bind (.onFiles _) fun given => .bind (.build _ _) fun secondaries =>
    .bind (.mapM (checkSecondary_ensures _ _ _) secondaries) fun found => .note _ _) ?_
  rintro start _ finish ⟨⟨input, entry⟩, middle, _, ⟨writes, kept⟩, secondaries, built, _, builds,
    found, _, _, ⟨rfl, each⟩, same, rfl⟩
  rw [kept] at builds
  refine ⟨input, entry, _, secondaries, _, _, writes, builds, ?_, ?_⟩
  · intro secondary listed
    obtain ⟨_, _, doc, composes, attributes, _⟩ := exists_mem_of_forall₂ each.flip listed
    exact ⟨doc, composes, attributes⟩
  · intro hit
    rw [← Check.chainHits_eq_nil_iff.mp same hit, MarkerHit.ascending, Sorting.mem_dedup,
      Sorting.mem_sort, List.mem_flatten]
    constructor
    · rintro ⟨secondary, listed, doc, composes, reached⟩
      obtain ⟨_, among, other, again, _, rfl⟩ := exists_mem_of_forall₂ each.flip listed
      cases composes.symm.trans again
      exact ⟨_, among, reached⟩
    · rintro ⟨_, among, reached⟩
      obtain ⟨secondary, listed, doc, composes, _, rfl⟩ := exists_mem_of_forall₂ each among
      exact ⟨secondary, listed, doc, composes, reached⟩

/-- The loops over artifacts, embeddings and orders do the jobs one after another. -/
theorem verifyChains_eq (chain : ChainSetup) (dir : Path)
    (artifacts : List (Artifact × List MarkerHit)) :
    verifyChains tool fixture flags chain dir written artifacts =
      (chainJobs chain dir artifacts).forM (verifyJob tool fixture flags chain written) := by
  unfold verifyChains chainJobs
  simp only [List.forM_eq_forM, forM_flatMap, List.forM_map]
  rfl

theorem mem_chainJobs {chain : ChainSetup} {dir : Path}
    {artifacts : List (Artifact × List MarkerHit)} {index : Nat}
    {artifact : Artifact × List MarkerHit} (listed : artifacts[index]? = some artifact)
    {embedding : Embedding} (embedded : embedding ∈ chain.embeddings) {order : ChainOrder}
    (ordered : order ∈ chain.orders) :
    chainJob dir index artifact embedding order ∈ chainJobs chain dir artifacts :=
  List.mem_flatMap.mpr ⟨(artifact, index), List.mem_zipIdx_iff_getElem?.mpr listed,
    List.mem_flatMap.mpr ⟨embedding, embedded, List.mem_map.mpr ⟨order, ordered, rfl⟩⟩⟩

/-- Artifacts with the hits of their markers. -/
def withHits (fixture : Fixture) (written : WrittenFixture) (artifacts : List Artifact) :
    List (Artifact × List MarkerHit) :=
  artifacts.map fun artifact =>
    (artifact, markerHits fixture written artifact.code artifact.document)

/-- A job of a list was done in its turn and reproduced the hits it was given. -/
def DoneAmong (tool : BuildTool σ) (fixture : Fixture) (flags : BuildFlags) (chain : ChainSetup)
    (written : WrittenFixture) (built : RunState σ) (jobs : List ChainJob) (job : ChainJob) :
    Prop :=
  job ∈ jobs ∧ ∀ before rest, jobs = before ++ job :: rest →
    ∃ reached,
      (before.forM (verifyJob tool fixture flags chain written)).run.run built =
        (.ok (), reached) ∧
      Reproduces tool fixture flags chain written job reached

theorem verifyChains_ensures (chain : ChainSetup) (dir : Path)
    (artifacts : List (Artifact × List MarkerHit)) :
    Verifying.Ensures (verifyChains tool fixture flags chain dir written artifacts)
      fun start _ _ => ∀ job ∈ chainJobs chain dir artifacts,
        DoneAmong tool fixture flags chain written start (chainJobs chain dir artifacts) job := by
  rw [verifyChains_eq]
  refine .imp (.forM (verifyJob_ensures chain) _) ?_
  rintro start _ _ passed job listed
  refine ⟨listed, ?_⟩
  intro before rest split
  obtain ⟨reached, _, runs, reproduces⟩ := passed before job rest split
  exact ⟨reached, runs, reproduces⟩

/-- Only whole bundles of fixtures that ask for it are built once more. -/
theorem chains_ensures (dir : Path) (artifacts : List (Artifact × List MarkerHit)) :
    Verifying.Ensures (match fixture.chain with
      | none => pure ()
      | some chain =>
        if flags.bundle && !flags.codeSplitting then
          verifyChains tool fixture flags chain dir written artifacts
        else pure ()) fun start _ _ =>
      ∀ chain, fixture.chain = some chain → flags.bundle = true → flags.codeSplitting = false →
        ∀ job ∈ chainJobs chain dir artifacts,
          DoneAmong tool fixture flags chain written start (chainJobs chain dir artifacts) job := by
  split
  · next absent =>
    refine .imp (.pure ()) ?_
    rintro start _ _ _ chain asked
    cases absent.symm.trans asked
  · next chain asked =>
    split
    · refine .imp (verifyChains_ensures chain dir artifacts) ?_
      rintro start _ _ done other again _ _
      cases asked.symm.trans again
      exact done
    · next unmet =>
      refine .imp (.pure ()) ?_
      rintro start _ _ _ _ _ bundled whole
      simp [bundled, whole] at unmet

/-- What has been shown when a run passed: what it wrote and built, and where the markers lead. -/
structure Passed (tool : BuildTool σ) (fixture : Fixture) (flags : BuildFlags) (dir : Path)
    (start : RunState σ) (written : WrittenFixture) (artifacts : List Artifact)
    (built : RunState σ) : Prop where
  /-- The fixture was written and built, and nothing was noted. -/
  builds : ∃ files,
    (fixture.writeTo (dir / "in") flags.lineEnding).run.run start.files = (.ok written, files) ∧
    (tool.build ⟨dir / "in", fixture.entries, dir / "out", flags⟩).run.run (start.tool, files) =
      (.ok artifacts, (built.tool, built.files)) ∧
    built.failures = []
  /-- The texts that were written are those of the fixture. -/
  texts : written.text? = fixture.text? flags.lineEnding
  /-- Every occurrence of a marker in an artifact is attributed. -/
  attributes : ∀ artifact ∈ artifacts,
    Attributes fixture written artifact.code artifact.document
  /-- The hits of all artifacts are exactly the declared ones. -/
  hits_iff : ∀ hit,
    (∃ artifact ∈ artifacts,
      hit ∈ markerHits fixture written artifact.code artifact.document) ↔
    fixture.Declares written.text? hit
  /-- Every artifact was built once more in every embedding and order, and its hits came out again.
  -/
  chains : ∀ chain, fixture.chain = some chain → flags.bundle = true →
    flags.codeSplitting = false → ∀ index artifact, artifacts[index]? = some artifact →
      ∀ embedding ∈ chain.embeddings, ∀ order ∈ chain.orders,
        DoneAmong tool fixture flags chain written built
          (chainJobs chain dir (withHits fixture written artifacts))
          (chainJob dir index
            (artifact, markerHits fixture written artifact.code artifact.document) embedding order)

/-- Pairing artifacts with what checking them gave pairs them with their hits. -/
theorem zip_hits {artifacts : List Artifact} {found : List (List MarkerHit)}
    (each : List.Forall₂ (fun artifact hits =>
      Attributes fixture written artifact.code artifact.document ∧
      hits = markerHits fixture written artifact.code artifact.document) artifacts found) :
    artifacts.zip found = withHits fixture written artifacts := by
  induction each with
  | nil => rfl
  | cons here _ ih =>
    rw [List.zip_cons_cons, ih, here.2]
    rfl

/-- A run that passes has shown what it set out to show. -/
theorem verify_ensures (dir : Path) :
    Verifying.Ensures (verify tool fixture flags dir) fun start _ _ =>
      ∃ written artifacts built,
        Passed tool fixture flags dir start written artifacts built := by
  unfold verify
  dsimp only
  refine .imp (.bind (.onFiles _) fun written => .bind (.build _ _) fun artifacts =>
    .ite (fun _ => .throw_bind) fun _ => .bind (.mapM (checkPrimary_ensures dir) artifacts)
      fun found => .note_bind fun _ => chains_ensures dir (artifacts.zip found)) ?_
  rintro start _ _ ⟨written, middle, _, ⟨writes, kept⟩, artifacts, _, clean, builds, found, built,
    _, ⟨rfl, each⟩, complete, chains⟩
  rw [kept] at builds
  -- the checks in between noted nothing, so the chains start from the state that the build left
  rw [zip_hits each] at chains
  refine ⟨written, artifacts, built, ⟨middle.files, writes, builds, clean⟩,
    Fixture.writeTo_text? writes, ?_, ?_, ?_⟩
  · intro artifact listed
    obtain ⟨_, _, attributes, _⟩ := exists_mem_of_forall₂ each.flip listed
    exact attributes
  · intro hit
    constructor
    · rintro ⟨artifact, listed, reached⟩
      exact Check.declares_of_mem_roundTrip reached
    · intro declared
      have among := Check.attribution_eq_nil_iff.mp complete hit declared
      rw [MarkerHit.ascending, Sorting.mem_dedup, Sorting.mem_sort, List.mem_flatten] at among
      obtain ⟨hits, among, reached⟩ := among
      obtain ⟨artifact, listed, _, rfl⟩ := exists_mem_of_forall₂ each among
      exact ⟨artifact, listed, reached⟩
  · intro chain asked bundled whole index artifact listed embedding embedded order ordered
    refine chains chain asked bundled whole _ (mem_chainJobs ?_ embedded ordered)
    rw [withHits, List.getElem?_map, listed, Option.map_some]

end Verify

namespace Verifier

variable {σ : Type}

/-- Removing files changes nothing in what is reported. -/
theorem cleanUp_reports (options : VerifyOptions) (outcome : Outcome) (files : FileTree) :
    (cleanUp options outcome files).1.failures = outcome.failures ∧
      (cleanUp options outcome files).1.error = outcome.error := by
  unfold cleanUp
  split
  · split
    · exact ⟨rfl, rfl⟩
    · exact ⟨rfl, rfl⟩
  · exact ⟨rfl, rfl⟩

/-- A run that reports nothing got a directory, and its steps ended without noting anything. -/
theorem ends_of_passed {tool : BuildTool σ} {options : VerifyOptions} {fixture : Fixture}
    {flags : BuildFlags} {verifier : Verifier σ}
    (noFailure : (verifier.runOne tool options fixture flags).1.failures = [])
    (noError : (verifier.runOne tool options fixture flags).1.error = none) :
    ∃ dir placed state, verifier.allocateDir options = (.ok dir, placed) ∧
      (Verify.verify tool fixture flags dir).run.run ⟨placed.tool, placed.files, []⟩ =
        (.ok (), state) ∧ state.failures = [] := by
  unfold runOne at noFailure noError
  rcases allocated : verifier.allocateDir options with ⟨cause | dir, placed⟩
  · simp [allocated, Outcome.abort] at noError
  · rcases ended : (Verify.verify tool fixture flags dir).run.run ⟨placed.tool, placed.files, []⟩
      with ⟨cause | done, state⟩
    · simp [allocated, ended, (cleanUp_reports options _ _).2, Outcome.abort] at noError
    · simp only [allocated, ended, (cleanUp_reports options _ _).1] at noFailure
      exact ⟨dir, placed, state, rfl, ended, noFailure⟩

/-- If a run has neither failures nor an error, every marker is attributed exactly. -/
theorem runOne_attributes (tool : BuildTool σ) (options : VerifyOptions) (fixture : Fixture)
    (flags : BuildFlags) (verifier : Verifier σ)
    (noFailure : (verifier.runOne tool options fixture flags).1.failures = [])
    (noError : (verifier.runOne tool options fixture flags).1.error = none) :
    ∃ dir placed written artifacts built,
      verifier.allocateDir options = (.ok dir, placed) ∧
      Verify.Passed tool fixture flags dir ⟨placed.tool, placed.files, []⟩ written artifacts
        built := by
  obtain ⟨dir, placed, state, allocated, ends, passed⟩ := ends_of_passed noFailure noError
  obtain ⟨_, written, artifacts, built, shown⟩ := Verify.verify_ensures dir _ _ _ ends passed
  exact ⟨dir, placed, written, artifacts, built, allocated, shown⟩

/-- A fixture of one file and one marker, whose artifact is built once more. -/
def single : Fixture where
  name := "single"
  kind := none
  files := [("a", "f\n")]
  entries := ["a"]
  markers := [⟨"f", ["a"]⟩]
  namePrefix := none
  matrix := Matrix.standard
  chain := some ⟨[.linked], [.alone], ⟨"x", ""⟩⟩

/-- An artifact whose code starts where a source starts. -/
def direct (path : Path) (source : String) : Artifact where
  path := path
  text := "f\n"
  document :=
    (Document.ofParts none [⟨0, 0, 0, 0, some 0, none⟩] [] [source] none).setBaseDir path.parent?
  embedding := .linked
  mapPath := none

/-- A tool that copies the only entry. -/
def copier : BuildTool Unit where
  build request :=
    pure [if request.entries = ["a"] then direct (request.outDir / "b") "../in/a"
      else direct (request.outDir / "c") "../input.js"]

/-- Runs work in `/w` and leave their files there. -/
def options : VerifyOptions := ⟨⟨"/w"⟩, true⟩

def bundling : BuildFlags := { BuildFlags.plain with bundle := true }

def fresh : Verifier Unit := ⟨(), FileTree.empty, 0⟩

theorem single_passes : (fresh.runOne copier options single bundling).1.passed = true := by
  decide +kernel

theorem single_attributes :
    (fresh.runOne copier options single bundling).1.passed = true ∧
      ∃ dir placed written artifacts built,
        fresh.allocateDir options = (.ok dir, placed) ∧
        Verify.Passed copier single bundling dir ⟨placed.tool, placed.files, []⟩ written artifacts
          built := by
  obtain ⟨noFailure, noError⟩ := Outcome.passed_iff.mp single_passes
  exact ⟨single_passes, runOne_attributes copier options single bundling fresh noFailure noError⟩

end Verifier

end SourceTrace
