import SourceTrace.Build.Request
import SourceTrace.Check.Associativity
import SourceTrace.Check.Coverage
import SourceTrace.Check.Markers
import SourceTrace.Check.Names
import SourceTrace.Check.Sources
import SourceTrace.Compose.Composer
import SourceTrace.Report

/-!
# Verifying a build tool

Every fixture is written into a directory of its own, built under each of its settings, and the
artifacts are checked. If the fixture asks for it, every artifact is then built once more from each
embedding and in each order; the new maps are composed with the old one, and the composed documents
must pass the same checks and lead the markers to the same places.
-/
namespace SourceTrace

structure VerifyOptions where
  /-- The directory for the directories of the runs. -/
  workDir : Path
  /-- Whether the files of runs that passed are kept. -/
  keepPassing : Bool
  deriving DecidableEq, Repr

/-- What a run changes: the state of the tool, the files, and the failures found so far. -/
structure RunState (σ : Type) where
  tool : σ
  files : FileTree
  failures : List Failure

/-- A step of a run, which may end the run early. -/
abbrev Verifying (σ α : Type) := ExceptT Error (StateM (RunState σ)) α

namespace Verifying

variable {σ α : Type}

def onFiles (action : FileAction α) : Verifying σ α :=
  ExceptT.mk fun state =>
    let (result, files) := action.run.run state.files
    (result, { state with files })

def build (tool : BuildTool σ) (request : BuildRequest) : Verifying σ (List Artifact) :=
  ExceptT.mk fun state =>
    let (result, (toolState, files)) := (tool.build request).run.run (state.tool, state.files)
    (result, { state with tool := toolState, files })

/-- Notes failures with where they were observed. -/
def note (context : String) (failures : List Failure) : Verifying σ Unit :=
  modify fun state =>
    { state with failures := state.failures ++ failures.map (·.within context) }

def ofExcept (result : Except Error α) : Verifying σ α := ExceptT.mk (pure result)

def files : Verifying σ FileTree := do return (← get).files

end Verifying

namespace Verify

variable {σ : Type}

/-- How an artifact is named in a report: its path from a directory on, in plain slashes. -/
def displayName (artifact : Artifact) (root : Path) : String :=
  let path := (artifact.path.below? root).getD artifact.path
  String.ofList (path.text.toList.map fun c => if c = '\\' then '/' else c)

/-- Checks an artifact of the first build and gives the hits of its markers. -/
def checkPrimary (fixture : Fixture) (flags : BuildFlags) (dir : Path) (written : WrittenFixture)
    (artifact : Artifact) : Verifying σ (List MarkerHit) := do
  let context := displayName artifact dir
  let doc := artifact.document
  let index := Index.ofDocument doc
  let code := artifact.code
  Verifying.note context (Check.uniqueness doc)
  let (hits, failures) := Check.roundTrip code index fixture written
  Verifying.note context failures
  if !flags.bundle then Verifying.note context (Check.coverage code doc)
  Verifying.note context (Check.names code index fixture written)
  let tree ← Verifying.files
  Verifying.note context (Check.contents tree doc written ContentStore.empty).1
  return hits

/-- Checks an artifact of a later build, composed with the tracked artifact it was built from, and
gives the hits of its markers. -/
def checkSecondary (fixture : Fixture) (written : WrittenFixture) (tracked : TrackedArtifacts)
    (root : Path) (embedding : Embedding) (secondary : Artifact) :
    Verifying σ (List MarkerHit) := do
  let context := s!"{displayName secondary root} ({embedding.text})"
  let outer := secondary.document
  let tree ← Verifying.files
  let resolver := TrackedArtifacts.resolver tree
  let composing := Composer.composeArtifact resolver tree outer secondary.path
  let (result, composer) := composing.run.run (Composer.ofMemory tracked)
  let composed ← Verifying.ofExcept result
  let index := Index.ofDocument composed
  let code := secondary.code
  Verifying.note context (Check.uniqueness composed)
  let (hits, failures) := Check.roundTrip code index fixture written
  Verifying.note context failures
  Verifying.note context (Check.names code index fixture written)
  Verifying.note context (Check.contents tree composed written composer.contents).1
  Verifying.note context (Check.associativity resolver outer composed composer.memory).1
  return hits

/-- Writes the input of a later build and gives its entry: the artifact in the given embedding, the
extra file, and the file that imports both unless the artifact is built alone. -/
def writeChainInput (flags : BuildFlags) (chain : ChainSetup) (artifact : Artifact)
    (chainDir : Path) (embedding : Embedding) (order : ChainOrder) :
    FileAction (Artifact × String) := do
  FileAction.createAll chainDir
  let inputName := "input.js"
  let input ← artifact.writeTo (chainDir / inputName) embedding
  FileAction.writeText (chainDir / chain.extra.name) (flags.lineEnding.apply chain.extra.text)
  match order.entrySource? inputName chain.extra.name with
  | some text =>
    FileAction.writeText (chainDir / "entry.js") (flags.lineEnding.apply text)
    return (input, "entry.js")
  | none => return (input, inputName)

/-- Builds an artifact once more in one embedding and order and checks what comes of it. -/
def verifyChain (tool : BuildTool σ) (fixture : Fixture) (flags : BuildFlags) (chain : ChainSetup)
    (artifact : Artifact) (primaryHits : List MarkerHit) (written : WrittenFixture)
    (chainDir : Path) (embedding : Embedding) (order : ChainOrder) : Verifying σ Unit := do
  let (input, entry) ←
    Verifying.onFiles (writeChainInput flags chain artifact chainDir embedding order)
  let artifacts ← Verifying.build tool {
    inputDir := chainDir, entries := [entry], outDir := chainDir / "out",
    flags := { flags with entryMode := .file, bundle := true, codeSplitting := false } }
  let tracked := TrackedArtifacts.empty.track input.path
  let root := chainDir.parent?.getD chainDir
  let hits ← artifacts.mapM (checkSecondary fixture written tracked root embedding)
  let chainedHits := MarkerHit.ascending hits.flatten
  Verifying.note s!"chain {embedding.text} {order.text}" (Check.chainHits primaryHits chainedHits)

/-- Builds every artifact once more in every embedding and order that the fixture asks for. -/
def verifyChains (tool : BuildTool σ) (fixture : Fixture) (flags : BuildFlags) (chain : ChainSetup)
    (dir : Path) (written : WrittenFixture) (artifacts : List (Artifact × List MarkerHit)) :
    Verifying σ Unit :=
  artifacts.zipIdx.forM fun ((artifact, hits), index) =>
    chain.embeddings.forM fun embedding =>
      chain.orders.forM fun order =>
        let chainDir := dir / s!"chain-{index}-{embedding.text}-{order.text}"
        verifyChain tool fixture flags chain artifact hits written chainDir embedding order

/-- Builds a fixture in a directory and checks everything about it. Only whole bundles are built
once more, since that takes a single artifact that needs no other. -/
def verify (tool : BuildTool σ) (fixture : Fixture) (flags : BuildFlags) (dir : Path) :
    Verifying σ Unit := do
  let inputDir := dir / "in"
  let written ← Verifying.onFiles (fixture.writeTo inputDir flags.lineEnding)
  let artifacts ← Verifying.build tool
    { inputDir, entries := fixture.entries, outDir := dir / "out", flags }
  if artifacts.isEmpty then throw (.buildFailed "build produced no artifacts")
  let hits ← artifacts.mapM (checkPrimary fixture flags dir written)
  let allHits := MarkerHit.ascending hits.flatten
  Verifying.note "all artifacts" (Check.attribution fixture written allHits)
  match fixture.chain with
  | none => return
  | some chain =>
    if flags.bundle && !flags.codeSplitting then
      verifyChains tool fixture flags chain dir written (artifacts.zip hits)

end Verify

/-- A verifier between two runs: the state of the tool, the files, and the number of the next
directory. -/
structure Verifier (σ : Type) where
  tool : σ
  files : FileTree
  nextDir : Nat

namespace Verifier

variable {σ : Type}

/-- Creates the first of the numbered directories from `number` on that is not there yet, and gives
the number behind it. Every directory that is there is another node of the tree, so the number of
nodes bounds the search. -/
def freshDir (workDir : Path) (tree : FileTree) :
    Nat → Nat → Except FileError (Path × FileTree) × Nat
  | 0, number => (.error .alreadyExists, number)
  | fuel + 1, number =>
    let dir := workDir / s!"fixture-{number}"
    match tree.createDirectory dir with
    | .ok tree => (.ok (dir, tree), number + 1)
    | .error .alreadyExists => freshDir workDir tree fuel (number + 1)
    | .error cause => (.error cause, number + 1)

def allocateDir (options : VerifyOptions) (verifier : Verifier σ) :
    Except FileError Path × Verifier σ :=
  match verifier.files.createAll options.workDir with
  | .error cause => (.error cause, verifier)
  | .ok files =>
    match freshDir options.workDir files (files.nodes.length + 1) verifier.nextDir with
    | (.ok (dir, files), nextDir) => (.ok dir, { verifier with files, nextDir })
    | (.error cause, nextDir) => (.error cause, { verifier with files, nextDir })

/-- Removes the files of a run that passed unless they are to be kept. -/
def cleanUp (options : VerifyOptions) (outcome : Outcome) (files : FileTree) :
    Outcome × FileTree :=
  if outcome.passed && !options.keepPassing then
    match files.removeAll outcome.workDir with
    | .ok files => (outcome, files)
    | .error _ => ({ outcome with retained := true }, files)
  else ({ outcome with retained := true }, files)

def runOne (tool : BuildTool σ) (options : VerifyOptions) (fixture : Fixture) (flags : BuildFlags)
    (verifier : Verifier σ) : Outcome × Verifier σ :=
  let start := Outcome.start fixture.name fixture.kindText flags
  match verifier.allocateDir options with
  | (.error cause, verifier) =>
    ({ (start options.workDir).abort (.file cause) with retained := true }, verifier)
  | (.ok dir, verifier) =>
    let (result, state) := (Verify.verify tool fixture flags dir).run.run
      { tool := verifier.tool, files := verifier.files, failures := [] }
    let outcome := { start dir with failures := state.failures }
    let outcome := match result with
      | .ok () => outcome
      | .error cause => outcome.abort cause
    let (outcome, files) := cleanUp options outcome state.files
    (outcome, { verifier with tool := state.tool, files })

def runAll (tool : BuildTool σ) (options : VerifyOptions) :
    List (Fixture × BuildFlags) → Verifier σ → List Outcome × Verifier σ
  | [], verifier => ([], verifier)
  | (fixture, flags) :: rest, verifier =>
    let (outcome, verifier) := verifier.runOne tool options fixture flags
    let (outcomes, verifier) := runAll tool options rest verifier
    (outcome :: outcomes, verifier)

/-- Builds every fixture with all its settings. It fails only if the work directory cannot be
made. -/
def run (tool : BuildTool σ) (options : VerifyOptions) (fixtures : List Fixture)
    (verifier : Verifier σ) : Except Error Report × Verifier σ :=
  match verifier.files.createAll options.workDir with
  | .error cause => (.error (.file cause), verifier)
  | .ok files =>
    let jobs := fixtures.flatMap fun fixture =>
      fixture.permutations.map fun flags => (fixture, flags)
    let (outcomes, verifier) := runAll tool options jobs { verifier with files }
    (.ok ⟨outcomes⟩, verifier)

end Verifier

end SourceTrace
