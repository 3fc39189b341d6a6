import SourceTrace.Build.Request

/-!
# A build tool that follows a script

Every build takes the next step of a script, which says what the tool leaves behind. The tool keeps
a log of what it was asked for. It stands in for a real tool wherever only the handling of its
output matters.
-/
namespace SourceTrace.Scripted

structure Step where
  /-- Fail with a message. -/
  fail : Option String
  /-- Run out of time. -/
  timeout : Option Duration
  /-- Files to write into the output directory, with the directories above them; without any the
  output directory is not even made. -/
  files : Option (List (String × List UInt8))
  /-- Replace the work directory by an empty file once the artifacts are loaded. -/
  wreck : Option Path
  deriving DecidableEq, Repr

/-- A build that leaves nothing behind. -/
def Step.idle : Step := ⟨none, none, none, none⟩

/-- The steps to come and the log so far. -/
structure State where
  steps : List Step
  log : List String
  deriving DecidableEq, Repr

def logLine (request : BuildRequest) : String :=
  s!"{request.inputDir.text} [" ++ Text.join " " request.entries ++
    s!"] {request.outDir.text} ({request.flags.text})"

/-- Logs a request and takes the next step. -/
def nextStep (request : BuildRequest) : Building State Step :=
  ExceptT.mk fun (state, tree) =>
    let step := state.steps.headD Step.idle
    (.ok step, (⟨state.steps.tail, state.log ++ [logLine request]⟩, tree))

def perform (request : BuildRequest) (step : Step) : FileAction (List Artifact) := do
  if let some message := step.fail then throw (.buildFailed message)
  if let some limit := step.timeout then throw (.buildTimeout limit)
  if let some files := step.files then
    FileAction.createAll request.outDir
    for (name, bytes) in files do
      FileAction.change fun tree => tree.place (request.outDir / name) bytes
  let artifacts ← FileAction.query fun tree => Artifact.collect tree request.outDir
  if let some dir := step.wreck then
    FileAction.change fun tree => tree.removeAll dir
    FileAction.writeText dir ""
  return artifacts

def tool : BuildTool State where
  build request := do
    let step ← nextStep request
    Building.onFiles (perform request step)

end SourceTrace.Scripted
