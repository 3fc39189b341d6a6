import SourceTrace.Build.Request
import SourceTrace.Process

/-!
# Build tools on the command line

A program that takes its settings as arguments, an entry on standard input if the settings ask for
it, and leaves its artifacts in the output directory.
-/
namespace SourceTrace

structure CommandTool where
  program : Path
  /-- Arguments in front of those of the request. -/
  arguments : List String
  /-- The time that one build may take. -/
  limit : Duration
  deriving DecidableEq, Repr

namespace CommandTool

/-- What a build runs, given the bytes of the entry on standard input. -/
def invocation (command : CommandTool) (request : BuildRequest) (input : List UInt8) : Invocation :=
  { program := command.program
    arguments := commandArguments command.arguments request
    directory := request.inputDir
    input
    limit := command.limit }

/-- The bytes that a request passes on standard input: those of its entry, or none. -/
def inputOf (request : BuildRequest) : FileAction (List UInt8) :=
  match request.stdinEntry? with
  | some entry =>
    FileAction.query fun tree => (tree.read (request.inputDir / entry)).mapError Error.file
  | none => pure []

def spawn (host : Host) (invocation : Invocation) : FileAction Ending :=
  ExceptT.mk fun tree =>
    let (result, tree) := host.run invocation tree
    (result.mapError Error.file, tree)

def expectSuccess (command : CommandTool) : Ending → Except Error Unit
  | .exit 0 => .ok ()
  | .unfinished => .error (.buildTimeout command.limit)
  | ending => .error (.buildFailed s!"{command.program.text} exited with {ending.text}")

def perform (command : CommandTool) (host : Host) (request : BuildRequest) :
    FileAction (List Artifact) := do
  FileAction.createAll request.outDir
  let input ← inputOf request
  let ending ← spawn host (command.invocation request input)
  FileAction.query fun _ => command.expectSuccess ending
  FileAction.query fun tree => Artifact.collect tree request.outDir

def tool (command : CommandTool) (host : Host) : BuildTool Unit where
  build request := Building.onFiles (command.perform host request)

end CommandTool

end SourceTrace
