import SourceTrace.Build.Command
import SourceTrace.CommandLine.Lookup
import SourceTrace.CommandLine.Usage
import SourceTrace.Fixture.Manifest
import SourceTrace.Verify

/-!
# Running the command line

The whole program as a function of its arguments and of the files it finds. The host runs the build
tool.
-/
namespace SourceTrace.CommandLine

structure Result where
  /-- Zero if all went well and one otherwise. -/
  code : Nat
  output : String
  /-- What is told apart from the output when nothing could be done. -/
  complaint : Option String
  files : FileTree
  deriving DecidableEq, Repr

namespace Result

def done (success : Bool) (output : String) (files : FileTree) : Result :=
  ⟨if success then 0 else 1, output, none, files⟩

def failed (complaint : String) (files : FileTree) : Result := ⟨1, "", some complaint, files⟩

end Result

def linesText (lines : List String) : String := String.join (lines.map (· ++ "\n"))

def runVerify (host : Host) (arguments : VerifyArguments) (tree : FileTree) : Result :=
  match Manifest.load tree arguments.manifest with
  | .error cause => .failed cause.message tree
  | .ok fixtures =>
    let command : CommandTool :=
      ⟨arguments.tool, arguments.toolArguments, .ofSeconds arguments.timeoutSeconds⟩
    let options : VerifyOptions := ⟨arguments.workDir, arguments.keep⟩
    match Verifier.run (command.tool host) options fixtures ⟨(), tree, 0⟩ with
    | (.error cause, verifier) => .failed cause.message verifier.files
    | (.ok report, verifier) => .done (!report.hasFailures) report.text verifier.files

def runLookup (arguments : LookupArguments) (tree : FileTree) : Result :=
  match Lookup.answer arguments tree with
  | .error cause => .failed cause.message tree
  | .ok answer => .done answer.found (linesText answer.lines) tree

/-- The directories of the files that the arguments name. -/
def directories (arguments : List String) : List Path :=
  match parse arguments with
  | .error _ | .ok (.usage _) => []
  | .ok (.verify arguments) =>
    arguments.workDir :: [arguments.manifest, arguments.tool].filterMap Path.parent?
  | .ok (.lookup arguments) => (arguments.artifact :: arguments.track).filterMap Path.parent?

def run (host : Host) (arguments : List String) (tree : FileTree) : Result :=
  match parse arguments with
  | .error complaint => .failed complaint.message tree
  | .ok (.usage (some command)) => .done true (linesText command.usage) tree
  | .ok (.usage none) => .done true (linesText usage) tree
  | .ok (.verify arguments) => runVerify host arguments tree
  | .ok (.lookup arguments) => runLookup arguments tree

end SourceTrace.CommandLine
