import SourceTrace.FileAction
import SourceTrace.Artifact
import SourceTrace.Fixture.Flags

/-!
# Builds

What a build is asked for, and build tools as seen from outside: a tool changes files, may keep
state of its own from build to build, and gives back the artifacts it generated.
-/
namespace SourceTrace

structure BuildRequest where
  /-- The directory that the entries are relative to. -/
  inputDir : Path
  entries : List String
  /-- The directory for the artifacts. -/
  outDir : Path
  flags : BuildFlags
  deriving DecidableEq, Repr

/-- The entry that is passed on standard input, if the flags ask for it. -/
def BuildRequest.stdinEntry? (request : BuildRequest) : Option String :=
  match request.flags.entryMode with
  | .stdin => request.entries.head?
  | .file => none

/-- An action of a build tool, with the tool's own state next to the files. -/
abbrev Building (σ α : Type) := ExceptT Error (StateM (σ × FileTree)) α

def Building.onFiles {σ α : Type} (action : FileAction α) : Building σ α :=
  ExceptT.mk fun (state, tree) =>
    let (result, tree) := action.run.run tree
    (result, (state, tree))

/-- Something that generates artifacts. -/
structure BuildTool (σ : Type) where
  build : BuildRequest → Building σ (List Artifact)

/-- The arguments of a command line tool: the given ones, the entries and where the output goes, and
a flag for every setting. An entry on standard input is named, and its output is one file. -/
def commandArguments (given : List String) (request : BuildRequest) : List String :=
  let flags := request.flags
  let inputs :=
    match request.stdinEntry? with
    | some entry =>
      let name := (Path.mk entry).fileName?.getD entry
      [s!"--sourcefile={entry}", s!"--outfile={(request.outDir / name).text}"]
    | none => request.entries ++ [s!"--outdir={request.outDir.text}"]
  let sourcemap :=
    match flags.sourcemap with
    | .linked => "--sourcemap"
    | .inline => "--sourcemap=inline"
  given ++ inputs ++ [sourcemap] ++ (if flags.bundle then ["--bundle"] else []) ++
    (if flags.minify then ["--minify"] else []) ++
    (if flags.codeSplitting then ["--splitting", "--format=esm"] else [])

end SourceTrace
