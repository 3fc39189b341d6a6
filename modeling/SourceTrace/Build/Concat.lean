import SourceTrace.Build.Request
import SourceTrace.Document.Builder

/-!
# A bundler that concatenates

A build tool small enough to be right: it puts the lines of an entry behind those of the files it
imports and maps every word and every quote. On request it makes one of a few mistakes, so that each
check can be seen to fail.
-/
namespace SourceTrace.Concat

/-- A mistake in the maps. -/
inductive Fault where
  /-- None. -/
  | exact
  /-- Quotes are mapped one column too far. -/
  | shiftStrings
  /-- Quotes end the mapping. -/
  | unmapStrings
  /-- The contents of sources are wrong. -/
  | wrongContents
  /-- The contents of sources are left out. -/
  | noContents
  /-- The reference to the map is left out. -/
  | noReference
  /-- One line of one file is mapped to another file of the same directory. -/
  | misattribute (file : Path) (line : Nat) (target : String)
  deriving DecidableEq, Repr

/-- The lines of a text; a carriage return before the line feed belongs to the terminator, and a
final line feed starts no further line. -/
def sourceLines (text : String) : List (List Char) :=
  let lines := Text.split (· == '\n') text.toList
  let lines := if lines.getLast? == some [] then lines.dropLast else lines
  lines.map fun line => if line.getLast? == some '\r' then line.dropLast else line

def import? (line : List Char) : Option String :=
  ((Text.after? "import \"./".toList (Text.trim line)).bind (Text.before? "\";".toList)).map
    String.ofList

structure Module where
  path : Path
  text : String
  deriving DecidableEq, Repr

/-- The modules found so far and the paths entered so far. -/
structure Found where
  modules : List Module
  seen : List Path

/-- Adds a file behind the files it imports, unless it has been entered before. The files are at
most `fuel` imports away. -/
def addModule : Nat → Found → Path → FileAction Found
  | 0, found, _ => pure found
  | fuel + 1, found, path => do
    if found.seen.any path.same then return found
    let text ← FileAction.readText path
    let mut found : Found := { found with seen := path :: found.seen }
    for name in (sourceLines text).filterMap import? do
      found ← addModule fuel found (path.withFileName name)
    return { found with modules := found.modules ++ [⟨path, text⟩] }

/-- The modules of an entry in the order of the output. -/
def modulesOf (bundle : Bool) (entry : Path) : FileAction (List Module) := do
  if bundle then
    let tree ← FileAction.query Except.ok
    return (← addModule (tree.nodes.length + 1) ⟨[], []⟩ entry).modules
  else return [⟨entry, ← FileAction.readText entry⟩]

/-- Characters that words consist of. -/
def isWordStart (c : Char) : Bool := c.isAlpha || c == '_' || c == '$'

/-- The columns of a line that are mapped, each with the character there: the first one, every quote
and every start of a word. -/
def mappedColumns (column : Nat) (before : Option Char) : List Char → List (Nat × Char)
  | [] => []
  | c :: rest =>
    let more := mappedColumns (column + Text.unitWidth c) (some c) rest
    let insideWord := before.any fun b => isWordStart b || b.isDigit
    if before.isNone || c == '"' || (isWordStart c && !insideWord) then (column, c) :: more
    else more

structure Output where
  builder : Builder
  code : List (List Char)

def addLine (fault : Fault) (source : String) (number : Nat) (output : Output)
    (line : List Char) : Output :=
  let target := output.code.length
  let add (b : Builder) (mapped : Nat × Char) : Builder :=
    let (column, c) := mapped
    if c == '"' && fault = .unmapStrings then (b.addUnmapped target column).2
    else
      let shift := if c == '"' && fault = .shiftStrings then 1 else 0
      (b.add target column number (column + shift) (some source) none).2
  ⟨(mappedColumns 0 none line).foldl add output.builder, output.code ++ [line ++ ['\n']]⟩

/-- Whether a line of a module is left out: references, and imports of bundled files. -/
def isDropped (bundle : Bool) (line : List Char) : Bool :=
  (Text.after? "//# sourceMappingURL=".toList (Text.trimStart line)).isSome ||
    (bundle && (import? line).isSome)

/-- How sources are written in a map of the output directory. -/
def sourceOf (outDir path : Path) : String := Source.relative (outDir / "_").text path.text

/-- Adds a module to the output under the text of its source. -/
def addSourceModule (request : BuildRequest) (fault : Fault) (output : Output) (part : Module)
    (source : String) : Output :=
  let (id, builder) := output.builder.addSource source
  let content : Option String :=
    match fault with
    | .noContents => none
    | .wrongContents => some (part.text ++ "!")
    | _ => some part.text
  let builder :=
    match content with
    | some text => (builder.setContent? id (some text)).getD builder
    | none => builder
  let kept := (sourceLines part.text).zipIdx.filter fun (line, _) =>
    !isDropped request.flags.bundle line
  kept.foldl (fun output (line, number) =>
    let lineSource :=
      match fault with
      | .misattribute file wrong target =>
        if part.path.endsWith file && number = wrong then
          sourceOf request.outDir (part.path.withFileName target)
        else source
      | _ => source
    addLine fault lineSource number output line) { output with builder }

/-- The output of all modules of an entry. The last one is the entry itself, which keeps the name it
was passed with on standard input. -/
def outputOf (request : BuildRequest) (fault : Fault) (entry name : String)
    (modules : List Module) : Output :=
  let fromStdin := request.flags.entryMode = .stdin
  modules.zipIdx.foldl (fun output (part, index) =>
    let source :=
      if index + 1 = modules.length && fromStdin then entry
      else sourceOf request.outDir part.path
    addSourceModule request fault output part source) ⟨Builder.empty (some name), []⟩

def emit (fault : Fault) (request : BuildRequest) (entry : String) : FileAction Unit := do
  let path := request.inputDir / entry
  let modules ← modulesOf request.flags.bundle path
  let name := (Path.mk entry).fileName?.getD ""
  let output := outputOf request fault entry name modules
  let document := output.builder.finish
  let url ←
    match request.flags.sourcemap with
    | .linked => do
      FileAction.writeText (request.outDir / (name ++ ".map")) document.encode
      pure (name ++ ".map")
    | .inline => pure (DataUrl.encode .base64 document)
  let reference := if fault = .noReference then "" else s!"//# sourceMappingURL={url}\n"
  FileAction.writeText (request.outDir / name) (String.ofList output.code.flatten ++ reference)

/-- The tool, which makes the same mistake in every build. -/
def tool (fault : Fault) : BuildTool Unit where
  build request := Building.onFiles do
    FileAction.createAll request.outDir
    for entry in request.entries do emit fault request entry
    FileAction.query fun tree => Artifact.collect tree request.outDir

end SourceTrace.Concat
