import SourceTrace.FileAction
import SourceTrace.Reference
import SourceTrace.Source

/-!
# Generated files with their maps

An artifact is a generated file together with the document that its reference leads to. It can be
written to another place with the document attached in any of three ways; its sources are then
renamed so that they name the same files from there.
-/
namespace SourceTrace

/-- How a document is attached to a generated file. -/
inductive Embedding where
  /-- In a file next to it. -/
  | linked
  /-- In the reference, as base64. -/
  | inlineBase64
  /-- In the reference, with percent escapes. -/
  | inlinePercent
  deriving DecidableEq, Repr

namespace Embedding

def text : Embedding → String
  | .linked => "linked"
  | .inlineBase64 => "inline-base64"
  | .inlinePercent => "inline-percent"

def all : List Embedding := [.linked, .inlineBase64, .inlinePercent]

def ofEncoding : DataUrl.Encoding → Embedding
  | .base64 => .inlineBase64
  | .percent => .inlinePercent

end Embedding

/-- A generated file with its document. -/
structure Artifact where
  path : Path
  /-- The whole text, the reference included. -/
  text : String
  document : Document
  embedding : Embedding
  /-- The file of a linked document. -/
  mapPath : Option Path
  deriving DecidableEq, Repr

/-- The document as seen from another directory, with its sources renamed to name the same files
from there. -/
def Document.rebase (doc : Document) (dir : Path) : Document :=
  { doc with
    sources := doc.sources.map fun source => Source.rebase source doc.baseDir (some dir)
    baseDir := some dir }

namespace Artifact

/-- The artifact of a text that stands at a path. A linked document is read from its file. -/
def ofText (tree : FileTree) (path : Path) (text : String) : Except Error Artifact := do
  let some reference := Reference.locate? text | throw (.missingReference path)
  if reference.isEmbedded then
    let (encoding, bytes) ← DataUrl.payload reference.url
    let document ← Document.decode bytes
    return {
      path, text, document := document.setBaseDir path.parent?,
      embedding := Embedding.ofEncoding encoding, mapPath := none }
  else
    let some mapPath := reference.path? path | throw (.missingReference path)
    let bytes ← (tree.read mapPath).mapError Error.file
    let document ← Document.decode bytes
    return {
      path, text, document := document.setBaseDir mapPath.parent?,
      embedding := .linked, mapPath := some mapPath }

def load (tree : FileTree) (path : Path) : Except Error Artifact := do
  let text ← (tree.readText path).mapError Error.file
  ofText tree path text

def code (artifact : Artifact) : String := Reference.codeOf artifact.text

/-- Whether references in a file are written as stylesheets write comments. -/
def isStylesheet (path : Path) : Bool := path.extension? == some "css"

def referenceLine (dest : Path) (url : String) : String :=
  if isStylesheet dest then s!"/*# sourceMappingURL={url} */\n"
  else s!"//# sourceMappingURL={url}\n"

/-- Code that ends with a line feed unless it is empty. -/
def closeLine (code : String) : String :=
  if code == "" || code.toList.getLast? == some '\n' then code else code ++ "\n"

/-- Writes the code to `dest` with the document attached as asked, and gives back the artifact that
then stands there. A linked document goes to the file of the same name with `.map` behind it. -/
def writeTo (artifact : Artifact) (dest : Path) (embedding : Embedding) : FileAction Artifact := do
  let dir := dest.parent?.getD ⟨""⟩
  let document := artifact.document.rebase dir
  let url ←
    match embedding with
    | .linked => do
      let name := dest.fileName?.getD "" ++ ".map"
      FileAction.writeText (dir / name) document.encode
      pure name
    | .inlineBase64 => pure (DataUrl.encode .base64 document)
    | .inlinePercent => pure (DataUrl.encode .percent document)
  let text := closeLine artifact.code ++ referenceLine dest url
  FileAction.writeText dest text
  FileAction.query fun tree => ofText tree dest text

/-- Whether a file can be generated code. -/
def isGenerated (path : Path) : Bool :=
  match path.extension? with
  | some extension => ["js", "mjs", "cjs", "css"].contains extension
  | none => false

/-- All artifacts in a directory, in the order of their names. Maps are reached through them. -/
def collect (tree : FileTree) (dir : Path) : Except Error (List Artifact) := do
  let names ← (tree.list dir).mapError Error.file
  let paths := (Sorting.sort Sorting.textLe names).map fun name => dir / name
  let generated := paths.filter fun path => isGenerated path && tree.isFile path
  generated.mapM (load tree)

end Artifact

end SourceTrace
