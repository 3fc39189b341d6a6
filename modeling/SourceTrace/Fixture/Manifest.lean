import SourceTrace.Fixture.Basic
import SourceTrace.Json.Reader

/-!
# Manifests

A manifest is a JSON array of fixtures. What a fixture leaves out has a default, except its name,
its files and its entries.
-/
namespace SourceTrace

namespace Manifest

def lineEnding : Json.Reader LineEnding := Json.Reader.word [("lf", .lf), ("crlf", .crlf)]

def entryMode : Json.Reader EntryMode := Json.Reader.word [("file", .file), ("stdin", .stdin)]

def mapMode : Json.Reader MapMode := Json.Reader.word [("linked", .linked), ("inline", .inline)]

def embedding : Json.Reader Embedding :=
  Json.Reader.word (Embedding.all.map fun embedding => (embedding.text, embedding))

def chainOrder : Json.Reader ChainOrder :=
  Json.Reader.word (ChainOrder.all.map fun order => (order.text, order))

def matrix : Json.Reader Matrix := fun tree => do
  let keys := ["minify", "line_endings", "entry_modes", "bundle", "code_splitting", "sourcemap"]
  let standard := Matrix.standard
  match ← Json.Fields.of? keys 0 tree with
  | [minify, lineEndings, entryModes, bundle, codeSplitting, sourcemap] =>
    let bools := Json.Reader.list Json.Reader.bool
    return {
      minify := ← Json.withDefault standard.minify bools minify
      lineEndings := ←
        Json.withDefault standard.lineEndings (Json.Reader.list lineEnding) lineEndings
      entryModes := ← Json.withDefault standard.entryModes (Json.Reader.list entryMode) entryModes
      bundle := ← Json.withDefault standard.bundle bools bundle
      codeSplitting := ← Json.withDefault standard.codeSplitting bools codeSplitting
      sourcemap := ← Json.withDefault standard.sourcemap (Json.Reader.list mapMode) sourcemap }
  | _ => none

def extraFile : Json.Reader ExtraFile := fun tree => do
  match ← Json.Fields.of? ["name", "text"] 2 tree with
  | [name, text] =>
    return ⟨← Json.required Json.Reader.string name, ← Json.required Json.Reader.string text⟩
  | _ => none

def chainSetup : Json.Reader ChainSetup := fun tree => do
  let standard := ChainSetup.standard
  match ← Json.Fields.of? ["embeddings", "orders", "extra"] 0 tree with
  | [embeddings, orders, extra] =>
    return {
      embeddings := ← Json.withDefault standard.embeddings (Json.Reader.list embedding) embeddings
      orders := ← Json.withDefault standard.orders (Json.Reader.list chainOrder) orders
      extra := ← Json.withDefault standard.extra extraFile extra }
  | _ => none

def marker : Json.Reader Marker := fun tree => do
  match ← Json.Fields.of? ["text", "files"] 2 tree with
  | [text, files] =>
    return ⟨← Json.required Json.Reader.string text,
      ← Json.required (Json.Reader.list Json.Reader.string) files⟩
  | _ => none

/-- Puts an entry into a list that is in ascending order of its keys. A later entry replaces an
earlier one of the same key. -/
def putFile (name text : String) : List (String × String) → List (String × String)
  | [] => [(name, text)]
  | (known, old) :: rest =>
    if name = known then (name, text) :: rest
    else if name < known then (name, text) :: (known, old) :: rest
    else (known, old) :: putFile name text rest

def fileMap : Json.Reader (List (String × String)) := fun tree => do
  let entries ← Json.Reader.entries Json.Reader.string tree
  return entries.foldl (fun files (name, text) => putFile name text files) []

def fixture : Json.Reader Fixture := fun tree => do
  let keys := ["name", "kind", "files", "entries", "markers", "name_prefix", "matrix", "chain"]
  match ← Json.Fields.of? keys 4 tree with
  | [name, kind, files, entries, markers, namePrefix, matrixField, chain] =>
    return {
      name := ← Json.required Json.Reader.string name
      kind := ← Json.optional Json.Reader.string kind
      files := ← Json.required fileMap files
      entries := ← Json.required (Json.Reader.list Json.Reader.string) entries
      markers := ← Json.withDefault [] (Json.Reader.list marker) markers
      namePrefix := ← Json.optional Json.Reader.string namePrefix
      matrix := ← Json.withDefault Matrix.standard matrix matrixField
      chain := ← Json.optional chainSetup chain }
  | _ => none

def decode (bytes : List UInt8) : Except Error (List Fixture) :=
  match (Json.parse? bytes).bind (Json.Reader.list fixture) with
  | some fixtures => .ok fixtures
  | none => .error .badJson

def load (tree : FileTree) (path : Path) : Except Error (List Fixture) := do
  decode (← (tree.read path).mapError Error.file)

end Manifest

end SourceTrace
