import SourceTrace.Document.Mappings
import SourceTrace.Json.Reader

/-!
# Reading documents

A document is a JSON record, which a line that scripts cannot run may precede. Some things that
occur in practice are let pass: sources may be null, names may be anything, and the name of the
generated file may be something else than a text.
-/
namespace SourceTrace

/-- Bytes that the line in front of a document starts with. -/
def isGuard (b : UInt8) : Bool := b == 0x29 || b == 0x5d || b == 0x7d || b == 0x27

/-- Passes the line in front of a document: what is left from its line feed on. A carriage return
must stand right before the line feed. -/
def passGuard (expectNewline : Bool) : List UInt8 → Except FileError (List UInt8)
  | [] => .ok []
  | b :: rest =>
    if b == 0x0a then .ok (b :: rest)
    else if expectNewline then .error .expectedNewline
    else passGuard (b == 0x0d) rest

/-- The document without the line in front of it, if it has one. -/
def withoutGuard (bytes : List UInt8) : Except FileError (List UInt8) :=
  match bytes with
  | [] => .ok []
  | b :: _ => if isGuard b then passGuard false bytes else .ok bytes

/-- The record of a document as it is written. -/
structure RawMap where
  version : Option Nat
  file : Option Json.Tree
  sources : Option (List (Option String))
  sourceRoot : Option String
  contents : Option (List (Option String))
  names : Option (List Json.Tree)
  mappings : Option String

namespace RawMap

def keys : List String :=
  ["version", "file", "sources", "sourceRoot", "sourcesContent", "names", "mappings"]

def read? (tree : Json.Tree) : Option RawMap := do
  let texts := Json.Reader.list (Json.Reader.nullable Json.Reader.string)
  match ← Json.Fields.of? keys keys.length tree with
  | [version, file, sources, sourceRoot, contents, names, mappings] =>
    return {
      version := ← Json.optional Json.Reader.natural32 version
      file := ← Json.optional (Json.Reader.anything 1) file
      sources := ← Json.optional texts sources
      sourceRoot := ← Json.optional Json.Reader.string sourceRoot
      contents := ← Json.optional texts contents
      names := ← Json.optional (Json.Reader.list (Json.Reader.anything 2)) names
      mappings := ← Json.optional Json.Reader.string mappings }
  | _ => none

end RawMap

/-- The text of a name: texts and numbers have one, anything else is nameless. -/
def nameText (tree : Json.Tree) : String :=
  match tree with
  | .text pieces => (Json.text? pieces).getD ""
  | .number n => n.text?.getD ""
  | _ => ""

def fileText (tree : Json.Tree) : String :=
  match tree with
  | .text pieces => (Json.text? pieces).getD ""
  | _ => "<invalid>"

/-- Whether a source stands on its own and does not belong below the source root. -/
def isRooted (source : String) : Bool :=
  ["/", "http:", "https:", "file:"].any fun lead =>
    (Text.after? lead.toList source.toList).isSome

def underRoot (root source : String) : String :=
  if isRooted source then source
  else
    let dir := (root.toList.reverse.dropWhile (· == '/')).reverse
    String.ofList dir ++ "/" ++ source

/-- The sources, each below the source root if there is one. -/
def rootedSources (root : Option String) (sources : List String) : List String :=
  match root with
  | some root => if root == "" then sources else sources.map (underRoot root)
  | none => sources

namespace Document

def ofRaw (raw : RawMap) : Except Error Document := do
  if raw.version != some Document.version then throw (.unsupportedVersion raw.version)
  let sources := (raw.sources.getD []).map (·.getD "")
  let names := (raw.names.getD []).map nameText
  if let some contents := raw.contents then
    if contents.length != sources.length then
      throw (.contentsMismatch sources.length contents.length)
  let mappings := raw.mappings.getD ""
  let segments ← Mappings.decode mappings.toList sources.length names.length
  return ofParts (raw.file.map fileText) segments names (rootedSources raw.sourceRoot sources)
    raw.contents

def decode (bytes : List UInt8) : Except Error Document := do
  let json ← (withoutGuard bytes).mapError Error.file
  match (Json.parse? json).bind RawMap.read? with
  | some raw => ofRaw raw
  | none => throw .badJson

end Document

/-- Whether bytes hold a record that is a source map by its keys: a version, mappings, and sources
or names. -/
def isSourceMap (bytes : List UInt8) : Bool :=
  let read : Option Bool := do
    let json ← (withoutGuard bytes).toOption
    match ← Json.Fields.of? ["version", "sources", "names", "mappings"] 4 (← Json.parse? json) with
    | [version, sources, names, mappings] =>
      let given (field : Option Json.Tree) : Bool :=
        match field with
        | none | some .null => false
        | _ => true
      let version ← Json.optional Json.Reader.natural32 version
      return version.isSome && (given sources || given names) && given mappings
    | _ => none
  read.getD false

end SourceTrace
