import SourceTrace.Document.Mappings
import SourceTrace.Json.Printer
import SourceTrace.Text.Utf8

/-!
# Writing documents

The JSON text of a document: the version, the generated file if it has a name, the sources, their
contents if the document carries any, the names and the mappings.
-/
namespace SourceTrace.Document

def members (doc : Document) : List (String × List Char) :=
  let file := doc.file.toList.map fun file => ("file", Json.quote file)
  let contents :=
    if doc.contents.isSome then
      [("sourcesContent", Json.array (doc.sourceContents.map Json.quoteOrNull))]
    else []
  [("version", (toString Document.version).toList)] ++ file ++
    [("sources", Json.array (doc.sources.map Json.quote))] ++ contents ++
    [("names", Json.array (doc.names.map Json.quote)),
     ("mappings", Json.quote (String.ofList (Mappings.encode doc)))]

def encode (doc : Document) : String := String.ofList (Json.object doc.members)

def encodeBytes (doc : Document) : List UInt8 := Text.Utf8.bytes doc.encode

end SourceTrace.Document
