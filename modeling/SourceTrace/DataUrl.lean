import SourceTrace.Base64
import SourceTrace.Document.Decode
import SourceTrace.Document.Encode
import SourceTrace.Percent
import SourceTrace.Text.Blank

/-!
# Documents inside URLs

A `data:` URL carries a document as its payload, in base64 or with percent escapes. The media type
must be that of JSON or left out; of the parameters behind it only `base64` matters.
-/
namespace SourceTrace.DataUrl

inductive Encoding where
  | base64
  | percent
  deriving DecidableEq, Repr

def afterScheme? (url : List Char) : Option (List Char) :=
  if Text.sameIgnoringCase (url.take 5) "data:".toList then some (url.drop 5) else none

def isDataUrl (url : String) : Bool := (afterScheme? url.toList).isSome

def payload (url : String) : Except Error (Encoding × List UInt8) := do
  let some rest := afterScheme? url.toList | throw .invalidDataUrl
  let some (header, data) := Text.cutAt? [','] rest | throw .invalidDataUrl
  let params := (Text.split (· == ';') header).map Text.trim
  let media := params.headD []
  if !media.isEmpty && !Text.sameIgnoringCase media "application/json".toList then
    throw .invalidDataUrl
  if params.tail.any (Text.sameIgnoringCase "base64".toList) then
    match Base64.decode? (Text.trim data) with
    | some bytes => return (.base64, bytes)
    | none => throw .invalidBase64
  else
    let bytes := Text.Utf8.encode data
    match Percent.firstBroken? bytes with
    | some offset => throw (.invalidPercentEscape offset)
    | none => return (.percent, Percent.decode bytes)

def decode (url : String) : Except Error Document := do
  let (_, bytes) ← payload url
  Document.decode bytes

/-- The ASCII bytes that a payload with percent escapes does not show as they are: the controls, the
space and the characters that end a URL or that readers do not expect in one. -/
def isReserved (b : UInt8) : Bool :=
  b ≤ 0x20 || b == 0x7f || "\"#%<>\x60\\^\x7b|\x7d".toList.any fun c => c.toNat == b.toNat

def encode (encoding : Encoding) (doc : Document) : String :=
  let bytes := doc.encodeBytes
  match encoding with
  | .base64 => "data:application/json;base64," ++ String.ofList (Base64.encode bytes)
  | .percent => "data:application/json," ++ String.ofList (Percent.encode isReserved bytes)

end SourceTrace.DataUrl
