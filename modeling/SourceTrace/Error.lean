import SourceTrace.Path
import SourceTrace.Text.Quoted
import SourceTrace.Text.Utf8
import SourceTrace.Vlq

/-!
# What can go wrong

Every cause of failure of the library, the class it is reported under and its wording. A failure
that another failure caused keeps it, so that a report can name both.
-/
namespace SourceTrace

/-- Why a file could not be read or written, or a process not be started. -/
inductive FileError where
  | notFound
  | permissionDenied
  | alreadyExists
  | notADirectory
  | isADirectory
  /-- A text was asked for and the file holds none. -/
  | notText
  /-- The line in front of a document has a carriage return that no line feed follows. -/
  | expectedNewline
  /-- Any other message. -/
  | other (message : String)
  deriving DecidableEq, Repr

def FileError.message : FileError → String
  | .notFound => "No such file or directory (os error 2)"
  | .permissionDenied => "Permission denied (os error 13)"
  | .alreadyExists => "File exists (os error 17)"
  | .notADirectory => "Not a directory (os error 20)"
  | .isADirectory => "Is a directory (os error 21)"
  | .notText => "stream did not contain valid UTF-8"
  | .expectedNewline => "expected newline"
  | .other message => message

structure Duration where
  milliseconds : Nat
  deriving DecidableEq, Repr

def Duration.ofSeconds (seconds : Nat) : Duration := ⟨1000 * seconds⟩

/-- Seconds with as many decimals as needed from one second on, milliseconds below, and no unit
smaller than a nanosecond for nothing at all. -/
def Duration.text (span : Duration) : String :=
  let seconds := span.milliseconds / 1000
  let rest := span.milliseconds % 1000
  if span.milliseconds = 0 then "0ns"
  else if seconds = 0 then s!"{rest}ms"
  else if rest = 0 then s!"{seconds}s"
  else
    let digits := (Nat.toDigits 10 (1000 + rest)).drop 1
    let decimals := (digits.reverse.dropWhile (· == '0')).reverse
    s!"{seconds}." ++ String.ofList decimals ++ "s"

inductive Category where
  | io
  | format
  | encoding
  | missingContent
  | brokenChain
  | cycle
  | build
  deriving DecidableEq, Repr

def Category.text : Category → String
  | .io => "io error"
  | .format => "format error"
  | .encoding => "encoding error"
  | .missingContent => "missing content error"
  | .brokenChain => "broken chain error"
  | .cycle => "cycle error"
  | .build => "build error"

inductive Error where
  /-- A file could not be read or written. -/
  | file (cause : FileError)
  /-- Bytes are no text. -/
  | utf8 (fault : Text.Utf8.Fault)
  /-- A document is no JSON or does not have the expected shape. -/
  | badJson
  /-- A document declares a version other than three, or none. -/
  | unsupportedVersion (version : Option Nat)
  /-- A mapping segment has another number of fields than one, four or five. -/
  | badSegmentSize (size : Nat)
  /-- A line or column of the mappings is negative or too large. -/
  | badPosition (value : Int)
  /-- A source that does not exist is referred to. -/
  | badSourceReference (id : Nat)
  /-- A name that does not exist is referred to. -/
  | badNameReference (id : Nat)
  /-- The embedded contents are not as many as the sources. -/
  | contentsMismatch (sources contents : Nat)
  /-- A generated file has no reference to a map. -/
  | missingReference (artifact : Path)
  /-- A segment of the mappings is no sequence of quantities. -/
  | vlq (cause : Vlq.Error)
  /-- An inline payload is no base64. -/
  | invalidBase64
  /-- An inline payload has a broken percent escape. -/
  | invalidPercentEscape (offset : Nat)
  /-- A data URL of another form than the supported ones. -/
  | invalidDataUrl
  /-- The text of a source cannot be found. -/
  | missingContent (source : String)
  /-- The map of a tracked build output could not be loaded. -/
  | brokenChain (source : String) (cause : Error)
  /-- A source maps back to itself through the maps of its inputs. -/
  | cycle (source : String)
  /-- The build tool failed. -/
  | buildFailed (message : String)
  /-- The build tool did not finish in time. -/
  | buildTimeout (limit : Duration)
  /-- The workers of a run could not be started. -/
  | workerPool (message : String)
  deriving DecidableEq, Repr, Inhabited

namespace Error

def category : Error → Category
  | .file _ | .workerPool _ => .io
  | .utf8 _ | .vlq _ | .invalidBase64 | .invalidPercentEscape _ | .invalidDataUrl => .encoding
  | .badJson | .unsupportedVersion _ | .badSegmentSize _ | .badPosition _ | .badSourceReference _
  | .badNameReference _ | .contentsMismatch _ _ | .missingReference _ => .format
  | .missingContent _ => .missingContent
  | .brokenChain _ _ => .brokenChain
  | .cycle _ => .cycle
  | .buildFailed _ | .buildTimeout _ => .build

/-- Whether a failure was caused by another one that it reports. -/
def isCaused : Error → Bool
  | .file _ | .utf8 _ | .badJson | .brokenChain _ _ => true
  | _ => false

def vlqMessage : Vlq.Error → String
  | .invalidDigit c => s!"invalid base64 digit {Text.Quoted.char c} in vlq"
  | .leftover => "leftover cur/shift in vlq decode"
  | .noValues => "vlq decode did not produce any values"
  | .overflow => "vlq decode overflowed"

def message : Error → String
  | .file cause => cause.message
  | .utf8 fault => fault.message
  | .badJson => "bad json"
  | .unsupportedVersion (some version) => s!"unsupported sourcemap version {version}, expected 3"
  | .unsupportedVersion none => "sourcemap does not declare a version"
  | .badSegmentSize size => s!"got {size} segments, expected 1, 4 or 5"
  | .badPosition value => s!"position {value} in mappings is out of range"
  | .badSourceReference id => s!"bad reference to source #{id}"
  | .badNameReference id => s!"bad reference to name #{id}"
  | .contentsMismatch sources contents =>
    s!"sourcesContent has {contents} entries but there are {sources} sources"
  | .missingReference artifact => s!"no sourceMappingURL reference in {artifact.text}"
  | .vlq cause => vlqMessage cause
  | .invalidBase64 => "inline sourcemap is not valid base64"
  | .invalidPercentEscape offset => s!"broken percent escape at offset {offset}"
  | .invalidDataUrl => "the provided data URL is invalid"
  | .missingContent source => s!"cannot resolve contents of {source}"
  | .brokenChain source cause => s!"cannot load the sourcemap of {source}: {cause.message}"
  | .cycle source => s!"{source} transitively maps back to itself"
  | .buildFailed message => s!"build failed: {message}"
  | .buildTimeout limit => s!"build did not finish within {limit.text}"
  | .workerPool message => s!"cannot create worker pool: {message}"

end Error

end SourceTrace
