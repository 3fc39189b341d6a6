/-!
# Build flags

The settings that a build is run with, and the ways in which a build output is fed to the tool
again.
-/
namespace SourceTrace

inductive LineEnding where
  | lf
  | crlf
  deriving DecidableEq, Repr

namespace LineEnding

/-- The text with every pair of carriage return and line feed replaced by the line feed alone. -/
def toLf : List Char → List Char
  | [] => []
  | '\r' :: '\n' :: rest => '\n' :: toLf rest
  | c :: rest => c :: toLf rest

/-- The text with a carriage return in front of every line feed. -/
def toCrlf (text : List Char) : List Char :=
  text.flatMap fun c => if c = '\n' then ['\r', '\n'] else [c]

/-- The text with its line terminators replaced. A carriage return on its own stays. -/
def apply (ending : LineEnding) (text : String) : String :=
  let plain := toLf text.toList
  match ending with
  | .lf => String.ofList plain
  | .crlf => String.ofList (toCrlf plain)

end LineEnding

inductive EntryMode where
  | file
  | stdin
  deriving DecidableEq, Repr

inductive MapMode where
  | linked
  | inline
  deriving DecidableEq, Repr

def MapMode.text : MapMode → String
  | .linked => "linked"
  | .inline => "inline"

structure BuildFlags where
  minify : Bool
  lineEnding : LineEnding
  entryMode : EntryMode
  bundle : Bool
  codeSplitting : Bool
  sourcemap : MapMode
  deriving DecidableEq, Repr

namespace BuildFlags

/-- Every file on its own, as it is, with a linked map. -/
def plain : BuildFlags :=
  { minify := false, lineEnding := .lf, entryMode := .file, bundle := false,
    codeSplitting := false, sourcemap := .linked }

/-- The names of the settings that differ from the plain ones, and the way maps are attached. -/
def text (flags : BuildFlags) : String :=
  let given (isGiven : Bool) (name : String) : List String := if isGiven then [name] else []
  String.intercalate "," <|
    given flags.minify "minify" ++ given (flags.lineEnding = .crlf) "crlf" ++
    given (flags.entryMode = .stdin) "stdin" ++ given flags.bundle "bundle" ++
    given flags.codeSplitting "splitting" ++ [flags.sourcemap.text]

end BuildFlags

/-- What an artifact is bundled with when it is fed to the build tool again. -/
inductive ChainOrder where
  /-- Nothing: it is the only entry. -/
  | alone
  /-- An entry that imports it before an unrelated file. -/
  | artifactFirst
  /-- An entry that imports it after an unrelated file. -/
  | artifactSecond
  deriving DecidableEq, Repr

namespace ChainOrder

def text : ChainOrder → String
  | .alone => "alone"
  | .artifactFirst => "artifact-first"
  | .artifactSecond => "artifact-second"

def all : List ChainOrder := [.alone, .artifactFirst, .artifactSecond]

/-- The text of the entry that imports both files, unless the artifact itself is the entry. -/
def entrySource? (order : ChainOrder) (artifact extra : String) : Option String :=
  let both (first second : String) : String :=
    s!"import \"./{first}\";\nimport \"./{second}\";\n"
  match order with
  | .alone => none
  | .artifactFirst => some (both artifact extra)
  | .artifactSecond => some (both extra artifact)

end ChainOrder

end SourceTrace
