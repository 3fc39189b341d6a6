import SourceTrace.Check.Failure
import SourceTrace.Error
import SourceTrace.Fixture.Flags

/-!
# Reports

The outcomes of building fixtures under all their settings, and how they are told.
-/
namespace SourceTrace

/-- What came of building one fixture with one combination of settings. -/
structure Outcome where
  fixture : String
  kind : String
  flags : BuildFlags
  failures : List Failure
  /-- What stopped the run before all checks were made. -/
  error : Option (Category × String)
  workDir : Path
  /-- Whether the files of the run were kept. -/
  retained : Bool
  deriving DecidableEq, Repr

namespace Outcome

def start (fixture kind : String) (flags : BuildFlags) (workDir : Path) : Outcome :=
  { fixture, kind, flags, failures := [], error := none, workDir, retained := false }

def abort (outcome : Outcome) (cause : Error) : Outcome :=
  { outcome with error := some (cause.category, cause.message) }

def passed (outcome : Outcome) : Bool := outcome.failures.isEmpty && outcome.error.isNone

def failureCount (outcome : Outcome) : Nat :=
  outcome.failures.length + if outcome.error.isSome then 1 else 0

def heading (outcome : Outcome) : String :=
  s!"[{outcome.kind}] {outcome.fixture} ({outcome.flags.text})"

def failureText (outcome : Outcome) (failure : Failure) : String :=
  let context := match failure.context with
    | some context => s!" in {context}"
    | none => ""
  let line (lead : String) (text : Option String) : String :=
    match text with
    | some text => s!"    {lead}: {text}\n"
    | none => ""
  s!"{outcome.heading} {failure.check.text}{context}: {failure.message}\n" ++
    line "- expected" failure.expected ++ line "+ observed" failure.observed

def text (outcome : Outcome) : String :=
  let error := match outcome.error with
    | some (category, message) => s!"{outcome.heading}: {category.text} error: {message}\n"
    | none => ""
  let kept :=
    if outcome.retained && !outcome.passed then s!"    files kept in {outcome.workDir.text}\n"
    else ""
  error ++ String.join (outcome.failures.map outcome.failureText) ++ kept

end Outcome

structure Report where
  outcomes : List Outcome
  deriving DecidableEq, Repr

namespace Report

def failed (report : Report) : List Outcome := report.outcomes.filter (!·.passed)

def hasFailures (report : Report) : Bool := report.outcomes.any (!·.passed)

def failureCount (report : Report) : Nat :=
  report.outcomes.foldl (fun count outcome => count + outcome.failureCount) 0

def text (report : Report) : String :=
  let total := report.outcomes.length
  let passed := total - report.failed.length
  String.join (report.failed.map Outcome.text) ++
    s!"{passed} of {total} runs passed, {report.failureCount} failures\n"

end Report

end SourceTrace
