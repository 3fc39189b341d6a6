/-!
# Failed checks

What a check reports when something does not hold.
-/
namespace SourceTrace

inductive CheckKind where
  | roundTrip
  | coverage
  | nameFidelity
  | chain
  | content
  | associativity
  | uniqueness
  deriving DecidableEq, Repr

def CheckKind.text : CheckKind → String
  | .roundTrip => "round-trip"
  | .coverage => "coverage"
  | .nameFidelity => "name-fidelity"
  | .chain => "chain"
  | .content => "content"
  | .associativity => "associativity"
  | .uniqueness => "uniqueness"

structure Failure where
  check : CheckKind
  message : String
  expected : Option String
  observed : Option String
  /-- The artifact or the step of a chain that was checked. -/
  context : Option String
  deriving DecidableEq, Repr

namespace Failure

def of (check : CheckKind) (message : String) : Failure :=
  { check, message, expected := none, observed := none, context := none }

def expecting (failure : Failure) (expected : String) : Failure :=
  { failure with expected := some expected }

def observing (failure : Failure) (observed : String) : Failure :=
  { failure with observed := some observed }

def within (failure : Failure) (context : String) : Failure :=
  { failure with context := some context }

end Failure

end SourceTrace
