import SourceTrace.Check.Failure
import SourceTrace.Compose.Layered

/-!
# Composed documents agree with the layers

A composed document must lead every segment of the outer document to where following the layers one
by one leads.
-/
namespace SourceTrace.Check

def positionText : Option SourcePosition → String
  | some position => position.text
  | none => "unmapped"

/-- What is wrong with the composed position of a segment, given what the layers lead to. -/
def associativityFailure? (segment : Segment) (observed : Option SourcePosition)
    (layered : Except Error (Option SourcePosition)) : Option Failure :=
  let place := s!"{segment.line}:{segment.column}"
  match layered with
  | .ok expected =>
    if expected = observed then none
    else
      some <| (Failure.of .associativity
        s!"composed lookup at {place} differs from layered lookup")
        |>.expecting (positionText expected)
        |>.observing (positionText observed)
  | .error cause =>
    some <| (Failure.of .associativity s!"layered lookup at {place} failed")
      |>.observing cause.message

/-- Checks segments one by one; the resolver remembers what it was asked. -/
def associativityOf {σ : Type} (resolver : Resolver σ) (outer composed : Document) :
    List Segment → σ → List Failure × σ
  | [], memory => ([], memory)
  | segment :: rest, memory =>
    let observed := composed.lookup? segment.line segment.column
    let (layered, memory) := Layered.resolve resolver outer segment.line segment.column memory
    let (failures, memory) := associativityOf resolver outer composed rest memory
    ((associativityFailure? segment observed layered).toList ++ failures, memory)

/-- A composed document must agree with the layers at every segment of the outer document. -/
def associativity {σ : Type} (resolver : Resolver σ) (outer composed : Document) (memory : σ) :
    List Failure × σ :=
  associativityOf resolver outer composed outer.segments memory

end SourceTrace.Check
