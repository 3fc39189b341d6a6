import SourceTrace.Check.Failure
import SourceTrace.Document.Index
import SourceTrace.Fixture.Written
import SourceTrace.Text.View

/-!
# Identifiers keep their names

Wherever a tagged identifier of a fixture file ends up in generated code, the code must spell its
name there or the segment must carry it. Every tagged name must be mapped at least once.
-/
namespace SourceTrace.Check

structure IdentifierAt where
  column : Nat
  name : List Char
  deriving DecidableEq, Repr

/-- The identifiers in the rest of a line, where `before` is the last character in front of it. -/
def identifiersFrom (column : Nat) (before : Option Char) : List Char → List IdentifierAt
  | [] => []
  | c :: rest =>
    let more := identifiersFrom (column + Text.unitWidth c) (some c) rest
    if before.any Text.Identifier.isContinue then more
    else
      match Text.Identifier.leading? (c :: rest) with
      | some name => ⟨column, name⟩ :: more
      | none => more

def identifiers (line : List Char) : List IdentifierAt := identifiersFrom 0 none line

/-- A tagged identifier of a fixture file with the generated positions it is mapped to. -/
structure TaggedName where
  file : String
  line : Nat
  column : Nat
  name : String
  positions : List GeneratedPosition
  deriving DecidableEq, Repr

/-- The tagged identifiers of all fixture files that the document knows, in order. -/
def taggedNames (index : Index) (tag : String) (written : WrittenFixture) : List TaggedName :=
  written.files.flatMap fun file =>
    match written.sourceId? index.document file.name with
    | none => []
    | some id =>
      (Text.lines file.text.toList).zipIdx.flatMap fun (line, number) =>
        let tagged := (identifiers line).filter fun found =>
          (Text.after? tag.toList found.name).isSome
        tagged.map fun found =>
          { file := file.name, line := number, column := found.column,
            name := String.ofList found.name,
            positions := index.generatedFromId id number found.column }

/-- What is wrong with one generated position of a tagged identifier. -/
def renamed? (view : Text.View) (doc : Document) (tagged : TaggedName)
    (position : GeneratedPosition) : Option Failure :=
  let literal := (view.identifier? position.line position.column).map String.ofList
  let carried :=
    match doc.segmentAt? position.line position.column with
    | some segment =>
      segment.line == position.line && segment.column == position.column &&
        doc.segmentName? segment == some tagged.name
    | none => false
  if literal == some tagged.name || carried then none
  else
    let place := s!"{tagged.file}:{tagged.line}:{tagged.column}"
    some <| (Failure.of .nameFidelity
      s!"{place} is renamed at {position.text} without a segment name")
      |>.expecting tagged.name
      |>.observing (literal.getD "<no identifier>")

/-- Tagged identifiers must keep their names, and every tagged name must be mapped. -/
def names (code : String) (index : Index) (fixture : Fixture) (written : WrittenFixture) :
    List Failure :=
  match fixture.namePrefix with
  | none => []
  | some tag =>
    if tag == "" then []
    else
      let view := Text.View.ofString code
      let tagged := taggedNames index tag written
      let renamed := tagged.flatMap fun name =>
        name.positions.filterMap (renamed? view index.document name)
      let isMapped (name : String) : Bool :=
        tagged.any fun found => found.name == name && !found.positions.isEmpty
      let all := Sorting.dedup (Sorting.sort Sorting.textLe (tagged.map (·.name)))
      let unmapped := all.filter fun name => !isMapped name
      renamed ++ unmapped.map fun name =>
        (Failure.of .nameFidelity "identifier is never mapped").expecting name

end SourceTrace.Check
