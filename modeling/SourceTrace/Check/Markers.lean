import SourceTrace.Check.Failure
import SourceTrace.Document.Index
import SourceTrace.Fixture.Written
import SourceTrace.Text.View

/-!
# Markers lead back to where they were declared

Every occurrence of a marker in generated code must lead to a place where the fixture declares the
marker, and that place must lead back to the occurrence. Over all artifacts every declared place
must be reached.
-/
namespace SourceTrace

/-- A marker that was found in generated code and leads to a place of a fixture file. -/
structure MarkerHit where
  marker : String
  file : String
  line : Nat
  column : Nat
  deriving DecidableEq, Repr

namespace MarkerHit

/-- The order by marker, file, line and column. -/
def le (left right : MarkerHit) : Bool :=
  if left.marker ≠ right.marker then left.marker < right.marker
  else if left.file ≠ right.file then left.file < right.file
  else if left.line ≠ right.line then left.line < right.line
  else left.column ≤ right.column

/-- The place that a hit leads to. -/
def place (hit : MarkerHit) : String := s!"{hit.file}:{hit.line}:{hit.column}"

def text (hit : MarkerHit) : String := s!"{hit.marker} at {hit.place}"

/-- Hits in ascending order, each once. -/
def ascending (hits : List MarkerHit) : List MarkerHit := Sorting.dedup (Sorting.sort le hits)

end MarkerHit

namespace Check

/-- Everything that a marker check looks at. -/
structure MarkerScene where
  index : Index
  written : WrittenFixture

/-- Where a marker is declared: for every file of the marker that was written, its places. -/
def declaredPlaces (written : WrittenFixture) (marker : Marker) :
    List (String × List Text.Place) :=
  let names := Sorting.dedup (Sorting.sort Sorting.textLe marker.files)
  names.filterMap fun name =>
    (written.get? name).map fun file =>
      (name, (Text.View.ofString file.text).findAll marker.text.toList)

def placesText (file : String) (places : List Text.Place) : String :=
  Text.join ", " (places.map fun place => s!"{file}:{place.line}:{place.column}")

def bracketed (texts : List String) : String := "[" ++ Text.join ", " texts ++ "]"

/-- Follows one occurrence of a marker to its place in the source and back. -/
def followMarker (scene : MarkerScene) (marker : Marker) (occurrence : Text.Place) :
    Except Failure MarkerHit :=
  let line := occurrence.line
  let column := occurrence.column
  let declared := declaredPlaces scene.written marker
  match scene.index.sourcePosition? line column with
  | none =>
    .error <| (Failure.of .roundTrip s!"marker {marker.text} at {line}:{column} has no mapping")
      |>.observing "unmapped"
  | some position =>
    let file := scene.written.match? scene.index.document.baseDir position.source
    let known := file.filter fun file =>
      match List.lookup file.name declared with
      | some places => places.contains ⟨position.line, position.column⟩
      | none => false
    match known with
    | none =>
      .error <| (Failure.of .roundTrip
        s!"marker {marker.text} at {line}:{column} resolves to an undeclared location")
        |>.expecting (Text.join ", " (declared.map fun (name, places) => placesText name places))
        |>.observing position.text
    | some file =>
      let back := scene.index.generated position.source position.line position.column
      let generated : GeneratedPosition := ⟨line, column⟩
      if back.contains generated then
        .ok { marker := marker.text, file := file.name, line := position.line,
              column := position.column }
      else
        let place := s!"{file.name}:{position.line}:{position.column}"
        .error <| (Failure.of .roundTrip s!"{place} does not map back to marker {marker.text}")
          |>.expecting generated.text
          |>.observing (bracketed (back.map GeneratedPosition.text))

/-- Follows every occurrence of every marker in generated code: the hits, and what failed. -/
def roundTrip (code : String) (index : Index) (fixture : Fixture) (written : WrittenFixture) :
    List MarkerHit × List Failure :=
  let view := Text.View.ofString code
  let results := fixture.markers.flatMap fun marker =>
    (view.findAll marker.text.toList).map (followMarker ⟨index, written⟩ marker)
  let hits := results.filterMap Except.toOption
  let failures := results.filterMap fun result =>
    match result with
    | .error failure => some failure
    | .ok _ => none
  (MarkerHit.ascending hits, failures)

/-- Every declared place of every marker must be among the hits. -/
def attribution (fixture : Fixture) (written : WrittenFixture) (hits : List MarkerHit) :
    List Failure :=
  fixture.markers.flatMap fun marker => marker.files.flatMap fun name =>
    match written.get? name with
    | none => []
    | some file =>
      (Text.View.ofString file.text).findAll marker.text.toList |>.filterMap fun place =>
        let hit : MarkerHit :=
          { marker := marker.text, file := name, line := place.line, column := place.column }
        if hits.contains hit then none
        else
          let reached := (hits.filter (·.marker == marker.text)).map MarkerHit.place
          some <| (Failure.of .roundTrip
            s!"declared occurrence of marker {marker.text} is never resolved to")
            |>.expecting hit.place
            |>.observing (bracketed reached)

/-- The markers of an artifact that was built once more must lead to the same places as before. -/
def chainHits (primary chained : List MarkerHit) : List Failure :=
  let lost := primary.filter fun hit => !chained.contains hit
  let gained := chained.filter fun hit => !primary.contains hit
  (lost.map fun hit =>
    (Failure.of .chain "marker location is lost after re-bundling").expecting hit.text) ++
  gained.map fun hit =>
    (Failure.of .chain "re-bundling resolves a marker to a new location").observing hit.text

end Check

end SourceTrace
