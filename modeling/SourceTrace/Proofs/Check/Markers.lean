import SourceTrace.Check.Markers
import SourceTrace.Proofs.Document.Index

/-!
# What the marker checks decide

Following an occurrence of a marker succeeds exactly if the occurrence is attributed: a segment
starts there, leads to a place where the marker is declared, and is found again from that place. The
checks report nothing exactly if all occurrences are attributed, if all declared places are reached,
and if an artifact that was built once more reaches the same ones.
-/
namespace SourceTrace

/-- The text of a fixture file as it is written. -/
def Fixture.text? (fixture : Fixture) (ending : LineEnding) (name : String) : Option String :=
  (List.lookup name fixture.files).map ending.apply

/-- The text of a file that was written. -/
def WrittenFixture.text? (written : WrittenFixture) (name : String) : Option String :=
  (written.get? name).map FixtureFile.text

/-- A marker is declared wherever it occurs in a file that it lists and that is there. -/
def Marker.DeclaredAt (marker : Marker) (texts : String → Option String) (name : String)
    (place : Text.Place) : Prop :=
  name ∈ marker.files ∧ ∃ text, texts name = some text ∧
    place ∈ (Text.View.ofString text).findAll marker.text.toList

/-- A hit is declared if a marker of its text is declared at its place. -/
def Fixture.Declares (fixture : Fixture) (texts : String → Option String) (hit : MarkerHit) :
    Prop :=
  ∃ marker ∈ fixture.markers, marker.text = hit.marker ∧
    marker.DeclaredAt texts hit.file ⟨hit.line, hit.column⟩

/-- An occurrence in generated code is attributed to a place of a fixture file: a segment starts at
the occurrence and leads to the place, the marker is declared there, and the place leads back. -/
structure Marker.Attributed (marker : Marker) (written : WrittenFixture) (doc : Document)
    (occurrence : Text.Place) (position : SourcePosition) (file : FixtureFile) : Prop where
  starts : ∃ segment ∈ doc.segments, segment.line = occurrence.line ∧
    segment.column = occurrence.column ∧ segment.sourceLine = position.line ∧
    segment.sourceColumn = position.column ∧
    ∃ id, segment.source = some id ∧ doc.sources[id]? = some position.source
  leads : doc.lookup? occurrence.line occurrence.column = some position
  named : written.match? doc.baseDir position.source = some file
  declared : marker.DeclaredAt written.text? file.name ⟨position.line, position.column⟩
  returns : ⟨occurrence.line, occurrence.column⟩ ∈
    (Index.ofDocument doc).generated position.source position.line position.column

namespace Check

theorem lookup_filterMap {α β : Type} (file? : String → Option α) (value : α → β) (name : String)
    (names : List String) :
    List.lookup name (names.filterMap fun other => (file? other).map fun file =>
      (other, value file)) = if name ∈ names then (file? name).map value else none := by
  induction names with
  | nil => rfl
  | cons other rest ih =>
    by_cases same : name = other
    · subst same
      cases found : file? name with
      | none => simp [found, ih]
      | some file => simp [found]
    · have differs : (name == other) = false := beq_eq_false_iff_ne.mpr same
      cases found : file? other with
      | none => simp [found, ih, same]
      | some file => simp [found, ih, same, List.lookup_cons, differs]

/-- The places of a marker in a file, if it is declared there at all. -/
theorem lookup_declaredPlaces (written : WrittenFixture) (marker : Marker) (name : String) :
    List.lookup name (declaredPlaces written marker) =
      if name ∈ marker.files then
        (written.text? name).map fun text => (Text.View.ofString text).findAll marker.text.toList
      else none := by
  unfold declaredPlaces
  rw [lookup_filterMap]
  simp only [Sorting.mem_dedup, Sorting.mem_sort, WrittenFixture.text?, Option.map_map]
  rfl

/-- What the check of a place looks up is where the marker is declared. -/
theorem declaredAt_iff {written : WrittenFixture} {marker : Marker} {name : String}
    {place : Text.Place} :
    (match List.lookup name (declaredPlaces written marker) with
      | some places => places.contains place
      | none => false) = true ↔ marker.DeclaredAt written.text? name place := by
  rw [lookup_declaredPlaces]
  unfold Marker.DeclaredAt
  by_cases listed : name ∈ marker.files
  · cases written.text? name with
    | none => simp [listed]
    | some text => simp [listed]
  · simp [listed]

/-- Following an occurrence gives a hit exactly if the occurrence is attributed, and the hit is the
place it is attributed to. -/
theorem followMarker_eq_ok_iff {doc : Document} {written : WrittenFixture} {marker : Marker}
    {occurrence : Text.Place} {hit : MarkerHit} :
    followMarker ⟨Index.ofDocument doc, written⟩ marker occurrence = .ok hit ↔
      ∃ position file, marker.Attributed written doc occurrence position file ∧
        hit = ⟨marker.text, file.name, position.line, position.column⟩ := by
  constructor
  · intro followed
    unfold followMarker at followed
    dsimp only at followed
    -- every way out but the last one is a failure
    split at followed
    · cases followed
    · next position leads =>
      split at followed
      · cases followed
      · next file known =>
        obtain ⟨named, declared⟩ := Option.filter_eq_some_iff.mp known
        split at followed
        · next back =>
          have returns := List.contains_iff_mem.mp back
          cases followed
          exact ⟨position, file, ⟨Index.mem_generated.mp returns, leads, named,
            declaredAt_iff.mp declared, returns⟩, rfl⟩
        · cases followed
  · rintro ⟨position, file, attributed, rfl⟩
    have leads : (Index.ofDocument doc).sourcePosition? occurrence.line occurrence.column =
      some position := attributed.leads
    have named : written.match? (Index.ofDocument doc).document.baseDir position.source =
      some file := attributed.named
    have declared := declaredAt_iff.mpr attributed.declared
    have back := List.contains_iff_mem.mpr attributed.returns
    simp only [followMarker, leads, named]
    split
    · next unknown => exact absurd declared (Option.filter_eq_none_iff.mp unknown file rfl)
    · next other known =>
      cases (Option.filter_eq_some_iff.mp known).1
      rw [if_pos back]

/-- The hits are the places that occurrences are attributed to. -/
theorem mem_roundTrip {code : String} {doc : Document} {fixture : Fixture}
    {written : WrittenFixture} {hit : MarkerHit} :
    hit ∈ (roundTrip code (Index.ofDocument doc) fixture written).1 ↔
      ∃ marker ∈ fixture.markers,
        ∃ occurrence ∈ (Text.View.ofString code).findAll marker.text.toList,
          followMarker ⟨Index.ofDocument doc, written⟩ marker occurrence = .ok hit := by
  have ok : ∀ result : Except Failure MarkerHit, result.toOption = some hit ↔ result = .ok hit := by
    intro result
    cases result with
    | error failure => simp [Except.toOption]
    | ok other => simp [Except.toOption]
  simp only [roundTrip, MarkerHit.ascending, Sorting.mem_dedup, Sorting.mem_sort,
    List.mem_filterMap, List.mem_flatMap, List.mem_map, ok]
  constructor
  · rintro ⟨_, ⟨marker, listed, occurrence, occurs, rfl⟩, followed⟩
    exact ⟨marker, listed, occurrence, occurs, followed⟩
  · rintro ⟨marker, listed, occurrence, occurs, followed⟩
    exact ⟨_, ⟨marker, listed, occurrence, occurs, rfl⟩, followed⟩

/-- Nothing fails exactly if every occurrence of every marker is attributed. -/
theorem roundTrip_eq_nil_iff {code : String} {doc : Document} {fixture : Fixture}
    {written : WrittenFixture} :
    (roundTrip code (Index.ofDocument doc) fixture written).2 = [] ↔
      ∀ marker ∈ fixture.markers,
        ∀ occurrence ∈ (Text.View.ofString code).findAll marker.text.toList,
          ∃ position file, marker.Attributed written doc occurrence position file := by
  simp only [roundTrip, List.filterMap_eq_nil_iff, List.mem_flatMap, List.mem_map]
  constructor
  · intro passes marker listed occurrence occurs
    have here := passes _ ⟨marker, listed, occurrence, occurs, rfl⟩
    cases followed : followMarker ⟨Index.ofDocument doc, written⟩ marker occurrence with
    | error failure => simp [followed] at here
    | ok hit =>
      obtain ⟨position, file, attributed, _⟩ := followMarker_eq_ok_iff.mp followed
      exact ⟨position, file, attributed⟩
  · rintro attributed _ ⟨marker, listed, occurrence, occurs, rfl⟩
    obtain ⟨position, file, here⟩ := attributed marker listed occurrence occurs
    rw [followMarker_eq_ok_iff.mpr ⟨position, file, here, rfl⟩]

/-- Hits are declared. -/
theorem declares_of_mem_roundTrip {code : String} {doc : Document} {fixture : Fixture}
    {written : WrittenFixture} {hit : MarkerHit}
    (found : hit ∈ (roundTrip code (Index.ofDocument doc) fixture written).1) :
    fixture.Declares written.text? hit := by
  obtain ⟨marker, listed, occurrence, _, followed⟩ := mem_roundTrip.mp found
  obtain ⟨position, file, attributed, rfl⟩ := followMarker_eq_ok_iff.mp followed
  exact ⟨marker, listed, rfl, attributed.declared⟩

/-- Nothing is missing exactly if every declared place is among the hits. -/
theorem attribution_eq_nil_iff {fixture : Fixture} {written : WrittenFixture}
    {hits : List MarkerHit} :
    attribution fixture written hits = [] ↔
      ∀ hit, fixture.Declares written.text? hit → hit ∈ hits := by
  simp only [attribution, List.flatMap_eq_nil_iff]
  constructor
  · rintro complete ⟨_, name, line, column⟩ ⟨marker, listed, rfl, named, text, known, occurs⟩
    have here := complete marker listed name named
    obtain ⟨file, found, rfl⟩ := Option.map_eq_some_iff.mp known
    rw [found] at here
    by_cases reached : ⟨marker.text, name, line, column⟩ ∈ hits
    · exact reached
    · simpa [reached] using List.filterMap_eq_nil_iff.mp here ⟨line, column⟩ occurs
  · intro complete marker listed name named
    split
    · rfl
    · next file found =>
      refine List.filterMap_eq_nil_iff.mpr ?_
      intro place occurs
      have known : written.text? name = some file.text := by
        rw [WrittenFixture.text?, found, Option.map_some]
      have reached := complete ⟨marker.text, name, place.line, place.column⟩
        ⟨marker, listed, rfl, named, file.text, known, occurs⟩
      rw [if_pos (List.contains_iff_mem.mpr reached)]

/-- Nothing is lost or gained exactly if the hits are the same. -/
theorem chainHits_eq_nil_iff {primary chained : List MarkerHit} :
    chainHits primary chained = [] ↔ ∀ hit, hit ∈ chained ↔ hit ∈ primary := by
  simp only [chainHits, List.append_eq_nil_iff, List.map_eq_nil_iff, List.filter_eq_nil_iff,
    Bool.not_eq_true', Bool.not_eq_false, List.contains_iff_mem]
  constructor
  · rintro ⟨kept, known⟩ hit
    exact ⟨known hit, kept hit⟩
  · intro same
    exact ⟨fun hit => (same hit).mpr, fun hit => (same hit).mp⟩

end Check

end SourceTrace
