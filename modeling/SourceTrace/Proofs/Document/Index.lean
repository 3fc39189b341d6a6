import SourceTrace.Document.Index

/-!
# What an index lists

The index of a document lists, for a source position, the places of exactly those segments that lead
to it.
-/
namespace SourceTrace

theorem Sorting.mem_sort {α : Type} {le : α → α → Bool} {list : List α} {a : α} :
    a ∈ sort le list ↔ a ∈ list :=
  (sort_perm le list).mem_iff

theorem Sorting.mem_dedup {α : Type} [DecidableEq α] {list : List α} {a : α} :
    a ∈ dedup list ↔ a ∈ list := by
  fun_induction dedup list with
  | case1 => rfl
  | case2 b => rfl
  | case3 b rest ih => simp [ih]
  | case4 b c rest _ ih => simp [ih]

namespace Index

theorem mem_ascending {positions : List GeneratedPosition} {position : GeneratedPosition} :
    position ∈ ascending positions ↔ position ∈ positions :=
  Sorting.mem_dedup.trans Sorting.mem_sort

/-- The positions of a group, none if there is no such group. -/
def group (groups : List (Origin × List GeneratedPosition)) (origin : Origin) :
    List GeneratedPosition :=
  (List.lookup origin groups).getD []

/-- Adding a position makes its own group longer and keeps all others. -/
theorem group_addTo (origin other : Origin) (position : GeneratedPosition)
    (groups : List (Origin × List GeneratedPosition)) :
    group (addTo origin position groups) other =
      group groups other ++ if other = origin then [position] else [] := by
  induction groups with
  | nil =>
    by_cases same : other = origin
    · simp [addTo, group, same]
    · simp [addTo, group, List.lookup_cons, beq_eq_false_iff_ne.mpr same, same]
  | cons entry rest ih =>
    obtain ⟨known, positions⟩ := entry
    unfold addTo
    by_cases here : known = origin
    · rw [if_pos here]
      by_cases same : other = known
      · simp [group, ← here, same]
      · have apart : other ≠ origin := here ▸ same
        simp [group, List.lookup_cons, beq_eq_false_iff_ne.mpr same, apart]
    · rw [if_neg here]
      by_cases same : other = known
      · simp [group, same, here]
      · have skip : ∀ groups positions, group ((known, positions) :: groups) other =
            group groups other := by
          intro groups positions
          simp [group, List.lookup_cons, beq_eq_false_iff_ne.mpr same]
        rw [skip, skip, ih]

/-- What a segment adds to the groups. -/
def addSegment (groups : List (Origin × List GeneratedPosition)) (segment : Segment) :
    List (Origin × List GeneratedPosition) :=
  match origin? segment with
  | some origin => addTo origin ⟨segment.line, segment.column⟩ groups
  | none => groups

theorem group_addSegment (groups : List (Origin × List GeneratedPosition)) (segment : Segment)
    (origin : Origin) :
    group (addSegment groups segment) origin =
      group groups origin ++
        if origin? segment = some origin then [⟨segment.line, segment.column⟩] else [] := by
  unfold addSegment
  cases led : origin? segment with
  | none => simp
  | some known => simp [group_addTo, eq_comm]

/-- The group of a source position after segments were added: the places of those that lead there,
in their order. -/
theorem group_foldl (segments : List Segment) (groups : List (Origin × List GeneratedPosition))
    (origin : Origin) :
    group (segments.foldl addSegment groups) origin =
      group groups origin ++ (segments.filter (origin? · = some origin)).map
        fun segment => ⟨segment.line, segment.column⟩ := by
  induction segments generalizing groups with
  | nil => simp
  | cons segment rest ih =>
    rw [List.foldl_cons, ih, group_addSegment, List.filter_cons]
    by_cases here : origin? segment = some origin
    · simp [here]
    · simp [here]

/-- Sorting every group sorts each. -/
theorem group_map_ascending (groups : List (Origin × List GeneratedPosition)) (origin : Origin) :
    group (groups.map fun entry => (entry.1, ascending entry.2)) origin =
      ascending (group groups origin) := by
  induction groups with
  | nil => rfl
  | cons entry rest ih =>
    obtain ⟨known, positions⟩ := entry
    by_cases same : origin = known
    · simp [group, same]
    · simpa [group, List.lookup_cons, beq_eq_false_iff_ne.mpr same] using ih

/-- The generated positions of a numbered source: the places of the segments that lead there. -/
theorem generatedFromId_ofDocument (doc : Document) (source line column : Nat) :
    (ofDocument doc).generatedFromId source line column =
      ascending ((doc.segments.filter (origin? · = some ⟨source, line, column⟩)).map
        fun segment => ⟨segment.line, segment.column⟩) := by
  have listed := group_map_ascending (doc.segments.foldl addSegment []) ⟨source, line, column⟩
  rw [group_foldl] at listed
  exact listed

theorem origin?_eq_some_iff {segment : Segment} {origin : Origin} :
    origin? segment = some origin ↔ segment.source = some origin.source ∧
      segment.sourceLine = origin.line ∧ segment.sourceColumn = origin.column := by
  obtain ⟨source, line, column⟩ := origin
  unfold origin?
  cases segment.source with
  | none => simp
  | some id => simp

/-- The index lists a place for a source position exactly if a segment there leads to it. -/
theorem mem_generated {doc : Document} {source : String} {line column : Nat}
    {place : GeneratedPosition} :
    place ∈ (ofDocument doc).generated source line column ↔
      ∃ segment ∈ doc.segments, segment.line = place.line ∧ segment.column = place.column ∧
        segment.sourceLine = line ∧ segment.sourceColumn = column ∧
        ∃ id, segment.source = some id ∧ doc.sources[id]? = some source := by
  have ids : ∀ id, id ∈ ((doc.sources.zipIdx.filter (·.1 == source)).map (·.2)) ↔
      doc.sources[id]? = some source := by
    intro id
    simp [List.mem_zipIdx_iff_getElem?]
  have document : (ofDocument doc).document = doc := rfl
  simp only [generated, mem_ascending, List.mem_flatMap, document, ids,
    generatedFromId_ofDocument, List.mem_map, List.mem_filter, decide_eq_true_eq,
    origin?_eq_some_iff]
  constructor
  · rintro ⟨id, named, segment, ⟨member, sourceEq, lineEq, columnEq⟩, rfl⟩
    exact ⟨segment, member, rfl, rfl, lineEq, columnEq, id, sourceEq, named⟩
  · rintro ⟨segment, member, placeLine, placeColumn, lineEq, columnEq, id, sourceEq, named⟩
    refine ⟨id, named, segment, ⟨member, sourceEq, lineEq, columnEq⟩, ?_⟩
    rw [placeLine, placeColumn]

end Index

end SourceTrace
