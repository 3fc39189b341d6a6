import SourceTrace.Proofs.Document.Lookup

/-!
# A lookup agrees with a scan

A document keeps its segments sorted and finds those of a line by its line starts. None of that
shows: a lookup finds the segment that a scan of the segments would find in the order in which they
were given. What the scan finds is stated without any order (`Governs`) and there is at most one
such segment. Of segments that start together the last one counts, because sorting is stable.
-/
namespace SourceTrace

namespace Sorting

variable {α : Type} {le : α → α → Bool}

/-- An element is inserted in front of those that it compares as equal with. -/
theorem filter_insert {p : α → Bool} (alike : ∀ a b, p a → p b → le a b) (a : α) (list : List α) :
    (insert le a list).filter p = (a :: list).filter p := by
  induction list with
  | nil => rfl
  | cons b rest ih =>
    unfold insert
    split
    · rfl
    · next later =>
      by_cases chosen : p a
      · have passed : ¬ p b := fun both => later (alike a b chosen both)
        rw [List.filter_cons_of_neg passed, ih, List.filter_cons_of_pos chosen,
          List.filter_cons_of_pos chosen, List.filter_cons_of_neg passed]
      · rw [List.filter_cons_of_neg chosen, List.filter_cons, List.filter_cons, ih,
          List.filter_cons_of_neg chosen]

/-- Sorting is stable: elements that compare as equal keep their order. -/
theorem filter_sort {p : α → Bool} (alike : ∀ a b, p a → p b → le a b) (list : List α) :
    (sort le list).filter p = list.filter p := by
  induction list with
  | nil => rfl
  | cons a rest ih => rw [sort, filter_insert alike, List.filter_cons, ih, ← List.filter_cons]

end Sorting

/-- The last element that passes a test, with what lies around it. -/
theorem getLast?_filter_eq_some {α : Type} {p : α → Bool} {list : List α} {found : α}
    (last : (list.filter p).getLast? = some found) :
    p found ∧ ∃ before after, list = before ++ found :: after ∧ ∀ other ∈ after, ¬ p other := by
  rw [List.getLast?_eq_head?_reverse, ← List.filter_reverse, List.head?_filter,
    List.find?_eq_some_iff_append] at last
  obtain ⟨passes, behind, front, split, none⟩ := last
  refine ⟨passes, front.reverse, behind.reverse, ?_, ?_⟩
  · rw [← list.reverse_reverse, split]
    simp
  · simpa using none

/-- The segment that a scan of segments, in whatever order, finds for a generated position: of those
on the line that start at the column or before it, it is the one with the greatest column, and the
last one of these. -/
structure Governs (segments : List Segment) (line column : Nat) (found : Segment) : Prop where
  line_eq : found.line = line
  column_le : found.column ≤ column
  last : ∃ before after, segments = before ++ found :: after ∧
    (∀ other ∈ before, other.line = line → other.column ≤ column →
      other.column ≤ found.column) ∧
    ∀ other ∈ after, other.line = line → other.column ≤ column → other.column < found.column

namespace Governs

variable {segments : List Segment} {line column : Nat} {found other : Segment}

theorem mem (governs : Governs segments line column found) : found ∈ segments := by
  obtain ⟨before, after, rfl, _⟩ := governs.last
  simp

theorem column_max (governs : Governs segments line column found) (listed : other ∈ segments)
    (here : other.line = line) (reached : other.column ≤ column) :
    other.column ≤ found.column := by
  obtain ⟨before, after, rfl, earlier, later⟩ := governs.last
  rcases List.mem_append.mp listed with early | late
  · exact earlier other early here reached
  · rcases List.mem_cons.mp late with rfl | behind
    · exact Nat.le_refl _
    · exact Nat.le_of_lt (later other behind here reached)

/-- At most one segment governs a position. -/
theorem unique (governs : Governs segments line column found)
    (again : Governs segments line column other) : found = other := by
  have columns : found.column = other.column :=
    Nat.le_antisymm (again.column_max governs.mem governs.line_eq governs.column_le)
      (governs.column_max again.mem again.line_eq again.column_le)
  obtain ⟨before, after, split, -, later⟩ := governs.last
  obtain ⟨front, back, splitToo, -, laterToo⟩ := again.last
  -- If one of them came later than the other, it would start before it.
  rcases List.append_eq_append_iff.mp (split.symm.trans splitToo) with
    ⟨between, rfl, rest⟩ | ⟨between, rfl, rest⟩
  · cases between with
    | nil => exact (List.cons.inj rest).1
    | cons head tail =>
      obtain ⟨rfl, rfl⟩ := List.cons.inj rest
      have := later other (by simp) again.line_eq again.column_le
      omega
  · cases between with
    | nil => exact (List.cons.inj rest).1.symm
    | cons head tail =>
      obtain ⟨rfl, rfl⟩ := List.cons.inj rest
      have := laterToo found (by simp) governs.line_eq governs.column_le
      omega

end Governs

/-- Whether two segments start at the same generated position. -/
def Segment.startsWith (left right : Segment) : Bool :=
  left.line == right.line && left.column == right.column

theorem Segment.startsWith_iff {left right : Segment} :
    left.startsWith right ↔ left.line = right.line ∧ left.column = right.column := by
  simp [startsWith]

theorem Segment.le_of_startsWith {left right start : Segment} (first : left.startsWith start)
    (second : right.startsWith start) : left.le right := by
  rw [startsWith_iff] at first second
  rw [le_iff]
  omega

namespace Document

variable {file : Option String} {segments : List Segment} {names sources : List String}
  {contents : Option (List (Option String))} {line column : Nat} {found : Segment}

theorem segmentAt?_ofParts_eq_none_iff :
    (ofParts file segments names sources contents).segmentAt? line column = none ↔
      ¬ ∃ segment ∈ segments, segment.line = line ∧ segment.column ≤ column := by
  rw [(ofParts_inOrder file segments names sources contents).segmentAt?_eq,
    List.getLast?_eq_none_iff, List.filter_eq_nil_iff]
  change (∀ segment ∈ Sorting.sort Segment.le segments, _) ↔ _
  simp [(Sorting.sort_perm Segment.le segments).mem_iff]

/-- The segment that a lookup finds among segments in order. -/
theorem InOrder.exists_of_segmentAt? {doc : Document} (order : doc.InOrder)
    (hit : doc.segmentAt? line column = some found) :
    found.line = line ∧ found.column ≤ column ∧
    ∃ before after, doc.segments = before ++ found :: after ∧
      (∀ other ∈ before, other.le found) ∧
      ∀ other ∈ after, other.line = line → column < other.column := by
  rw [order.segmentAt?_eq] at hit
  obtain ⟨passes, before, after, split, none⟩ := getLast?_filter_eq_some hit
  simp only [Bool.and_eq_true, beq_iff_eq, decide_eq_true_eq, not_and, Nat.not_le] at passes none
  have sorted := order.sorted
  rw [split, List.pairwise_append] at sorted
  exact ⟨passes.1, passes.2, before, after, split,
    fun other early => sorted.2.2 other early found List.mem_cons_self, none⟩

theorem exists_of_segmentAt?_ofParts
    (hit : (ofParts file segments names sources contents).segmentAt? line column = some found) :
    found.line = line ∧ found.column ≤ column ∧
    ∃ before after, Sorting.sort Segment.le segments = before ++ found :: after ∧
      (∀ other ∈ before, other.le found) ∧
      ∀ other ∈ after, other.line = line → column < other.column :=
  (ofParts_inOrder file segments names sources contents).exists_of_segmentAt? hit

/-- No segment on the line starts between the one that is found and the column. -/
theorem column_le_of_segmentAt?_ofParts
    (hit : (ofParts file segments names sources contents).segmentAt? line column = some found)
    (other : Segment) (listed : other ∈ segments) (here : other.line = line)
    (reached : other.column ≤ column) : other.column ≤ found.column := by
  obtain ⟨line_eq, -, before, after, split, le, none⟩ := exists_of_segmentAt?_ofParts hit
  rw [← (Sorting.sort_perm Segment.le segments).mem_iff, split] at listed
  rcases List.mem_append.mp listed with early | late
  · have order := le other early
    rw [Segment.le_iff] at order
    omega
  · rcases List.mem_cons.mp late with rfl | behind
    · exact Nat.le_refl _
    · have := none other behind here
      omega

/-- Of the segments that start where the found one does, it is the last one that was given. -/
theorem getLast?_startsWith_of_segmentAt?_ofParts
    (hit : (ofParts file segments names sources contents).segmentAt? line column = some found) :
    (segments.filter (·.startsWith found)).getLast? = some found := by
  obtain ⟨line_eq, column_le, before, after, split, -, none⟩ := exists_of_segmentAt?_ofParts hit
  have behind : after.filter (·.startsWith found) = [] := by
    rw [List.filter_eq_nil_iff]
    intro other late together
    rw [Segment.startsWith_iff] at together
    have := none other late (together.1.trans line_eq)
    omega
  have itself : found.startsWith found := Segment.startsWith_iff.mpr ⟨rfl, rfl⟩
  rw [← Sorting.filter_sort fun _ _ => Segment.le_of_startsWith, split, List.filter_append,
    List.filter_cons, if_pos itself, behind, List.getLast?_concat]

theorem governs_of_segmentAt?_ofParts
    (hit : (ofParts file segments names sources contents).segmentAt? line column = some found) :
    Governs segments line column found := by
  obtain ⟨line_eq, column_le, -⟩ := exists_of_segmentAt?_ofParts hit
  have greatest := column_le_of_segmentAt?_ofParts hit
  obtain ⟨-, before, after, split, later⟩ :=
    getLast?_filter_eq_some (getLast?_startsWith_of_segmentAt?_ofParts hit)
  refine ⟨line_eq, column_le, before, after, split, ?_, ?_⟩
  · intro other early
    exact greatest other (by simp [split, early])
  · intro other late here reached
    have le := greatest other (by simp [split, late]) here reached
    have apart := later other late
    rw [Segment.startsWith_iff] at apart
    omega

theorem segmentAt?_ofParts_eq_some_iff :
    (ofParts file segments names sources contents).segmentAt? line column = some found ↔
      Governs segments line column found := by
  constructor
  · exact governs_of_segmentAt?_ofParts
  · intro governs
    cases hit : (ofParts file segments names sources contents).segmentAt? line column with
    | none =>
      have none := segmentAt?_ofParts_eq_none_iff.mp hit
      exact absurd ⟨found, governs.mem, governs.line_eq, governs.column_le⟩ none
    | some other => rw [(governs_of_segmentAt?_ofParts hit).unique governs]

/-- A lookup in a document finds what a scan of the segments finds that it was made from, in the
order in which they were given. There is no segment exactly if none of the line starts at the column
or before it, and otherwise it is the one that governs the position. A source position is found
exactly if that segment has a source that is listed, and then it is the one that the segment
gives. -/
theorem lookup?_ofParts (file : Option String) (segments : List Segment)
    (names sources : List String) (contents : Option (List (Option String))) (line column : Nat) :
    let doc := ofParts file segments names sources contents
    (doc.segmentAt? line column = none ↔
      ¬ ∃ segment ∈ segments, segment.line = line ∧ segment.column ≤ column) ∧
    (∀ found, doc.segmentAt? line column = some found ↔ Governs segments line column found) ∧
    (doc.lookup? line column = none ↔
      ∀ found, Governs segments line column found → found.source.bind (sources[·]?) = none) ∧
    ∀ position, doc.lookup? line column = some position ↔
      ∃ found, Governs segments line column found ∧
        found.source.bind (sources[·]?) = some position.source ∧
        position.line = found.sourceLine ∧ position.column = found.sourceColumn ∧
        position.name = found.name.bind (names[·]?) := by
  intro doc
  have source_eq : ∀ found, doc.segmentSource? found = found.source.bind (sources[·]?) :=
    fun _ => rfl
  have name_eq : ∀ found, doc.segmentName? found = found.name.bind (names[·]?) := fun _ => rfl
  have hit_iff : ∀ found, doc.segmentAt? line column = some found ↔
      Governs segments line column found := fun _ => segmentAt?_ofParts_eq_some_iff
  refine ⟨segmentAt?_ofParts_eq_none_iff, hit_iff, ?_, ?_⟩
  · rw [lookup?, Option.bind_eq_none_iff]
    simp only [hit_iff, sourcePosition?, Option.map_eq_none_iff, source_eq]
  · intro position
    rw [lookup?, Option.bind_eq_some_iff]
    simp only [hit_iff, sourcePosition?, Option.map_eq_some_iff, source_eq, name_eq]
    constructor
    · rintro ⟨found, governs, source, listed, rfl⟩
      exact ⟨found, governs, listed, rfl, rfl, rfl⟩
    · rintro ⟨found, governs, listed, lineEq, columnEq, nameEq⟩
      refine ⟨found, governs, position.source, listed, ?_⟩
      rw [← lineEq, ← columnEq, ← nameEq]

/-- Two segments start at one position, behind a line without any. -/
example :
    let doc := ofParts none
      [⟨2, 4, 7, 0, some 0, none⟩, ⟨0, 0, 1, 0, some 0, none⟩, ⟨2, 4, 9, 3, some 0, none⟩] []
      ["a.js"] none
    doc.lookup? 2 6 = some ⟨"a.js", 9, 3, none⟩ ∧ doc.lookup? 1 6 = none := by
  decide

end Document

end SourceTrace
