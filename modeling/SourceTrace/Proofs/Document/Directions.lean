import Mathlib.Data.List.Nodup
import SourceTrace.Proofs.Document.Index
import SourceTrace.Proofs.Document.Scan

/-!
# Both directions of an index agree

The places that an index lists for a source position are in strictly ascending order. A lookup at
any generated position leads to a source position whose list has a place that governs it, on its
line and not behind it. If no two segments start together, then each place in a list leads back.
-/
namespace SourceTrace

namespace Sorting

variable {α : Type} [DecidableEq α] {le : α → α → Bool}

/-- Removing repeated neighbours from a list in order leaves every element once. -/
theorem dedup_strict (antisymm : ∀ a b, le a b → le b a → a = b) {list : List α}
    (sorted : list.Pairwise (le · ·)) : (dedup list).Pairwise fun a b => le a b ∧ a ≠ b := by
  fun_induction dedup list with
  | case1 => exact .nil
  | case2 a => exact List.pairwise_singleton _ a
  | case3 a rest ih => exact ih (List.pairwise_cons.mp sorted).2
  | case4 a b rest apart ih =>
    obtain ⟨first, further⟩ := List.pairwise_cons.mp sorted
    refine List.pairwise_cons.mpr ⟨?_, ih further⟩
    intro c member
    have listed : c ∈ b :: rest := mem_dedup.mp member
    refine ⟨first c listed, ?_⟩
    rintro rfl
    -- `a` would stand again behind `b`, so `b` would have to equal it
    have between : le b a := by
      rcases List.mem_cons.mp listed with same | later
      · exact absurd same apart
      · exact (List.pairwise_cons.mp further).1 a later
    exact apart (antisymm a b (first b List.mem_cons_self) between)

end Sorting

/-- The generated position where a segment starts. -/
def Segment.place (segment : Segment) : GeneratedPosition := ⟨segment.line, segment.column⟩

namespace GeneratedPosition

/-- One generated position comes before another one. -/
def Before (left right : GeneratedPosition) : Prop :=
  left.line < right.line ∨ left.line = right.line ∧ left.column < right.column

theorem le_iff (left right : GeneratedPosition) :
    left.le right ↔
      left.line < right.line ∨ left.line = right.line ∧ left.column ≤ right.column := by
  simp [le]

theorem before_of_le {left right : GeneratedPosition} (le : left.le right)
    (apart : left ≠ right) : left.Before right := by
  rw [le_iff] at le
  unfold Before
  by_contra later
  have same : left.line = right.line ∧ left.column = right.column := by omega
  exact apart (by cases left; cases right; simp_all)

end GeneratedPosition

namespace Index

theorem ascending_before (positions : List GeneratedPosition) :
    (ascending positions).Pairwise GeneratedPosition.Before := by
  have antisymm : ∀ a b : GeneratedPosition, a.le b → b.le a → a = b := by
    rintro ⟨line, column⟩ ⟨other, behind⟩ left right
    simp only [GeneratedPosition.le_iff] at left right
    simp only [GeneratedPosition.mk.injEq]
    omega
  have sorted : (Sorting.sort GeneratedPosition.le positions).Pairwise
      (GeneratedPosition.le · ·) := by
    apply Sorting.sort_sorted
    · intro a b c
      simp only [GeneratedPosition.le_iff]
      omega
    · intro a b
      simp only [GeneratedPosition.le_iff]
      omega
  exact (Sorting.dedup_strict antisymm sorted).imp fun ⟨le, apart⟩ =>
    GeneratedPosition.before_of_le le apart

end Index

namespace Document

variable {doc : Document} {line column : Nat} {found : Segment}

/-- From where the found segment starts up to the column it is found as well. -/
theorem InOrder.segmentAt?_between (order : doc.InOrder)
    (hit : doc.segmentAt? line column = some found) {other : Nat} (reached : found.column ≤ other)
    (before : other ≤ column) : doc.segmentAt? line other = some found := by
  obtain ⟨line_eq, -, front, after, split, -, none⟩ := order.exists_of_segmentAt? hit
  have behind : (after.filter fun segment =>
      segment.line == line && decide (segment.column ≤ other)) = [] := by
    rw [List.filter_eq_nil_iff]
    intro late listed passes
    simp only [Bool.and_eq_true, beq_iff_eq, decide_eq_true_eq] at passes
    have beyond := none late listed passes.1
    omega
  rw [order.segmentAt?_eq, split, List.filter_append, List.filter_cons,
    if_pos (by simp [line_eq, reached]), behind, List.getLast?_concat]

/-- Where the found segment starts, it is found as well. -/
theorem InOrder.segmentAt?_start (order : doc.InOrder)
    (hit : doc.segmentAt? line column = some found) :
    doc.segmentAt? found.line found.column = some found := by
  obtain ⟨rfl, column_le, -⟩ := order.exists_of_segmentAt? hit
  exact order.segmentAt?_between hit (Nat.le_refl _) column_le

/-- Lookups give the same where the segment that is found starts. -/
theorem InOrder.lookup?_start (order : doc.InOrder)
    (hit : doc.segmentAt? line column = some found) :
    doc.lookup? line column = doc.lookup? found.line found.column := by
  rw [lookup?, lookup?, hit, order.segmentAt?_start hit]

/-- A segment that no other one starts with is found where it starts. -/
theorem InOrder.segmentAt?_of_alone (order : doc.InOrder) {segment : Segment}
    (member : segment ∈ doc.segments)
    (alone : ∀ other ∈ doc.segments, other.place = segment.place → other = segment) :
    doc.segmentAt? segment.line segment.column = some segment := by
  have some : (doc.segmentAt? segment.line segment.column).isSome := by
    rw [order.segmentAt?_eq, List.getLast?_isSome]
    exact List.ne_nil_of_mem (List.mem_filter.mpr ⟨member, by simp⟩)
  obtain ⟨found, hit⟩ := Option.isSome_iff_exists.mp some
  obtain ⟨line_eq, column_le, before, after, split, le, none⟩ := order.exists_of_segmentAt? hit
  have reached : segment.column ≤ found.column := by
    rw [split] at member
    rcases List.mem_append.mp member with early | late
    · have ordered := le segment early
      rw [Segment.le_iff] at ordered
      omega
    · rcases List.mem_cons.mp late with rfl | behind
      · exact Nat.le_refl _
      · have beyond := none segment behind rfl
        omega
  have together : found.place = segment.place := by
    simp only [Segment.place, GeneratedPosition.mk.injEq]
    omega
  have listed : found ∈ doc.segments := by simp [split]
  rw [hit, alone found listed together]

/-- If no two segments start together, each is found where it starts. -/
theorem InOrder.segmentAt?_of_mem (order : doc.InOrder)
    (apart : (doc.segments.map Segment.place).Nodup) {segment : Segment}
    (member : segment ∈ doc.segments) :
    doc.segmentAt? segment.line segment.column = some segment :=
  order.segmentAt?_of_alone member fun _ listed together =>
    List.inj_on_of_nodup_map apart listed member together

end Document

namespace Index

theorem segmentSource?_eq_some_iff {doc : Document} {segment : Segment} {source : String} :
    doc.segmentSource? segment = some source ↔
      ∃ id, segment.source = some id ∧ doc.sources[id]? = some source := by
  rw [Document.segmentSource?, Option.bind_eq_some_iff]
  rfl

theorem mem_generated_iff {doc : Document} {source : String} {line column : Nat}
    {place : GeneratedPosition} :
    place ∈ (ofDocument doc).generated source line column ↔
      ∃ segment ∈ doc.segments, segment.place = place ∧ segment.isUnmapped = false ∧
        doc.segmentSource? segment = some source ∧ segment.sourceLine = line ∧
        segment.sourceColumn = column := by
  rw [mem_generated]
  constructor
  · rintro ⟨segment, member, placeLine, placeColumn, lineEq, columnEq, id, sourceEq, named⟩
    refine ⟨segment, member, ?_, by simp [Segment.isUnmapped, sourceEq],
      segmentSource?_eq_some_iff.mpr ⟨id, sourceEq, named⟩, lineEq, columnEq⟩
    rw [Segment.place, placeLine, placeColumn]
  · rintro ⟨segment, member, rfl, -, named, lineEq, columnEq⟩
    exact ⟨segment, member, rfl, rfl, lineEq, columnEq, segmentSource?_eq_some_iff.mp named⟩

/-- The list for a source position has, in strictly ascending order, the places of exactly the
mapped segments that lead to it. Whatever a lookup finds, the list for it has a place on the line of
the lookup and not behind it, where the same is found. If no two segments start at one place, a
lookup at each place in a list leads back to the source position of the list. -/
theorem generated_agrees {doc : Document} (order : doc.InOrder) :
    (∀ source line column,
      ((ofDocument doc).generated source line column).Pairwise GeneratedPosition.Before ∧
      ∀ place, place ∈ (ofDocument doc).generated source line column ↔
        ∃ segment ∈ doc.segments, segment.place = place ∧ segment.isUnmapped = false ∧
          doc.segmentSource? segment = some source ∧ segment.sourceLine = line ∧
          segment.sourceColumn = column) ∧
    (∀ line column position, (ofDocument doc).sourcePosition? line column = some position →
      ∃ place ∈ (ofDocument doc).generated position.source position.line position.column,
        place.line = line ∧ place.column ≤ column ∧
        (ofDocument doc).sourcePosition? place.line place.column = some position) ∧
    ((doc.segments.map Segment.place).Nodup → ∀ source line column,
      ∀ place ∈ (ofDocument doc).generated source line column,
        ∃ name, (ofDocument doc).sourcePosition? place.line place.column =
          some ⟨source, line, column, name⟩) := by
  refine ⟨fun _ _ _ => ⟨ascending_before _, fun _ => mem_generated_iff⟩, ?_, ?_⟩
  · intro line column position known
    obtain ⟨found, hit, leads⟩ := Option.bind_eq_some_iff.mp known
    obtain ⟨line_eq, column_le, -⟩ := order.exists_of_segmentAt? hit
    have listed : found ∈ doc.segments := Document.mem_of_segmentAt? hit
    obtain ⟨source, named, rfl⟩ := Option.map_eq_some_iff.mp leads
    have mapped : found.isUnmapped = false := by
      obtain ⟨id, number, -⟩ := segmentSource?_eq_some_iff.mp named
      simp [Segment.isUnmapped, number]
    refine ⟨found.place, mem_generated_iff.mpr ⟨found, listed, rfl, mapped, named, rfl, rfl⟩,
      line_eq, column_le, ?_⟩
    exact Option.bind_eq_some_iff.mpr ⟨found, order.segmentAt?_start hit, leads⟩
  · intro apart source line column place member
    obtain ⟨segment, listed, rfl, -, named, rfl, rfl⟩ := mem_generated_iff.mp member
    refine ⟨doc.segmentName? segment, Option.bind_eq_some_iff.mpr
      ⟨segment, order.segmentAt?_of_mem apart listed, ?_⟩⟩
    change (doc.segmentSource? segment).map _ = _
    rw [named]
    rfl

/-- A source that is listed twice, with a segment for each number and an unmapped one between. -/
theorem generated_agrees_copies :
    let doc := Document.ofParts none [⟨0, 29, 0, 9, some 1, none⟩, ⟨0, 9, 0, 9, some 0, none⟩,
      ⟨0, 12, 0, 0, none, none⟩] [] ["add.js", "add.js"] none
    (ofDocument doc).generated "add.js" 0 9 = [⟨0, 9⟩, ⟨0, 29⟩] ∧
      (ofDocument doc).sourcePosition? 0 10 = some ⟨"add.js", 0, 9, none⟩ ∧
      (∃ place ∈ (ofDocument doc).generated "add.js" 0 9, place.line = 0 ∧ place.column ≤ 10 ∧
        (ofDocument doc).sourcePosition? place.line place.column = some ⟨"add.js", 0, 9, none⟩) ∧
      ∀ place ∈ (ofDocument doc).generated "add.js" 0 9, ∃ name,
        (ofDocument doc).sourcePosition? place.line place.column = some ⟨"add.js", 0, 9, name⟩ := by
  intro doc
  have order : doc.InOrder := Document.ofParts_inOrder _ _ _ _ _
  obtain ⟨-, covered, leadBack⟩ := generated_agrees order
  have known : (ofDocument doc).sourcePosition? 0 10 = some ⟨"add.js", 0, 9, none⟩ := by decide
  exact ⟨by decide, known, covered 0 10 _ known, leadBack (by decide) "add.js" 0 9⟩

end Index

end SourceTrace
