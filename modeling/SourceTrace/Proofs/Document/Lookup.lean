import Mathlib.Data.List.Forall2
import SourceTrace.Document.Basic

/-!
# Documents in order, and what a lookup finds in them

Every document that is built from parts is in order: its segments are sorted by their generated
positions, and its line starts are those of its segments. In such a document the segments of a line
are exactly the ones with that line, and a lookup finds the last segment of the line that starts at
the column or before it. From there on nothing needs the line starts any more.
-/
namespace SourceTrace

namespace Sorting

variable {α : Type} {le : α → α → Bool}

/-- A list that is in order is left as it is. -/
theorem sort_eq_self (list : List α) (sorted : list.Pairwise (le · ·)) : sort le list = list := by
  induction list with
  | nil => rfl
  | cons a rest ih =>
    have parts := List.pairwise_cons.mp sorted
    rw [sort, ih parts.2]
    cases rest with
    | nil => rfl
    | cons b rest => simp [insert, parts.1 b]

theorem insert_sorted (trans : ∀ a b c, le a b → le b c → le a c) (total : ∀ a b, le a b ∨ le b a)
    (a : α) (list : List α) (sorted : list.Pairwise (le · ·)) :
    (insert le a list).Pairwise (le · ·) := by
  induction list with
  | nil => simp [insert]
  | cons b rest ih =>
    have parts := List.pairwise_cons.mp sorted
    unfold insert
    split
    · next first =>
      refine List.pairwise_cons.mpr ⟨?_, sorted⟩
      intro c member
      rcases List.mem_cons.mp member with rfl | further
      · exact first
      · exact trans a b c first (parts.1 c further)
    · next later =>
      refine List.pairwise_cons.mpr ⟨?_, ih parts.2⟩
      intro c member
      rcases List.mem_cons.mp ((insert_perm le a rest).subset member) with rfl | further
      · exact (total c b).resolve_left later
      · exact parts.1 c further

theorem sort_sorted (trans : ∀ a b c, le a b → le b c → le a c) (total : ∀ a b, le a b ∨ le b a)
    (list : List α) : (sort le list).Pairwise (le · ·) := by
  induction list with
  | nil => exact .nil
  | cons a rest ih => exact insert_sorted trans total a _ ih

end Sorting

theorem Segment.le_iff (left right : Segment) :
    left.le right ↔
      left.line < right.line ∨ left.line = right.line ∧ left.column ≤ right.column := by
  simp [Segment.le]

/-- Segments at the generated positions of others are in order if those are. -/
theorem Segment.sorted_of_places {segments others : List Segment}
    (same : List.Forall₂ (fun segment other => other.line = segment.line ∧
      other.column = segment.column) segments others)
    (sorted : segments.Pairwise (Segment.le · ·)) : others.Pairwise (Segment.le · ·) := by
  have places : segments.map (fun segment => (segment.line, segment.column)) =
      others.map fun segment => (segment.line, segment.column) := by
    rw [← List.forall₂_eq_eq_eq, List.forall₂_map_left_iff, List.forall₂_map_right_iff]
    exact same.imp fun _ _ place => by rw [place.1, place.2]
  have placed : ∀ list : List Segment, list.Pairwise (Segment.le · ·) ↔
      (list.map fun segment => (segment.line, segment.column)).Pairwise fun left right =>
        left.1 < right.1 ∨ left.1 = right.1 ∧ left.2 ≤ right.2 := by
    intro list
    rw [List.pairwise_map]
    simp only [Segment.le_iff]
  rw [placed, ← places, ← placed]
  exact sorted

/-- Segments in order, with the line starts that belong to them. -/
structure Document.InOrder (doc : Document) : Prop where
  sorted : doc.segments.Pairwise (Segment.le · ·)
  starts : doc.lineStarts = startsOfLines doc.segments

namespace Document

/-- Every document that is built from parts is in order. -/
theorem ofParts_inOrder (file : Option String) (segments : List Segment)
    (names sources : List String) (contents : Option (List (Option String))) :
    (ofParts file segments names sources contents).InOrder := by
  refine ⟨Sorting.sort_sorted ?_ ?_ segments, rfl⟩
  · intro a b c
    simp only [Segment.le_iff]
    omega
  · intro a b
    simp only [Segment.le_iff]
    omega

theorem InOrder.setBaseDir {doc : Document} (order : doc.InOrder) (dir : Option Path) :
    (doc.setBaseDir dir).InOrder := ⟨order.sorted, order.starts⟩

end Document

section Prefix

variable {α : Type} {p : α → Bool} {list : List α}

/-- A test that holds of everything before an element that passes it: where it holds is a front part
of the list. -/
theorem takeWhile_eq_filter (mono : list.Pairwise fun a b => p b → p a) :
    list.takeWhile p = list.filter p := by
  induction list with
  | nil => rfl
  | cons a rest ih =>
    have parts := List.pairwise_cons.mp mono
    by_cases passes : p a
    · rw [List.takeWhile_cons_of_pos passes, List.filter_cons_of_pos passes, ih parts.2]
    · have none : rest.filter p = [] := by
        rw [List.filter_eq_nil_iff]
        exact fun b member holds => passes (parts.1 b member holds)
      rw [List.takeWhile_cons_of_neg passes, List.filter_cons_of_neg passes, none]

theorem take_countP_eq_filter (mono : list.Pairwise fun a b => p b → p a) :
    list.take (list.countP p) = list.filter p := by
  rw [List.countP_eq_length_filter, ← takeWhile_eq_filter mono]
  exact (List.prefix_iff_eq_take.mp (List.takeWhile_prefix p)).symm

theorem drop_countP_eq_filter (mono : list.Pairwise fun a b => p b → p a) :
    list.drop (list.countP p) = list.filter (!p ·) := by
  induction list with
  | nil => rfl
  | cons a rest ih =>
    have parts := List.pairwise_cons.mp mono
    by_cases passes : p a
    · simpa [passes] using ih parts.2
    · have later : ∀ b ∈ rest, ¬ p b := fun b member holds => passes (parts.1 b member holds)
      have none : rest.countP p = 0 := List.countP_eq_zero.mpr later
      have all : rest.filter (!p ·) = rest := List.filter_eq_self.mpr (by simpa using later)
      simp [passes, none, all]

/-- Corresponding lists have corresponding last elements that pass a test, if the test cannot tell
corresponding elements apart. -/
theorem getLast?_filter_rel {β : Type} {R : α → β → Prop} {q : β → Bool} {other : List β}
    (related : List.Forall₂ R list other) (same : ∀ a b, R a b → q b = p a) :
    Option.Rel R (list.filter p).getLast? (other.filter q).getLast? := by
  induction related with
  | nil => exact .none
  | @cons a b rest others head _ ih =>
    have test := same a b head
    by_cases passes : p a
    · rw [List.filter_cons_of_pos passes, List.filter_cons_of_pos (test.trans passes),
        List.getLast?_cons, List.getLast?_cons]
      generalize (rest.filter p).getLast? = left at ih
      generalize (others.filter q).getLast? = right at ih
      cases ih with
      | none => exact .some head
      | some last => exact .some last
    · rw [List.filter_cons_of_neg passes, List.filter_cons_of_neg (by rwa [test])]
      exact ih

end Prefix

/-- The segments on a line count among those on earlier lines than a later one. -/
theorem countP_earlier {line bound : Nat} (earlier : line < bound) (segments : List Segment) :
    segments.countP (·.line < bound) = segments.countP (·.line == line) +
      (segments.filter fun segment => !(segment.line == line)).countP (·.line < bound) := by
  have split := List.countP_eq_countP_filter_add segments (·.line < bound) (·.line == line)
  have here : (segments.filter (·.line == line)).countP (·.line < bound) =
      segments.countP (·.line == line) := by
    rw [List.countP_eq_length_filter (l := segments), List.countP_eq_length]
    intro segment member
    simp only [List.mem_filter, beq_iff_eq] at member
    simp only [decide_eq_true_eq]
    omega
  rw [split, here]

/-- Line starts count the segments on earlier lines. -/
theorem lineStartsFrom_eq (count line index : Nat) (segments : List Segment)
    (sorted : segments.Pairwise (·.line ≤ ·.line))
    (from_line : ∀ segment ∈ segments, line ≤ segment.line)
    (below : ∀ segment ∈ segments, segment.line < line + count) :
    lineStartsFrom line index count segments =
      (List.range (count + 1)).map fun k => index + segments.countP (·.line < line + k) := by
  induction count generalizing line index segments with
  | zero =>
    have none : segments = [] := by
      apply List.eq_nil_iff_forall_not_mem.mpr
      intro segment member
      have := from_line segment member
      have := below segment member
      omega
    simp [none, lineStartsFrom]
  | succ count ih =>
    have mono : segments.Pairwise fun a b => (b.line == line) → (a.line == line) := by
      refine sorted.imp_of_mem ?_
      intro a b memberA _ le same
      have := from_line a memberA
      simp only [beq_iff_eq] at same ⊢
      omega
    have here : (segments.takeWhile (·.line == line)).length =
        segments.countP (·.line == line) := by
      rw [takeWhile_eq_filter mono, List.countP_eq_length_filter]
    have later : ∀ segment ∈ segments.filter (fun segment => !(segment.line == line)),
        segment ∈ segments ∧ segment.line ≠ line := by simp
    rw [lineStartsFrom, here, drop_countP_eq_filter mono, ih]
    · rw [List.range_succ_eq_map (n := count + 1), List.map_cons, List.map_map]
      congr 1
      · have none : segments.countP (·.line < line + 0) = 0 := by
          simpa [List.countP_eq_zero] using from_line
        omega
      · refine List.map_congr_left fun k _ => ?_
        have split := countP_earlier (show line < line + k.succ by omega) segments
        have next : line + 1 + k = line + k.succ := by omega
        simp only [Function.comp_apply, next]
        omega
    · exact sorted.sublist List.filter_sublist
    · intro segment member
      have := from_line segment (later segment member).1
      have := (later segment member).2
      omega
    · intro segment member
      have := below segment (later segment member).1
      omega

namespace Document

variable {doc : Document}

/-- What a lookup finds is one of the segments. -/
theorem mem_of_segmentAt? {line column : Nat} {found : Segment}
    (hit : doc.segmentAt? line column = some found) : found ∈ doc.segments := by
  have inLine := List.takeWhile_sublist _ |>.subset (List.mem_of_getLast? hit)
  unfold lineSegments at inLine
  split at inLine
  · exact List.mem_of_mem_take (List.mem_of_mem_drop inLine)
  · simp at inLine

/-- The lines of segments in order do not fall. -/
theorem InOrder.lines_sorted (order : doc.InOrder) : doc.segments.Pairwise (·.line ≤ ·.line) := by
  refine order.sorted.imp ?_
  intro a b le
  rw [Segment.le_iff] at le
  omega

/-- No segment is on a later line than the last one. -/
theorem InOrder.line_le_last (order : doc.InOrder) {last : Segment}
    (isLast : doc.segments.getLast? = some last) (segment : Segment)
    (member : segment ∈ doc.segments) : segment.line ≤ last.line := by
  obtain ⟨front, parts⟩ := List.getLast?_eq_some_iff.mp isLast
  have sorted := order.lines_sorted
  rw [parts, List.pairwise_append] at sorted
  rw [parts, List.mem_append, List.mem_singleton] at member
  rcases member with early | rfl
  · exact sorted.2.2 segment early last (by simp)
  · exact Nat.le_refl _

theorem InOrder.lineStarts_eq (order : doc.InOrder) :
    ∃ count, (∀ segment ∈ doc.segments, segment.line < count) ∧
      doc.lineStarts = (List.range (count + 1)).map fun k => doc.segments.countP (·.line < k) := by
  cases isLast : doc.segments.getLast? with
  | none =>
    have none : doc.segments = [] := List.getLast?_eq_none_iff.mp isLast
    refine ⟨0, by simp [none], ?_⟩
    rw [order.starts, none]
    rfl
  | some last =>
    have below : ∀ segment ∈ doc.segments, segment.line < last.line + 1 := fun segment member =>
      Nat.lt_succ_of_le (order.line_le_last isLast segment member)
    refine ⟨last.line + 1, below, ?_⟩
    have starts := lineStartsFrom_eq (last.line + 1) 0 0 doc.segments order.lines_sorted (by simp)
      (by simpa using below)
    simpa only [order.starts, startsOfLines, isLast, Nat.zero_add] using starts

/-- Being on an earlier line holds of a front part of the segments. -/
theorem InOrder.earlier_mono (order : doc.InOrder) (line : Nat) :
    doc.segments.Pairwise fun a b => decide (b.line < line) → decide (a.line < line) := by
  refine order.lines_sorted.imp ?_
  intro a b le
  simp only [decide_eq_true_eq]
  omega

/-- The segments of a line are the ones with that line. -/
theorem InOrder.lineSegments_eq (order : doc.InOrder) (line : Nat) :
    doc.lineSegments line = doc.segments.filter (·.line == line) := by
  obtain ⟨count, below, starts⟩ := order.lineStarts_eq
  unfold lineSegments
  rw [starts]
  by_cases inside : line < count
  · have start : (List.range (count + 1))[line]? = some line :=
      List.getElem?_range (by omega)
    have stop : (List.range (count + 1))[line + 1]? = some (line + 1) :=
      List.getElem?_range (by omega)
    simp only [List.getElem?_map, start, stop, Option.map_some]
    rw [take_countP_eq_filter (order.earlier_mono (line + 1))]
    have earlier : doc.segments.countP (·.line < line) =
        (doc.segments.filter (·.line < line + 1)).countP (·.line < line) := by
      rw [List.countP_filter]
      refine List.countP_congr fun segment _ => ?_
      simp only [decide_eq_true_eq, Bool.and_eq_true]
      omega
    rw [earlier, drop_countP_eq_filter ((order.earlier_mono line).filter _), List.filter_filter]
    refine List.filter_congr fun segment _ => ?_
    rw [Bool.eq_iff_iff]
    simp only [Bool.and_eq_true, Bool.not_eq_true', decide_eq_false_iff_not, decide_eq_true_eq,
      beq_iff_eq]
    omega
  · have stop : (List.range (count + 1))[line + 1]? = none := by
      rw [List.getElem?_eq_none_iff, List.length_range]
      omega
    have none : doc.segments.filter (·.line == line) = [] := by
      rw [List.filter_eq_nil_iff]
      intro segment member
      have := below segment member
      simp only [beq_iff_eq]
      omega
    simp only [List.getElem?_map, stop, Option.map_none, none]
    split <;> simp_all

/-- A lookup finds the last of the segments that are on the line and not behind the column. -/
theorem InOrder.segmentAt?_eq (order : doc.InOrder) (line column : Nat) :
    doc.segmentAt? line column =
      (doc.segments.filter fun segment =>
        segment.line == line && decide (segment.column ≤ column)).getLast? := by
  have mono : (doc.segments.filter (·.line == line)).Pairwise fun a b =>
      decide (b.column ≤ column) → decide (a.column ≤ column) := by
    refine (order.sorted.filter _).imp_of_mem ?_
    intro a b memberA memberB le
    simp only [List.mem_filter, beq_iff_eq] at memberA memberB
    simp only [Segment.le_iff] at le
    simp only [decide_eq_true_eq]
    omega
  rw [segmentAt?, order.lineSegments_eq, takeWhile_eq_filter mono, List.filter_filter]
  simp only [Bool.and_comm]

/-- Lookups in a document whose segments stand at the same generated positions as those of another
one: `position?` is what each of the other document's segments has become. -/
theorem InOrder.lookup?_eq {other : Document} (order : doc.InOrder) (otherOrder : other.InOrder)
    {position? : Segment → Option SourcePosition}
    (related : List.Forall₂ (fun segment image => image.line = segment.line ∧
      image.column = segment.column ∧ other.sourcePosition? image = position? segment)
      doc.segments other.segments) (line column : Nat) :
    other.lookup? line column = (doc.segmentAt? line column).bind position? := by
  rw [lookup?, order.segmentAt?_eq, otherOrder.segmentAt?_eq]
  have last := getLast?_filter_rel (p := fun segment : Segment =>
    segment.line == line && decide (segment.column ≤ column)) (q := fun segment : Segment =>
    segment.line == line && decide (segment.column ≤ column)) related
    (fun segment image same => by rw [same.1, same.2.1])
  generalize List.getLast? _ = found at last
  generalize List.getLast? (List.filter _ other.segments) = image at last
  cases last with
  | none => rfl
  | some same => exact same.2.2

end Document

end SourceTrace
