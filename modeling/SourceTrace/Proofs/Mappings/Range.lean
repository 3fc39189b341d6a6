import SourceTrace.Proofs.Mappings.Pieces

/-!
# What decoded segments refer to

Decoding refuses whatever leads out of range, so every segment that comes out of it has a line and
columns below the limit, refers to sources and names that exist, and has no name unless it has a
source.
-/
namespace SourceTrace

/-- A sequence of two steps that succeeds is a success of both. -/
theorem exists_of_bind_eq_ok {ε α β : Type} {step : Except ε α} {next : α → Except ε β} {value : β}
    (succeeds : (step >>= next) = .ok value) :
    ∃ middle, step = .ok middle ∧ next middle = .ok value := by
  cases step with
  | error cause => cases succeeds
  | ok middle => exact ⟨middle, rfl, succeeds⟩

/-- A segment that refers to one of so many sources and names, and to no name without a source. -/
structure Segment.Refers (sources names : Nat) (segment : Segment) : Prop where
  source : ∀ id ∈ segment.source, id < sources
  name : ∀ id ∈ segment.name, id < names
  unnamed : segment.source = none → segment.name = none

/-- A segment of a document with so many sources and names, as far as decoding checks it. -/
structure Segment.InBounds (sources names : Nat) (segment : Segment) : Prop
    extends segment.Refers sources names where
  line : segment.line < Mappings.limit
  column : segment.column < Mappings.limit
  sourceLine : segment.sourceLine < Mappings.limit
  sourceColumn : segment.sourceColumn < Mappings.limit

namespace Mappings

theorem position_lt {value : Int} {number : Nat} (accepted : position value = .ok number) :
    number < limit := by
  unfold position at accepted
  split at accepted
  · next inRange =>
    cases accepted
    omega
  · cases accepted

theorem optionalReference_lt {present : Bool} {count : Nat} {refuse : Nat → Error} {value : Int}
    {found : Option Nat} (accepted : optionalReference present count refuse value = .ok found) :
    (found = none ↔ present = false) ∧ ∀ id ∈ found, id < count := by
  cases present with
  | false =>
    cases accepted
    simp
  | true =>
    by_cases known : 0 ≤ value ∧ value < count
    · rw [optionalReference_eq_ok (fun _ => known)] at accepted
      cases accepted
      refine ⟨by simp, ?_⟩
      rintro id ⟨⟩
      omega
    · rw [optionalReference_eq_error rfl known] at accepted
      cases accepted

theorem decodeSegment_inBounds {sources names line : Nat} {cursor after : Cursor}
    {text : List Char} {segment : Segment}
    (accepted : decodeSegment sources names line cursor text = .ok (segment, after)) :
    segment.InBounds sources names := by
  obtain ⟨values, _, accepted⟩ := exists_of_bind_eq_ok accepted
  obtain ⟨moved, _, accepted⟩ := exists_of_bind_eq_ok accepted
  obtain ⟨source, sourceFound, accepted⟩ := exists_of_bind_eq_ok accepted
  obtain ⟨name, nameFound, accepted⟩ := exists_of_bind_eq_ok accepted
  obtain ⟨line, lineFound, accepted⟩ := exists_of_bind_eq_ok accepted
  obtain ⟨column, columnFound, accepted⟩ := exists_of_bind_eq_ok accepted
  obtain ⟨sourceLine, sourceLineFound, accepted⟩ := exists_of_bind_eq_ok accepted
  obtain ⟨sourceColumn, sourceColumnFound, accepted⟩ := exists_of_bind_eq_ok accepted
  cases accepted
  have sourceKnown := optionalReference_lt sourceFound
  have nameKnown := optionalReference_lt nameFound
  refine ⟨⟨sourceKnown.2, nameKnown.2, ?_⟩, position_lt lineFound, position_lt columnFound,
    position_lt sourceLineFound, position_lt sourceColumnFound⟩
  -- a name is the fifth value, and a source the second
  intro unmapped
  have few := sourceKnown.1.mp unmapped
  rw [nameKnown.1]
  simp only [decide_eq_false_iff_not] at few ⊢
  omega

theorem decodePieces_inBounds {sources names line : Nat} {cursor : Cursor} {todo : List Piece}
    {segments : List Segment}
    (accepted : decodePieces sources names line cursor todo = .ok segments) :
    ∀ segment ∈ segments, segment.InBounds sources names := by
  induction todo generalizing line cursor segments with
  | nil =>
    cases accepted
    simp
  | cons piece rest ih =>
    obtain ⟨⟨first, moved⟩, firstRead, accepted⟩ := exists_of_bind_eq_ok accepted
    obtain ⟨others, othersRead, accepted⟩ := exists_of_bind_eq_ok accepted
    cases accepted
    intro segment member
    rcases List.mem_cons.mp member with rfl | further
    · exact decodeSegment_inBounds firstRead
    · exact ih othersRead segment further

/-- Everything that is decoded is in bounds. -/
theorem decode_inBounds {text : List Char} {sources names : Nat} {segments : List Segment}
    (accepted : decode text sources names = .ok segments) :
    ∀ segment ∈ segments, segment.InBounds sources names := by
  rw [decode_eq] at accepted
  exact decodePieces_inBounds accepted

end Mappings

end SourceTrace
