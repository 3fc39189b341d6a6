import SourceTrace.Document.Mappings
import SourceTrace.Proofs.Text.Split

/-!
# Mappings as one stream of pieces

Decoding goes over lines and, within each, over the pieces between commas. Only the pieces that are
not empty matter, and of the lines only their numbers: the same segments come out of one pass over
all pieces that starts the column anew whenever the line changes.
-/
namespace SourceTrace.Mappings

/-- The text of a segment and the generated line it stands in. -/
structure Piece where
  line : Nat
  text : List Char
  deriving DecidableEq, Repr

/-- The pieces of a line that are not empty. -/
def linePieces (line : Nat) (text : List Char) : List Piece :=
  ((Text.split (· == ',') text).filter (!·.isEmpty)).map (Piece.mk line)

/-- The pieces of the lines from `line` on. -/
def piecesFrom (line : Nat) : List (List Char) → List Piece
  | [] => []
  | text :: rest => linePieces line text ++ piecesFrom (line + 1) rest

/-- The pieces of a text that are not empty, in their order. -/
def pieces (text : List Char) : List Piece := piecesFrom 0 (Text.split (· == ';') text)

/-- The cursor of line `line` when a piece of line `next` follows. -/
def Cursor.turn (cursor : Cursor) (line next : Nat) : Cursor :=
  if next = line then cursor else { cursor with column := 0 }

/-- The segments of a stream of pieces, where `line` is the line of the piece before. -/
def decodePieces (sources names line : Nat) (cursor : Cursor) :
    List Piece → Except Error (List Segment)
  | [] => .ok []
  | piece :: rest => do
    let (segment, cursor) ←
      decodeSegment sources names piece.line (cursor.turn line piece.line) piece.text
    let segments ← decodePieces sources names piece.line cursor rest
    return segment :: segments

@[simp] theorem ok_bind {α β : Type} (value : α) (next : α → Except Error β) :
    (Except.ok value >>= next) = next value := rfl

/-- A number that is a line or a column. -/
def InRange (value : Int) : Prop := 0 ≤ value ∧ value < limit

theorem inRange_zero : InRange 0 := ⟨by decide, by decide⟩

theorem position_of_inRange {value : Int} (inRange : InRange value) :
    position value = .ok value.toNat := if_pos inRange

theorem position_of_not_inRange {value : Int} (outside : ¬ InRange value) :
    position value = .error (.badPosition value) := if_neg outside

theorem optionalReference_eq_ok {present : Bool} {count : Nat} {value : Int}
    (refers : present → 0 ≤ value ∧ value < count) (refuse : Nat → Error) :
    optionalReference present count refuse value =
      .ok (if present then some value.toNat else none) := by
  cases present with
  | false => rfl
  | true =>
    rw [optionalReference, if_pos rfl, reference, if_pos (refers rfl)]
    rfl

theorem optionalReference_eq_error {present : Bool} {count : Nat} {value : Int}
    (refers : present) (missing : ¬ (0 ≤ value ∧ value < count)) (refuse : Nat → Error) :
    optionalReference present count refuse value = .error (refuse (value % limit).toNat) := by
  rw [optionalReference, if_pos refers, reference, if_neg missing]
  rfl

theorem Cursor.turn_self (cursor : Cursor) (line : Nat) : cursor.turn line line = cursor :=
  if_pos rfl

theorem Cursor.turn_of_ne {line next : Nat} (other : next ≠ line) (cursor : Cursor) :
    cursor.turn line next = { cursor with column := 0 } :=
  if_neg other

/-- The pieces of one line, followed by others. -/
theorem decodePieces_append (sources names line : Nat) (cursor : Cursor) (texts : List (List Char))
    (further : List Piece) :
    decodePieces sources names line cursor
        ((texts.filter (!·.isEmpty)).map (Piece.mk line) ++ further) = do
      let (here, cursor) ← decodeLine sources names line cursor texts
      let more ← decodePieces sources names line cursor further
      return here ++ more := by
  simp only [bind, Except.bind, pure, Except.pure]
  induction texts generalizing cursor with
  | nil =>
    simp only [List.filter_nil, List.map_nil, List.nil_append, decodeLine]
    cases decodePieces sources names line cursor further <;> rfl
  | cons text rest ih =>
    cases empty : text.isEmpty with
    | true =>
      simp only [List.filter_cons, decodeLine, empty, Bool.not_true, Bool.false_eq_true, ↓reduceIte]
      exact ih cursor
    | false =>
      simp only [List.filter_cons, empty, Bool.not_false, ↓reduceIte, List.map_cons,
        List.cons_append, decodePieces, Cursor.turn_self, decodeLine, Bool.false_eq_true, bind,
        Except.bind, pure, Except.pure]
      cases decodeSegment sources names line cursor text with
      | error cause => rfl
      | ok read =>
        simp only [ih read.2]
        cases decodeLine sources names line read.2 rest with
        | error cause => rfl
        | ok here =>
          dsimp only
          cases decodePieces sources names line here.2 further <;> rfl

/-- The column does not matter when the line is about to change, or when it is at its start. -/
theorem decodePieces_turn {line before : Nat} {cursor : Cursor}
    (fresh : before < line ∨ cursor.column = 0) (sources names : Nat) {todo : List Piece}
    (later : ∀ piece ∈ todo, line ≤ piece.line) :
    decodePieces sources names line { cursor with column := 0 } todo =
      decodePieces sources names before cursor todo := by
  cases todo with
  | nil => rfl
  | cons piece rest =>
    have here := later piece List.mem_cons_self
    have same : Cursor.turn { cursor with column := 0 } line piece.line =
        cursor.turn before piece.line := by
      rcases fresh with changes | start
      · rw [Cursor.turn_of_ne (by omega) cursor]
        unfold Cursor.turn
        split <;> rfl
      · rw [← start]
        unfold Cursor.turn
        split <;> split <;> simp [← start]
    simp only [decodePieces, same]

theorem le_of_mem_piecesFrom {line : Nat} {texts : List (List Char)} {piece : Piece}
    (member : piece ∈ piecesFrom line texts) : line ≤ piece.line := by
  induction texts generalizing line with
  | nil => simp [piecesFrom] at member
  | cons text rest ih =>
    rcases List.mem_append.mp member with here | later
    · obtain ⟨_, _, rfl⟩ := List.mem_map.mp here
      exact Nat.le_refl line
    · exact Nat.le_of_succ_le (ih later)

theorem lt_of_mem_piecesFrom {line : Nat} {texts : List (List Char)} {piece : Piece}
    (member : piece ∈ piecesFrom line texts) : piece.line < line + texts.length := by
  induction texts generalizing line with
  | nil => simp [piecesFrom] at member
  | cons text rest ih =>
    rw [List.length_cons]
    rcases List.mem_append.mp member with here | later
    · obtain ⟨_, _, rfl⟩ := List.mem_map.mp here
      dsimp only
      omega
    · have bound := ih later
      omega

/-- Pieces come in the order of their lines. -/
theorem piecesFrom_sorted (line : Nat) (texts : List (List Char)) :
    (piecesFrom line texts).Pairwise (·.line ≤ ·.line) := by
  induction texts generalizing line with
  | nil => exact .nil
  | cons text rest ih =>
    refine List.pairwise_append.mpr ⟨?_, ih (line + 1), ?_⟩
    · exact List.pairwise_map.mpr (List.pairwise_of_forall fun _ _ => Nat.le_refl line)
    · intro piece here other later
      obtain ⟨_, _, rfl⟩ := List.mem_map.mp here
      exact Nat.le_of_succ_le (le_of_mem_piecesFrom later)

theorem decodeLines_eq (sources names : Nat) {line before : Nat} {cursor : Cursor}
    (fresh : before < line ∨ cursor.column = 0) (texts : List (List Char)) :
    decodeLines sources names line cursor texts =
      decodePieces sources names before cursor (piecesFrom line texts) := by
  induction texts generalizing line before cursor with
  | nil => rfl
  | cons text rest ih =>
    rw [← decodePieces_turn fresh sources names fun _ member => le_of_mem_piecesFrom member]
    rw [piecesFrom, linePieces, decodePieces_append, decodeLines]
    simp only [ih (.inl (Nat.lt_succ_self line))]

/-- Decoding is one pass over the pieces. -/
theorem decode_eq (text : List Char) (sources names : Nat) :
    decode text sources names = decodePieces sources names 0 Cursor.start (pieces text) :=
  decodeLines_eq sources names (.inr rfl) _

end SourceTrace.Mappings
