import Mathlib.Algebra.BigOperators.Group.List.Basic
import Mathlib.Algebra.Ring.Int.Defs
import SourceTrace.Proofs.Mappings.Pieces

/-!
# What decoding mappings computes

A text of mappings is read as its stream of pieces. This module says without any cursor which
streams are accepted and what they stand for: every piece is a group of quantities of a known size,
every running sum stays in range, and the segment of a piece holds the sums up to that piece. A
stream that is not accepted is refused for the first piece at fault, and for the first of its
faults.
-/
namespace SourceTrace.Mappings

/-- The quantities of a piece, if it is well-formed. -/
def Piece.values (piece : Piece) : List Int := (Vlq.decode piece.text).toOption.getD []

/-- The sum of one field over all pieces that have it. -/
def sum (field : Nat) (pieces : List Piece) : Int :=
  (pieces.map fun piece => piece.values.getD field 0).sum

/-- The sum of the columns since the start of a line. -/
def columnSum (line : Nat) (pieces : List Piece) : Int := sum 0 (pieces.filter (·.line == line))

/-- The segment that a piece stands for behind others. -/
def sumSegment (before : List Piece) (piece : Piece) : Segment where
  line := piece.line
  column := (columnSum piece.line (before ++ [piece])).toNat
  sourceLine := (sum 2 (before ++ [piece])).toNat
  sourceColumn := (sum 3 (before ++ [piece])).toNat
  source := if 1 < piece.values.length then some (sum 1 (before ++ [piece])).toNat else none
  name := if 4 < piece.values.length then some (sum 4 (before ++ [piece])).toNat else none

/-- A well-formed piece with a known number of quantities. -/
structure Sized (piece : Piece) : Prop where
  formed : Vlq.decode piece.text = .ok piece.values
  size : piece.values.length = 1 ∨ piece.values.length = 4 ∨ piece.values.length = 5

/-- A piece whose references name one of the sources and, if it has one for it, one of the names. -/
structure Referring (sources names : Nat) (before : List Piece) (piece : Piece) : Prop
    extends Sized piece where
  source : 1 < piece.values.length →
    0 ≤ sum 1 (before ++ [piece]) ∧ sum 1 (before ++ [piece]) < sources
  name : 4 < piece.values.length →
    0 ≤ sum 4 (before ++ [piece]) ∧ sum 4 (before ++ [piece]) < names

/-- A piece that is accepted behind others. -/
structure Sound (sources names : Nat) (before : List Piece) (piece : Piece) : Prop
    extends Referring sources names before piece where
  column : InRange (columnSum piece.line (before ++ [piece]))
  sourceLine : InRange (sum 2 (before ++ [piece]))
  sourceColumn : InRange (sum 3 (before ++ [piece]))

/-- The fault of a piece that is refused behind others: the first of those it has. A reference is
reported modulo the limit. -/
inductive Fault (sources names : Nat) (before : List Piece) (piece : Piece) : Error → Prop
  | formed {cause : Vlq.Error} (malformed : Vlq.decode piece.text = .error cause) :
      Fault sources names before piece (.vlq cause)
  | size (formed : Vlq.decode piece.text = .ok piece.values)
      (unknown : ¬ (piece.values.length = 1 ∨ piece.values.length = 4 ∨ piece.values.length = 5)) :
      Fault sources names before piece (.badSegmentSize piece.values.length)
  | source (sized : Sized piece) (refers : 1 < piece.values.length)
      (missing : ¬ (0 ≤ sum 1 (before ++ [piece]) ∧ sum 1 (before ++ [piece]) < sources)) :
      Fault sources names before piece
        (.badSourceReference (sum 1 (before ++ [piece]) % limit).toNat)
  | name (sized : Sized piece)
      (source : 0 ≤ sum 1 (before ++ [piece]) ∧ sum 1 (before ++ [piece]) < sources)
      (refers : 4 < piece.values.length)
      (missing : ¬ (0 ≤ sum 4 (before ++ [piece]) ∧ sum 4 (before ++ [piece]) < names)) :
      Fault sources names before piece
        (.badNameReference (sum 4 (before ++ [piece]) % limit).toNat)
  | column (referring : Referring sources names before piece)
      (outside : ¬ InRange (columnSum piece.line (before ++ [piece]))) :
      Fault sources names before piece (.badPosition (columnSum piece.line (before ++ [piece])))
  | sourceLine (referring : Referring sources names before piece)
      (column : InRange (columnSum piece.line (before ++ [piece])))
      (outside : ¬ InRange (sum 2 (before ++ [piece]))) :
      Fault sources names before piece (.badPosition (sum 2 (before ++ [piece])))
  | sourceColumn (referring : Referring sources names before piece)
      (column : InRange (columnSum piece.line (before ++ [piece])))
      (sourceLine : InRange (sum 2 (before ++ [piece])))
      (outside : ¬ InRange (sum 3 (before ++ [piece]))) :
      Fault sources names before piece (.badPosition (sum 3 (before ++ [piece])))

/-- The cursor in a line behind some pieces. -/
def cursorAfter (line : Nat) (before : List Piece) : Cursor :=
  ⟨columnSum line before, sum 1 before, sum 2 before, sum 3 before, sum 4 before⟩

theorem sum_append (field : Nat) (before : List Piece) (piece : Piece) :
    sum field (before ++ [piece]) = sum field before + piece.values.getD field 0 := by
  simp [sum]

theorem columnSum_append (before : List Piece) (piece : Piece) :
    columnSum piece.line (before ++ [piece]) =
      columnSum piece.line before + piece.values.getD 0 0 := by
  simp [columnSum, List.filter_append, sum_append]

/-- A sized piece moves the cursor to the sums behind it. -/
theorem advance_cursorAfter {piece : Piece} (sized : Sized piece) (before : List Piece) :
    advance (cursorAfter piece.line before) piece.values =
      .ok (cursorAfter piece.line (before ++ [piece])) := by
  have size := sized.size
  simp only [cursorAfter, sum_append, columnSum_append]
  match values : piece.values with
  | [column] => simp [advance]
  | [column, source, line, sourceColumn] => simp [advance]
  | [column, source, line, sourceColumn, name] => simp [advance]
  | [] | [_, _] | [_, _, _] | _ :: _ :: _ :: _ :: _ :: _ :: _ =>
    simp [values] at size

/-- What is left to check of a sized piece. -/
theorem decodeSegment_of_sized (sources names : Nat) {piece : Piece} (sized : Sized piece)
    (before : List Piece) :
    decodeSegment sources names piece.line (cursorAfter piece.line before) piece.text = (do
      let source ← optionalReference (1 < piece.values.length) sources Error.badSourceReference
        (sum 1 (before ++ [piece]))
      let name ← optionalReference (4 < piece.values.length) names Error.badNameReference
        (sum 4 (before ++ [piece]))
      let line ← position piece.line
      let column ← position (columnSum piece.line (before ++ [piece]))
      let sourceLine ← position (sum 2 (before ++ [piece]))
      let sourceColumn ← position (sum 3 (before ++ [piece]))
      return ({ line, column, sourceLine, sourceColumn, source, name },
        cursorAfter piece.line (before ++ [piece]))) := by
  rw [decodeSegment, sized.formed, Except.mapError, ok_bind, advance_cursorAfter sized before]
  rfl

theorem decodeSegment_of_referring {sources names : Nat} {before : List Piece} {piece : Piece}
    (referring : Referring sources names before piece) (few : piece.line < limit) :
    decodeSegment sources names piece.line (cursorAfter piece.line before) piece.text = (do
      let column ← position (columnSum piece.line (before ++ [piece]))
      let sourceLine ← position (sum 2 (before ++ [piece]))
      let sourceColumn ← position (sum 3 (before ++ [piece]))
      return ({ sumSegment before piece with column, sourceLine, sourceColumn },
        cursorAfter piece.line (before ++ [piece]))) := by
  have inRange : InRange (piece.line : Int) := by
    unfold InRange
    omega
  rw [decodeSegment_of_sized sources names referring.toSized,
    optionalReference_eq_ok (by simpa using referring.source),
    optionalReference_eq_ok (by simpa using referring.name), position_of_inRange inRange]
  simp only [ok_bind, sumSegment, decide_eq_true_eq, Int.toNat_natCast]

/-- A sound piece stands for the sums up to it. -/
theorem decodeSegment_of_sound {sources names : Nat} {before : List Piece} {piece : Piece}
    (sound : Sound sources names before piece) (few : piece.line < limit) :
    decodeSegment sources names piece.line (cursorAfter piece.line before) piece.text =
      .ok (sumSegment before piece, cursorAfter piece.line (before ++ [piece])) := by
  rw [decodeSegment_of_referring sound.toReferring few, position_of_inRange sound.column,
    position_of_inRange sound.sourceLine, position_of_inRange sound.sourceColumn]
  rfl

theorem advance_of_not_sized (cursor : Cursor) {values : List Int}
    (unknown : ¬ (values.length = 1 ∨ values.length = 4 ∨ values.length = 5)) :
    advance cursor values = .error (.badSegmentSize values.length) := by
  unfold advance
  split <;> simp_all

/-- A faulty piece is refused for its fault. -/
theorem decodeSegment_of_fault {sources names : Nat} {before : List Piece} {piece : Piece}
    {cause : Error} (fault : Fault sources names before piece cause) (few : piece.line < limit) :
    decodeSegment sources names piece.line (cursorAfter piece.line before) piece.text =
      .error cause := by
  cases fault with
  | formed malformed =>
    rw [decodeSegment, malformed]
    rfl
  | size formed unknown =>
    rw [decodeSegment, formed]
    simp only [Except.mapError, bind, Except.bind, advance_of_not_sized _ unknown]
  | source sized refers missing =>
    rw [decodeSegment_of_sized sources names sized,
      optionalReference_eq_error (by simpa using refers) missing]
    rfl
  | name sized source refers missing =>
    rw [decodeSegment_of_sized sources names sized, optionalReference_eq_ok fun _ => source,
      optionalReference_eq_error (by simpa using refers) missing]
    rfl
  | column referring outside =>
    rw [decodeSegment_of_referring referring few, position_of_not_inRange outside]
    rfl
  | sourceLine referring column outside =>
    rw [decodeSegment_of_referring referring few, position_of_inRange column,
      position_of_not_inRange outside]
    rfl
  | sourceColumn referring column sourceLine outside =>
    rw [decodeSegment_of_referring referring few, position_of_inRange column,
      position_of_inRange sourceLine, position_of_not_inRange outside]
    rfl

theorem sound_or_outside {sources names : Nat} {before : List Piece} {piece : Piece}
    (referring : Referring sources names before piece) :
    Sound sources names before piece ∨ ∃ cause, Fault sources names before piece cause := by
  by_cases column : InRange (columnSum piece.line (before ++ [piece]))
  · by_cases sourceLine : InRange (sum 2 (before ++ [piece]))
    · by_cases sourceColumn : InRange (sum 3 (before ++ [piece]))
      · exact .inl ⟨referring, column, sourceLine, sourceColumn⟩
      · exact .inr ⟨_, .sourceColumn referring column sourceLine sourceColumn⟩
    · exact .inr ⟨_, .sourceLine referring column sourceLine⟩
  · exact .inr ⟨_, .column referring column⟩

/-- Every piece is sound or has a fault. -/
theorem sound_or_fault (sources names : Nat) (before : List Piece) (piece : Piece) :
    Sound sources names before piece ∨ ∃ cause, Fault sources names before piece cause := by
  cases read : Vlq.decode piece.text with
  | error cause => exact .inr ⟨_, .formed read⟩
  | ok values =>
    have formed : Vlq.decode piece.text = .ok piece.values := by
      rw [Piece.values, read]
      rfl
    by_cases size : piece.values.length = 1 ∨ piece.values.length = 4 ∨ piece.values.length = 5
    · have sized : Sized piece := ⟨formed, size⟩
      by_cases source : 1 < piece.values.length →
          0 ≤ sum 1 (before ++ [piece]) ∧ sum 1 (before ++ [piece]) < sources
      · by_cases name : 4 < piece.values.length →
            0 ≤ sum 4 (before ++ [piece]) ∧ sum 4 (before ++ [piece]) < names
        · exact sound_or_outside ⟨sized, source, name⟩
        · obtain ⟨refers, missing⟩ := Classical.not_imp.mp name
          exact .inr ⟨_, .name sized (source (by omega)) refers missing⟩
      · obtain ⟨refers, missing⟩ := Classical.not_imp.mp source
        exact .inr ⟨_, .source sized refers missing⟩
    · exact .inr ⟨_, .size formed size⟩

/-- A stream of pieces in the middle of its reading: `before` lies behind, up to line `line`, and
`todo` ahead. -/
structure Ahead (line : Nat) (before todo : List Piece) : Prop where
  earlier : ∀ piece ∈ before, piece.line ≤ line
  later : ∀ piece ∈ todo, line ≤ piece.line
  sorted : todo.Pairwise (·.line ≤ ·.line)
  few : ∀ piece ∈ todo, piece.line < limit

theorem Ahead.step {line : Nat} {before rest : List Piece} {piece : Piece}
    (ahead : Ahead line before (piece :: rest)) : Ahead piece.line (before ++ [piece]) rest where
  earlier other member := by
    rcases List.mem_append.mp member with behind | last
    · exact Nat.le_trans (ahead.earlier other behind) (ahead.later piece List.mem_cons_self)
    · exact Nat.le_of_eq (congrArg Piece.line (List.mem_singleton.mp last))
  later := (List.pairwise_cons.mp ahead.sorted).1
  sorted := (List.pairwise_cons.mp ahead.sorted).2
  few other member := ahead.few other (List.mem_cons_of_mem piece member)

/-- A line that no piece stands in yet starts at column zero. -/
theorem columnSum_eq_zero {line : Nat} {before : List Piece}
    (other : ∀ piece ∈ before, piece.line ≠ line) : columnSum line before = 0 := by
  have none : before.filter (·.line == line) = [] := by simpa using other
  rw [columnSum, none]
  rfl

theorem Ahead.turn_eq {line : Nat} {before rest : List Piece} {piece : Piece}
    (ahead : Ahead line before (piece :: rest)) :
    (cursorAfter line before).turn line piece.line = cursorAfter piece.line before := by
  by_cases same : piece.line = line
  · rw [same, Cursor.turn_self]
  · have fresh : columnSum piece.line before = 0 := by
      refine columnSum_eq_zero ?_
      intro other member
      have behind := ahead.earlier other member
      have here := ahead.later piece List.mem_cons_self
      omega
    rw [Cursor.turn_of_ne same, cursorAfter, cursorAfter, fresh]

/-- One step over a sound piece. -/
theorem Ahead.decodePieces_cons {sources names line : Nat} {before rest : List Piece}
    {piece : Piece} (ahead : Ahead line before (piece :: rest))
    (sound : Sound sources names before piece) :
    decodePieces sources names line (cursorAfter line before) (piece :: rest) = do
      let segments ← decodePieces sources names piece.line
        (cursorAfter piece.line (before ++ [piece])) rest
      return sumSegment before piece :: segments := by
  have few := ahead.few piece List.mem_cons_self
  rw [decodePieces, ahead.turn_eq, decodeSegment_of_sound sound few]
  rfl

/-- All pieces of a stream are sound behind those before them. -/
def AllSound (sources names : Nat) (before todo : List Piece) : Prop :=
  ∀ left piece right, todo = left ++ piece :: right → Sound sources names (before ++ left) piece

theorem allSound_cons {sources names : Nat} {before rest : List Piece} {piece : Piece} :
    AllSound sources names before (piece :: rest) ↔
      Sound sources names before piece ∧ AllSound sources names (before ++ [piece]) rest := by
  constructor
  · intro sound
    refine ⟨by simpa using sound [] piece rest rfl, ?_⟩
    rintro left next right rfl
    simpa using sound (piece :: left) next right rfl
  · rintro ⟨first, others⟩ left next right split
    cases left with
    | nil =>
      cases split
      simpa using first
    | cons head left =>
      cases split
      simpa using others left next right rfl

/-- A stream of sound pieces stands for the sums up to each of them. -/
theorem Ahead.decodePieces_of_sound {sources names line : Nat} {before todo : List Piece}
    (ahead : Ahead line before todo) (sound : AllSound sources names before todo) :
    decodePieces sources names line (cursorAfter line before) todo =
      .ok (todo.mapIdx fun index piece => sumSegment (before ++ todo.take index) piece) := by
  induction todo generalizing line before with
  | nil => rfl
  | cons piece rest ih =>
    obtain ⟨first, others⟩ := allSound_cons.mp sound
    rw [ahead.decodePieces_cons first, ih ahead.step others]
    simp only [ok_bind, List.mapIdx_cons, List.take_zero, List.append_nil, List.take_succ_cons,
      List.append_assoc, List.singleton_append]
    rfl

/-- A stream is refused for its first faulty piece. -/
theorem Ahead.decodePieces_of_fault {sources names line : Nat} {before left right : List Piece}
    {piece : Piece} {cause : Error} (ahead : Ahead line before (left ++ piece :: right))
    (sound : AllSound sources names before left)
    (fault : Fault sources names (before ++ left) piece cause) :
    decodePieces sources names line (cursorAfter line before) (left ++ piece :: right) =
      .error cause := by
  induction left generalizing line before with
  | nil =>
    rw [List.append_nil] at fault
    have few := ahead.few piece List.mem_cons_self
    rw [List.nil_append, decodePieces, ahead.turn_eq, decodeSegment_of_fault fault few]
    rfl
  | cons first left ih =>
    obtain ⟨here, others⟩ := allSound_cons.mp sound
    rw [List.cons_append] at ahead ⊢
    rw [ahead.decodePieces_cons here, ih ahead.step others (by simpa using fault)]
    rfl

/-- A stream consists of sound pieces, or it has a first faulty one. -/
theorem allSound_or_fault (sources names : Nat) (before todo : List Piece) :
    AllSound sources names before todo ∨ ∃ left piece right cause, todo = left ++ piece :: right ∧
      AllSound sources names before left ∧ Fault sources names (before ++ left) piece cause := by
  induction todo generalizing before with
  | nil => exact .inl fun left piece right split => by simp at split
  | cons piece rest ih =>
    rcases sound_or_fault sources names before piece with sound | ⟨cause, fault⟩
    · rcases ih (before ++ [piece]) with others | ⟨left, next, right, cause, rfl, passed, fault⟩
      · exact .inl (allSound_cons.mpr ⟨sound, others⟩)
      · exact .inr ⟨piece :: left, next, right, cause, rfl, allSound_cons.mpr ⟨sound, passed⟩,
          by simpa using fault⟩
    · exact .inr ⟨[], piece, rest, cause, rfl, fun left piece right split => by simp at split,
        by simpa using fault⟩

/-- A text of at most so many lines as can be numbered is accepted exactly if all its pieces are
sound, and then stands for the sums up to each piece. Otherwise it is refused for the fault of its
first faulty piece. -/
theorem decode_eq_sums (text : List Char) (sources names : Nat)
    (few : (Text.split (· == ';') text).length ≤ limit) :
    (∀ segments, decode text sources names = .ok segments ↔
      (∀ before piece after, pieces text = before ++ piece :: after →
        Sound sources names before piece) ∧
      segments = (pieces text).mapIdx fun index piece =>
        sumSegment ((pieces text).take index) piece) ∧
    ∀ cause, decode text sources names = .error cause ↔
      ∃ before piece after, pieces text = before ++ piece :: after ∧
        (∀ left earlier right, before = left ++ earlier :: right →
          Sound sources names left earlier) ∧
        Fault sources names before piece cause := by
  have ahead : Ahead 0 [] (pieces text) := by
    refine ⟨fun _ member => by simp at member, fun _ _ => Nat.zero_le _, piecesFrom_sorted 0 _, ?_⟩
    intro piece member
    have bound := lt_of_mem_piecesFrom member
    omega
  have start : Cursor.start = cursorAfter 0 [] := rfl
  rw [decode_eq, start]
  have whole := allSound_or_fault sources names [] (pieces text)
  constructor
  · intro segments
    constructor
    · intro accepted
      rcases whole with sound | ⟨left, piece, right, cause, split, passed, fault⟩
      · rw [ahead.decodePieces_of_sound sound] at accepted
        cases accepted
        exact ⟨sound, rfl⟩
      · rw [split] at ahead accepted
        rw [ahead.decodePieces_of_fault passed fault] at accepted
        cases accepted
    · rintro ⟨sound, rfl⟩
      exact ahead.decodePieces_of_sound sound
  · intro cause
    constructor
    · intro refused
      rcases whole with sound | ⟨left, piece, right, reason, split, passed, fault⟩
      · rw [ahead.decodePieces_of_sound sound] at refused
        cases refused
      · rw [split] at ahead refused
        rw [ahead.decodePieces_of_fault passed fault] at refused
        cases refused
        exact ⟨left, piece, right, split, passed, fault⟩
    · rintro ⟨left, piece, right, split, passed, fault⟩
      rw [split] at ahead ⊢
      exact ahead.decodePieces_of_fault passed fault

theorem decode_three_lines :
    (Text.split (· == ';') "AAAAA,C;;ECCA".toList).length ≤ limit ∧
    (∀ before piece after, pieces "AAAAA,C;;ECCA".toList = before ++ piece :: after →
      Sound 2 1 before piece) ∧
    [⟨0, 0, 0, 0, some 0, some 0⟩, ⟨0, 1, 0, 0, none, none⟩, ⟨2, 2, 1, 0, some 1, none⟩] =
      (pieces "AAAAA,C;;ECCA".toList).mapIdx fun index piece =>
        sumSegment ((pieces "AAAAA,C;;ECCA".toList).take index) piece :=
  ⟨by decide, ((decode_eq_sums "AAAAA,C;;ECCA".toList 2 1 (by decide)).1 _).mp (by decide)⟩

end SourceTrace.Mappings
