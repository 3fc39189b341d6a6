import SourceTrace.Proofs.Mappings.Pieces
import SourceTrace.Proofs.Vlq.RoundTrip

/-!
# Mappings are read back

The writer and the reader of mappings move their cursors in step, so the segments that were written
come back. Two things are not written, and come back in a fixed form: a segment that maps nothing
gets the source position of the last one before it that maps something, and a name that the document
does not have is gone.
-/
namespace SourceTrace

/-- A segment whose numbers are below the limit. -/
structure Segment.Fits (segment : Segment) : Prop where
  line : segment.line < Mappings.limit
  column : segment.column < Mappings.limit
  sourceLine : segment.sourceLine < Mappings.limit
  sourceColumn : segment.sourceColumn < Mappings.limit
  source : ∀ id ∈ segment.source, id < Mappings.limit
  name : ∀ id ∈ segment.name, id < Mappings.limit

namespace Mappings

/-- The last segment that maps something. -/
def lastMapped? (segments : List Segment) : Option Segment :=
  (segments.filter (·.source.isSome)).getLast?

/-- A segment as it is read back behind others, in a document with so many names. -/
def reread (names : Nat) (before : List Segment) (segment : Segment) : Segment :=
  match segment.source with
  | none =>
    { segment with
      sourceLine := ((lastMapped? before).map Segment.sourceLine).getD 0
      sourceColumn := ((lastMapped? before).map Segment.sourceColumn).getD 0
      name := none }
  | some _ => { segment with name := segment.name.filter (· < names) }

/-- The pieces that are written for segments, where `line` is the line of the segment before. -/
def writtenPieces (names : Nat) (cursor : Cursor) (line : Nat) : List Segment → List Piece
  | [] => []
  | segment :: rest =>
    let fields := (differences names (cursor.turn line segment.line) segment).1
    let after := (differences names (cursor.turn line segment.line) segment).2
    ⟨segment.line, fields.flatMap Vlq.encodeOne⟩ :: writtenPieces names after segment.line rest

/-- Commas divide the pieces of a line. -/
theorem linePieces_comma (line : Nat) (left right : List Char) :
    linePieces line (left ++ ',' :: right) = linePieces line left ++ linePieces line right := by
  rw [linePieces, Text.split_append_cons rfl, List.filter_append, List.map_append]
  rfl

theorem linePieces_single {text : List Char} (some : text ≠ []) (free : ',' ∉ text) (line : Nat) :
    linePieces line text = [⟨line, text⟩] := by
  simp [linePieces, Text.split_of_not_mem free, some]

theorem linePieces_nil (line : Nat) : linePieces line [] = [] := rfl

/-- A semicolon ends a line. -/
theorem piecesFrom_semicolon (line : Nat) {before : List Char} (free : ';' ∉ before)
    (text : List Char) :
    piecesFrom line (Text.split (· == ';') (before ++ ';' :: text)) =
      linePieces line before ++ piecesFrom (line + 1) (Text.split (· == ';') text) := by
  rw [Text.split_append_cons rfl, Text.split_of_not_mem free, List.singleton_append, piecesFrom]

/-- Semicolons count the lines. -/
theorem piecesFrom_semicolons (line count : Nat) {before : List Char} (free : ';' ∉ before)
    (text : List Char) :
    piecesFrom line (Text.split (· == ';') (before ++ List.replicate (count + 1) ';' ++ text)) =
      linePieces line before ++ piecesFrom (line + (count + 1)) (Text.split (· == ';') text) := by
  induction count generalizing line before with
  | zero =>
    rw [List.append_assoc]
    exact piecesFrom_semicolon line free text
  | succ count ih =>
    rw [List.append_assoc, List.replicate_succ, List.cons_append, piecesFrom_semicolon line free]
    have rest := ih (line + 1) List.not_mem_nil
    rw [List.nil_append, linePieces_nil, List.nil_append] at rest
    rw [rest]
    congr 2
    omega

theorem not_mem_flatMap_encodeOne {c : Char} (foreign : Base64.digit? c = none)
    (fields : List Int) : c ∉ fields.flatMap Vlq.encodeOne := by
  intro member
  obtain ⟨value, _, inside⟩ := List.mem_flatMap.mp member
  exact Vlq.not_mem_group foreign _ inside

theorem differences_ne_nil (names : Nat) (cursor : Cursor) (segment : Segment) :
    (differences names cursor segment).1 ≠ [] := by
  unfold differences
  split
  · simp
  · dsimp only
    split
    · split <;> simp
    · simp

theorem flatMap_encodeOne_ne_nil {fields : List Int} (some : fields ≠ []) :
    fields.flatMap Vlq.encodeOne ≠ [] := by
  obtain ⟨value, rest, rfl⟩ := List.exists_cons_of_ne_nil some
  rw [List.flatMap_cons]
  exact List.append_ne_nil_of_left_ne_nil (Vlq.encodeOne_ne_nil value) _

theorem encodeFrom_cons (names : Nat) (cursor : Cursor) (line : Nat) (first : Bool)
    (segment : Segment) (rest : List Segment) :
    encodeFrom names cursor line first (segment :: rest) =
      (if segment.line = line then if first then [] else [',']
        else List.replicate (segment.line - line) ';') ++
      (differences names (cursor.turn line segment.line) segment).1.flatMap Vlq.encodeOne ++
      encodeFrom names (differences names (cursor.turn line segment.line) segment).2 segment.line
        false rest := by
  by_cases same : segment.line = line
  · simp [encodeFrom, Cursor.turn, same]
  · simp [encodeFrom, Cursor.turn, same]

/-- Mappings consist of digits, commas and semicolons. -/
theorem not_mem_encodeFrom {c : Char} (foreign : Base64.digit? c = none) (noComma : c ≠ ',')
    (noSemicolon : c ≠ ';') (names : Nat) (cursor : Cursor) (line : Nat) (first : Bool)
    (segments : List Segment) : c ∉ encodeFrom names cursor line first segments := by
  induction segments generalizing cursor line first with
  | nil => simp [encodeFrom]
  | cons segment rest ih =>
    rw [encodeFrom_cons, List.mem_append, List.mem_append, not_or, not_or]
    refine ⟨⟨?_, not_mem_flatMap_encodeOne foreign _⟩, ih _ _ _⟩
    split
    · split <;> simp [noComma]
    · simp [noSemicolon]

/-- The written text has the written pieces. What stands in the current line before it is
`before`. -/
theorem piecesFrom_encodeFrom (names : Nat) (cursor : Cursor) (line : Nat) (first : Bool)
    {segments : List Segment} (later : ∀ segment ∈ segments, line ≤ segment.line)
    (sorted : segments.Pairwise (·.line ≤ ·.line)) {before : List Char} (free : ';' ∉ before)
    (start : first → before = []) :
    piecesFrom line (Text.split (· == ';')
        (before ++ encodeFrom names cursor line first segments)) =
      linePieces line before ++ writtenPieces names cursor line segments := by
  induction segments generalizing cursor line first before with
  | nil => simp [encodeFrom, writtenPieces, Text.split_of_not_mem free, piecesFrom]
  | cons segment rest ih =>
    obtain ⟨restLater, restSorted⟩ := List.pairwise_cons.mp sorted
    have here := later segment List.mem_cons_self
    rw [encodeFrom_cons, writtenPieces]
    have known := differences_ne_nil names (cursor.turn line segment.line) segment
    generalize differences names (cursor.turn line segment.line) segment = moved at known ⊢
    obtain ⟨fields, after⟩ := moved
    have some := flatMap_encodeOne_ne_nil known
    have noComma : ',' ∉ fields.flatMap Vlq.encodeOne := not_mem_flatMap_encodeOne rfl fields
    have noSemicolon : ';' ∉ fields.flatMap Vlq.encodeOne := not_mem_flatMap_encodeOne rfl fields
    dsimp only
    generalize fields.flatMap Vlq.encodeOne = text at some noComma noSemicolon ⊢
    have single := linePieces_single some noComma segment.line
    by_cases same : segment.line = line
    · subst same
      rw [if_pos rfl]
      -- The new piece becomes part of what stands in the line.
      have longer : linePieces segment.line (before ++ ((if first then [] else [',']) ++ text)) =
          linePieces segment.line before ++ [⟨segment.line, text⟩] := by
        cases first with
        | true => simp [start rfl, single, linePieces_nil]
        | false => simpa [single] using linePieces_comma segment.line before text
      have longerFree : ';' ∉ before ++ ((if first then [] else [',']) ++ text) := by
        cases first <;> simp [free, noSemicolon]
      rw [← List.append_assoc,
        ih after segment.line false restLater restSorted longerFree (by simp), longer,
        List.append_assoc, List.singleton_append]
    · obtain ⟨count, distance⟩ : ∃ count, segment.line - line = count + 1 :=
        ⟨segment.line - line - 1, by omega⟩
      have reached : line + (count + 1) = segment.line := by omega
      rw [if_neg same, distance, List.append_assoc, ← List.append_assoc before,
        piecesFrom_semicolons line count free, reached,
        ih after segment.line false restLater restSorted noSemicolon (by simp), single,
        List.singleton_append]

/-- The text of a document's mappings has one piece for each of its segments. -/
theorem pieces_encode {doc : Document} (sorted : doc.segments.Pairwise (·.line ≤ ·.line)) :
    pieces (encode doc) = writtenPieces doc.names.length Cursor.start 0 doc.segments :=
  piecesFrom_encodeFrom doc.names.length Cursor.start 0 true (fun _ _ => Nat.zero_le _) sorted
    List.not_mem_nil fun _ => rfl

/-- The three forms of a written segment: one that maps nothing, one without a name, and one with a
name that the document has. -/
theorem differences_cases (names : Nat) (cursor : Cursor) (segment : Segment) :
    (segment.source = none ∧ differences names cursor segment =
      ([segment.column - cursor.column], { cursor with column := segment.column })) ∨
    (∃ id, segment.source = some id ∧ segment.name.filter (· < names) = none ∧
      differences names cursor segment =
        ([segment.column - cursor.column, id - cursor.source,
          segment.sourceLine - cursor.sourceLine, segment.sourceColumn - cursor.sourceColumn],
        { column := segment.column, source := id, sourceLine := segment.sourceLine,
          sourceColumn := segment.sourceColumn, name := cursor.name })) ∨
    ∃ id name, segment.source = some id ∧ segment.name.filter (· < names) = some name ∧
      differences names cursor segment =
        ([segment.column - cursor.column, id - cursor.source,
          segment.sourceLine - cursor.sourceLine, segment.sourceColumn - cursor.sourceColumn,
          name - cursor.name],
        { column := segment.column, source := id, sourceLine := segment.sourceLine,
          sourceColumn := segment.sourceColumn, name := name }) := by
  cases source : segment.source with
  | none => exact .inl ⟨rfl, by simp [differences, source]⟩
  | some id =>
    refine .inr ?_
    cases name : segment.name with
    | none => exact .inl ⟨id, rfl, rfl, by simp [differences, source, name]⟩
    | some number =>
      by_cases known : number < names
      · exact .inr ⟨id, number, rfl, by simp [known], by simp [differences, source, name, known]⟩
      · exact .inl ⟨id, rfl, by simpa using known, by simp [differences, source, name, known]⟩

/-- A cursor in range, with the source position of the last segment that maps something. -/
structure Cursor.Behind (cursor : Cursor) (before : List Segment) : Prop where
  column : InRange cursor.column
  source : InRange cursor.source
  sourceLine : InRange cursor.sourceLine
  sourceColumn : InRange cursor.sourceColumn
  name : InRange cursor.name
  sourceLine_eq : cursor.sourceLine.toNat = ((lastMapped? before).map Segment.sourceLine).getD 0
  sourceColumn_eq :
    cursor.sourceColumn.toNat = ((lastMapped? before).map Segment.sourceColumn).getD 0

theorem inRange_natCast {n : Nat} (small : n < limit) : InRange (n : Int) := by
  unfold InRange
  omega

theorem Cursor.behind_start : Cursor.start.Behind [] :=
  ⟨inRange_zero, inRange_zero, inRange_zero, inRange_zero, inRange_zero, rfl, rfl⟩

theorem Cursor.Behind.turn {cursor : Cursor} {before : List Segment}
    (behind : cursor.Behind before) (line next : Nat) : (cursor.turn line next).Behind before := by
  unfold Cursor.turn
  split
  · exact behind
  · exact ⟨inRange_zero, behind.source, behind.sourceLine, behind.sourceColumn,
      behind.name, behind.sourceLine_eq, behind.sourceColumn_eq⟩

/-- The difference of two numbers in range has digits enough. -/
theorem fits_sub {left right : Int} (first : InRange left) (second : InRange right) :
    Vlq.Fits (left - right) := by
  unfold InRange limit at first second
  unfold Vlq.Fits
  omega

theorem fits_differences (names : Nat) {cursor : Cursor} {before : List Segment}
    {segment : Segment} (fits : segment.Fits) (behind : cursor.Behind before) :
    ∀ value ∈ (differences names cursor segment).1, Vlq.Fits value := by
  have column := fits_sub (inRange_natCast fits.column) behind.column
  have sourceLine := fits_sub (inRange_natCast fits.sourceLine) behind.sourceLine
  have sourceColumn := fits_sub (inRange_natCast fits.sourceColumn) behind.sourceColumn
  rcases differences_cases names cursor segment with ⟨_, same⟩ | ⟨id, mapped, _, same⟩ |
    ⟨id, name, mapped, named, same⟩
  · simpa [same] using column
  · have source := fits_sub (inRange_natCast (fits.source id mapped)) behind.source
    simp [same, column, source, sourceLine, sourceColumn]
  · have source := fits_sub (inRange_natCast (fits.source id mapped)) behind.source
    obtain ⟨given, _⟩ := Option.filter_eq_some_iff.mp named
    have nameFits := fits_sub (inRange_natCast (fits.name name given)) behind.name
    simp [same, column, source, sourceLine, sourceColumn, nameFits]

theorem lastMapped?_of_unmapped {segment : Segment} (unmapped : segment.source = none)
    (before : List Segment) : lastMapped? (before ++ [segment]) = lastMapped? before := by
  simp [lastMapped?, unmapped]

theorem lastMapped?_of_mapped {segment : Segment} {id : Nat} (mapped : segment.source = some id)
    (before : List Segment) : lastMapped? (before ++ [segment]) = some segment := by
  simp [lastMapped?, List.filter_append, mapped]

/-- A text of fields that move the cursor to a place in range. -/
theorem decodeSegment_flatMap {sources names line : Nat} {cursor after : Cursor}
    {fields : List Int} (some : fields ≠ []) (fits : ∀ value ∈ fields, Vlq.Fits value)
    (moves : advance cursor fields = .ok after)
    (source : decide (1 < fields.length) → 0 ≤ after.source ∧ after.source < sources)
    (name : decide (4 < fields.length) → 0 ≤ after.name ∧ after.name < names)
    (few : line < limit) (column : InRange after.column) (sourceLine : InRange after.sourceLine)
    (sourceColumn : InRange after.sourceColumn) :
    decodeSegment sources names line cursor (fields.flatMap Vlq.encodeOne) =
      .ok ({
        line := line
        column := after.column.toNat
        sourceLine := after.sourceLine.toNat
        sourceColumn := after.sourceColumn.toNat
        source := if decide (1 < fields.length) then .some after.source.toNat else none
        name := if decide (4 < fields.length) then .some after.name.toNat else none }, after) := by
  rw [decodeSegment, Vlq.decode_flatMap_encodeOne some fits, Except.mapError, ok_bind, moves,
    ok_bind, optionalReference_eq_ok source, ok_bind, optionalReference_eq_ok name, ok_bind,
    position_of_inRange (inRange_natCast few), ok_bind, position_of_inRange column, ok_bind,
    position_of_inRange sourceLine, ok_bind, position_of_inRange sourceColumn, ok_bind]
  rfl

/-- The reader moves its cursor as the writer has done. -/
theorem advance_differences (names : Nat) (cursor : Cursor) (segment : Segment) :
    advance cursor (differences names cursor segment).1 =
      .ok (differences names cursor segment).2 := by
  rcases differences_cases names cursor segment with ⟨_, same⟩ | ⟨id, _, _, same⟩ |
    ⟨id, name, _, _, same⟩
  · simp [same, advance]
  · simp [same, advance]
  · simp [same, advance]

/-- A written segment that fits leaves the cursor behind it. -/
theorem Cursor.Behind.differences (names : Nat) {cursor : Cursor} {before : List Segment}
    {segment : Segment} (behind : cursor.Behind before) (fits : segment.Fits) :
    (differences names cursor segment).2.Behind (before ++ [segment]) := by
  have column := inRange_natCast fits.column
  have sourceLine := inRange_natCast fits.sourceLine
  have sourceColumn := inRange_natCast fits.sourceColumn
  rcases differences_cases names cursor segment with ⟨unmapped, same⟩ | ⟨id, mapped, _, same⟩ |
    ⟨id, name, mapped, named, same⟩
  · have last := lastMapped?_of_unmapped unmapped before
    rw [same]
    exact ⟨column, behind.source, behind.sourceLine, behind.sourceColumn, behind.name,
      by rw [last]; exact behind.sourceLine_eq, by rw [last]; exact behind.sourceColumn_eq⟩
  · have last := lastMapped?_of_mapped mapped before
    rw [same]
    exact ⟨column, inRange_natCast (fits.source id mapped), sourceLine, sourceColumn, behind.name,
      by rw [last]; rfl, by rw [last]; rfl⟩
  · have last := lastMapped?_of_mapped mapped before
    obtain ⟨given, _⟩ := Option.filter_eq_some_iff.mp named
    rw [same]
    exact ⟨column, inRange_natCast (fits.source id mapped), sourceLine, sourceColumn,
      inRange_natCast (fits.name name given), by rw [last]; rfl, by rw [last]; rfl⟩

/-- What is written for a segment is read back. -/
theorem decodeSegment_differences {sources : Nat} (names : Nat) {cursor : Cursor}
    {before : List Segment} {segment : Segment} (fits : segment.Fits)
    (known : ∀ id ∈ segment.source, id < sources) (behind : cursor.Behind before) :
    decodeSegment sources names segment.line cursor
        ((differences names cursor segment).1.flatMap Vlq.encodeOne) =
      .ok (reread names before segment, (differences names cursor segment).2) := by
  have after := behind.differences names fits
  have fieldsFit := fits_differences names fits behind
  have moves := advance_differences names cursor segment
  rcases differences_cases names cursor segment with ⟨unmapped, same⟩ |
    ⟨id, mapped, nameless, same⟩ | ⟨id, name, mapped, named, same⟩
  · rw [same] at after fieldsFit moves ⊢
    rw [decodeSegment_flatMap (by simp) fieldsFit moves (by simp) (by simp) fits.line after.column
      after.sourceLine after.sourceColumn]
    simp [reread, unmapped, behind.sourceLine_eq, behind.sourceColumn_eq]
  · rw [same] at after fieldsFit moves ⊢
    have source := known id mapped
    rw [decodeSegment_flatMap (by simp) fieldsFit moves (by simpa using source) (by simp)
      fits.line after.column after.sourceLine after.sourceColumn]
    simp [reread, mapped, nameless]
  · rw [same] at after fieldsFit moves ⊢
    have source := known id mapped
    obtain ⟨_, listed⟩ := Option.filter_eq_some_iff.mp named
    rw [decodeSegment_flatMap (by simp) fieldsFit moves (by simpa using source)
      (by simpa using listed) fits.line after.column after.sourceLine after.sourceColumn]
    simp [reread, mapped, named]

/-- The written pieces of segments are read back one after another. -/
theorem decodePieces_writtenPieces {sources names : Nat} {segments : List Segment}
    (fits : ∀ segment ∈ segments, segment.Fits)
    (known : ∀ segment ∈ segments, ∀ id ∈ segment.source, id < sources) {cursor : Cursor}
    {before : List Segment} (behind : cursor.Behind before) (line : Nat) :
    decodePieces sources names line cursor (writtenPieces names cursor line segments) =
      .ok (segments.mapIdx fun index segment =>
        reread names (before ++ segments.take index) segment) := by
  induction segments generalizing cursor before line with
  | nil => rfl
  | cons segment rest ih =>
    have turned := behind.turn line segment.line
    have here := fits segment List.mem_cons_self
    have read := decodeSegment_differences names here (known segment List.mem_cons_self) turned
    have behindAfter := turned.differences names here
    have others := ih (fun other member => fits other (List.mem_cons_of_mem segment member))
      (fun other member => known other (List.mem_cons_of_mem segment member)) behindAfter
      segment.line
    rw [writtenPieces, decodePieces, read, ok_bind]
    dsimp only
    rw [others, ok_bind]
    simp only [List.mapIdx_cons, List.take_zero, List.append_nil, List.take_succ_cons,
      List.append_assoc, List.singleton_append]
    rfl

/-- The mappings of a document are read back. -/
theorem decode_encode {doc : Document} (sorted : doc.segments.Pairwise (·.line ≤ ·.line))
    (fits : ∀ segment ∈ doc.segments, segment.Fits)
    (known : ∀ segment ∈ doc.segments, ∀ id ∈ segment.source, id < doc.sources.length) :
    decode (encode doc) doc.sources.length doc.names.length =
      .ok (doc.segments.mapIdx fun index segment =>
        reread doc.names.length (doc.segments.take index) segment) := by
  rw [decode_eq, pieces_encode sorted]
  exact decodePieces_writtenPieces fits known Cursor.behind_start 0

/-- A segment that is read back is written in the same way. -/
theorem differences_reread (names : Nat) (cursor : Cursor) (before : List Segment)
    (segment : Segment) :
    differences names cursor (reread names before segment) = differences names cursor segment := by
  cases source : segment.source with
  | none => simp [differences, reread, source]
  | some id =>
    cases name : segment.name with
    | none => simp [differences, reread, source, name]
    | some number =>
      by_cases known : number < names
      · simp [differences, reread, source, name, known, Option.filter]
      · simp [differences, reread, source, name, known, Option.filter]

/-- Segments at the same places with the same differences are written in the same way. -/
theorem encodeFrom_congr {names : Nat} {segments others : List Segment}
    (same : List.Forall₂ (fun segment other => other.line = segment.line ∧
      ∀ cursor, differences names cursor other = differences names cursor segment) segments others)
    (cursor : Cursor) (line : Nat) (first : Bool) :
    encodeFrom names cursor line first others = encodeFrom names cursor line first segments := by
  induction same generalizing cursor line first with
  | nil => rfl
  | cons head _ ih =>
    rw [encodeFrom_cons, encodeFrom_cons, head.1, head.2, ih]

end Mappings

end SourceTrace
