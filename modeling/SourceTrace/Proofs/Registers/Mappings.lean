import SourceTrace.Proofs.Mappings.Pieces
import SourceTrace.Proofs.Registers.Quantities

/-!
# Decoding mappings in registers

The five running sums of the decoder are kept in registers, and a segment is stored with 32 bits for
each of its numbers. A difference is below 2 ^ 59, and every sum is back in the range of 32 bits
when a segment has been read, or the segment is refused. So no sum reaches 2 ^ 60, however many
differences a text has, and the segments are those that are decoded without registers.
-/
namespace SourceTrace.Mappings

open Recorded (add fail ofExcept)

/-- A segment as it is stored. -/
structure Token where
  line : UInt32
  column : UInt32
  sourceLine : UInt32
  sourceColumn : UInt32
  source : UInt32
  name : UInt32
  deriving DecidableEq, Repr

/-- What is stored for a source or a name where there is none. -/
def absent : UInt32 := 0xffffffff

/-- The source or name that a stored number stands for. -/
def stored (id : UInt32) : Option Nat := if id = absent then none else some id.toNat

theorem stored_absent : stored absent = none := if_pos rfl

/-- The segment that is stored. -/
def Token.segment (token : Token) : Segment where
  line := token.line.toNat
  column := token.column.toNat
  sourceLine := token.sourceLine.toNat
  sourceColumn := token.sourceColumn.toNat
  source := stored token.source
  name := stored token.name

/-- The registers of the running sums. -/
structure Registers where
  column : Int64
  source : Int64
  sourceLine : Int64
  sourceColumn : Int64
  name : Int64
  deriving DecidableEq, Repr

/-- Everything at zero. -/
def Registers.start : Registers := ⟨0, 0, 0, 0, 0⟩

/-- The low 32 bits of a register. -/
def narrow (register : Int64) : UInt32 := register.toUInt64.toUInt32

/-- A line or column out of a register. -/
def storePosition (register : Int64) : Except Error UInt32 :=
  if 0 ≤ register ∧ register ≤ 4294967295 then .ok (narrow register)
  else .error (.badPosition register.toInt)

/-- A generated line. It is counted and not summed up. -/
def storeLine (line : Nat) : Except Error UInt32 := UInt32.ofNat <$> position line

/-- A reference to one of `count` things out of a register. -/
def storeReference (count : Nat) (refuse : Nat → Error) (register : Int64) : Except Error UInt32 :=
  if register < 0 ∨ Int64.ofNat count ≤ register then .error (refuse (narrow register).toNat)
  else .ok (narrow register)

/-- Moves on to the source and the position in it that three differences lead to. -/
def moveSource (sources : Nat) (registers : Registers) (source line column : Int64) :
    Recorded Error (UInt32 × Registers) := do
  let source ← add registers.source source
  let id ← ofExcept (storeReference sources Error.badSourceReference source)
  let sourceLine ← add registers.sourceLine line
  let sourceColumn ← add registers.sourceColumn column
  return (id, { registers with source, sourceLine, sourceColumn })

/-- Moves on to the name that a difference leads to. -/
def moveName (names : Nat) (registers : Registers) (name : Int64) :
    Recorded Error (UInt32 × Registers) := do
  let name ← add registers.name name
  let id ← ofExcept (storeReference names Error.badNameReference name)
  return (id, { registers with name })

/-- Stores the segment that the registers have come to. -/
def storeToken (line : Nat) (registers : Registers) (source name : UInt32) :
    Recorded Error (Token × Registers) := do
  let line ← ofExcept (storeLine line)
  let column ← ofExcept (storePosition registers.column)
  let sourceLine ← ofExcept (storePosition registers.sourceLine)
  let sourceColumn ← ofExcept (storePosition registers.sourceColumn)
  return ({ line, column, sourceLine, sourceColumn, source, name }, registers)

/-- The segment that the differences of a text lead to, and the registers behind it. -/
def readSegment (sources names line : Nat) (registers : Registers) (text : List Char) :
    Recorded Error (Token × Registers) := do
  match ← (Vlq.read text).mapError Error.vlq with
  | [] => fail (.badSegmentSize 0)
  | column :: values =>
    let column ← add registers.column column
    let registers := { registers with column }
    match values with
    | [] => storeToken line registers absent absent
    | [source, sourceLine, sourceColumn] =>
      let (source, registers) ← moveSource sources registers source sourceLine sourceColumn
      storeToken line registers source absent
    | [source, sourceLine, sourceColumn, name] =>
      let (source, registers) ← moveSource sources registers source sourceLine sourceColumn
      let (name, registers) ← moveName names registers name
      storeToken line registers source name
    | values => fail (.badSegmentSize (values.length + 1))

/-- The segments of one line. -/
def readLine (sources names line : Nat) (registers : Registers) :
    List (List Char) → Recorded Error (List Token × Registers)
  | [] => return ([], registers)
  | text :: rest => do
    if text.isEmpty then readLine sources names line registers rest
    else
      let (token, registers) ← readSegment sources names line registers text
      let (tokens, registers) ← readLine sources names line registers rest
      return (token :: tokens, registers)

/-- The segments of the lines from `line` on. -/
def readLines (sources names line : Nat) (registers : Registers) :
    List (List Char) → Recorded Error (List Token)
  | [] => return []
  | text :: rest => do
    let pieces := Text.split (· == ',') text
    let (here, registers) ← readLine sources names line { registers with column := 0 } pieces
    let more ← readLines sources names (line + 1) registers rest
    return here ++ more

/-- The segments of a text for a document with so many sources and names. -/
def read (text : List Char) (sources names : Nat) : Recorded Error (List Token) :=
  readLines sources names 0 Registers.start (Text.split (· == ';') text)

/-- A register with a number that is in range. -/
structure Bounded (register : Int64) (number : Int) : Prop where
  holds : Holds register number
  inRange : InRange number

/-- Registers that hold the values of a cursor. What a segment refers to is known to be in range,
and its positions are still to be checked. -/
structure Reached (registers : Registers) (cursor : Cursor) : Prop where
  column : Holds registers.column cursor.column
  source : Bounded registers.source cursor.source
  sourceLine : Holds registers.sourceLine cursor.sourceLine
  sourceColumn : Holds registers.sourceColumn cursor.sourceColumn
  name : Bounded registers.name cursor.name

/-- Registers that hold the values of a cursor between two segments. -/
structure Within (registers : Registers) (cursor : Cursor) : Prop where
  column : Bounded registers.column cursor.column
  source : Bounded registers.source cursor.source
  sourceLine : Bounded registers.sourceLine cursor.sourceLine
  sourceColumn : Bounded registers.sourceColumn cursor.sourceColumn
  name : Bounded registers.name cursor.name

variable {register delta : Int64} {number difference : Int} {registers : Registers}
  {cursor : Cursor} {sources names count : Nat}

theorem within_start : Within Registers.start Cursor.start :=
  have zero : Bounded 0 0 := ⟨rfl, inRange_zero⟩
  ⟨zero, zero, zero, zero, zero⟩

/-- A sum that was in range does not become large with one difference. -/
theorem add_computes (bounded : Bounded register number) (carries : Vlq.Carries delta difference) :
    Computes (add register delta : Recorded Error Int64) (number + difference) := by
  refine Computes.add bounded.holds carries.holds ?_
  have inRange := bounded.inRange
  have fits := carries.fits
  unfold InRange limit at inRange
  unfold Vlq.Fits at fits
  unfold Small
  omega

/-- The 32 bits of a number that is in range are the number. -/
theorem toNat_narrow (holds : Holds register number) :
    (narrow register).toNat = (number % limit).toNat := by
  rw [narrow, toNat_narrowed, holds]
  rfl

theorem emod_limit (inRange : InRange number) : (number % limit).toNat = number.toNat := by
  obtain ⟨nonneg, below⟩ := inRange
  rw [Int.emod_eq_of_lt nonneg below]

/-- The line or column in a register, as it is stored and as a number. -/
structure Placed (number : Int) (word : UInt32) (found : Nat) : Prop where
  same : word.toNat = found
  inRange : InRange number

theorem storePosition_agrees (holds : Holds register number) :
    Agrees (Placed number) (storePosition register) (position number) := by
  have bounds : 0 ≤ register ∧ register ≤ 4294967295 ↔ InRange number := by
    rw [Int64.le_iff_toInt_le, Int64.le_iff_toInt_le, holds]
    show 0 ≤ number ∧ number ≤ 4294967295 ↔ 0 ≤ number ∧ number < limit
    unfold limit
    omega
  unfold storePosition
  split
  · next accepted =>
    have inRange := bounds.mp accepted
    rw [position_of_inRange inRange]
    exact .ok ⟨by rw [toNat_narrow holds, emod_limit inRange], inRange⟩
  · next refused =>
    rw [position_of_not_inRange (mt bounds.mpr refused), holds]
    exact .error _

theorem storeLine_agrees (line : Nat) :
    Agrees (Placed line) (storeLine line) (position line) := by
  unfold storeLine
  by_cases inRange : InRange line
  · rw [position_of_inRange inRange]
    refine .ok ⟨?_, inRange⟩
    exact UInt32.toNat_ofNat_of_lt' (show line < limit from Int.ofNat_lt.mp inRange.2)
  · rw [position_of_not_inRange inRange]
    exact .error _

/-- The reference in a register, as it is stored and as a number. -/
structure Referred (number : Int) (word : UInt32) (found : Option Nat) : Prop where
  same : stored word = found
  inRange : InRange number

theorem storeReference_agrees (holds : Holds register number) (few : count < limit)
    (refuse : Nat → Error) :
    Agrees (Referred number) (storeReference count refuse register)
      (optionalReference true count refuse number) := by
  have outside : register < 0 ∨ Int64.ofNat count ≤ register ↔
      ¬ (0 ≤ number ∧ number < count) := by
    unfold limit at few
    rw [Int64.lt_iff_toInt_lt, Int64.le_iff_toInt_le, holds, holds_ofNat (by omega)]
    show number < 0 ∨ _ ↔ _
    omega
  unfold storeReference
  split
  · next refused =>
    rw [optionalReference_eq_error rfl (outside.mp refused), toNat_narrow holds]
    exact .error _
  · next accepted =>
    have known := not_not.mp (mt outside.mpr accepted)
    have inRange : InRange number := ⟨known.1, by omega⟩
    rw [optionalReference_eq_ok fun _ => known]
    refine .ok ⟨?_, inRange⟩
    have same := (toNat_narrow holds).trans (emod_limit inRange)
    have other : narrow register ≠ absent := by
      intro missing
      rw [missing] at same
      have largest : number.toNat = limit - 1 := same.symm
      omega
    rw [stored, if_neg other, same]
    rfl

/-- What is stored for a source or name, and the registers behind it. -/
structure Moved (cursor : Cursor) (moved : UInt32 × Registers) (found : Option Nat) : Prop where
  same : stored moved.1 = found
  reached : Reached moved.2 cursor

theorem moveSource_matches {source line column : Int64} {toSource toLine toColumn : Int}
    (reached : Reached registers cursor) (onLine : InRange cursor.sourceLine)
    (onColumn : InRange cursor.sourceColumn) (few : sources < limit)
    (sourceCarries : Vlq.Carries source toSource) (lineCarries : Vlq.Carries line toLine)
    (columnCarries : Vlq.Carries column toColumn) :
    Matches
      (Moved { cursor with
        source := cursor.source + toSource, sourceLine := cursor.sourceLine + toLine,
        sourceColumn := cursor.sourceColumn + toColumn })
      (moveSource sources registers source line column)
      (optionalReference true sources Error.badSourceReference (cursor.source + toSource)) := by
  refine (add_computes reached.source sourceCarries).bind fun source sourceHolds => ?_
  rw [← bind_pure (optionalReference true sources _ _)]
  refine (Matches.ofExcept (storeReference_agrees sourceHolds few _)).bind
    fun id found referred => ?_
  refine (add_computes ⟨reached.sourceLine, onLine⟩ lineCarries).bind fun line lineHolds => ?_
  refine (add_computes ⟨reached.sourceColumn, onColumn⟩ columnCarries).bind
    fun column columnHolds => ?_
  exact Matches.pure ⟨referred.same, reached.column, ⟨sourceHolds, referred.inRange⟩, lineHolds,
    columnHolds, reached.name⟩

theorem moveName_matches {name : Int64} {toName : Int} (reached : Reached registers cursor)
    (few : names < limit) (nameCarries : Vlq.Carries name toName) :
    Matches (Moved { cursor with name := cursor.name + toName }) (moveName names registers name)
      (optionalReference true names Error.badNameReference (cursor.name + toName)) := by
  refine (add_computes reached.name nameCarries).bind fun name nameHolds => ?_
  rw [← bind_pure (optionalReference true names _ _)]
  refine (Matches.ofExcept (storeReference_agrees nameHolds few _)).bind
    fun id found referred => ?_
  exact Matches.pure ⟨referred.same, reached.column, reached.source, reached.sourceLine,
    reached.sourceColumn, ⟨nameHolds, referred.inRange⟩⟩

/-- What is read up to a segment, in registers and without them. -/
structure Follows {α β : Type} (image : α → β) (read : α × Registers) (decoded : β × Cursor) :
    Prop where
  same : image read.1 = decoded.1
  within : Within read.2 decoded.2

/-- The segment that a cursor has come to. -/
def place (line : Nat) (cursor : Cursor) (source name : Option Nat) :
    Except Error (Segment × Cursor) := do
  let line ← position line
  let column ← position cursor.column
  let sourceLine ← position cursor.sourceLine
  let sourceColumn ← position cursor.sourceColumn
  return ({ line, column, sourceLine, sourceColumn, source, name }, cursor)

theorem storeToken_matches (line : Nat) {source name : UInt32} {found named : Option Nat}
    (reached : Reached registers cursor) (sourceSame : stored source = found)
    (nameSame : stored name = named) :
    Matches (Follows Token.segment) (storeToken line registers source name)
      (place line cursor found named) := by
  unfold storeToken place
  refine (Matches.ofExcept (storeLine_agrees line)).bind fun lineWord _ lineAt => ?_
  refine (Matches.ofExcept (storePosition_agrees reached.column)).bind
    fun columnWord _ columnAt => ?_
  refine (Matches.ofExcept (storePosition_agrees reached.sourceLine)).bind
    fun sourceLineWord _ sourceLineAt => ?_
  refine (Matches.ofExcept (storePosition_agrees reached.sourceColumn)).bind
    fun sourceColumnWord _ sourceColumnAt => ?_
  refine Matches.pure ⟨?_, ⟨reached.column, columnAt.inRange⟩, reached.source,
    ⟨reached.sourceLine, sourceLineAt.inRange⟩, ⟨reached.sourceColumn, sourceColumnAt.inRange⟩,
    reached.name⟩
  simp only [Token.segment, lineAt.same, columnAt.same, sourceLineAt.same, sourceColumnAt.same,
    sourceSame, nameSame]

theorem optionalReference_false (count : Nat) (refuse : Nat → Error) (value : Int) :
    optionalReference false count refuse value = .ok none := rfl

theorem decodeSegment_eq_place (sources names line : Nat) (cursor : Cursor) (text : List Char) :
    decodeSegment sources names line cursor text = (do
      let values ← (Vlq.decode text).mapError Error.vlq
      let cursor ← advance cursor values
      let source ←
        optionalReference (1 < values.length) sources Error.badSourceReference cursor.source
      let name ← optionalReference (4 < values.length) names Error.badNameReference cursor.name
      place line cursor source name) := rfl

theorem readSegment_matches (line : Nat) (text : List Char) (within : Within registers cursor)
    (fewSources : sources < limit) (fewNames : names < limit) :
    Matches (Follows Token.segment) (readSegment sources names line registers text)
      (decodeSegment sources names line cursor text) := by
  rw [decodeSegment_eq_place]
  refine ((Vlq.read_matches text).mapError Error.vlq).bind fun values numbers carried => ?_
  cases carried with
  | nil => exact Matches.fail _
  | cons first others =>
    refine (add_computes within.column first).bind fun column columnHolds => ?_
    have reached : Reached { registers with column } { cursor with column := cursor.column + _ } :=
      ⟨columnHolds, within.source, within.sourceLine.holds, within.sourceColumn.holds, within.name⟩
    have onLine := within.sourceLine.inRange
    have onColumn := within.sourceColumn.inRange
    -- the conditions are rewritten one after the other: two computations that are compared as a
    -- whole are unfolded down to the limit
    match others with
    | .nil =>
      rw [advance, ok_bind]
      simp only [List.length_singleton, Nat.reduceLT, decide_false]
      rw [optionalReference_false, ok_bind, optionalReference_false, ok_bind]
      exact storeToken_matches line reached stored_absent stored_absent
    | .cons _ .nil => exact Matches.fail _
    | .cons _ (.cons _ .nil) => exact Matches.fail _
    | .cons source (.cons sourceLine (.cons sourceColumn .nil)) =>
      rw [advance, ok_bind]
      simp only [List.length_cons, List.length_nil, Nat.reduceAdd, Nat.reduceLT, decide_true,
        decide_false]
      refine (moveSource_matches reached onLine onColumn fewSources source sourceLine
        sourceColumn).bind fun after found there => ?_
      rw [optionalReference_false, ok_bind]
      exact storeToken_matches line there.reached there.same stored_absent
    | .cons source (.cons sourceLine (.cons sourceColumn (.cons name .nil))) =>
      rw [advance, ok_bind]
      simp only [List.length_cons, List.length_nil, Nat.reduceAdd, Nat.reduceLT, decide_true]
      refine (moveSource_matches reached onLine onColumn fewSources source sourceLine
        sourceColumn).bind fun after found there => ?_
      refine (moveName_matches there.reached fewNames name).bind fun further named here => ?_
      exact storeToken_matches line here.reached there.same here.same
    | .cons _ (.cons _ (.cons _ (.cons _ (.cons _ more)))) =>
      simp only [List.length_cons, more.length_eq]
      exact Matches.fail _

theorem readLine_matches (line : Nat) (texts : List (List Char)) (within : Within registers cursor)
    (fewSources : sources < limit) (fewNames : names < limit) :
    Matches (Follows (List.map Token.segment)) (readLine sources names line registers texts)
      (decodeLine sources names line cursor texts) := by
  induction texts generalizing registers cursor with
  | nil => exact Matches.pure ⟨rfl, within⟩
  | cons text rest ih =>
    unfold readLine decodeLine
    split
    · exact ih within
    · refine (readSegment_matches line text within fewSources fewNames).bind
        fun one first here => ?_
      refine (ih here.within).bind fun more others later => ?_
      exact Matches.pure ⟨congrArg₂ List.cons here.same later.same, later.within⟩

theorem readLines_matches (line : Nat) (texts : List (List Char)) (within : Within registers cursor)
    (fewSources : sources < limit) (fewNames : names < limit) :
    Matches (List.map Token.segment · = ·) (readLines sources names line registers texts)
      (decodeLines sources names line cursor texts) := by
  induction texts generalizing line registers cursor with
  | nil => exact Matches.pure rfl
  | cons text rest ih =>
    unfold readLines decodeLines
    have fresh : Within { registers with column := 0 } { cursor with column := 0 } :=
      ⟨⟨rfl, inRange_zero⟩, within.source, within.sourceLine, within.sourceColumn, within.name⟩
    refine (readLine_matches line _ fresh fewSources fewNames).bind fun first here before => ?_
    refine (ih (line + 1) before.within).bind fun others more later => ?_
    refine Matches.pure ?_
    rw [List.map_append, before.same, later]

/-- Decoding a text in registers wraps nothing around, whatever the text is: the exact result of
every operation is below 2 ^ 60, also in an operation whose result is then refused, and the register
that it fills holds just that. So the stored segments are those that are decoded without registers,
and the failures are the same. -/
theorem read_exact (text : List Char) {sources names : Nat} (fewSources : sources < 2 ^ 32)
    (fewNames : names < 2 ^ 32) :
    (∀ operation ∈ (read text sources names).operations,
      operation.exact.natAbs < 2 ^ 60 ∧ operation.register.toInt = operation.exact) ∧
    (read text sources names).result.map (List.map Token.segment) = decode text sources names := by
  have all := readLines_matches 0 (Text.split (· == ';') text) within_start fewSources fewNames
  refine ⟨?_, all.agrees.map_eq⟩
  intro operation carriedOut
  have faithful := all.faithful operation carriedOut
  exact ⟨faithful.small, faithful.holds⟩

/-- The largest difference there is, after two segments of which the second leaves the source and
the name alone. Its sum is computed and refused. -/
theorem read_exact_largest :
    1 < 2 ^ 32 ∧ 2 < 2 ^ 32 ∧
    (∀ operation ∈ (read "CAEGC,K;+//////////f".toList 1 2).operations,
      operation.exact.natAbs < 2 ^ 60 ∧ operation.register.toInt = operation.exact) ∧
    ⟨2 ^ 59 - 1, 2 ^ 59 - 1⟩ ∈ (read "CAEGC,K;+//////////f".toList 1 2).operations ∧
    (read "CAEGC,K;+//////////f".toList 1 2).result.map (List.map Token.segment) =
      .error (.badPosition (2 ^ 59 - 1)) ∧
    (read "CAEGC,K".toList 1 2).result.map (List.map Token.segment) = .ok [
      { line := 0, column := 1, sourceLine := 2, sourceColumn := 3, source := some 0,
        name := some 1 },
      { line := 0, column := 6, sourceLine := 2, sourceColumn := 3, source := none,
        name := none }] := by
  have few : 1 < 2 ^ 32 ∧ 2 < 2 ^ 32 := by decide
  have refused := read_exact "CAEGC,K;+//////////f".toList few.1 few.2
  have accepted := read_exact "CAEGC,K".toList few.1 few.2
  refine ⟨few.1, few.2, refused.1, ?_, ?_, ?_⟩
  · decide +kernel
  · rw [refused.2]
    decide +kernel
  · rw [accepted.2]
    decide +kernel

end SourceTrace.Mappings
