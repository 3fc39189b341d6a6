import SourceTrace.Proofs.Text.Occurrences
import SourceTrace.Text.Utf8

/-!
# Columns and byte offsets

A place in a line can be given by a column, which counts UTF-16 units, or by an offset, which counts
bytes. A loop that passes characters until enough units are passed finds the offset of a column,
and adding up the units in front of an offset finds the column. Between the offsets that do not cut
a character and the columns that do not cut a surrogate pair the two are inverse, and the parts of a
line that are taken by columns are the ones that are taken by offsets.
-/
namespace SourceTrace.Text

/-- The number of UTF-8 bytes of a text. -/
def byteSize : List Char → Nat
  | [] => 0
  | c :: rest => c.utf8Size + byteSize rest

/-- An offset in bytes at which no character is cut. -/
def IsBoundary (text : List Char) (offset : Nat) : Prop :=
  ∃ before here, text = before ++ here ∧ byteSize before = offset

/-- The middle of a character of two units. -/
def InsidePair (text : List Char) (column : Nat) : Prop :=
  ∃ before c here, text = before ++ c :: here ∧ unitWidth c = 2 ∧ column = units before + 1

/-- Cuts a text at an offset in bytes, which must be a boundary. -/
def cutAtByte? : List Char → Nat → Option (List Char × List Char)
  | text, 0 => some ([], text)
  | [], _ + 1 => none
  | c :: rest, offset =>
    if offset < c.utf8Size then none
    else (cutAtByte? rest (offset - c.utf8Size)).map fun (before, here) => (c :: before, here)

/-- Passes characters until the units that are passed reach the column, and gives the number of
bytes that are passed then, unless the units overshoot the column. -/
def byteOffsetFrom (column offset passed : Nat) : List Char → Option Nat
  | [] => if passed = column then some offset else none
  | c :: rest =>
    if column ≤ passed then if passed = column then some offset else none
    else byteOffsetFrom column (offset + c.utf8Size) (passed + unitWidth c) rest

/-- The offset of a column. -/
def byteOffset? (line : List Char) (column : Nat) : Option Nat := byteOffsetFrom column 0 0 line

/-- The column of an offset. An offset that is no boundary counts as the end of the line. -/
def columnAt (line : List Char) (offset : Nat) : Nat :=
  units (((cutAtByte? line offset).map Prod.fst).getD line)

theorem byteSize_append (front rest : List Char) :
    byteSize (front ++ rest) = byteSize front + byteSize rest := by
  induction front with
  | nil => simp [byteSize]
  | cons c front ih =>
    simp only [List.cons_append, byteSize, ih]
    omega

theorem byteSize_eq_length (text : List Char) : byteSize text = (Utf8.encode text).length := by
  induction text with
  | nil => rfl
  | cons c rest ih => simp [byteSize, ih, Utf8.encode]

section Cuts

variable {text line before here : List Char} {column offset : Nat}

theorem cutAtColumn?_append (before here : List Char) :
    cutAtColumn? (before ++ here) (units before) = some (before, here) := by
  induction before with
  | nil => cases here <;> rfl
  | cons c before ih =>
    have wide := unitWidth_pos c
    have room : ¬ unitWidth c + units before < unitWidth c := by omega
    rw [List.cons_append, units, cutAtColumn?, if_neg room, Nat.add_sub_cancel_left, ih]
    · rfl
    · omega

theorem cutAtColumn?_eq_some_iff :
    cutAtColumn? text column = some (before, here) ↔
      text = before ++ here ∧ units before = column := by
  constructor
  · exact eq_append_of_cutAtColumn? text before here column
  · rintro ⟨rfl, rfl⟩
    exact cutAtColumn?_append before here

theorem cutAtByte?_append (before here : List Char) :
    cutAtByte? (before ++ here) (byteSize before) = some (before, here) := by
  induction before with
  | nil => cases here <;> rfl
  | cons c before ih =>
    have positive := c.utf8Size_pos
    have room : ¬ c.utf8Size + byteSize before < c.utf8Size := by omega
    rw [List.cons_append, byteSize, cutAtByte?, if_neg room, Nat.add_sub_cancel_left, ih]
    · rfl
    · omega

/-- The loop finds the bytes in front of the column. -/
theorem byteOffsetFrom_eq (offset passed : Nat) (le : passed ≤ column) (text : List Char) :
    byteOffsetFrom column offset passed text =
      (cutAtColumn? text (column - passed)).map fun parts => offset + byteSize parts.1 := by
  induction text generalizing offset passed with
  | nil =>
    rcases Nat.eq_or_lt_of_le le with rfl | less
    · simp [byteOffsetFrom, cutAtColumn?, byteSize]
    · obtain ⟨left, same⟩ : ∃ left, column - passed = left + 1 := ⟨column - passed - 1, by omega⟩
      simp [byteOffsetFrom, Nat.ne_of_lt less, same, cutAtColumn?]
  | cons c rest ih =>
    rcases Nat.eq_or_lt_of_le le with rfl | less
    · simp [byteOffsetFrom, cutAtColumn?, byteSize]
    · obtain ⟨left, same⟩ : ∃ left, column - passed = left + 1 := ⟨column - passed - 1, by omega⟩
      rw [byteOffsetFrom, if_neg (Nat.not_le.mpr less), same, cutAtColumn?]
      · split
        · next wide =>
          -- the units overshoot the column
          cases rest with
          | nil => simp only [byteOffsetFrom]; rw [if_neg (by omega)]; rfl
          | cons d rest =>
            rw [byteOffsetFrom, if_pos (by omega), if_neg (by omega)]
            rfl
        · next room =>
          have rest_column : column - (passed + unitWidth c) = left + 1 - unitWidth c := by omega
          rw [ih _ _ (by omega), rest_column, Option.map_map]
          congr 1
          funext parts
          simp only [Function.comp_apply, byteSize]
          omega
      · exact Nat.succ_ne_zero left

theorem byteOffset?_eq (line : List Char) (column : Nat) :
    byteOffset? line column = (cutAtColumn? line column).map fun parts => byteSize parts.1 := by
  simp [byteOffset?, byteOffsetFrom_eq 0 0 (Nat.zero_le column)]

theorem byteOffset?_eq_some_iff :
    byteOffset? line column = some offset ↔
      ∃ before here, line = before ++ here ∧ byteSize before = offset ∧ units before = column := by
  simp only [byteOffset?_eq, Option.map_eq_some_iff, Prod.exists, cutAtColumn?_eq_some_iff]
  constructor
  · rintro ⟨before, here, ⟨same, width⟩, size⟩
    exact ⟨before, here, same, size, width⟩
  · rintro ⟨before, here, same, size, width⟩
    exact ⟨before, here, ⟨same, width⟩, size⟩

/-- Where a column is: between two characters, beyond the text, or inside a character. -/
theorem column_cases (text : List Char) (column : Nat) :
    (∃ before here, text = before ++ here ∧ units before = column) ∨
      units text < column ∨ InsidePair text column := by
  induction text generalizing column with
  | nil =>
    cases column with
    | zero => exact .inl ⟨[], [], rfl, rfl⟩
    | succ column => exact .inr (.inl (Nat.succ_pos column))
  | cons c rest ih =>
    by_cases start : column = 0
    · exact .inl ⟨[], c :: rest, rfl, start.symm⟩
    · by_cases inside : column < unitWidth c
      · have pair : unitWidth c = 2 ∧ column = 1 := by
          unfold unitWidth at inside ⊢
          split at inside
          · omega
          · next wide =>
            rw [if_neg wide]
            omega
        exact .inr (.inr ⟨[], c, rest, rfl, pair⟩)
      · rcases ih (column - unitWidth c) with ⟨before, here, rfl, width⟩ | beyond | cut
        · refine .inl ⟨c :: before, here, rfl, ?_⟩
          simp only [units]
          omega
        · refine .inr (.inl ?_)
          simp only [units]
          omega
        · obtain ⟨before, d, here, rfl, wide, place⟩ := cut
          refine .inr (.inr ⟨c :: before, d, here, rfl, wide, ?_⟩)
          simp only [units]
          omega

/-- No character is cut where one of two units has its middle. -/
theorem not_insidePair (before here : List Char) :
    ¬ InsidePair (before ++ here) (units before) := by
  rintro ⟨front, c, behind, same, wide, place⟩
  rcases List.append_eq_append_iff.mp same with ⟨more, rfl, _⟩ | ⟨more, rfl, rest⟩
  · rw [units_append] at place
    omega
  · cases more with
    | nil => simp at place
    | cons d more =>
      cases rest
      simp only [units_append, units] at place
      omega

theorem byteOffset?_eq_none_iff :
    byteOffset? line column = none ↔ units line < column ∨ InsidePair line column := by
  constructor
  · intro missing
    refine (column_cases line column).resolve_left ?_
    rintro ⟨before, here, same, width⟩
    have found := byteOffset?_eq_some_iff.mpr ⟨before, here, same, rfl, width⟩
    rw [missing] at found
    cases found
  · intro outside
    rw [Option.eq_none_iff_forall_ne_some]
    intro offset found
    obtain ⟨before, here, rfl, -, rfl⟩ := byteOffset?_eq_some_iff.mp found
    rcases outside with beyond | inside
    · rw [units_append] at beyond
      omega
    · exact not_insidePair before here inside

theorem columnAt_append (before here : List Char) :
    columnAt (before ++ here) (byteSize before) = units before := by
  simp [columnAt, cutAtByte?_append]

/-- A cut at a column is the cut at its offset. -/
theorem cutAtColumn?_eq_cutAtByte? (line : List Char) (column : Nat) :
    cutAtColumn? line column = (byteOffset? line column).bind (cutAtByte? line) := by
  rw [byteOffset?_eq]
  cases cut : cutAtColumn? line column with
  | none => rfl
  | some parts =>
    obtain ⟨before, here⟩ := parts
    obtain ⟨rfl, rfl⟩ := cutAtColumn?_eq_some_iff.mp cut
    simp [cutAtByte?_append]

end Cuts

namespace View

theorem from?_eq_some_iff {view : View} {line column : Nat} {here : List Char} :
    view.from? line column = some here ↔
      ∃ before, view.line? line = some (before ++ here) ∧ units before = column := by
  simp only [from?, Option.bind_eq_bind, Option.bind_eq_some_iff, Prod.exists, Option.pure_def,
    Option.some.injEq, cutAtColumn?_eq_some_iff]
  constructor
  · rintro ⟨text, listed, before, _, ⟨rfl, width⟩, rfl⟩
    exact ⟨before, listed, width⟩
  · rintro ⟨before, listed, width⟩
    exact ⟨before ++ here, listed, before, here, ⟨rfl, width⟩, rfl⟩

theorem slice?_eq_some_iff {view : View} {line column span : Nat} {part : List Char} :
    view.slice? line column span = some part ↔ ∃ before following,
      view.line? line = some (before ++ part ++ following) ∧ units before = column ∧
        units part = span := by
  simp only [slice?, Option.bind_eq_bind, Option.bind_eq_some_iff, Prod.exists, Option.pure_def,
    Option.some.injEq, cutAtColumn?_eq_some_iff, from?_eq_some_iff]
  constructor
  · rintro ⟨_, ⟨before, listed, width⟩, _, following, ⟨rfl, wide⟩, rfl⟩
    exact ⟨before, following, by rw [List.append_assoc]; exact listed, width, wide⟩
  · rintro ⟨before, following, listed, width, wide⟩
    rw [List.append_assoc] at listed
    exact ⟨part ++ following, ⟨before, listed, width⟩, part, following, ⟨rfl, wide⟩, rfl⟩

theorem hasText_iff {view : View} {line column : Nat} {text : List Char} :
    view.hasText line column text ↔ ∃ before following,
      view.line? line = some (before ++ text ++ following) ∧ units before = column := by
  unfold hasText
  constructor
  · intro has
    split at has
    · next here found =>
      obtain ⟨before, listed, width⟩ := from?_eq_some_iff.mp found
      obtain ⟨following, stands⟩ := Option.isSome_iff_exists.mp has
      rw [(after?_eq_some_iff _ _ _).mp stands, ← List.append_assoc] at listed
      exact ⟨before, following, listed, width⟩
    · cases has
  · rintro ⟨before, following, listed, width⟩
    rw [List.append_assoc] at listed
    rw [from?_eq_some_iff.mpr ⟨before, listed, width⟩]
    simp [(after?_eq_some_iff text _ following).mpr rfl]

/-- A needle stands wherever it is found. -/
theorem hasText_of_mem_findAll {view : View} {needle : List Char} {place : Place}
    (found : place ∈ view.findAll needle) : view.hasText place.line place.column needle := by
  by_cases nonempty : needle = []
  · simp [findAll, nonempty] at found
  · obtain ⟨line, listed, column⟩ := (mem_findAll nonempty).mp found
    obtain ⟨offset, -, width, occurs⟩ :=
      occursAt_of_mem_search (List.nil_append line).symm column
    obtain ⟨following, stands⟩ := occurs.stands
    refine hasText_iff.mpr ⟨line.take offset, following, ?_, width.symm⟩
    rw [List.append_assoc, stands, List.take_append_drop]
    exact listed

end View

/-- A column of a line and an offset in bytes belong to each other if they stand between the same
two characters. The offset of a column is the one that belongs to it, the only columns without an
offset are those beyond the line and those inside a surrogate pair, and the column of an offset
inverts this on all boundaries. Parts of lines that are taken by columns are therefore the parts
of the width that was asked for, and a needle stands wherever it is found. -/
theorem columns_offsets :
    (∀ (line : List Char) (column : Nat),
      (∀ offset, byteOffset? line column = some offset ↔
        ∃ before here, line = before ++ here ∧ byteSize before = offset ∧
          units before = column) ∧
      (byteOffset? line column = none ↔ units line < column ∨ InsidePair line column) ∧
      cutAtColumn? line column = (byteOffset? line column).bind (cutAtByte? line)) ∧
    (∀ (line : List Char) (offset : Nat), IsBoundary line offset →
      byteOffset? line (columnAt line offset) = some offset) ∧
    (∀ (line : List Char) (column offset : Nat), byteOffset? line column = some offset →
      IsBoundary line offset ∧ columnAt line offset = column) ∧
    ∀ view : View,
      (∀ line column span part, view.slice? line column span = some part ↔
        ∃ before following, view.line? line = some (before ++ part ++ following) ∧
          units before = column ∧ units part = span) ∧
      ∀ needle, ∀ place ∈ view.findAll needle,
        view.hasText place.line place.column needle := by
  refine ⟨?_, ?_, ?_, ?_⟩
  · intro line column
    exact ⟨fun offset => byteOffset?_eq_some_iff, byteOffset?_eq_none_iff,
      cutAtColumn?_eq_cutAtByte? line column⟩
  · rintro line offset ⟨before, here, rfl, rfl⟩
    rw [columnAt_append]
    exact byteOffset?_eq_some_iff.mpr ⟨before, here, rfl, rfl, rfl⟩
  · intro line column offset found
    obtain ⟨before, here, rfl, rfl, rfl⟩ := byteOffset?_eq_some_iff.mp found
    exact ⟨⟨before, here, rfl, rfl⟩, columnAt_append before here⟩
  · intro view
    exact ⟨fun line column span part => View.slice?_eq_some_iff,
      fun needle place found => View.hasText_of_mem_findAll found⟩

/-- A character of two units and four bytes stands between the places. -/
theorem columns_offsets_astral :
    let line := "abc👌def".toList
    let view := View.ofString "abc👌def"
    IsBoundary line 7 ∧ byteOffset? line (columnAt line 7) = some 7 ∧
      byteOffset? line 5 = some 7 ∧ columnAt line 7 = 5 ∧ InsidePair line 4 ∧
      byteOffset? line 4 = none ∧ ⟨0, 5⟩ ∈ view.findAll "def".toList ∧
      view.hasText 0 5 "def".toList := by
  intro line view
  obtain ⟨places, columns, offsets, views⟩ := columns_offsets
  have boundary : IsBoundary line 7 := ⟨"abc👌".toList, "def".toList, by decide, by decide⟩
  have offset : byteOffset? line 5 = some 7 := by decide
  have inside : InsidePair line 4 := ⟨"abc".toList, '👌', "def".toList, by decide⟩
  have found : ⟨0, 5⟩ ∈ view.findAll "def".toList := by decide +kernel
  exact ⟨boundary, columns line 7 boundary, offset, (offsets line 5 7 offset).2, inside,
    (places line 4).2.1.mpr (.inr inside), found, (views view).2 _ _ found⟩

end SourceTrace.Text
