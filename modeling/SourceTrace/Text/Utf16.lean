/-!
# Columns in UTF-16 units

Columns count UTF-16 code units, so a character outside the basic plane is two columns wide. A
column names a place in a line only if it does not fall inside such a character.
-/
namespace SourceTrace.Text

def unitWidth (c : Char) : Nat := if c.toNat < 0x10000 then 1 else 2

def units : List Char → Nat
  | [] => 0
  | c :: rest => unitWidth c + units rest

/-- Cuts a text at a column: what precedes the column and what starts there. There is no such cut
beyond the end of the text or inside a character. -/
def cutAtColumn? : List Char → Nat → Option (List Char × List Char)
  | text, 0 => some ([], text)
  | [], _ + 1 => none
  | c :: rest, column =>
    if column < unitWidth c then none
    else (cutAtColumn? rest (column - unitWidth c)).map fun (before, here) => (c :: before, here)

theorem unitWidth_pos (c : Char) : 0 < unitWidth c := by
  unfold unitWidth
  split <;> omega

/-- A cut at a column loses nothing and leaves exactly that many units before it. -/
theorem eq_append_of_cutAtColumn? (text before here : List Char) (column : Nat)
    (h : cutAtColumn? text column = some (before, here)) :
    text = before ++ here ∧ units before = column := by
  induction text generalizing column before with
  | nil =>
    cases column with
    | zero => simp_all [cutAtColumn?, units]
    | succ n => simp [cutAtColumn?] at h
  | cons c rest ih =>
    cases column with
    | zero =>
      simp only [cutAtColumn?, Option.some.injEq, Prod.mk.injEq] at h
      obtain ⟨rfl, rfl⟩ := h
      simp [units]
    | succ n =>
      simp only [cutAtColumn?] at h
      split at h
      · simp at h
      · rename_i wide
        obtain ⟨⟨inner, rest'⟩, cut, same⟩ := Option.map_eq_some_iff.1 h
        simp only [Prod.mk.injEq] at same
        obtain ⟨rfl, rfl⟩ := same
        obtain ⟨joined, width⟩ := ih inner _ cut
        refine ⟨by rw [joined]; rfl, ?_⟩
        simp only [units]
        omega

end SourceTrace.Text
