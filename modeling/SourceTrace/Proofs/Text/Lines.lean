import SourceTrace.Text.View

/-!
# Lines and their widths

Lines hold no terminators, and a text without terminators is its only line. The width of a text is
the sum of the widths of its parts.
-/
namespace SourceTrace.Text

/-- A character that ends a line. -/
def EndsLine (c : Char) : Prop := c = '\n' ∨ c = '\r'

theorem lines_cons {c : Char} (inside : ¬ EndsLine c) {rest line : List Char}
    {more : List (List Char)} (some : lines rest = line :: more) :
    lines (c :: rest) = (c :: line) :: more := by
  have feed : c ≠ '\n' := fun same => inside (.inl same)
  have back : c ≠ '\r' := fun same => inside (.inr same)
  rw [lines, some]
  · exact feed
  · exact fun _ same _ => back same
  · exact back

theorem not_endsLine_of_mem_lines {text line : List Char} (listed : line ∈ lines text) :
    ∀ c ∈ line, ¬ EndsLine c := by
  fun_induction lines text generalizing line with
  | case1 => simp_all
  | case2 rest ih =>
    rcases List.mem_cons.mp listed with rfl | further
    · simp
    · exact ih further
  | case3 rest ih =>
    rcases List.mem_cons.mp listed with rfl | further
    · simp
    · exact ih further
  | case4 rest _ ih =>
    rcases List.mem_cons.mp listed with rfl | further
    · simp
    · exact ih further
  | case5 c rest feed pair single none ih => exact absurd none (lines_ne_nil rest)
  | case6 c rest feed pair single first more some ih =>
    rw [some] at ih
    rcases List.mem_cons.mp listed with rfl | further
    · intro d member
      rcases List.mem_cons.mp member with rfl | inside
      · exact fun ends => ends.elim feed single
      · exact ih (List.mem_cons_self ..) d inside
    · exact ih (List.mem_cons_of_mem _ further)

theorem lines_eq_singleton {text : List Char} (free : ∀ c ∈ text, ¬ EndsLine c) :
    lines text = [text] := by
  induction text with
  | nil => rfl
  | cons c rest ih =>
    have parts := List.forall_mem_cons.mp free
    exact lines_cons parts.1 (ih parts.2)

theorem units_append (front rest : List Char) :
    units (front ++ rest) = units front + units rest := by
  induction front with
  | nil => simp [units]
  | cons c front ih =>
    simp only [List.cons_append, units, ih]
    omega

theorem units_pos {text : List Char} (filled : text ≠ []) : 0 < units text := by
  obtain ⟨c, rest, rfl⟩ := List.exists_cons_of_ne_nil filled
  exact Nat.add_pos_left (unitWidth_pos c) _

end SourceTrace.Text
