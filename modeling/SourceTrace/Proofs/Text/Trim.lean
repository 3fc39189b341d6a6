import Mathlib.Data.List.DropRight
import SourceTrace.Text.Blank

/-!
# What trimming leaves alone

Trimming stops at the first character that is not blank, so a text that neither starts nor ends with
a blank stays as it is, and blanks behind a text make no difference.
-/
namespace SourceTrace.Text

/-- A printable ASCII character other than the space. -/
def IsVisible (c : Char) : Prop := 0x20 < c.toNat ∧ c.toNat < 0x7f

instance (c : Char) : Decidable (IsVisible c) := inferInstanceAs (Decidable (_ ∧ _))

theorem IsVisible.isBlank_eq {c : Char} (visible : IsVisible c) : isBlank c = false := by
  obtain ⟨low, high⟩ := visible
  simp only [isBlank]
  grind

theorem trimStart_cons {c : Char} (bare : isBlank c = false) (rest : List Char) :
    trimStart (c :: rest) = c :: rest :=
  List.dropWhile_cons_of_neg (by simp [bare])

theorem trimEnd_eq_rdropWhile (text : List Char) : trimEnd text = text.rdropWhile isBlank := rfl

theorem trimEnd_concat {c : Char} (bare : isBlank c = false) (text : List Char) :
    trimEnd (text ++ [c]) = text ++ [c] :=
  List.rdropWhile_concat_neg isBlank text c (by simp [bare])

theorem trimEnd_concat_blank {c : Char} (blank : isBlank c) (text : List Char) :
    trimEnd (text ++ [c]) = trimEnd text :=
  List.rdropWhile_concat_pos isBlank text c blank

/-- A blank behind a text is trimmed away. -/
theorem trim_concat_blank {c : Char} (blank : isBlank c) (text : List Char) :
    trim (text ++ [c]) = trim text := by
  unfold trim trimStart
  rw [List.dropWhile_append]
  split
  · next none =>
    rw [List.isEmpty_iff.mp none]
    simp [blank]
  · exact trimEnd_concat_blank blank _

/-- A blank in front of a text is trimmed away. -/
theorem trim_cons_blank {c : Char} (blank : isBlank c) (text : List Char) :
    trim (c :: text) = trim text := by
  rw [trim, trimStart, List.dropWhile_cons_of_pos blank, ← trimStart, ← trim]

/-- A text that starts and ends with something that is not blank. -/
theorem trim_bracketed {first last : Char} (bareFirst : isBlank first = false)
    (bareLast : isBlank last = false) (inside : List Char) :
    trim (first :: inside ++ [last]) = first :: inside ++ [last] := by
  rw [trim, List.cons_append, trimStart_cons bareFirst, ← List.cons_append, trimEnd_concat bareLast]

theorem trimEnd_eq_self {text : List Char} (bare : ∀ c ∈ text, isBlank c = false) :
    trimEnd text = text := by
  rw [trimEnd_eq_rdropWhile, List.rdropWhile_eq_self_iff]
  intro some
  simp [bare _ (List.getLast_mem some)]

theorem trim_eq_self {text : List Char} (bare : ∀ c ∈ text, isBlank c = false) :
    trim text = text := by
  rw [trim]
  cases text with
  | nil => rfl
  | cons c rest => rw [trimStart_cons (bare c List.mem_cons_self), trimEnd_eq_self bare]

end SourceTrace.Text
