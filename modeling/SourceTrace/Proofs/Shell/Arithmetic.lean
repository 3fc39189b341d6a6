import Mathlib.Data.List.Basic
import SourceTrace.Shell.Arithmetic

/-!
# Numbers of 64 bits

The values of expressions are whole numbers without a bound, and each operator cuts its own result.
That a script sees numbers of 64 bits alone is a matter of the whole evaluation: the operators that
cut nothing stay in the range because their operands are in it, and a variable is read back as the
number that was stored in it.
-/
namespace SourceTrace.Shell.Arithmetic

/-- The numbers of 64 bits with a sign. -/
def InRange (n : Int) : Prop := -9223372036854775808 ≤ n ∧ n ≤ 9223372036854775807

theorem width : Nat.pow 2 64 = 18446744073709551616 := rfl

/-- Cutting a number gives the one number in range that differs from it by a multiple. -/
theorem wrap_eq_iff {n m : Int} :
    wrap n = m ↔ InRange m ∧ (18446744073709551616 : Int) ∣ m - n := by
  rw [wrap, Int.bmod_eq_iff (by rw [width]; decide), width, InRange]
  constructor
  · rintro ⟨low, high, divides⟩
    exact ⟨⟨by omega, by omega⟩, divides⟩
  · rintro ⟨⟨low, high⟩, divides⟩
    exact ⟨by omega, by omega, divides⟩

theorem inRange_wrap (n : Int) : InRange (wrap n) := (wrap_eq_iff.mp rfl).1

theorem wrap_eq_self {n : Int} (bounded : InRange n) : wrap n = n :=
  wrap_eq_iff.mpr ⟨bounded, by simp⟩

theorem inRange_truth (condition : Bool) : InRange (truth condition) := by
  cases condition <;> exact ⟨by decide, by decide⟩

theorem InRange.complement {n : Int} (bounded : InRange n) : InRange (-n - 1) := by
  obtain ⟨low, high⟩ := bounded
  exact ⟨by omega, by omega⟩

/-- A shift to the right brings a number nearer to zero, or to minus one. -/
theorem InRange.fdiv {n : Int} (bounded : InRange n) (d : Nat) : InRange (n.fdiv d) := by
  obtain ⟨low, high⟩ := bounded
  rw [Int.fdiv_eq_ediv_of_nonneg n (Int.natCast_nonneg d)]
  rcases Nat.eq_zero_or_pos d with rfl | positive
  · rw [Int.natCast_zero, Int.ediv_zero]
    exact ⟨by decide, by decide⟩
  · have step : (1 : Int) ≤ d := by omega
    rcases Int.le_total 0 n with above | below
    · have smaller := Int.ediv_le_self d above
      have nonnegative := Int.ediv_nonneg above (Int.natCast_nonneg d)
      exact ⟨by omega, by omega⟩
    · have larger : n ≤ n / d := by
        rw [Int.le_ediv_iff_mul_le (by omega)]
        calc n * d ≤ n * 1 := Int.mul_le_mul_of_nonpos_left below step
          _ = n := Int.mul_one n
      have negative : n / d ≤ 0 := Int.ediv_nonpos_of_nonpos_of_neg below (by omega)
      exact ⟨by omega, by omega⟩

theorem inRange_apply1 (operator : String) {operand : Int} (bounded : InRange operand) :
    InRange (apply1 operator operand) := by
  unfold apply1
  split
  · exact inRange_wrap _
  · exact inRange_truth _
  · exact bounded.complement
  · exact bounded

/-- The result of an operator is cut to the range, a truth value, or shifted to the right. -/
theorem apply2_cases {operator : String} {left right result : Int}
    (applied : apply2 operator left right = some result) :
    (∃ n, wrap n = result) ∨ (∃ condition, truth condition = result)
      ∨ ∃ d : Nat, left.fdiv d = result := by
  unfold apply2 at applied
  split at applied <;> grind

theorem inRange_apply2 {operator : String} {left right result : Int} (bounded : InRange left)
    (applied : apply2 operator left right = some result) : InRange result := by
  rcases apply2_cases applied with ⟨n, rfl⟩ | ⟨condition, rfl⟩ | ⟨d, rfl⟩
  · exact inRange_wrap n
  · exact inRange_truth condition
  · exact bounded.fdiv d

section Reading

theorem digit?_of_isDigit {c : Char} (digit : c.isDigit = true) :
    digit? 10 c = some (c.toNat - 48) := by
  have upper : c.toNat ≤ 57 := (Char.isDigit_iff_toNat.mp digit).2
  rw [digit?, if_pos digit]
  exact if_pos (by omega)

theorem foldlM_digits {digits : List Char} (all : ∀ c ∈ digits, c.isDigit = true) (n : Nat) :
    digits.foldlM (fun n c => (digit? 10 c).map (n * 10 + ·)) n
      = some (Nat.ofDigitChars 10 digits n) := by
  induction digits generalizing n with
  | nil => rfl
  | cons c rest ih =>
    rw [List.forall_mem_cons] at all
    rw [List.foldlM_cons, digit?_of_isDigit all.1, Option.map_some, Option.bind_eq_bind,
      Option.bind_some, ih all.2, Nat.ofDigitChars_cons, Nat.mul_comm n 10]
    rfl

theorem digits?_toDigits (n : Nat) : digits? 10 (Nat.toDigits 10 n) = some n := by
  rw [digits?, if_neg (by simp), foldlM_digits
    (fun c => Nat.isDigit_of_mem_toDigits (by decide) (by decide)),
    Nat.ofDigitChars_toDigits (by decide) (by decide)]

/-- Only zero is written with a zero in front. -/
theorem head?_toDigits {n : Nat} (positive : 0 < n) : (Nat.toDigits 10 n).head? ≠ some '0' := by
  induction n using Nat.strongRecOn with
  | ind n ih =>
    rw [Nat.toDigits_eq_if (by decide)]
    split
    next below => simpa using Nat.ne_of_gt positive
    next large =>
      rw [List.head?_append_of_ne_nil _ Nat.toDigits_ne_nil]
      exact ih (n / 10) (by omega) (by omega)

theorem literal?_toDigits (n : Nat) : literal? (Nat.toDigits 10 n) = some n := by
  rcases Nat.eq_zero_or_pos n with rfl | positive
  · rw [Nat.toDigits_zero]
    decide
  · have front := head?_toDigits positive
    unfold literal?
    split
    next same => simp [same] at front
    next same => simp [same] at front
    next same => simp [same] at front
    next => exact digits?_toDigits n

theorem trimmed_of_clean {text : List Char} {isBlank : Char → Bool}
    (clean : ∀ c ∈ text, isBlank c = false) :
    ((text.dropWhile isBlank).reverse.dropWhile isBlank).reverse = text := by
  have kept {letters : List Char} (free : ∀ c ∈ letters, isBlank c = false) :
      letters.dropWhile isBlank = letters := by
    cases letters with
    | nil => rfl
    | cons c rest => exact List.dropWhile_cons_of_neg (by simp [free c (by simp)])
  rw [kept clean, kept (fun c member => clean c (List.mem_reverse.mp member)),
    List.reverse_reverse]

/-- A number is read from its own spelling. -/
theorem value?_toString (n : Int) : value? (toString n) = some n := by
  have blank {c : Char} (part : c = '-' ∨ c.isDigit = true) :
      (c == ' ' || c == '\t' || c == '\n') = false := by
    rcases part with rfl | digit
    · decide
    · have := Char.isDigit_iff_toNat.mp digit
      simp only [Bool.or_eq_false_iff, beq_eq_false_iff_ne]
      refine ⟨⟨?_, ?_⟩, ?_⟩ <;> (rintro rfl; revert this; decide)
  have digit {m : Nat} {c : Char} (member : c ∈ Nat.toDigits 10 m) : c.isDigit = true :=
    Nat.isDigit_of_mem_toDigits (by decide) (by decide) member
  rw [Int.toString_eq_repr, Int.repr_eq_if]
  by_cases nonnegative : 0 ≤ n
  · rw [if_pos nonnegative, value?, Nat.toList_repr,
      trimmed_of_clean fun c member => blank (.inr (digit member))]
    split
    next none => exact absurd none Nat.toDigits_ne_nil
    next same => exact absurd (digit (same ▸ List.mem_cons_self)) (by decide)
    next same => exact absurd (digit (same ▸ List.mem_cons_self)) (by decide)
    next => simp [literal?_toDigits, Int.toNat_of_nonneg nonnegative]
  · have letters : ("-" ++ (-n).toNat.repr).toList = '-' :: Nat.toDigits 10 (-n).toNat := by
      rw [String.toList_append, Nat.toList_repr]
      rfl
    rw [if_neg nonnegative, value?, letters, trimmed_of_clean]
    · simp [literal?_toDigits]
      omega
    · intro c member
      rcases List.mem_cons.mp member with rfl | part
      · exact blank (.inl rfl)
      · exact blank (.inr (digit part))

theorem lookup_others {name key : String} (apart : key ≠ name) (bindings : Bindings) :
    List.lookup key (bindings.filter fun (known, _) => known != name)
      = List.lookup key bindings := by
  induction bindings with
  | nil => rfl
  | cons binding rest ih =>
    obtain ⟨known, text⟩ := binding
    by_cases same : known = name
    · have differs : (key == known) = false := beq_eq_false_iff_ne.mpr (same ▸ apart)
      rw [List.filter_cons_of_neg (by simp [same]), ih, List.lookup_cons, differs]
    · rw [List.filter_cons_of_pos (by simp [same]), List.lookup_cons, List.lookup_cons, ih]

/-- A variable is read back as the number that was stored in it, and no other variable changes. -/
theorem lookup?_store (bindings : Bindings) (name key : String) (value : Int) :
    lookup? ((name, toString value) :: bindings.filter fun (known, _) => known != name) key
      = if key = name then some value else lookup? bindings key := by
  by_cases same : key = name
  · subst same
    rw [if_pos rfl, lookup?, List.lookup_cons_self]
    exact value?_toString value
  · rw [if_neg same, lookup?, lookup?, List.lookup_cons, beq_eq_false_iff_ne.mpr same]
    simp only [lookup_others same]

end Reading

/-- Variables none of which holds a number out of range. -/
def Bounded (bindings : Bindings) : Prop :=
  ∀ name value, lookup? bindings name = some value → InRange value

theorem Bounded.store {bindings : Bindings} (bounded : Bounded bindings) (name : String)
    {value : Int} (fits : InRange value) :
    Bounded ((name, toString value) :: bindings.filter fun (known, _) => known != name) := by
  intro key found held
  rw [lookup?_store] at held
  split at held
  · rwa [← Option.some.inj held]
  · exact bounded key found held

/-- An expression over numbers of 64 bits has such a number as its value and leaves such numbers in
the variables. -/
theorem evaluate_inRange {expression : Expression} {bindings after : Bindings} {value : Int}
    (bounded : Bounded bindings) (evaluated : evaluate bindings expression = some (value, after)) :
    InRange value ∧ Bounded after := by
  induction expression generalizing bindings after value with
  | number n =>
    cases evaluated
    exact ⟨inRange_wrap n, bounded⟩
  | name name =>
    obtain ⟨held, found, same⟩ := Option.map_eq_some_iff.mp evaluated
    cases same
    exact ⟨bounded name value found, bounded⟩
  | unary operator operand ih =>
    obtain ⟨⟨n, next⟩, inner, outer⟩ := Option.bind_eq_some_iff.mp evaluated
    cases outer
    obtain ⟨fits, kept⟩ := ih bounded inner
    exact ⟨inRange_apply1 operator fits, kept⟩
  | binary operator left right leftIh rightIh =>
    obtain ⟨⟨n, next⟩, inner, outer⟩ := Option.bind_eq_some_iff.mp evaluated
    obtain ⟨fits, kept⟩ := leftIh bounded inner
    dsimp only at outer
    -- The logical operators may not need their second operand, and cut nothing themselves.
    split at outer
    · cases outer
      exact ⟨inRange_truth false, kept⟩
    split at outer
    · cases outer
      exact ⟨inRange_truth true, kept⟩
    obtain ⟨⟨m, last⟩, more, rest⟩ := Option.bind_eq_some_iff.mp outer
    obtain ⟨-, still⟩ := rightIh kept more
    dsimp only at rest
    split at rest
    · cases rest
      exact ⟨inRange_truth _, still⟩
    · obtain ⟨result, applied, same⟩ := Option.bind_eq_some_iff.mp rest
      cases same
      exact ⟨inRange_apply2 fits applied, still⟩
  | choice condition success failure ih successIh failureIh =>
    obtain ⟨⟨n, next⟩, inner, outer⟩ := Option.bind_eq_some_iff.mp evaluated
    obtain ⟨-, kept⟩ := ih bounded inner
    dsimp only at outer
    split at outer
    · exact successIh kept outer
    · exact failureIh kept outer
  | assign operator name expression ih =>
    obtain ⟨⟨n, next⟩, inner, outer⟩ := Option.bind_eq_some_iff.mp evaluated
    obtain ⟨fits, kept⟩ := ih bounded inner
    cases operator with
    | none =>
      cases outer
      exact ⟨fits, kept.store name fits⟩
    | some operator =>
      obtain ⟨held, found, rest⟩ := Option.bind_eq_some_iff.mp outer
      obtain ⟨result, applied, same⟩ := Option.bind_eq_some_iff.mp rest
      cases same
      have result := inRange_apply2 (kept name held found) applied
      exact ⟨result, kept.store name result⟩

end SourceTrace.Shell.Arithmetic
