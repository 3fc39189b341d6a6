import Mathlib.Tactic.Ring
import SourceTrace.Vlq

/-!
# Groups of digits are read back

A group of at most twelve digits is read back as the number it was written for, whatever follows it,
so a sequence of groups is read back as the sequence of numbers. Digits never clash with the
characters that divide segments and lines.
-/
namespace SourceTrace

namespace Base64

/-- The alphabet, character by character. It is evaluated much faster than the string. -/
theorem alphabet_eq : alphabet =
    ['A', 'B', 'C', 'D', 'E', 'F', 'G', 'H', 'I', 'J', 'K', 'L', 'M', 'N', 'O', 'P', 'Q', 'R', 'S',
      'T', 'U', 'V', 'W', 'X', 'Y', 'Z', 'a', 'b', 'c', 'd', 'e', 'f', 'g', 'h', 'i', 'j', 'k', 'l',
      'm', 'n', 'o', 'p', 'q', 'r', 's', 't', 'u', 'v', 'w', 'x', 'y', 'z', '0', '1', '2', '3', '4',
      '5', '6', '7', '8', '9', '+', '/'] := String.toList_ofList

theorem getElem?_alphabet {value : Nat} (small : value < 64) :
    alphabet[value]? = some (digit value) := by
  have length : alphabet.length = 64 := by
    rw [alphabet_eq]
    rfl
  rw [digit, List.getD, List.getElem?_eq_getElem (by omega), Option.getD_some]

theorem digit?_digit {value : Nat} (small : value < 64) : digit? (digit value) = some value := by
  revert value
  simp only [digit, alphabet_eq]
  decide +kernel

/-- The ranges of characters that have a value. -/
theorem digit?_cases {c : Char} {value : Nat} (known : digit? c = some value) :
    c.toNat = value + 0x41 ∧ value < 26 ∨
    c.toNat + 26 = value + 0x61 ∧ 26 ≤ value ∧ value < 52 ∨
    c.toNat + 52 = value + 0x30 ∧ 52 ≤ value ∧ value < 62 ∨
    c.toNat = 0x2b ∧ value = 62 ∨ c.toNat = 0x2f ∧ value = 63 := by
  have plus : '+'.toNat = 0x2b := rfl
  have slash : '/'.toNat = 0x2f := rfl
  simp only [digit?, ← Char.toNat_inj, plus, slash] at known
  grind

/-- A character without a value is no digit. -/
theorem digit_ne_of_foreign {c : Char} (foreign : digit? c = none) {value : Nat}
    (small : value < 64) : digit value ≠ c := by
  intro same
  rw [← same, digit?_digit small] at foreign
  cases foreign

end Base64

namespace Vlq

/-- A digit holds five bits. -/
theorem shiftLeft_digits (value place : Nat) : value <<< (5 * place) = value * 32 ^ place := by
  rw [Nat.shiftLeft_eq, Nat.pow_mul]

/-- One more place leaves room for one digit less. -/
theorem pow_places {place : Nat} (room : place < maxDigits) :
    32 ^ (maxDigits - place) = 32 ^ (maxDigits - (place + 1)) * 32 := by
  rw [← Nat.pow_succ]
  congr 1
  omega

/-- The rest of a group, behind `place` digits that add up to `sum`. -/
theorem decodeFrom_group (n sum place : Nat) (first : place < maxDigits)
    (fits : n < 32 ^ (maxDigits - place)) (rest : List Char) :
    decodeFrom sum place (group n ++ rest) =
      (decodeFrom 0 0 rest).map (toSigned (sum + n * 32 ^ place) :: ·) := by
  have room : ¬ maxDigits ≤ place := by omega
  fun_induction group n generalizing sum place with
  | case1 n small =>
    have value : Base64.digit? (Base64.digit n) = some n := Base64.digit?_digit (by omega)
    simp [decodeFrom, value, room, small, Nat.mod_eq_of_lt small, shiftLeft_digits]
  | case2 n large ih =>
    have value : Base64.digit? (Base64.digit (n % 32 + 32)) = some (n % 32 + 32) :=
      Base64.digit?_digit (by omega)
    have shorter : n / 32 < 32 ^ (maxDigits - (place + 1)) := by
      rw [pow_places first] at fits
      omega
    have further : place + 1 < maxDigits := by
      by_contra last
      have one : maxDigits - (place + 1) = 0 := by omega
      rw [one] at shorter
      omega
    have total : sum + n % 32 * 32 ^ place + n / 32 * 32 ^ (place + 1) = sum + n * 32 ^ place := by
      conv => rhs; rw [← Nat.mod_add_div n 32]
      ring
    have payload : (n % 32 + 32) % 32 = n % 32 := by omega
    have continues : ¬ n % 32 + 32 < 32 := by omega
    rw [List.cons_append, decodeFrom, value]
    simp only [room, continues, ↓reduceIte, payload, shiftLeft_digits]
    rw [ih _ (place + 1) further shorter (by omega), total]

/-- The numbers that a group has digits for. -/
def Fits (value : Int) : Prop := value.natAbs < 2 ^ 59

theorem decodeFrom_encodeOne {value : Int} (fits : Fits value) (rest : List Char) :
    decodeFrom 0 0 (encodeOne value ++ rest) = (decodeFrom 0 0 rest).map (value :: ·) := by
  have digits : ofSigned value < 32 ^ (maxDigits - 0) := by
    unfold Fits at fits
    have bits : 32 ^ (maxDigits - 0) = 2 ^ 60 := by decide
    rw [bits]
    unfold ofSigned
    split <;> omega
  rw [encodeOne, decodeFrom_group _ 0 0 (by decide) digits, Nat.pow_zero, Nat.mul_one, Nat.zero_add,
    toSigned_ofSigned]

/-- A sequence of groups is read back. -/
theorem decode_flatMap_encodeOne {values : List Int} (some : values ≠ [])
    (fits : ∀ value ∈ values, Fits value) : decode (values.flatMap encodeOne) = .ok values := by
  have all : decodeFrom 0 0 (values.flatMap encodeOne) = .ok values := by
    clear some
    induction values with
    | nil => rfl
    | cons value rest ih =>
      rw [List.flatMap_cons, decodeFrom_encodeOne (fits value List.mem_cons_self),
        ih fun other member => fits other (List.mem_cons_of_mem value member)]
      rfl
  obtain ⟨first, rest, rfl⟩ := List.exists_cons_of_ne_nil some
  rw [decode, all]

theorem encodeOne_ne_nil (value : Int) : encodeOne value ≠ [] := by
  rw [encodeOne, group]
  split <;> simp

/-- Groups consist of digits. -/
theorem not_mem_group {c : Char} (foreign : Base64.digit? c = none) (n : Nat) : c ∉ group n := by
  fun_induction group n with
  | case1 n small =>
    rw [List.mem_singleton]
    exact (Base64.digit_ne_of_foreign foreign (by omega)).symm
  | case2 n large ih =>
    rw [List.mem_cons, not_or]
    exact ⟨(Base64.digit_ne_of_foreign foreign (by omega)).symm, ih⟩

theorem length_group_le {n count : Nat} (positive : 0 < count) (fits : n < 32 ^ count) :
    (group n).length ≤ count := by
  fun_induction group n generalizing count with
  | case1 n small => exact positive
  | case2 n large ih =>
    obtain ⟨below, rfl⟩ : ∃ below, count = below + 1 := ⟨count - 1, by omega⟩
    rw [Nat.pow_succ] at fits
    have further : 0 < below := by
      by_contra zero
      have none : below = 0 := by omega
      rw [none] at fits
      omega
    have shorter := ih further (by omega)
    rw [List.length_cons]
    omega

theorem ofSigned_lt {number : Int} {count : Nat} (fits : number.natAbs < 2 ^ count) :
    ofSigned number < 2 ^ (count + 1) := by
  rw [Nat.pow_succ]
  unfold ofSigned
  split <;> omega

theorem encode_of_ne_nil {values : List Int} (some : values ≠ []) :
    encode values = .ok (values.flatMap encodeOne) := by
  simp [encode, some]

/-- A group for which there are too few digits left is refused. -/
theorem decodeFrom_group_wide (n sum place : Nat) (first : place ≤ maxDigits)
    (wide : 32 ^ (maxDigits - place) ≤ n) (rest : List Char) :
    decodeFrom sum place (group n ++ rest) = .error .overflow := by
  fun_induction group n generalizing sum place with
  | case1 n small =>
    have full : maxDigits ≤ place := by
      by_contra room
      have power := pow_places (Nat.not_le.mp room)
      have positive : 0 < 32 ^ (maxDigits - (place + 1)) := Nat.pow_pos (by decide)
      omega
    have value : Base64.digit? (Base64.digit n) = some n := Base64.digit?_digit (by omega)
    simp [decodeFrom, value, full]
  | case2 n large ih =>
    have value : Base64.digit? (Base64.digit (n % 32 + 32)) = some (n % 32 + 32) :=
      Base64.digit?_digit (by omega)
    by_cases full : maxDigits ≤ place
    · simp [decodeFrom, value, full]
    · have power := pow_places (Nat.not_le.mp full)
      have continues : ¬ n % 32 + 32 < 32 := by omega
      rw [List.cons_append, decodeFrom, value]
      simp only [full, continues, ↓reduceIte]
      exact ih _ (place + 1) (by omega) (by omega)

theorem decodeFrom_encodeOne_wide {value : Int} (wide : ¬ Fits value) (rest : List Char) :
    decodeFrom 0 0 (encodeOne value ++ rest) = .error .overflow := by
  refine decodeFrom_group_wide _ 0 0 (Nat.zero_le _) ?_ rest
  have bits : 32 ^ (maxDigits - 0) = 2 ^ 60 := by decide
  unfold Fits at wide
  rw [bits, ofSigned]
  split <;> omega

/-- A sequence with a number that has too few digits is refused. -/
theorem decode_flatMap_encodeOne_wide {values : List Int} (wide : ¬ ∀ value ∈ values, Fits value) :
    decode (values.flatMap encodeOne) = .error .overflow := by
  have refused : decodeFrom 0 0 (values.flatMap encodeOne) = .error .overflow := by
    induction values with
    | nil => simp at wide
    | cons value rest ih =>
      rw [List.flatMap_cons]
      by_cases fits : Fits value
      · have further : ¬ ∀ value ∈ rest, Fits value := by simpa [fits] using wide
        rw [decodeFrom_encodeOne fits, ih further]
        rfl
      · exact decodeFrom_encodeOne_wide fits _
  rw [decode, refused]

/-- Numbers below 2 ^ 62 are written with up to thirteen digits each, but only twelve are read: what
was written is read back exactly if all numbers are below 2 ^ 59, and else it is refused as too
long. -/
theorem decode_encode_iff {values : List Int} (some : values ≠ [])
    (small : ∀ value ∈ values, value.natAbs < 2 ^ 62) :
    ∃ text, encode values = .ok text ∧ (∀ value ∈ values, (encodeOne value).length ≤ 13) ∧
      (decode text = .ok values ↔ ∀ value ∈ values, value.natAbs < 2 ^ 59) ∧
      ((∃ value ∈ values, 2 ^ 59 ≤ value.natAbs) → decode text = .error .overflow) := by
  refine ⟨_, encode_of_ne_nil some, ?_, ?_, ?_⟩
  · intro value member
    refine length_group_le (by decide) (Nat.lt_of_lt_of_le (ofSigned_lt (small value member)) ?_)
    decide
  · constructor
    · intro read
      by_contra wide
      rw [decode_flatMap_encodeOne_wide wide] at read
      cases read
    · exact decode_flatMap_encodeOne some
  · rintro ⟨value, member, large⟩
    apply decode_flatMap_encodeOne_wide
    intro fits
    exact Nat.not_lt.mpr large (fits value member)

theorem decode_encode_widest :
    ∃ text, encode [2 ^ 59 - 1, 1 - 2 ^ 59] = .ok text ∧
      decode text = .ok [2 ^ 59 - 1, 1 - 2 ^ 59] := by
  have small : ∀ value ∈ ([2 ^ 59 - 1, 1 - 2 ^ 59] : List Int), value.natAbs < 2 ^ 62 := by decide
  obtain ⟨text, written, -, back, -⟩ := decode_encode_iff (List.cons_ne_nil _ _) small
  exact ⟨text, written, back.mpr (by decide)⟩

/-- The least number that is not read back. -/
theorem decode_encode_too_wide :
    (2 ^ 59 : Int).natAbs < 2 ^ 62 ∧ encode [2 ^ 59] = .ok "ggggggggggggB".toList ∧
      decode "ggggggggggggB".toList = .error .overflow := by
  have written : [(2 ^ 59 : Int)].flatMap encodeOne = "ggggggggggggB".toList := by
    simp [encodeOne, ofSigned, group, Base64.digit, Base64.alphabet_eq]
  refine ⟨by decide, ?_, ?_⟩
  · rw [encode_of_ne_nil (List.cons_ne_nil _ _), written]
  · rw [← written]
    exact decode_flatMap_encodeOne_wide (by simp [Fits])

end Vlq

end SourceTrace
