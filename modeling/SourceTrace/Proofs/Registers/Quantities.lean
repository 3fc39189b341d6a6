import Mathlib.Data.List.Forall2
import SourceTrace.Proofs.Registers.Basic
import SourceTrace.Proofs.Vlq.Grammar

/-!
# Reading quantities in registers

The digits of a group are added up in a register. There are never more than twelve of them, so the
sum stays below 2 ^ 60, and what is left of it without the sign below 2 ^ 59. The numbers come out
as they do without registers.
-/
namespace SourceTrace.Vlq

open Recorded (lowBits shiftLeft shiftRight add negate fail)

/-- Takes the sign of a finished sum from its lowest bit. -/
def signed (sum : Int64) : Recorded Error Int64 := do
  let sign ← lowBits sum 1
  let half ← shiftRight sum 1
  if sign = 0 then pure half else negate half

/-- Reads the rest of a sequence of groups, where the digits of the current group that have been
read are added up in `sum`, and the next one is shifted by `shift`. -/
def readFrom (sum : Int64) (shift : Nat) : List Char → Recorded Error (List Int64)
  | [] => if sum ≠ 0 ∨ shift ≠ 0 then fail .leftover else pure []
  | c :: rest =>
    match Base64.digit? c with
    | none => fail (.invalidDigit (leadByte c))
    | some digit => do
      let payload ← lowBits (Int64.ofNat digit) 5
      let continues ← shiftRight (Int64.ofNat digit) 5
      if 58 < shift then fail .overflow
      else
        let shifted ← shiftLeft payload shift
        let sum ← add sum shifted
        if continues = 0 then
          let value ← signed sum
          let values ← readFrom 0 0 rest
          return value :: values
        else readFrom sum (shift + 5) rest

/-- The numbers of a non-empty sequence of groups. -/
def read (text : List Char) : Recorded Error (List Int64) := do
  let values ← readFrom 0 0 text
  if values.isEmpty then fail .noValues else return values

/-- A register with a number that a group has digits for. -/
structure Carries (register : Int64) (number : Int) : Prop where
  holds : Holds register number
  fits : Fits number

/-- Registers with the numbers of some groups. -/
abbrev CarryAll : List Int64 → List Int → Prop := List.Forall₂ Carries

theorem fits_toSigned {total : Nat} (bound : total < 2 ^ 60) : Fits (toSigned total) := by
  unfold Fits toSigned
  split <;> omega

theorem signed_computes {sum : Int64} {total : Nat} (holds : Holds sum total)
    (bound : total < 2 ^ 60) : Computes (signed sum) (toSigned total) := by
  have low : Small ((total : Int) % 2 ^ 1) := small_natCast (show total % 2 < 2 ^ 60 by omega)
  have high : Small ((total : Int) / 2 ^ 1) := small_natCast (show total / 2 < 2 ^ 60 by omega)
  refine (Computes.lowBits holds (by decide) (by omega) low).bind fun sign signHolds => ?_
  refine (Computes.shiftRight holds (by decide) high).bind fun half halfHolds => ?_
  unfold toSigned
  split
  · next even =>
    have remainder := signHolds.eq_zero_iff.mp even
    rw [if_neg (by omega)]
    exact Matches.pure halfHolds
  · next odd =>
    have remainder := mt signHolds.eq_zero_iff.mpr odd
    rw [if_pos (by omega)]
    refine Computes.negate halfHolds ?_
    unfold Small at high ⊢
    omega

/-- The five low bits of a digit and the bit above them. -/
theorem digit_computes {digit : Nat} (small : digit < 64) :
    Computes (lowBits (Int64.ofNat digit) 5 : Recorded Error Int64) (digit % 32 : Nat) ∧
      Computes (shiftRight (Int64.ofNat digit) 5 : Recorded Error Int64) (digit / 32 : Nat) := by
  have holds : Holds (Int64.ofNat digit) digit := holds_ofNat (by omega)
  constructor
  · exact Computes.lowBits holds (by decide) (by omega)
      (small_natCast (show digit % 32 < 2 ^ 60 by omega))
  · exact Computes.shiftRight holds (by decide)
      (small_natCast (show digit / 32 < 2 ^ 60 by omega))

theorem pow_le_width {place : Nat} (room : place ≤ maxDigits) : 32 ^ place ≤ 2 ^ 60 :=
  Nat.pow_le_pow_right (show 0 < 32 by decide) room

/-- A digit added to those before it. With fewer than twelve of them there is room for one more. -/
theorem grown_lt {total payload place : Nat} (bound : total < 32 ^ place) (small : payload < 32) :
    total + payload * 32 ^ place < 32 ^ (place + 1) := by
  have filled : (payload + 1) * 32 ^ place ≤ 32 * 32 ^ place := Nat.mul_le_mul_right _ small
  rw [Nat.pow_succ]
  linarith

/-- The digit at a place that is left moves there. -/
theorem shifted_computes {payload : Int64} {digit place : Nat} (holds : Holds payload digit)
    (small : digit < 32) (room : place < maxDigits) :
    Computes (shiftLeft payload (5 * place) : Recorded Error Int64)
      (digit * 32 ^ place : Nat) := by
  have bound : digit * 32 ^ place < 2 ^ 60 := calc
    digit * 32 ^ place < 32 ^ (place + 1) := by
      simpa using grown_lt (Nat.pow_pos (by decide)) small
    _ ≤ 2 ^ 60 := pow_le_width room
  have moved : (digit : Int) * 2 ^ (5 * place) = (digit * 32 ^ place : Nat) := by
    rw [Int.natCast_mul, Int.natCast_pow, pow_mul]
    rfl
  rw [← moved]
  refine Computes.shiftLeft holds ?_ (by omega) ?_
  · unfold maxDigits at room
    omega
  · rw [moved]
    exact small_natCast bound

theorem readFrom_matches (text : List Char) {sum : Int64} {total place : Nat}
    (holds : Holds sum total) (bound : total < 32 ^ place) (room : place ≤ maxDigits) :
    Matches CarryAll (readFrom sum (5 * place) text) (decodeFrom total place text) := by
  induction text generalizing sum total place with
  | nil =>
    simp only [readFrom, decodeFrom]
    by_cases start : place = 0
    · subst start
      have zero : sum = 0 := holds.eq_zero_iff.mpr (by omega)
      simp only [zero, ne_eq, not_true_eq_false, Nat.mul_zero, or_self, ↓reduceIte]
      exact Matches.pure .nil
    · rw [if_pos (Or.inr (by omega)), if_neg start]
      exact Matches.fail _
  | cons c rest ih =>
    cases known : Base64.digit? c with
    | none =>
      simp only [readFrom, decodeFrom, known]
      exact Matches.fail _
    | some digit =>
      simp only [readFrom, decodeFrom, known]
      obtain ⟨low, high⟩ := digit_computes (Base64.digit?_lt known)
      refine low.bind fun payload payloadHolds => ?_
      refine high.bind fun continues continuesHolds => ?_
      by_cases full : maxDigits ≤ place
      · rw [if_pos full, if_pos (by unfold maxDigits at full; omega)]
        exact Matches.fail _
      rw [if_neg full, if_neg (by unfold maxDigits at full; omega), shiftLeft_digits]
      have payload_lt : digit % 32 < 32 := Nat.mod_lt digit (by decide)
      have grown := grown_lt bound payload_lt
      have below : 32 ^ (place + 1) ≤ 2 ^ 60 := pow_le_width (by omega)
      have added : Small ((total : Int) + (digit % 32 * 32 ^ place : Nat)) :=
        small_natCast (show total + digit % 32 * 32 ^ place < 2 ^ 60 by omega)
      refine (shifted_computes payloadHolds payload_lt (by omega)).bind
        fun shifted shiftedHolds => ?_
      refine (Computes.add holds shiftedHolds added).bind fun sum sumHolds => ?_
      by_cases closes : digit < 32
      · have last : continues = 0 := continuesHolds.eq_zero_iff.mpr (by omega)
        rw [if_pos closes, if_pos last]
        refine (signed_computes sumHolds (by omega)).bind fun value valueHolds => ?_
        have start : Matches CarryAll (readFrom 0 0 rest) (decodeFrom 0 0 rest) :=
          ih (show Holds 0 0 from rfl) (show 0 < 32 ^ 0 by decide) (Nat.zero_le maxDigits)
        refine start.map fun others numbers carried => ?_
        exact Matches.pure (.cons ⟨valueHolds, fits_toSigned (by omega)⟩ carried)
      · have further : continues ≠ 0 := mt continuesHolds.eq_zero_iff.mp (by omega)
        rw [if_neg closes, if_neg further]
        exact ih sumHolds grown (by omega)

theorem decode_eq_bind (text : List Char) :
    decode text = decodeFrom 0 0 text >>= fun numbers =>
      if numbers.isEmpty then .error .noValues else .ok numbers := by
  unfold decode
  cases decodeFrom 0 0 text with
  | error cause => rfl
  | ok numbers => cases numbers <;> rfl

/-- Reading in registers comes to the numbers that are read without them. -/
theorem read_matches (text : List Char) : Matches CarryAll (read text) (decode text) := by
  have start := readFrom_matches text (show Holds 0 0 from rfl) (show 0 < 32 ^ 0 by decide)
    (Nat.zero_le maxDigits)
  rw [decode_eq_bind]
  refine start.bind fun values numbers carried => ?_
  cases carried with
  | nil => exact Matches.fail _
  | cons first others => exact Matches.pure (.cons first others)

end SourceTrace.Vlq
