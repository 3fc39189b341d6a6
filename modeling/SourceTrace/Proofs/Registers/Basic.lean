import Mathlib.Algebra.Ring.Int.Defs
import Mathlib.Algebra.Ring.Nat

/-!
# Computing in registers

An operation in registers of 64 bits wraps around where its result does not fit. Here a computation
also keeps a record of its operations: for each of them the exact result on what the operands hold,
and the register that was filled. If every exact result is small then nothing has been wrapped, and
the computation comes to what it comes to with integers. `Matches` compares the two, one step after
the other.
-/
namespace SourceTrace

/-- An operation that was carried out: its exact result, and the register that it filled. -/
structure Operation where
  exact : Int
  register : Int64
  deriving DecidableEq, Repr

/-- A register holds a number. -/
def Holds (register : Int64) (number : Int) : Prop := register.toInt = number

/-- A number that is far from the width of a register. -/
def Small (value : Int) : Prop := value.natAbs < 2 ^ 60

/-- An operation with a small result, which has not been wrapped. -/
structure Operation.Faithful (operation : Operation) : Prop where
  small : Small operation.exact
  holds : Holds operation.register operation.exact

/-- A computation with the operations that it carries out, in order. A failure keeps those before
it. -/
structure Recorded (ε α : Type) where
  operations : List Operation
  result : Except ε α

namespace Recorded

variable {ε ε' α β α' β' : Type}

/-- A computation followed by another one, if it comes to a value. -/
def andThen (step : Recorded ε α) (next : α → Recorded ε β) : Recorded ε β :=
  match step.result with
  | .ok value => ⟨step.operations ++ (next value).operations, (next value).result⟩
  | .error cause => ⟨step.operations, .error cause⟩

instance : Monad (Recorded ε) where
  pure value := ⟨[], .ok value⟩
  bind := andThen

/-- A result that needs no register. -/
def ofExcept (result : Except ε α) : Recorded ε α := ⟨[], result⟩

/-- A failure. -/
def fail (cause : ε) : Recorded ε α := ofExcept (.error cause)

/-- A computation whose failure is reported in another way. -/
def mapError (rename : ε → ε') (step : Recorded ε α) : Recorded ε' α :=
  ⟨step.operations, step.result.mapError rename⟩

/-- An operation with this exact result, which fills this register. -/
def operation (exact : Int) (register : Int64) : Recorded ε Int64 :=
  ⟨[⟨exact, register⟩], .ok register⟩

/-- The sum of two registers. -/
def add (left right : Int64) : Recorded ε Int64 :=
  operation (left.toInt + right.toInt) (left + right)

/-- A register with its sign changed. -/
def negate (value : Int64) : Recorded ε Int64 := operation (-value.toInt) (-value)

/-- A register shifted to the left. -/
def shiftLeft (value : Int64) (places : Nat) : Recorded ε Int64 :=
  operation (value.toInt * 2 ^ places) (value <<< Int64.ofNat places)

/-- A register shifted to the right. -/
def shiftRight (value : Int64) (places : Nat) : Recorded ε Int64 :=
  operation (value.toInt / 2 ^ places) (value >>> Int64.ofNat places)

/-- The low bits of a register. -/
def lowBits (value : Int64) (places : Nat) : Recorded ε Int64 :=
  operation (value.toInt % 2 ^ places) (value &&& Int64.ofNat (2 ^ places - 1))

end Recorded

theorem small_natCast {n : Nat} (bound : n < 2 ^ 60) : Small (n : Int) := by
  unfold Small
  omega

theorem bmod_eq_of_small {value : Int} (small : Small value) : value.bmod (2 ^ 64) = value := by
  unfold Small at small
  exact Int.bmod_eq_of_le (by omega) (by omega)

theorem smod_places {places : Nat} (inside : places < 64) :
    ((BitVec.ofNat 64 places).smod 64).toNat = places := by
  revert places
  decide

theorem toNat_of_nonneg {value : Int64} (nonneg : 0 ≤ value.toInt) :
    (value.toBitVec.toNat : Int) = value.toInt := by
  rw [← Int64.toInt_toBitVec] at nonneg ⊢
  rw [BitVec.toInt_eq_toNat_of_msb (BitVec.msb_eq_false_iff_two_mul_lt.mpr ?_)]
  have bound := value.toBitVec.isLt
  rw [BitVec.toInt_eq_toNat_cond] at nonneg
  split at nonneg <;> omega

theorem toInt_shiftLeft {value : Int64} {places : Nat} (inside : places < 64)
    (nonneg : 0 ≤ value.toInt) (small : Small (value.toInt * 2 ^ places)) :
    (value <<< Int64.ofNat places).toInt = value.toInt * 2 ^ places := by
  rw [← Int64.toInt_toBitVec, Int64.toBitVec_shiftLeft, Int64.toBitVec_ofNat',
    BitVec.shiftLeft_eq', smod_places inside, BitVec.toInt_shiftLeft, Nat.shiftLeft_eq,
    Int.natCast_mul, Int.natCast_pow, toNat_of_nonneg nonneg]
  exact bmod_eq_of_small small

theorem toInt_shiftRight (value : Int64) {places : Nat} (inside : places < 64) :
    (value >>> Int64.ofNat places).toInt = value.toInt / 2 ^ places := by
  rw [← Int64.toInt_toBitVec, Int64.toBitVec_shiftRight, Int64.toBitVec_ofNat',
    BitVec.toInt_sshiftRight', smod_places inside, Int64.toInt_toBitVec, Int.shiftRight_eq_div_pow]
  rfl

theorem toInt_lowBits {value : Int64} {places : Nat} (few : places ≤ 60)
    (nonneg : 0 ≤ value.toInt) :
    (value &&& Int64.ofNat (2 ^ places - 1)).toInt = value.toInt % 2 ^ places := by
  have bound : 2 ^ places ≤ 2 ^ 60 := Nat.pow_le_pow_right (by decide) few
  have below := Nat.mod_lt value.toBitVec.toNat (Nat.two_pow_pos places)
  have fits : 2 ^ places - 1 < 2 ^ 64 := by omega
  have small : Small (value.toBitVec.toNat % 2 ^ places : Nat) := small_natCast (by omega)
  have masked : (value.toBitVec &&& BitVec.ofNat 64 (2 ^ places - 1)).toInt =
      (value.toBitVec.toNat % 2 ^ places : Nat) := by
    rw [BitVec.toInt_eq_toNat_bmod, BitVec.toNat_and, BitVec.toNat_ofNat, Nat.mod_eq_of_lt fits,
      Nat.and_two_pow_sub_one_eq_mod]
    exact bmod_eq_of_small small
  rw [← Int64.toInt_toBitVec, Int64.toBitVec_and, Int64.toBitVec_ofNat', masked,
    Int.natCast_emod, toNat_of_nonneg nonneg, Int.natCast_pow]
  rfl

theorem toInt_add {left right : Int64} (small : Small (left.toInt + right.toInt)) :
    (left + right).toInt = left.toInt + right.toInt := by
  rw [Int64.toInt_add, bmod_eq_of_small small]

theorem toInt_negate {value : Int64} (small : Small (-value.toInt)) :
    (-value).toInt = -value.toInt := by
  rw [Int64.toInt_neg, bmod_eq_of_small small]

theorem holds_ofNat {n : Nat} (bound : n < 2 ^ 60) : Holds (Int64.ofNat n) n :=
  Int64.toInt_ofNat_of_lt (by omega)

theorem Holds.eq_zero_iff {register : Int64} {number : Int} (holds : Holds register number) :
    register = 0 ↔ number = 0 := by
  rw [← Int64.toInt_inj, holds]
  rfl

/-- Narrowing a register to 32 bits keeps what it holds up to multiples of the width. -/
theorem toNat_narrowed (value : Int64) :
    value.toUInt64.toUInt32.toNat = (value.toInt % 2 ^ 32).toNat := by
  have bound := value.toBitVec.isLt
  rw [UInt64.toNat_toUInt32, ← Int64.toNat_toBitVec, ← Int64.toInt_toBitVec,
    BitVec.toInt_eq_toNat_cond]
  split <;> omega

/-- Results that are related, or the same failure. -/
inductive Agrees {ε α β : Type} (related : α → β → Prop) : Except ε α → Except ε β → Prop
  | ok {left : α} {right : β} (same : related left right) : Agrees related (.ok left) (.ok right)
  | error (cause : ε) : Agrees related (.error cause) (.error cause)

theorem Agrees.map_eq {ε α β : Type} {image : α → β} {result : Except ε α} {exact : Except ε β}
    (agrees : Agrees (image · = ·) result exact) : result.map image = exact := by
  cases agrees with
  | ok same => exact congrArg Except.ok same
  | error cause => rfl

/-- A computation whose operations are all faithful, and which comes to what a computation without
registers comes to. -/
structure Matches {ε α β : Type} (related : α → β → Prop) (step : Recorded ε α)
    (exact : Except ε β) : Prop where
  faithful : ∀ operation ∈ step.operations, operation.Faithful
  agrees : Agrees related step.result exact

/-- A computation whose operations are all faithful, and which leaves a number in a register. -/
def Computes {ε : Type} (step : Recorded ε Int64) (number : Int) : Prop :=
  Matches Holds step (.ok number)

namespace Matches

variable {ε ε' α β α' β' : Type} {related : α → β → Prop} {other : α' → β' → Prop}

theorem pure {left : α} {right : β} (same : related left right) :
    Matches related (Pure.pure left : Recorded ε α) (Except.ok right) :=
  ⟨by simp [Pure.pure], .ok same⟩

theorem ofExcept {result : Except ε α} {exact : Except ε β} (agrees : Agrees related result exact) :
    Matches related (Recorded.ofExcept result) exact :=
  ⟨by simp [Recorded.ofExcept], agrees⟩

theorem fail (cause : ε) : Matches related (Recorded.fail cause) (Except.error cause) :=
  ofExcept (.error cause)

theorem bind {step : Recorded ε α} {exact : Except ε β} {next : α → Recorded ε α'}
    {onward : β → Except ε β'} (first : Matches related step exact)
    (further : ∀ left right, related left right → Matches other (next left) (onward right)) :
    Matches other (step >>= next) (exact >>= onward) := by
  obtain ⟨operations, result⟩ := step
  obtain ⟨faithful, agrees⟩ := first
  cases agrees with
  | ok same =>
    obtain ⟨later, rest⟩ := further _ _ same
    exact ⟨List.forall_mem_append.mpr ⟨faithful, later⟩, rest⟩
  | error cause => exact ⟨faithful, .error cause⟩

theorem map {step : Recorded ε α} {exact : Except ε β} {next : α → Recorded ε α'} {image : β → β'}
    (first : Matches related step exact)
    (further : ∀ left right, related left right → Matches other (next left) (.ok (image right))) :
    Matches other (step >>= next) (exact.map image) := by
  have same : exact.map image = exact >>= fun right => Pure.pure (image right) :=
    (bind_pure_comp image exact).symm
  rw [same]
  exact first.bind further

theorem mapError {step : Recorded ε α} {exact : Except ε β} (rename : ε → ε')
    (first : Matches related step exact) :
    Matches related (step.mapError rename) (exact.mapError rename) := by
  obtain ⟨operations, result⟩ := step
  obtain ⟨faithful, agrees⟩ := first
  refine ⟨faithful, ?_⟩
  cases agrees with
  | ok same => exact .ok same
  | error cause => exact .error (rename cause)

end Matches

namespace Computes

open Recorded

variable {ε α β : Type} {related : α → β → Prop} {value : Int64} {number : Int} {places : Nat}

/-- What follows a computation is compared with the number that it leaves. -/
theorem bind {step : Recorded ε Int64} {next : Int64 → Recorded ε α}
    {exact : Except ε β} (computes : Computes step number)
    (further : ∀ register, Holds register number → Matches related (next register) exact) :
    Matches related (step >>= next) exact := by
  obtain ⟨operations, result⟩ := step
  obtain ⟨faithful, agrees⟩ := computes
  cases agrees with
  | ok holds =>
    obtain ⟨later, rest⟩ := further _ holds
    exact ⟨List.forall_mem_append.mpr ⟨faithful, later⟩, rest⟩

theorem operation {register : Int64} (small : Small number) (holds : Holds register number) :
    Computes (Recorded.operation number register : Recorded ε Int64) number := by
  refine ⟨?_, .ok holds⟩
  rintro done member
  rw [List.mem_singleton.mp member]
  exact ⟨small, holds⟩

theorem add {left right : Int64} {first second : Int} (one : Holds left first)
    (other : Holds right second) (small : Small (first + second)) :
    Computes (Recorded.add left right : Recorded ε Int64) (first + second) := by
  obtain rfl := one
  obtain rfl := other
  exact operation small (toInt_add small)

theorem negate (holds : Holds value number) (small : Small (-number)) :
    Computes (Recorded.negate value : Recorded ε Int64) (-number) := by
  obtain rfl := holds
  exact operation small (toInt_negate small)

theorem shiftLeft (holds : Holds value number) (inside : places < 64) (nonneg : 0 ≤ number)
    (small : Small (number * 2 ^ places)) :
    Computes (Recorded.shiftLeft value places : Recorded ε Int64) (number * 2 ^ places) := by
  obtain rfl := holds
  exact operation small (toInt_shiftLeft inside nonneg small)

theorem shiftRight (holds : Holds value number) (inside : places < 64)
    (small : Small (number / 2 ^ places)) :
    Computes (Recorded.shiftRight value places : Recorded ε Int64) (number / 2 ^ places) := by
  obtain rfl := holds
  exact operation small (toInt_shiftRight value inside)

theorem lowBits (holds : Holds value number) (few : places ≤ 60) (nonneg : 0 ≤ number)
    (small : Small (number % 2 ^ places)) :
    Computes (Recorded.lowBits value places : Recorded ε Int64) (number % 2 ^ places) := by
  obtain rfl := holds
  exact operation small (toInt_lowBits few nonneg)

end Computes

end SourceTrace
