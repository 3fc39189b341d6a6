import Mathlib.Data.List.Nodup
import Mathlib.Data.Nat.Digits.Defs
import SourceTrace.Proofs.Vlq.RoundTrip

/-!
# The grammar of groups

A group is up to twelve digits of which the last one, and no other, has no continuation bit. The
texts that can be read are the non-empty concatenations of groups, and there is one way only to cut
such a text into groups. Any other text has a fault: a character that cannot stand where it stands,
an unfinished group at the end, or no group at all. Different groups can stand for one number, but
only one of them is written: it has no zero digits at its end, and zero has no sign.
-/
namespace SourceTrace

namespace Base64

theorem digit?_lt {c : Char} {value : Nat} (known : digit? c = some value) : value < 64 := by
  have range := digit?_cases known
  omega

/-- Different digits have different values. -/
theorem digit?_inj {c d : Char} {value : Nat} (one : digit? c = some value)
    (other : digit? d = some value) : c = d := by
  have oneRange := digit?_cases one
  have otherRange := digit?_cases other
  rw [← Char.toNat_inj]
  omega

/-- The digits of the alphabet are those that have a value, and the value is the place. -/
theorem digit?_eq_some_iff {c : Char} {value : Nat} :
    digit? c = some value ↔ alphabet[value]? = some c := by
  constructor
  · intro known
    have small := digit?_lt known
    rw [getElem?_alphabet small, digit?_inj known (digit?_digit small)]
  · intro listed
    have small : value < 64 := by
      have bound := (List.getElem?_eq_some_iff.mp listed).1
      rwa [alphabet_eq] at bound
    rw [getElem?_alphabet small, Option.some.injEq] at listed
    exact listed ▸ digit?_digit small

theorem nodup_alphabet : alphabet.Nodup := by
  rw [List.nodup_iff_getElem?_ne_getElem?]
  intro i j before inside same
  have listed : alphabet[j]? = some alphabet[j] := List.getElem?_eq_getElem inside
  rw [listed] at same
  have value := digit?_eq_some_iff.mpr same
  rw [digit?_eq_some_iff.mpr listed, Option.some.injEq] at value
  omega

theorem idxOf_alphabet {c : Char} {value : Nat} (known : digit? c = some value) :
    alphabet.idxOf c = value := by
  obtain ⟨bound, same⟩ := List.getElem?_eq_some_iff.mp (digit?_eq_some_iff.mp known)
  rw [← same]
  exact nodup_alphabet.idxOf_getElem value bound

theorem digit_of_digit? {c : Char} {value : Nat} (known : digit? c = some value) :
    digit value = c :=
  digit?_inj (digit?_digit (digit?_lt known)) known

end Base64

namespace Vlq

/-- A digit with the continuation bit: its group goes on. -/
def Continues (c : Char) : Prop := ∃ value, Base64.alphabet[value]? = some c ∧ 32 ≤ value

/-- A digit without the continuation bit: its group ends. -/
def Closes (c : Char) : Prop := ∃ value, Base64.alphabet[value]? = some c ∧ value < 32

/-- The beginning of a group, as long as a group may get before a digit closes it. -/
structure Opens (digits : List Char) : Prop where
  continues : ∀ c ∈ digits, Continues c
  length_le : digits.length ≤ 12

/-- The digits of a group. -/
def IsGroup (digits : List Char) : Prop :=
  ∃ front last, digits = front ++ [last] ∧ (∀ c ∈ front, Continues c) ∧ Closes last ∧
    digits.length ≤ 12

/-- The five low bits of a digit. -/
def payload (c : Char) : Nat := Base64.alphabet.idxOf c % 32

/-- What the digits of a group add up to. -/
def magnitude (digits : List Char) : Nat := Nat.ofDigits 32 (digits.map payload)

/-- The number that a group stands for. -/
def value (digits : List Char) : Int :=
  (-1) ^ (magnitude digits % 2) * (magnitude digits / 2 : Nat)

/-- What is wrong with a text that is no sequence of groups. -/
inductive Fault : List Char → Error → Prop
  /-- Behind groups and perhaps the beginning of another one stands no digit. -/
  | invalidDigit {groups : List (List Char)} {begun rest : List Char} {c : Char} {byte : UInt8}
      (complete : ∀ digits ∈ groups, IsGroup digits) (opens : Opens begun)
      (foreign : c ∉ Base64.alphabet) (first : (String.utf8EncodeChar c).head? = some byte) :
      Fault (groups.flatten ++ begun ++ c :: rest) (.invalidDigit (Char.ofNat byte.toNat))
  /-- A group has a thirteenth digit. -/
  | overflow {groups : List (List Char)} {begun rest : List Char} {c : Char}
      (complete : ∀ digits ∈ groups, IsGroup digits) (opens : Opens begun)
      (full : begun.length = 12) (digit : c ∈ Base64.alphabet) :
      Fault (groups.flatten ++ begun ++ c :: rest) .overflow
  /-- The last group is not finished. -/
  | leftover {groups : List (List Char)} {begun : List Char}
      (complete : ∀ digits ∈ groups, IsGroup digits) (opens : Opens begun) (some : begun ≠ []) :
      Fault (groups.flatten ++ begun) .leftover
  /-- There is no group. -/
  | noValues : Fault [] .noValues

variable {digits begun front rest : List Char} {c last : Char}

theorem Continues.digit? (continues : Continues c) :
    ∃ value, Base64.digit? c = some value ∧ 32 ≤ value ∧ value < 64 := by
  obtain ⟨value, listed, large⟩ := continues
  have known := Base64.digit?_eq_some_iff.mpr listed
  exact ⟨value, known, large, Base64.digit?_lt known⟩

theorem Closes.digit? (closes : Closes c) : ∃ value, Base64.digit? c = some value ∧ value < 32 := by
  obtain ⟨value, listed, small⟩ := closes
  exact ⟨value, Base64.digit?_eq_some_iff.mpr listed, small⟩

theorem Continues.not_closes (continues : Continues c) : ¬ Closes c := by
  intro closes
  obtain ⟨value, known, large, _⟩ := continues.digit?
  obtain ⟨other, knownToo, small⟩ := closes.digit?
  rw [known, Option.some.injEq] at knownToo
  omega

/-- A character is a digit that goes on, a digit that closes, or no digit. -/
theorem continues_or_closes (digit : c ∈ Base64.alphabet) : Continues c ∨ Closes c := by
  obtain ⟨value, listed⟩ := List.mem_iff_getElem?.mp digit
  rcases Nat.lt_or_ge value 32 with small | large
  · exact .inr ⟨value, listed, small⟩
  · exact .inl ⟨value, listed, large⟩

theorem digit?_eq_none (foreign : c ∉ Base64.alphabet) : Base64.digit? c = none := by
  cases known : Base64.digit? c with
  | none => rfl
  | some value =>
    have listed := Base64.digit?_eq_some_iff.mp known
    exact absurd (List.mem_of_getElem? listed) foreign

theorem opens_nil : Opens [] := ⟨by simp, by simp⟩

theorem Opens.concat (opens : Opens begun) (room : begun.length < 12) (continues : Continues c) :
    Opens (begun ++ [c]) := by
  refine ⟨?_, by simpa using Nat.succ_le_of_lt room⟩
  intro other member
  rcases List.mem_append.mp member with early | late
  · exact opens.continues other early
  · exact List.mem_singleton.mp late ▸ continues

theorem Opens.close (opens : Opens begun) (room : begun.length < 12) (closes : Closes c) :
    IsGroup (begun ++ [c]) :=
  ⟨begun, c, rfl, opens.continues, closes, by simpa using Nat.succ_le_of_lt room⟩

theorem payload_eq {number : Nat} (known : Base64.digit? c = some number) :
    payload c = number % 32 := by
  rw [payload, Base64.idxOf_alphabet known]

theorem magnitude_concat (digits : List Char) (c : Char) :
    magnitude (digits ++ [c]) = magnitude digits + payload c * 32 ^ digits.length := by
  simp [magnitude, Nat.ofDigits_append, Nat.mul_comm]

theorem toSigned_magnitude (digits : List Char) : toSigned (magnitude digits) = value digits := by
  unfold toSigned value
  rcases Nat.mod_two_eq_zero_or_one (magnitude digits) with even | odd
  · simp [even]
  · simp [odd]

theorem decodeFrom_foreign (sum place : Nat) (foreign : c ∉ Base64.alphabet) :
    decodeFrom sum place (c :: rest) = .error (.invalidDigit (leadByte c)) := by
  simp [decodeFrom, digit?_eq_none foreign]

theorem decodeFrom_full (sum : Nat) (digit : c ∈ Base64.alphabet) :
    decodeFrom sum 12 (c :: rest) = .error .overflow := by
  obtain ⟨value, listed⟩ := List.mem_iff_getElem?.mp digit
  simp [decodeFrom, Base64.digit?_eq_some_iff.mpr listed, maxDigits]

theorem decodeFrom_continues (room : begun.length < 12) (continues : Continues c) :
    decodeFrom (magnitude begun) begun.length (c :: rest) =
      decodeFrom (magnitude (begun ++ [c])) (begun ++ [c]).length rest := by
  obtain ⟨value, known, large, _⟩ := continues.digit?
  have space : ¬ maxDigits ≤ begun.length := Nat.not_le.mpr room
  have more : ¬ value < 32 := by omega
  simp [decodeFrom, known, space, more, magnitude_concat, payload_eq known, shiftLeft_digits]

theorem decodeFrom_closes (room : begun.length < 12) (closes : Closes c) :
    decodeFrom (magnitude begun) begun.length (c :: rest) =
      (decodeFrom 0 0 rest).map (value (begun ++ [c]) :: ·) := by
  obtain ⟨number, known, small⟩ := closes.digit?
  have space : ¬ maxDigits ≤ begun.length := Nat.not_le.mpr room
  simp [decodeFrom, known, space, small, ← toSigned_magnitude, magnitude_concat,
    payload_eq known, shiftLeft_digits]

/-- Reading on inside a group. -/
theorem decodeFrom_opens {more : List Char} (opens : Opens (begun ++ more)) (rest : List Char) :
    decodeFrom (magnitude begun) begun.length (more ++ rest) =
      decodeFrom (magnitude (begun ++ more)) (begun ++ more).length rest := by
  induction more generalizing begun with
  | nil => rw [List.nil_append, List.append_nil]
  | cons c more ih =>
    have room : begun.length < 12 := by
      have length_le := opens.length_le
      simp only [List.length_append, List.length_cons] at length_le
      omega
    rw [List.append_cons] at opens ⊢
    rw [List.cons_append, decodeFrom_continues room (opens.continues c (by simp)), ih opens]

theorem decodeFrom_start (opens : Opens begun) (rest : List Char) :
    decodeFrom 0 0 (begun ++ rest) = decodeFrom (magnitude begun) begun.length rest :=
  decodeFrom_opens (show Opens ([] ++ begun) from opens) rest

/-- Reading a whole group. -/
theorem IsGroup.decodeFrom_append (group : IsGroup digits) (rest : List Char) :
    decodeFrom 0 0 (digits ++ rest) = (decodeFrom 0 0 rest).map (value digits :: ·) := by
  obtain ⟨front, last, rfl, continues, closes, length_le⟩ := group
  simp only [List.length_append, List.length_singleton] at length_le
  have opens : Opens front := ⟨continues, by omega⟩
  rw [List.append_assoc, decodeFrom_start opens, List.singleton_append,
    decodeFrom_closes (by omega) closes]

theorem decodeFrom_flatten {groups : List (List Char)}
    (complete : ∀ digits ∈ groups, IsGroup digits) (rest : List Char) :
    decodeFrom 0 0 (groups.flatten ++ rest) =
      (decodeFrom 0 0 rest).map (groups.map value ++ ·) := by
  induction groups with
  | nil => cases read : decodeFrom 0 0 rest <;> simp [read, Except.map]
  | cons digits groups ih =>
    have first := complete digits List.mem_cons_self
    have others := ih fun other member => complete other (List.mem_cons_of_mem _ member)
    rw [List.flatten_cons, List.append_assoc, first.decodeFrom_append, others]
    cases decodeFrom 0 0 rest <;> rfl

/-- A rest that is empty or starts with a character that cannot stand behind the beginning of a
group. -/
inductive Stuck (begun : List Char) : List Char → Prop
  | ended : Stuck begun []
  | foreign {c : Char} {rest : List Char} (foreign : c ∉ Base64.alphabet) : Stuck begun (c :: rest)
  | full {c : Char} {rest : List Char} (full : begun.length = 12) (digit : c ∈ Base64.alphabet) :
      Stuck begun (c :: rest)

/-- Every text is cut into groups, the beginning of one more and a rest that is stuck. -/
theorem exists_cut (opens : Opens begun) (text : List Char) :
    ∃ (groups : List (List Char)) (pending tail : List Char), (∀ digits ∈ groups, IsGroup digits) ∧
      Opens pending ∧ Stuck pending tail ∧ begun ++ text = groups.flatten ++ pending ++ tail := by
  induction text generalizing begun with
  | nil => exact ⟨[], begun, [], by simp, opens, .ended, by simp⟩
  | cons c rest ih =>
    by_cases digit : c ∈ Base64.alphabet
    · by_cases full : begun.length = 12
      · exact ⟨[], begun, c :: rest, by simp, opens, .full full digit, by simp⟩
      · have room : begun.length < 12 := Nat.lt_of_le_of_ne opens.length_le full
        rcases continues_or_closes digit with continues | closes
        · obtain ⟨groups, pending, tail, complete, further, stuck, same⟩ :=
            ih (opens.concat room continues)
          exact ⟨groups, pending, tail, complete, further, stuck, by rw [← same]; simp⟩
        · obtain ⟨groups, pending, tail, complete, further, stuck, same⟩ := ih opens_nil
          rw [List.nil_append] at same
          refine ⟨(begun ++ [c]) :: groups, pending, tail, ?_, further, stuck, by simp [same]⟩
          intro digits member
          rcases List.mem_cons.mp member with rfl | later
          · exact opens.close room closes
          · exact complete digits later
    · exact ⟨[], begun, c :: rest, by simp, opens, .foreign digit, by simp⟩

/-- A text is a non-empty sequence of groups or has a fault. -/
theorem groups_or_fault (text : List Char) :
    (∃ groups : List (List Char), groups ≠ [] ∧ (∀ digits ∈ groups, IsGroup digits) ∧
      text = groups.flatten) ∨ ∃ error, Fault text error := by
  obtain ⟨groups, pending, tail, complete, opens, stuck, same⟩ := exists_cut opens_nil text
  rw [List.nil_append] at same
  subst same
  cases stuck with
  | ended =>
    rw [List.append_nil]
    by_cases finished : pending = []
    · rw [finished, List.append_nil]
      by_cases none : groups = []
      · exact .inr ⟨_, by rw [none]; exact .noValues⟩
      · exact .inl ⟨groups, none, complete, rfl⟩
    · exact .inr ⟨_, .leftover complete opens finished⟩
  | @foreign c rest foreign =>
    obtain ⟨byte, first⟩ : ∃ byte, (String.utf8EncodeChar c).head? = some byte := by
      cases bytes : String.utf8EncodeChar c with
      | nil => exact absurd bytes String.utf8EncodeChar_ne_nil
      | cons byte _ => exact ⟨byte, rfl⟩
    exact .inr ⟨_, .invalidDigit complete opens foreign first⟩
  | full full digit => exact .inr ⟨_, .overflow complete opens full digit⟩

theorem decode_flatten {groups : List (List Char)} (some : groups ≠ [])
    (complete : ∀ digits ∈ groups, IsGroup digits) :
    decode groups.flatten = .ok (groups.map value) := by
  have read := decodeFrom_flatten complete []
  rw [List.append_nil] at read
  obtain ⟨digits, others, rfl⟩ := List.exists_cons_of_ne_nil some
  rw [decode, read]
  simp [decodeFrom, Except.map]

theorem decode_eq_error {text : List Char} {error : Error}
    (failed : decodeFrom 0 0 text = .error error) : decode text = .error error := by
  rw [decode, failed]

theorem Fault.decode_eq {text : List Char} {error : Error} (fault : Fault text error) :
    decode text = .error error := by
  cases fault with
  | @invalidDigit groups begun rest c byte complete opens foreign first =>
    have named : leadByte c = Char.ofNat byte.toNat := by
      unfold leadByte
      cases bytes : String.utf8EncodeChar c with
      | nil => simp [bytes] at first
      | cons head _ => simp_all
    apply decode_eq_error
    rw [List.append_assoc, decodeFrom_flatten complete, decodeFrom_start opens,
      decodeFrom_foreign _ _ foreign, named]
    rfl
  | @overflow groups begun rest c complete opens full digit =>
    apply decode_eq_error
    rw [List.append_assoc, decodeFrom_flatten complete, decodeFrom_start opens, full,
      decodeFrom_full _ digit]
    rfl
  | @leftover groups begun complete opens some =>
    apply decode_eq_error
    have read := decodeFrom_start opens []
    rw [List.append_nil] at read
    rw [decodeFrom_flatten complete, read]
    simp [decodeFrom, some, Except.map]
  | noValues => rfl

/-- A text can be read exactly if it is a non-empty sequence of groups. -/
theorem decode_eq_ok_iff {text : List Char} {values : List Int} :
    decode text = .ok values ↔ ∃ groups : List (List Char), groups ≠ [] ∧
      (∀ digits ∈ groups, IsGroup digits) ∧ text = groups.flatten ∧ values = groups.map value := by
  constructor
  · intro read
    rcases groups_or_fault text with ⟨groups, some, complete, rfl⟩ | ⟨error, fault⟩
    · rw [decode_flatten some complete, Except.ok.injEq] at read
      exact ⟨groups, some, complete, rfl, read.symm⟩
    · rw [fault.decode_eq] at read
      cases read
  · rintro ⟨groups, some, complete, rfl, rfl⟩
    exact decode_flatten some complete

/-- Any other text is refused for the fault that it has. -/
theorem decode_eq_error_iff {text : List Char} {error : Error} :
    decode text = .error error ↔ Fault text error := by
  constructor
  · intro failed
    rcases groups_or_fault text with ⟨groups, some, complete, rfl⟩ | ⟨other, fault⟩
    · rw [decode_flatten some complete] at failed
      cases failed
    · rw [fault.decode_eq, Except.error.injEq] at failed
      exact failed ▸ fault
  · exact Fault.decode_eq

end Vlq

end SourceTrace
