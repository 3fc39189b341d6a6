import SourceTrace.Proofs.Vlq.Grammar

/-!
# Which groups are written

A number can be read from many groups: zero digits may fill a group up, and a zero may carry a sign.
Of all groups for a number only the one without such a filling and such a sign is written. A text
can be cut into groups in one way only, so a text is written again as it was read exactly if each of
its groups is a written one, and what is written is read as the same numbers again in any case.
-/
namespace SourceTrace.Vlq

variable {digits front rest : List Char} {c last : Char}

theorem payload_lt (c : Char) : payload c < 32 := Nat.mod_lt _ (by decide)

theorem magnitude_cons (c : Char) (digits : List Char) :
    magnitude (c :: digits) = payload c + 32 * magnitude digits := by
  rw [magnitude, List.map_cons, Nat.ofDigits_cons, magnitude]

theorem magnitude_singleton {number : Nat} (known : Base64.digit? c = some number) :
    magnitude [c] = number % 32 := by
  rw [magnitude_cons, payload_eq known]
  rfl

theorem magnitude_lt (digits : List Char) : magnitude digits < 32 ^ digits.length := by
  have bound : ∀ digit ∈ digits.map payload, digit < 32 := by
    intro digit member
    obtain ⟨c, _, rfl⟩ := List.mem_map.mp member
    exact payload_lt c
  simpa [magnitude] using Nat.ofDigits_lt_base_pow_length (by decide) bound

theorem IsGroup.fits_value (group : IsGroup digits) : Fits (value digits) := by
  obtain ⟨_, _, -, -, -, length_le⟩ := group
  have bound : magnitude digits < 2 ^ 60 := calc
    magnitude digits < 32 ^ digits.length := magnitude_lt digits
    _ ≤ 32 ^ 12 := Nat.pow_le_pow_right (by decide) length_le
    _ = 2 ^ 60 := by decide
  rw [Fits, ← toSigned_magnitude, toSigned]
  split <;> omega

theorem payload_digit {value : Nat} (small : value < 32) :
    payload (Base64.digit value) = value := by
  rw [payload_eq (Base64.digit?_digit (show value < 64 by omega)), Nat.mod_eq_of_lt small]

theorem payload_digit_add {value : Nat} (small : value < 32) :
    payload (Base64.digit (value + 32)) = value := by
  rw [payload_eq (Base64.digit?_digit (show value + 32 < 64 by omega))]
  omega

theorem magnitude_group (n : Nat) : magnitude (group n) = n := by
  fun_induction group n with
  | case1 n small => simp [magnitude, payload_digit small]
  | case2 n large ih =>
    rw [magnitude_cons, ih, payload_digit_add (Nat.mod_lt n (by decide))]
    exact Nat.mod_add_div n 32

/-- The digits of a number without a limit to their count, with no zero digit at the end. -/
theorem exists_group_eq (n : Nat) :
    ∃ front last, group n = front ++ [last] ∧ (∀ c ∈ front, Continues c) ∧ Closes last ∧
      (front ≠ [] → last ≠ 'A') := by
  fun_induction group n with
  | case1 n small =>
    exact ⟨[], _, rfl, by simp, ⟨n, Base64.getElem?_alphabet (by omega), small⟩, by simp⟩
  | case2 n large ih =>
    obtain ⟨front, last, same, continues, closes, padded⟩ := ih
    refine ⟨Base64.digit (n % 32 + 32) :: front, last, by rw [same]; rfl, ?_, closes, ?_⟩
    · intro c member
      rcases List.mem_cons.mp member with first | later
      · exact ⟨n % 32 + 32, first ▸ Base64.getElem?_alphabet (by omega), by omega⟩
      · exact continues c later
    · rintro - rfl
      by_cases single : front = []
      · have zero := magnitude_group (n / 32)
        rw [same, single] at zero
        have none : magnitude ['A'] = 0 :=
          magnitude_singleton (show Base64.digit? 'A' = some 0 from rfl)
        rw [List.nil_append, none] at zero
        omega
      · exact padded single rfl

theorem isGroup_encodeOne {number : Int} (fits : Fits number) : IsGroup (encodeOne number) := by
  obtain ⟨front, last, same, continues, closes, -⟩ := exists_group_eq (ofSigned number)
  have bound : ofSigned number < 32 ^ 12 := ofSigned_lt fits
  exact ⟨front, last, same, continues, closes, length_group_le (by decide) bound⟩

/-- The groups that are written: no zero digit fills one up, and zero has no sign. -/
structure IsWritten (digits : List Char) : Prop where
  signless : digits ≠ ['B']
  unpadded : 2 ≤ digits.length → digits.getLast? ≠ some 'A'

theorem isWritten_encodeOne (number : Int) : IsWritten (encodeOne number) := by
  obtain ⟨front, last, same, -, -, padded⟩ := exists_group_eq (ofSigned number)
  constructor
  · intro negative
    have one := magnitude_group (ofSigned number)
    rw [← encodeOne, negative] at one
    have none : magnitude ['B'] = 1 :=
      magnitude_singleton (show Base64.digit? 'B' = some 1 from rfl)
    rw [none] at one
    unfold ofSigned at one
    split at one <;> omega
  · rw [encodeOne, same]
    intro long ends
    rw [List.getLast?_concat, Option.some.injEq] at ends
    have filled : front ≠ [] := by
      rintro rfl
      simp at long
    exact padded filled ends

theorem digit_payload (closes : Closes c) : Base64.digit (payload c) = c := by
  obtain ⟨value, known, small⟩ := closes.digit?
  rw [payload_eq known, Nat.mod_eq_of_lt small]
  exact Base64.digit_of_digit? known

theorem digit_payload_add (continues : Continues c) : Base64.digit (payload c + 32) = c := by
  obtain ⟨value, known, large, small⟩ := continues.digit?
  have low : value % 32 + 32 = value := by omega
  rw [payload_eq known, low]
  exact Base64.digit_of_digit? known

theorem payload_pos (closes : Closes c) (other : c ≠ 'A') : 0 < payload c := by
  by_contra zero
  have none : payload c = 0 := by omega
  have same := digit_payload closes
  rw [none] at same
  exact other (same.symm.trans (Base64.digit_of_digit? rfl))

/-- Digits that no zero fills up are the digits of what they add up to. -/
theorem group_magnitude (continues : ∀ c ∈ front, Continues c) (closes : Closes last)
    (unpadded : front ≠ [] → last ≠ 'A') :
    group (magnitude (front ++ [last])) = front ++ [last] ∧
      (last ≠ 'A' → 0 < magnitude (front ++ [last])) := by
  induction front with
  | nil =>
    have small := payload_lt last
    have same : magnitude [last] = payload last := by simp [magnitude]
    rw [List.nil_append, same, group, if_pos small, digit_payload closes]
    exact ⟨rfl, payload_pos closes⟩
  | cons c front ih =>
    have filled := unpadded (List.cons_ne_nil c front)
    obtain ⟨again, positive⟩ := ih (fun d member => continues d (List.mem_cons_of_mem c member))
      fun _ => filled
    have large := positive filled
    have small := payload_lt c
    rw [List.cons_append, magnitude_cons]
    have here : (payload c + 32 * magnitude (front ++ [last])) % 32 = payload c := by omega
    have further : (payload c + 32 * magnitude (front ++ [last])) / 32 =
        magnitude (front ++ [last]) := by omega
    have more : ¬ payload c + 32 * magnitude (front ++ [last]) < 32 := by omega
    rw [group, if_neg more, here, further, again,
      digit_payload_add (continues c List.mem_cons_self)]
    exact ⟨rfl, fun _ => by omega⟩

theorem ofSigned_toSigned {n : Nat} (other : n ≠ 1) : ofSigned (toSigned n) = n := by
  unfold ofSigned toSigned
  split <;> split <;> omega

/-- A group is written for its number exactly if nothing fills it up and it is no negative zero. -/
theorem IsGroup.encodeOne_value_iff (group : IsGroup digits) :
    encodeOne (value digits) = digits ↔ IsWritten digits := by
  constructor
  · intro same
    exact same ▸ isWritten_encodeOne (value digits)
  · intro written
    obtain ⟨front, last, rfl, continues, closes, -⟩ := group
    have unpadded : front ≠ [] → last ≠ 'A' := by
      intro filled same
      refine written.unpadded ?_ (by rw [same, List.getLast?_concat])
      have length_pos := List.length_pos_iff.mpr filled
      simp only [List.length_append, List.length_singleton]
      omega
    obtain ⟨again, -⟩ := group_magnitude continues closes unpadded
    have signless : magnitude (front ++ [last]) ≠ 1 := by
      intro one
      have single : Vlq.group 1 = ['B'] := by
        rw [Vlq.group, if_pos (by decide),
          Base64.digit_of_digit? (show Base64.digit? 'B' = some 1 from rfl)]
      rw [one, single] at again
      exact written.signless again.symm
    rw [encodeOne, ← toSigned_magnitude, ofSigned_toSigned signless, again]

/-- A group ends at the first digit that closes it. -/
theorem concat_inj {back tail : List Char} {final : Char} (continues : ∀ c ∈ front, Continues c)
    (closes : Closes last) (goesOn : ∀ c ∈ back, Continues c) (ends : Closes final)
    (same : front ++ last :: rest = back ++ final :: tail) :
    front ++ [last] = back ++ [final] ∧ rest = tail := by
  induction front generalizing back with
  | nil =>
    cases back with
    | nil => simpa using same
    | cons c back =>
      obtain ⟨rfl, -⟩ := List.cons.inj same
      exact absurd closes (goesOn _ List.mem_cons_self).not_closes
  | cons c front ih =>
    cases back with
    | nil =>
      obtain ⟨rfl, -⟩ := List.cons.inj same
      exact absurd ends (continues _ List.mem_cons_self).not_closes
    | cons d back =>
      obtain ⟨rfl, further⟩ := List.cons.inj same
      obtain ⟨equal, tails⟩ := ih (fun e member => continues e (List.mem_cons_of_mem _ member))
        (fun e member => goesOn e (List.mem_cons_of_mem _ member)) further
      exact ⟨congrArg (c :: ·) equal, tails⟩

/-- No group is the beginning of another one. -/
theorem IsGroup.append_inj {other tail : List Char} (group : IsGroup digits)
    (another : IsGroup other) (same : digits ++ rest = other ++ tail) :
    digits = other ∧ rest = tail := by
  obtain ⟨front, last, rfl, continues, closes, -⟩ := group
  obtain ⟨back, final, rfl, goesOn, ends, -⟩ := another
  simp only [List.append_assoc, List.singleton_append] at same
  exact concat_inj continues closes goesOn ends same

/-- There is one way only to cut a text into groups. -/
theorem flatten_inj {left right : List (List Char)} (complete : ∀ digits ∈ left, IsGroup digits)
    (others : ∀ digits ∈ right, IsGroup digits) (same : left.flatten = right.flatten) :
    left = right := by
  have filled : ∀ {digits : List Char}, IsGroup digits → digits ≠ [] := by
    rintro _ ⟨front, last, rfl, -⟩
    simp
  induction left generalizing right with
  | nil =>
    cases right with
    | nil => rfl
    | cons digits right =>
      have empty := List.append_eq_nil_iff.mp same.symm
      exact absurd empty.1 (filled (others digits List.mem_cons_self))
  | cons digits left ih =>
    cases right with
    | nil =>
      have empty := List.append_eq_nil_iff.mp same
      exact absurd empty.1 (filled (complete digits List.mem_cons_self))
    | cons other right =>
      obtain ⟨rfl, further⟩ := (complete digits List.mem_cons_self).append_inj
        (others other List.mem_cons_self) same
      rw [ih (fun d member => complete d (List.mem_cons_of_mem _ member))
        (fun d member => others d (List.mem_cons_of_mem _ member)) further]

theorem flatMap_encodeOne_eq_iff {groups : List (List Char)}
    (complete : ∀ digits ∈ groups, IsGroup digits) :
    (groups.map value).flatMap encodeOne = groups.flatten ↔
      ∀ digits ∈ groups, IsWritten digits := by
  have each : ∀ digits ∈ groups, encodeOne (value digits) = digits ↔ IsWritten digits :=
    fun digits listed => (complete digits listed).encodeOne_value_iff
  have written : ∀ digits ∈ groups.map (encodeOne <| value ·), IsGroup digits := by
    intro digits member
    obtain ⟨known, listed, rfl⟩ := List.mem_map.mp member
    exact isGroup_encodeOne (complete known listed).fits_value
  rw [List.flatMap_def, List.map_map]
  constructor
  · intro same
    have unchanged := flatten_inj written complete same
    rw [← List.map_id groups, List.map_map, List.map_inj_left] at unchanged
    exact fun digits listed => (each digits listed).mp (unchanged digits listed)
  · intro all
    have unchanged : groups.map (encodeOne ∘ value) = groups.map id :=
      List.map_congr_left fun digits listed => (each digits listed).mpr (all digits listed)
    rw [unchanged, List.map_id]

/-- Reading accepts exactly the non-empty sequences of groups and gives the number of each group;
any other text is refused for its fault. The numbers that were read can be written, what is written
is read as the same numbers again, and it is the text that was read exactly if all of its groups are
written ones. -/
theorem decode_iff_groups (text : List Char) :
    (∀ values, decode text = .ok values ↔ ∃ groups : List (List Char), groups ≠ [] ∧
      (∀ digits ∈ groups, IsGroup digits) ∧ text = groups.flatten ∧ values = groups.map value) ∧
    (∀ error, decode text = .error error ↔ Fault text error) ∧
    ∀ values, decode text = .ok values → ∃ again, encode values = .ok again ∧
      decode again = .ok values ∧
      ∀ groups : List (List Char), (∀ digits ∈ groups, IsGroup digits) → text = groups.flatten →
        (again = text ↔ ∀ digits ∈ groups, IsWritten digits) := by
  refine ⟨fun _ => decode_eq_ok_iff, fun _ => decode_eq_error_iff, ?_⟩
  intro values read
  obtain ⟨groups, some, complete, rfl, rfl⟩ := decode_eq_ok_iff.mp read
  have filled : groups.map value ≠ [] := by simpa using some
  have fits : ∀ number ∈ groups.map value, Fits number := by
    intro number member
    obtain ⟨digits, listed, rfl⟩ := List.mem_map.mp member
    exact (complete digits listed).fits_value
  refine ⟨_, encode_of_ne_nil filled, decode_flatMap_encodeOne filled fits, ?_⟩
  intro others completeToo same
  obtain rfl := flatten_inj complete completeToo same
  exact flatMap_encodeOne_eq_iff complete

/-- A zero with a sign and a digit to fill it up is written again as a single digit. -/
theorem decode_iff_groups_padded :
    decode "DhAC".toList = .ok [-1, 0, 1] ∧ ∃ again, encode [-1, 0, 1] = .ok again ∧
      decode again = .ok [-1, 0, 1] ∧ again ≠ "DhAC".toList := by
  have read : decode "DhAC".toList = .ok [-1, 0, 1] := by decide
  obtain ⟨again, written, back, same_iff⟩ := (decode_iff_groups "DhAC".toList).2.2 _ read
  refine ⟨read, again, written, back, ?_⟩
  have single : ∀ {c : Char} {value : Nat}, Base64.digit? c = some value → value < 32 →
      IsGroup [c] := fun known small =>
    ⟨[], _, rfl, by simp, ⟨_, Base64.digit?_eq_some_iff.mp known, small⟩, by simp⟩
  have padded : IsGroup ['h', 'A'] := by
    refine ⟨['h'], 'A', rfl, ?_, ⟨0, Base64.digit?_eq_some_iff.mp rfl, by decide⟩, by decide⟩
    rw [List.forall_mem_singleton]
    exact ⟨33, Base64.digit?_eq_some_iff.mp rfl, by decide⟩
  have complete : ∀ digits ∈ [['D'], ['h', 'A'], ['C']], IsGroup digits := by
    simp only [List.forall_mem_cons]
    exact ⟨single (show _ = some 3 from rfl) (by decide), padded,
      single (show _ = some 2 from rfl) (by decide), by simp⟩
  intro same
  have all := (same_iff _ complete rfl).mp same
  exact (all ['h', 'A'] (by simp)).unpadded (by decide) rfl

end SourceTrace.Vlq
