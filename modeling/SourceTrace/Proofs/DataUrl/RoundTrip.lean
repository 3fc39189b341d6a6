import SourceTrace.DataUrl
import SourceTrace.Proofs.Json.Text
import SourceTrace.Proofs.Text.Trim
import SourceTrace.Proofs.Vlq.RoundTrip

/-!
# Payloads are read back

The bytes that a data URL was made of are read back from it, in base64 as well as with percent
escapes, and so is the encoding. A data URL holds no blanks, so it can stand in a comment.
-/
namespace SourceTrace

namespace Base64

/-- Digits are visible, and none is the fill. -/
theorem digit_visible {value : Nat} (small : value < 64) :
    digit value ≠ '=' ∧ Text.IsVisible (digit value) := by
  have range := digit?_cases (digit?_digit small)
  exact ⟨digit_ne_of_foreign rfl small, by omega, by omega⟩

/-- A group whose last digit is no fill is read by itself. -/
theorem decode?_group {a b c d : Nat} (aSmall : a < 64) (bSmall : b < 64) (cSmall : c < 64)
    (dSmall : d < 64) (rest : List Char) :
    decode? (digit a :: digit b :: digit c :: digit d :: rest) =
      (decode? rest).map fun bytes =>
        byte ((((a * 64 + b) * 64 + c) * 64 + d) / 65536) ::
          byte ((((a * 64 + b) * 64 + c) * 64 + d) / 256) ::
            byte (((a * 64 + b) * 64 + c) * 64 + d) :: bytes := by
  have last := (digit_visible dSmall).1
  rw [decode?]
  · simp only [digit?_digit aSmall, digit?_digit bSmall, digit?_digit cSmall, digit?_digit dSmall]
    cases decode? rest <;> rfl
  · rintro - fill -
    exact last fill
  · rintro fill -
    exact last fill

theorem byte_toNat (b : UInt8) {n : Nat} (same : n % 256 = b.toNat) : byte n = b := by
  rw [byte, same]
  exact UInt8.ofNat_toNat

theorem decode?_encode (bytes : List UInt8) : decode? (encode bytes) = some bytes := by
  fun_induction encode bytes with
  | case1 => rfl
  | case2 a n =>
    have aByte := a.toNat_lt
    have total : n / 64 * 64 + n % 64 = a.toNat * 16 := by omega
    rw [decode?, digit?_digit (by omega), digit?_digit (by omega)]
    simp [total, byte_toNat a (show a.toNat % 256 = a.toNat by omega)]
  | case3 a b n =>
    have aByte := a.toNat_lt
    have bByte := b.toNat_lt
    have total : (n / 4096 * 64 + n / 64 % 64) * 64 + n % 64 = n := by omega
    rw [decode?, digit?_digit (by omega), digit?_digit (by omega), digit?_digit (by omega)]
    · have closed : n % 4 = 0 := by omega
      simp [total, closed, byte_toNat a (show n / 1024 % 256 = a.toNat by omega),
        byte_toNat b (show n / 4 % 256 = b.toNat by omega)]
    · exact (digit_visible (by omega)).1
  | case4 a b c rest n ih =>
    have aByte := a.toNat_lt
    have bByte := b.toNat_lt
    have cByte := c.toNat_lt
    rw [decode?_group (by omega) (by omega) (by omega) (by omega), ih, Option.map_some]
    have total : ((n / 262144 * 64 + n / 4096 % 64) * 64 + n / 64 % 64) * 64 + n % 64 = n := by
      omega
    rw [total, byte_toNat a (by omega), byte_toNat b (by omega), byte_toNat c (by omega)]

/-- What holds of all digits and of the fill holds of everything that is written. -/
theorem forall_mem_encode {holds : Char → Prop} (fill : holds '=')
    (digits : ∀ {value : Nat}, value < 64 → holds (digit value)) (bytes : List UInt8) :
    ∀ c ∈ encode bytes, holds c := by
  fun_induction encode bytes with
  | case1 => simp
  | case2 a n =>
    have aByte := a.toNat_lt
    simp only [List.forall_mem_cons]
    exact ⟨digits (by omega), digits (by omega), fill, fill, by simp⟩
  | case3 a b n =>
    have aByte := a.toNat_lt
    have bByte := b.toNat_lt
    simp only [List.forall_mem_cons]
    exact ⟨digits (by omega), digits (by omega), digits (by omega), fill, by simp⟩
  | case4 a b c rest n ih =>
    have aByte := a.toNat_lt
    have bByte := b.toNat_lt
    have cByte := c.toNat_lt
    simp only [List.forall_mem_cons]
    exact ⟨digits (by omega), digits (by omega), digits (by omega), digits (by omega), ih⟩

theorem encode_visible {bytes : List UInt8} {c : Char} (member : c ∈ encode bytes) :
    Text.IsVisible c :=
  forall_mem_encode (by decide) (fun small => (digit_visible small).2) bytes c member

end Base64

namespace Percent

/-- How a byte is written. -/
def written (isReserved : UInt8 → Bool) (b : UInt8) : List Char :=
  if 0x80 ≤ b || isReserved b then escape b else [Char.ofNat b.toNat]

theorem encode_cons (isReserved : UInt8 → Bool) (b : UInt8) (rest : List UInt8) :
    encode isReserved (b :: rest) = written isReserved b ++ encode isReserved rest := rfl

/-- The characters of an escape are bytes that are read as its digits, and no digit is a percent
sign. -/
theorem hexDigit_byte {value : Nat} (small : value < 16) :
    ∃ b, String.utf8EncodeChar (hexDigit value) = [b] ∧ hexDigit? b = some value ∧ b ≠ mark := by
  refine ⟨UInt8.ofNat (hexDigit value).toNat, ?_⟩
  revert value
  decide

theorem toNat_ofNat_ascii {n : Nat} (ascii : n < 128) : (Char.ofNat n).toNat = n := by
  rw [Char.ofNat, dif_pos (Or.inl (by omega))]
  rfl

theorem encode_ascii {n : Nat} (ascii : n < 128) :
    Text.Utf8.encode [Char.ofNat n] = [UInt8.ofNat n] := by
  have same : (Char.ofNat n).val.toNat = n := toNat_ofNat_ascii ascii
  have size : (Char.ofNat n).utf8Size = 1 := by
    rw [Char.utf8Size_eq_one_iff, UInt32.le_iff_toNat_le, same]
    exact Nat.le_of_lt_succ ascii
  rw [Text.Utf8.encode, List.flatMap_singleton, String.utf8EncodeChar_eq_singleton size,
    List.cons.injEq, ← UInt8.toNat_inj, UInt32.toNat_toUInt8, same]
  exact ⟨rfl, rfl⟩

/-- A byte is written as an escape of two digits, or as itself. -/
theorem encode_written {isReserved : UInt8 → Bool} (marked : isReserved mark) (b : UInt8) :
    (∃ high low, Text.Utf8.encode (written isReserved b) = [mark, high, low] ∧
      escaped? [high, low] = some b ∧ high ≠ mark ∧ low ≠ mark) ∨
    Text.Utf8.encode (written isReserved b) = [b] ∧ b ≠ mark := by
  have size := b.toNat_lt
  unfold written
  split
  · left
    obtain ⟨high, highByte, highDigit, highOther⟩ :=
      hexDigit_byte (show b.toNat / 16 < 16 by omega)
    obtain ⟨low, lowByte, lowDigit, lowOther⟩ := hexDigit_byte (show b.toNat % 16 < 16 by omega)
    refine ⟨high, low, ?_, ?_, highOther, lowOther⟩
    · simp only [escape, Json.encode_cons, highByte, lowByte]
      rfl
    · have total : b.toNat / 16 * 16 + b.toNat % 16 = b.toNat := by omega
      rw [escaped?, highDigit, lowDigit]
      change some (UInt8.ofNat (b.toNat / 16 * 16 + b.toNat % 16)) = some b
      rw [total, UInt8.ofNat_toNat]
  · next plain =>
    right
    simp only [Bool.or_eq_true, decide_eq_true_eq, not_or, UInt8.not_le] at plain
    refine ⟨?_, fun same => plain.2 (same ▸ marked)⟩
    have ascii : b.toNat < 128 := by simpa [UInt8.lt_iff_toNat_lt] using plain.1
    rw [encode_ascii ascii, UInt8.ofNat_toNat]

/-- Reading back what a byte is written as, before anything else. -/
theorem decodeFrom_written {isReserved : UInt8 → Bool} (marked : isReserved mark) (b : UInt8)
    (rest : List UInt8) :
    decodeFrom 0 (Text.Utf8.encode (written isReserved b) ++ rest) = b :: decodeFrom 0 rest := by
  rcases encode_written marked b with ⟨high, low, same, value, -, -⟩ | ⟨same, other⟩
  · have longer : escaped? (high :: low :: rest) = some b := value
    simp [same, decodeFrom, longer]
  · simp [same, decodeFrom, other]

theorem firstBrokenFrom_written {isReserved : UInt8 → Bool} (marked : isReserved mark) (b : UInt8)
    (rest : List UInt8) {position : Nat} (whole : ∀ place, firstBrokenFrom place rest = none) :
    firstBrokenFrom position (Text.Utf8.encode (written isReserved b) ++ rest) = none := by
  rcases encode_written marked b with ⟨high, low, same, value, noHigh, noLow⟩ | ⟨same, other⟩
  · have longer : escaped? (high :: low :: rest) = some b := value
    simp [same, firstBrokenFrom, longer, noHigh, noLow, whole]
  · simp [same, firstBrokenFrom, other, whole]

/-- Bytes that are written with escapes, the percent sign among them, are read back. -/
theorem decode_encode {isReserved : UInt8 → Bool} (marked : isReserved mark) (bytes : List UInt8) :
    decode (Text.Utf8.encode (encode isReserved bytes)) = bytes := by
  induction bytes with
  | nil => rfl
  | cons b rest ih =>
    rw [encode_cons, Json.encode_append, decode, decodeFrom_written marked]
    exact congrArg (b :: ·) ih

theorem firstBroken?_encode {isReserved : UInt8 → Bool} (marked : isReserved mark)
    (bytes : List UInt8) :
    firstBroken? (Text.Utf8.encode (encode isReserved bytes)) = none := by
  have whole : ∀ position,
      firstBrokenFrom position (Text.Utf8.encode (encode isReserved bytes)) = none := by
    induction bytes with
    | nil => exact fun _ => rfl
    | cons b rest ih =>
      intro position
      rw [encode_cons, Json.encode_append]
      exact firstBrokenFrom_written marked b _ ih
  exact whole 0

/-- Escapes consist of visible characters, and a byte that is no visible character is escaped if it
is reserved. -/
theorem encode_visible {isReserved : UInt8 → Bool}
    (hidden : ∀ b : UInt8, b ≤ 0x20 ∨ b = 0x7f → isReserved b) {bytes : List UInt8} {c : Char}
    (member : c ∈ encode isReserved bytes) : Text.IsVisible c := by
  have digits : ∀ value < 16, Text.IsVisible (hexDigit value) := by decide
  obtain ⟨b, -, inside⟩ := List.mem_flatMap.mp member
  have size := b.toNat_lt
  split at inside
  · simp only [escape, List.mem_cons, List.not_mem_nil, or_false] at inside
    rcases inside with rfl | rfl | rfl
    · decide
    · exact digits _ (by omega)
    · exact digits _ (by omega)
  · next plain =>
    simp only [Bool.or_eq_true, decide_eq_true_eq, not_or, UInt8.not_le] at plain
    have ascii : b.toNat < 128 := by simpa [UInt8.lt_iff_toNat_lt] using plain.1
    have shown : ¬ (b ≤ 0x20 ∨ b = 0x7f) := fun unseen => plain.2 (hidden b unseen)
    rw [not_or, UInt8.not_le, UInt8.lt_iff_toNat_lt, ← UInt8.toNat_inj] at shown
    rw [List.mem_singleton.mp inside, Text.IsVisible, toNat_ofNat_ascii ascii]
    exact ⟨shown.1, Nat.lt_of_le_of_ne (Nat.le_of_lt_succ ascii) shown.2⟩

end Percent

theorem Text.cutAt?_of_not_mem {c : Char} {before : List Char} (free : c ∉ before)
    (following : List Char) :
    Text.cutAt? [c] (before ++ c :: following) = some (before, following) := by
  induction before with
  | nil => simp [cutAt?, after?]
  | cons d rest ih =>
    simp only [List.mem_cons, not_or] at free
    simp [cutAt?, after?, free.1, ih free.2]

namespace DataUrl

theorem isReserved_mark : isReserved Percent.mark = true := by decide

theorem isReserved_of_hidden (b : UInt8) (hidden : b ≤ 0x20 ∨ b = 0x7f) :
    isReserved b = true := by
  rcases hidden with low | delete
  · simp [isReserved, low]
  · simp [isReserved, delete]

/-- What a data URL says about its payload. -/
def header : Encoding → String
  | .base64 => "application/json;base64"
  | .percent => "application/json"

/-- The payload of a data URL. -/
def data (encoding : Encoding) (doc : Document) : List Char :=
  match encoding with
  | .base64 => Base64.encode doc.encodeBytes
  | .percent => Percent.encode isReserved doc.encodeBytes

theorem toList_encode (encoding : Encoding) (doc : Document) :
    (encode encoding doc).toList =
      "data:".toList ++ ((header encoding).toList ++ ',' :: data encoding doc) := by
  have whole : encode encoding doc =
      "data:" ++ (header encoding ++ ("," ++ String.ofList (data encoding doc))) := by
    cases encoding with
    | base64 =>
      change "data:application/json;base64," ++ String.ofList (Base64.encode doc.encodeBytes) = _
      rw [← String.append_assoc, ← String.append_assoc]
      rfl
    | percent =>
      change "data:application/json," ++ String.ofList (Percent.encode _ doc.encodeBytes) = _
      rw [← String.append_assoc, ← String.append_assoc]
      rfl
  have payload : (String.ofList (data encoding doc)).toList = data encoding doc :=
    String.toList_ofList
  rw [whole, String.toList_append, String.toList_append, String.toList_append, payload]
  rfl

theorem afterScheme?_encode (encoding : Encoding) (doc : Document) :
    afterScheme? (encode encoding doc).toList =
      some ((header encoding).toList ++ ',' :: data encoding doc) := by
  rw [toList_encode]
  rfl

theorem isDataUrl_encode (encoding : Encoding) (doc : Document) :
    isDataUrl (encode encoding doc) = true := by
  rw [isDataUrl, afterScheme?_encode]
  rfl

theorem data_visible {encoding : Encoding} {doc : Document} {c : Char}
    (member : c ∈ data encoding doc) : Text.IsVisible c := by
  cases encoding with
  | base64 => exact Base64.encode_visible member
  | percent => exact Percent.encode_visible isReserved_of_hidden member

/-- A data URL consists of visible characters. -/
theorem encode_visible {encoding : Encoding} {doc : Document} {c : Char}
    (member : c ∈ (encode encoding doc).toList) : Text.IsVisible c := by
  rw [toList_encode, List.mem_append, List.mem_append, List.mem_cons] at member
  have front : "data:".toList.all (Text.IsVisible ·) := by decide
  have header : (header encoding).toList.all (Text.IsVisible ·) := by
    cases encoding <;> decide
  rcases member with lead | kind | rfl | inside
  · exact of_decide_eq_true (List.all_eq_true.mp front c lead)
  · exact of_decide_eq_true (List.all_eq_true.mp header c kind)
  · decide
  · exact data_visible inside

/-- The payload of a data URL is read back, and so is its encoding. -/
theorem payload_encode (encoding : Encoding) (doc : Document) :
    payload (encode encoding doc) = .ok (encoding, doc.encodeBytes) := by
  have comma : ',' ∉ (header encoding).toList := by cases encoding <;> decide
  simp only [payload, afterScheme?_encode, Text.cutAt?_of_not_mem comma]
  cases encoding with
  | base64 =>
    have trimmed : Text.trim (data .base64 doc) = Base64.encode doc.encodeBytes :=
      Text.trim_eq_self fun c member => (Base64.encode_visible member).isBlank_eq
    have params : (Text.split (· == ';') (header .base64).toList).map Text.trim =
        ["application/json".toList, "base64".toList] := by decide
    rw [params, trimmed, Base64.decode?_encode]
    rfl
  | percent =>
    have params : (Text.split (· == ';') (header .percent).toList).map Text.trim =
        ["application/json".toList] := by decide
    simp only [params, data, Percent.firstBroken?_encode isReserved_mark,
      Percent.decode_encode isReserved_mark]
    rfl

end DataUrl

end SourceTrace
