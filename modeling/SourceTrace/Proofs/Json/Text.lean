import SourceTrace.Json.Parser
import SourceTrace.Json.Printer

/-!
# Texts between quotes are read back

Every character of a text is written as itself, as a short escape or as an escape of four digits.
The reader takes each of these apart into pieces that stand for the bytes of the character, so the
pieces of a quoted text stand for the bytes of the text.
-/
namespace SourceTrace.Json

open Text.Utf8 (encode)

theorem readText?_close (rest : List UInt8) : readText? (0x22 :: rest) = some ([], rest) := by
  rw [readText?]

theorem readText?_plain {b : UInt8} (visible : 0x20 ≤ b) (noQuote : b ≠ 0x22) (noEscape : b ≠ 0x5c)
    (rest : List UInt8) :
    readText? (b :: rest) =
      (readText? rest).map fun (pieces, rest) => (.byte b :: pieces, rest) := by
  have high : ¬ b < 0x20 := UInt8.not_lt.mpr visible
  rw [readText?]
  · simp only [high, decide_false, Bool.false_or, beq_eq_false_iff_ne.mpr noEscape,
      Bool.false_eq_true, ↓reduceIte]
    cases readText? rest <;> rfl
  · exact noQuote
  · exact fun _ _ _ _ _ same _ => noEscape same
  · exact fun _ _ same _ => noEscape same

theorem readText?_short {b byte : UInt8} (other : b ≠ 0x75) (short : shortEscape? b = some byte)
    (rest : List UInt8) :
    readText? (0x5c :: b :: rest) =
      (readText? rest).map fun (pieces, rest) => (.byte byte :: pieces, rest) := by
  rw [readText?]
  · simp only [short]
    cases readText? rest <;> rfl
  · exact fun _ _ _ _ _ same _ => other same

/-- An escape of four digits of which the first two are zero. -/
theorem readText?_unit {high low : UInt8} {first second : Nat}
    (highDigit : Percent.hexDigit? high = some first)
    (lowDigit : Percent.hexDigit? low = some second) (rest : List UInt8) :
    readText? (0x5c :: 0x75 :: 0x30 :: 0x30 :: high :: low :: rest) =
      (readText? rest).map fun (pieces, rest) => (.unit (first * 16 + second) :: pieces, rest) := by
  have zero : Percent.hexDigit? 0x30 = some 0 := by decide
  rw [readText?]
  simp only [zero, highDigit, lowDigit]
  cases readText? rest with
  | none => rfl
  | some read => simp

/-- Written bytes that the reader takes apart into pieces that stand for other bytes. -/
structure Spells (written : List UInt8) (front : List Piece) (meaning : List UInt8) : Prop where
  reads : ∀ rest, readText? (written ++ rest) =
    (readText? rest).map fun (pieces, rest) => (front ++ pieces, rest)
  means : ∀ pieces, bytes? (front ++ pieces) = (bytes? pieces).map (meaning ++ ·)

theorem Spells.nil : Spells [] [] [] where
  reads rest := by simp
  means pieces := by simp

theorem Spells.append {left right : List UInt8} {leftFront rightFront : List Piece}
    {leftMeaning rightMeaning : List UInt8} (first : Spells left leftFront leftMeaning)
    (second : Spells right rightFront rightMeaning) :
    Spells (left ++ right) (leftFront ++ rightFront) (leftMeaning ++ rightMeaning) where
  reads rest := by
    rw [List.append_assoc, first.reads, second.reads, Option.map_map]
    congr 1
    funext read
    simp
  means pieces := by
    rw [List.append_assoc, first.means, second.means, Option.map_map]
    congr 1
    funext bytes
    simp

/-- Bytes that stand for themselves. -/
theorem spells_plain {bytes : List UInt8}
    (plain : ∀ b ∈ bytes, 0x20 ≤ b ∧ b ≠ 0x22 ∧ b ≠ 0x5c) :
    Spells bytes (bytes.map Piece.byte) bytes := by
  induction bytes with
  | nil => exact .nil
  | cons b rest ih =>
    obtain ⟨visible, noQuote, noEscape⟩ := plain b List.mem_cons_self
    have one : Spells [b] [.byte b] [b] := by
      refine ⟨readText?_plain visible noQuote noEscape, ?_⟩
      intro pieces
      rfl
    exact one.append (ih fun other member => plain other (List.mem_cons_of_mem b member))

theorem spells_short {b byte : UInt8} (other : b ≠ 0x75) (short : shortEscape? b = some byte) :
    Spells [0x5c, b] [.byte byte] [byte] :=
  ⟨readText?_short other short, fun _ => rfl⟩

theorem bytes?_unit {n : Nat} (small : n < 0x20) (pieces : List Piece) :
    bytes? (.unit n :: pieces) =
      (bytes? pieces).map (String.utf8EncodeChar (Char.ofNat n) ++ ·) := by
  have notHigh : isHighUnit n = false := by
    simp [isHighUnit]
    omega
  have notLow : isLowUnit n = false := by
    simp [isLowUnit]
    omega
  match pieces with
  | [] => simp [bytes?, notHigh, notLow]
  | .byte b :: rest => simp [bytes?, notHigh, notLow]
  | .unit low :: rest => simp [bytes?, notHigh, notLow]

theorem encode_append (left right : List Char) :
    encode (left ++ right) = encode left ++ encode right := by
  simp [encode]

theorem encode_cons (c : Char) (rest : List Char) :
    encode (c :: rest) = String.utf8EncodeChar c ++ encode rest := rfl

/-- The digits of an escape are bytes that the reader takes for the same digits. -/
theorem hexDigit_byte {value : Nat} (small : value < 16) :
    ∃ b, String.utf8EncodeChar (hexDigit value) = [b] ∧ Percent.hexDigit? b = some value := by
  refine ⟨UInt8.ofNat (hexDigit value).toNat, ?_⟩
  revert value
  decide

theorem spells_unit {n : Nat} (small : n < 0x20) :
    Spells (encode ['\\', 'u', '0', '0', hexDigit (n / 16), hexDigit (n % 16)]) [.unit n]
      (String.utf8EncodeChar (Char.ofNat n)) := by
  obtain ⟨high, highByte, highDigit⟩ := hexDigit_byte (show n / 16 < 16 by omega)
  obtain ⟨low, lowByte, lowDigit⟩ := hexDigit_byte (show n % 16 < 16 by omega)
  have bytes : encode ['\\', 'u', '0', '0', hexDigit (n / 16), hexDigit (n % 16)] =
      [0x5c, 0x75, 0x30, 0x30, high, low] := by
    simp only [encode_cons, highByte, lowByte]
    rfl
  have value : n / 16 * 16 + n % 16 = n := by omega
  rw [bytes]
  refine ⟨?_, bytes?_unit small⟩
  intro rest
  have read := readText?_unit highDigit lowDigit rest
  rw [value] at read
  exact read

/-- A character is one byte of its own number, or all its bytes are beyond ASCII. -/
theorem mem_utf8EncodeChar {c : Char} {b : UInt8} (member : b ∈ String.utf8EncodeChar c) :
    (c.toNat < 0x80 ∧ b.toNat = c.toNat) ∨ 0x80 ≤ b.toNat := by
  unfold String.utf8EncodeChar at member
  simp only at member
  split at member
  · next ascii =>
    left
    rw [List.mem_singleton.mp member, UInt8.toNat_ofNat']
    unfold Char.toNat
    omega
  · right
    split at member
    · simp only [List.mem_cons, List.not_mem_nil, or_false] at member
      rcases member with rfl | rfl <;> rw [UInt8.toNat_ofNat'] <;> omega
    · split at member
      · simp only [List.mem_cons, List.not_mem_nil, or_false] at member
        rcases member with rfl | rfl | rfl <;> rw [UInt8.toNat_ofNat'] <;> omega
      · simp only [List.mem_cons, List.not_mem_nil, or_false] at member
        rcases member with rfl | rfl | rfl | rfl <;> rw [UInt8.toNat_ofNat'] <;> omega

/-- The bytes of a character that stands for itself. -/
theorem plain_utf8EncodeChar {c : Char} (visible : 0x20 ≤ c.toNat) (noQuote : c ≠ '"')
    (noEscape : c ≠ '\\') {b : UInt8} (member : b ∈ String.utf8EncodeChar c) :
    0x20 ≤ b ∧ b ≠ 0x22 ∧ b ≠ 0x5c := by
  rw [UInt8.le_iff_toNat_le]
  rcases mem_utf8EncodeChar member with ⟨_, same⟩ | beyond
  · rw [same]
    refine ⟨visible, ?_, ?_⟩
    · rintro rfl
      exact noQuote (by rw [← Char.ofNat_toNat c, ← same]; decide)
    · rintro rfl
      exact noEscape (by rw [← Char.ofNat_toNat c, ← same]; decide)
  · refine ⟨Nat.le_trans (by decide) beyond, ?_, ?_⟩
    · rintro rfl
      exact absurd beyond (by decide)
    · rintro rfl
      exact absurd beyond (by decide)

/-- Every character is written so that it is read back. -/
theorem spells_escape (c : Char) :
    ∃ front, Spells (encode (escape c)) front (String.utf8EncodeChar c) := by
  by_cases short : c ∈ ['"', '\\', '\x08', '\t', '\n', '\x0c', '\r']
  · simp only [List.mem_cons, List.not_mem_nil, or_false] at short
    rcases short with rfl | rfl | rfl | rfl | rfl | rfl | rfl <;>
      exact ⟨_, spells_short (by decide) (by decide)⟩
  · simp only [List.mem_cons, List.not_mem_nil, or_false, not_or] at short
    obtain ⟨noQuote, noEscape, noBackspace, noTab, noFeed, noPage, noReturn⟩ := short
    simp only [escape, noQuote, noEscape, noBackspace, noTab, noFeed, noPage, noReturn, ↓reduceIte]
    split
    · next control =>
      have spelled := spells_unit control
      rw [Char.ofNat_toNat] at spelled
      exact ⟨_, spelled⟩
    · next visible =>
      have same : encode [c] = String.utf8EncodeChar c := by simp [encode]
      rw [same]
      exact ⟨_, spells_plain fun b member =>
        plain_utf8EncodeChar (Nat.not_lt.mp visible) noQuote noEscape member⟩

/-- The text between quotes is read up to the closing quote, as pieces that stand for its bytes. -/
theorem exists_readText? (text : String) : ∃ pieces,
    (∀ rest, readText? (encode (text.toList.flatMap escape) ++ 0x22 :: rest) =
      some (pieces, rest)) ∧ text? pieces = some text := by
  obtain ⟨front, spelled⟩ : ∃ front,
      Spells (encode (text.toList.flatMap escape)) front (encode text.toList) := by
    induction text.toList with
    | nil => exact ⟨[], .nil⟩
    | cons c text ih =>
      obtain ⟨front, spelled⟩ := ih
      obtain ⟨first, here⟩ := spells_escape c
      rw [List.flatMap_cons, encode_append]
      exact ⟨first ++ front, here.append spelled⟩
  refine ⟨front, ?_, ?_⟩
  · intro rest
    simp [spelled.reads, readText?_close]
  · have means := spelled.means []
    simp only [List.append_nil, bytes?, Option.map_some] at means
    rw [text?, means]
    exact Text.Utf8.decode?_bytes text

end SourceTrace.Json
