import SourceTrace.Proofs.DataUrl.RoundTrip
import SourceTrace.Proofs.Mappings.RoundTrip

/-!
# What a data URL shows of a document

A star and a slash are written as themselves, between the quotes of the JSON text, as bytes and with
percent escapes, and nothing else is written with a star or a slash in it. So a star with a slash
behind it, the end of a block comment, stands in such a data URL exactly if it stands in a text of
the document. In base64 there are no stars.
-/
namespace SourceTrace

section Pairs

variable {α β : Type} {x y c : α} {front rest : List α}

/-- A pair stands at the very start or behind the first item. -/
theorem pair_infix_cons_iff :
    [x, y] <:+: c :: rest ↔ c = x ∧ rest.head? = some y ∨ [x, y] <:+: rest := by
  have start : [x, y] <+: c :: rest ↔ c = x ∧ rest.head? = some y := by
    rw [List.cons_prefix_cons, eq_comm]
    cases rest <;> simp [eq_comm]
  rw [List.infix_cons_iff, start]

theorem not_infix_of_not_mem (lacking : x ∉ front) : ¬ [x, y] <:+: front :=
  fun holds => lacking (holds.subset List.mem_cons_self)

theorem pair_infix_append_iff (lacking : x ∉ front) :
    [x, y] <:+: front ++ rest ↔ [x, y] <:+: rest := by
  induction front with
  | nil => rfl
  | cons d front ih =>
    rw [List.mem_cons, not_or] at lacking
    rw [List.cons_append, pair_infix_cons_iff, ih lacking.2]
    exact or_iff_right fun starts => lacking.1 starts.1.symm

/-- No pair reaches over an item that is in neither place of it. -/
theorem pair_infix_append_cons_iff (notFirst : c ≠ x) (notSecond : c ≠ y) :
    [x, y] <:+: front ++ c :: rest ↔ [x, y] <:+: front ∨ [x, y] <:+: rest := by
  induction front with
  | nil => simp [pair_infix_cons_iff, notFirst]
  | cons d front ih =>
    have next : (front ++ c :: rest).head? = some y ↔ front.head? = some y := by
      cases front <;> simp [notSecond]
    rw [List.cons_append, pair_infix_cons_iff, pair_infix_cons_iff, ih, next, or_assoc]

/-- Brackets that are in neither place of a pair neither add one nor hide one. -/
theorem pair_infix_bracketed_iff {opening closing : α} (other : opening ≠ x)
    (notFirst : closing ≠ x) (notSecond : closing ≠ y) :
    [x, y] <:+: opening :: front ++ [closing] ↔ [x, y] <:+: front := by
  rw [List.cons_append, pair_infix_cons_iff, pair_infix_append_cons_iff notFirst notSecond]
  simp [other]

/-- Something is written as a single item, and nothing else is written with that item. -/
structure Shows (write : α → List β) (a : α) (x : β) : Prop where
  alone : write a = [x]
  unique : ∀ b, x ∈ write b → b = a

/-- A pair stands in what was written exactly if the pair that is written so stood in the text. -/
theorem pair_infix_flatMap_iff {write : α → List β} {a b : α} {x y : β} (first : Shows write a x)
    (second : Shows write b y) (filled : ∀ c, write c ≠ []) (text : List α) :
    [x, y] <:+: text.flatMap write ↔ [a, b] <:+: text := by
  induction text with
  | nil => simp
  | cons c rest ih =>
    rw [List.flatMap_cons, pair_infix_cons_iff]
    by_cases here : c = a
    · have next : (rest.flatMap write).head? = some y ↔ rest.head? = some b := by
        cases rest with
        | nil => simp
        | cons d rest =>
          obtain ⟨lead, more, same⟩ := List.exists_cons_of_ne_nil (filled d)
          rw [List.flatMap_cons, same, List.cons_append, List.head?_cons, List.head?_cons,
            Option.some_inj, Option.some_inj]
          constructor
          · rintro rfl
            exact second.unique d (by simp [same])
          · rintro rfl
            rw [second.alone] at same
            exact (List.cons.inj same).1.symm
      rw [here, first.alone, List.singleton_append, pair_infix_cons_iff, ih, next]
      simp
    · rw [pair_infix_append_iff fun inside => here (first.unique c inside), ih]
      exact (or_iff_right fun starts => here starts.1).symm

end Pairs

namespace Text.Utf8

theorem utf8EncodeChar_ne_nil (c : Char) : String.utf8EncodeChar c ≠ [] := by
  refine List.ne_nil_of_length_pos ?_
  rw [String.length_utf8EncodeChar]
  exact c.utf8Size_pos

theorem shows_utf8EncodeChar {c : Char} (ascii : c.toNat < 128) :
    Shows String.utf8EncodeChar c (UInt8.ofNat c.toNat) := by
  constructor
  · have alone := Percent.encode_ascii ascii
    rwa [Char.ofNat_toNat, encode, List.flatMap_singleton] at alone
  · intro d member
    have number := UInt8.toNat_ofNat_of_lt' (Nat.lt_trans ascii (by decide : 128 < UInt8.size))
    rw [← Char.toNat_inj, ← number]
    rcases Json.mem_utf8EncodeChar member with ⟨-, same⟩ | beyond
    · exact same.symm
    · omega

end Text.Utf8

namespace Percent

theorem written_ne_nil (isReserved : UInt8 → Bool) (b : UInt8) : written isReserved b ≠ [] := by
  unfold written
  split <;> simp [escape]

theorem shows_written {isReserved : UInt8 → Bool} {c : Char} (ascii : c.toNat < 128)
    (plain : isReserved (UInt8.ofNat c.toNat) = false) (notMark : c ≠ '%')
    (noDigit : ∀ value < 16, c ≠ hexDigit value) :
    Shows (written isReserved) (UInt8.ofNat c.toNat) c := by
  have number := UInt8.toNat_ofNat_of_lt' (Nat.lt_trans ascii (by decide : 128 < UInt8.size))
  constructor
  · have low : ¬ (0x80 : UInt8) ≤ UInt8.ofNat c.toNat := by
      rw [UInt8.le_iff_toNat_le, number]
      exact Nat.not_le.mpr ascii
    simp only [written, plain, low, decide_false, Bool.or_self, Bool.false_eq_true, ↓reduceIte,
      number, Char.ofNat_toNat]
  · intro b member
    have size := b.toNat_lt
    unfold written at member
    split at member
    · simp only [escape, List.mem_cons, List.not_mem_nil, or_false] at member
      rcases member with mark | high | low
      · exact absurd mark notMark
      · exact absurd high (noDigit _ (by omega))
      · exact absurd low (noDigit _ (by omega))
    · next shown =>
      simp only [Bool.or_eq_true, decide_eq_true_eq, not_or, UInt8.not_le] at shown
      have small : b.toNat < 128 := by simpa [UInt8.lt_iff_toNat_lt] using shown.1
      rw [← UInt8.toNat_inj, number, List.mem_singleton.mp member, toNat_ofNat_ascii small]

end Percent

namespace Json

/-- Whether a character can be a part of an escape. -/
def isEscapePart (c : Char) : Bool := c == '"' || c == '\\' || c.isAlphanum

/-- A character is written as itself or as an escape. -/
theorem escape_cases (c : Char) :
    escape c = [c] ∨ escape c ≠ [] ∧ (escape c).all isEscapePart = true := by
  by_cases short : c ∈ ['"', '\\', '\x08', '\t', '\n', '\x0c', '\r']
  · right
    simp only [List.mem_cons, List.not_mem_nil, or_false] at short
    rcases short with rfl | rfl | rfl | rfl | rfl | rfl | rfl <;> exact ⟨by decide, rfl⟩
  · simp only [List.mem_cons, List.not_mem_nil, or_false, not_or] at short
    obtain ⟨noQuote, noEscape, noBackspace, noTab, noFeed, noPage, noReturn⟩ := short
    simp only [escape, noQuote, noEscape, noBackspace, noTab, noFeed, noPage, noReturn, ↓reduceIte]
    split
    · next control =>
      right
      have digits : ∀ value < 16, isEscapePart (hexDigit value) = true := by decide
      have high := digits (c.toNat / 16) (by omega)
      have low := digits (c.toNat % 16) (by omega)
      have lead : (['\\', 'u', '0', '0'] : List Char).all isEscapePart = true := rfl
      refine ⟨by simp, ?_⟩
      simpa [high, low] using lead
    · exact .inl rfl

theorem escape_ne_nil (c : Char) : escape c ≠ [] := by
  rcases escape_cases c with alone | ⟨filled, -⟩
  · simp [alone]
  · exact filled

theorem shows_escape {c : Char} (alone : escape c = [c]) (foreign : isEscapePart c = false) :
    Shows escape c c := by
  refine ⟨alone, ?_⟩
  intro d member
  rcases escape_cases d with same | ⟨-, parts⟩
  · rw [same, List.mem_singleton] at member
    exact member.symm
  · rw [List.all_eq_true.mp parts c member] at foreign
    cases foreign

theorem infix_quote_iff (text : String) :
    ['*', '/'] <:+: quote text ↔ ['*', '/'] <:+: text.toList := by
  have star : Shows escape '*' '*' := shows_escape rfl rfl
  have slash : Shows escape '/' '/' := shows_escape rfl rfl
  rw [quote, pair_infix_bracketed_iff (by decide) (by decide) (by decide),
    pair_infix_flatMap_iff star slash escape_ne_nil]

theorem infix_quoteOrNull_iff (content : Option String) :
    ['*', '/'] <:+: quoteOrNull content ↔ ∃ text ∈ content, ['*', '/'] <:+: text.toList := by
  cases content with
  | none => simpa using not_infix_of_not_mem (show '*' ∉ quoteOrNull none by decide)
  | some text =>
    rw [quoteOrNull, infix_quote_iff]
    simp

theorem infix_commaSeparated_iff (items : List (List Char)) :
    ['*', '/'] <:+: commaSeparated items ↔ ∃ item ∈ items, ['*', '/'] <:+: item := by
  fun_induction commaSeparated items with
  | case1 => simp
  | case2 item => simp
  | case3 item rest _ ih =>
    rw [pair_infix_append_cons_iff (by decide) (by decide), ih]
    simp

theorem infix_array_iff {α : Type} (write : α → List Char) (items : List α) :
    ['*', '/'] <:+: array (items.map write) ↔ ∃ item ∈ items, ['*', '/'] <:+: write item := by
  rw [array, pair_infix_bracketed_iff (by decide) (by decide) (by decide),
    infix_commaSeparated_iff]
  simp

theorem infix_object_iff (members : List (String × List Char)) :
    ['*', '/'] <:+: object members ↔
      ∃ member ∈ members, ['*', '/'] <:+: member.1.toList ∨ ['*', '/'] <:+: member.2 := by
  rw [object, pair_infix_bracketed_iff (by decide) (by decide) (by decide),
    infix_commaSeparated_iff]
  simp [pair_infix_append_cons_iff, infix_quote_iff]

end Json

namespace Document

/-- The texts of a document that are quoted in its JSON text. -/
def texts (doc : Document) : List String :=
  doc.file.toList ++ doc.sources ++ doc.sourceContents.filterMap id ++ doc.names

/-- The pair is in the contents that are written exactly if it is in one of them. -/
theorem infix_contents_iff (doc : Document) :
    doc.contents.isSome ∧ ['*', '/'] <:+: Json.array (doc.sourceContents.map Json.quoteOrNull) ↔
      ∃ text ∈ doc.sourceContents.filterMap id, ['*', '/'] <:+: text.toList := by
  have quoted : ['*', '/'] <:+: Json.array (doc.sourceContents.map Json.quoteOrNull) ↔
      ∃ text ∈ doc.sourceContents.filterMap id, ['*', '/'] <:+: text.toList := by
    rw [Json.infix_array_iff]
    constructor
    · rintro ⟨content, listed, holds⟩
      obtain ⟨text, known, holds⟩ := (Json.infix_quoteOrNull_iff content).mp holds
      exact ⟨text, List.mem_filterMap.mpr ⟨content, listed, known⟩, holds⟩
    · rintro ⟨text, listed, holds⟩
      obtain ⟨content, listed, known⟩ := List.mem_filterMap.mp listed
      exact ⟨content, listed, (Json.infix_quoteOrNull_iff content).mpr ⟨text, known, holds⟩⟩
  cases carried : doc.contents with
  | none => simp [sourceContents, content?, carried]
  | some contents => simpa using quoted

theorem star_not_mem_key {doc : Document} {member : String × List Char}
    (listed : member ∈ doc.members) : '*' ∉ member.1.toList := by
  have plain : ∀ key ∈ ["version", "file", "sources", "sourcesContent", "names", "mappings"],
      '*' ∉ key.toList := by decide
  refine plain member.1 ?_
  simp only [members, List.mem_append, List.mem_cons, List.not_mem_nil, or_false,
    List.mem_map] at listed
  rcases listed with (((rfl | ⟨file, -, rfl⟩) | rfl) | written) | rfl | rfl
  · simp
  · simp
  · simp
  · split at written
    · rw [List.mem_singleton.mp written]
      simp
    · cases written
  · simp
  · simp

/-- The JSON text of a document holds the pair exactly if one of its texts does. -/
theorem infix_encode_iff (doc : Document) :
    ['*', '/'] <:+: doc.encode.toList ↔ ∃ text ∈ doc.texts, ['*', '/'] <:+: text.toList := by
  have values : ['*', '/'] <:+: doc.encode.toList ↔
      ∃ member ∈ doc.members, ['*', '/'] <:+: member.2 := by
    rw [encode, String.toList_ofList, Json.infix_object_iff]
    refine exists_congr fun member => and_congr_right fun listed => ?_
    exact or_iff_right (not_infix_of_not_mem (star_not_mem_key listed))
  have version : ¬ ['*', '/'] <:+: (toString Document.version).toList :=
    not_infix_of_not_mem (by decide)
  have file : (∃ member ∈ doc.file.toList.map fun file => ("file", Json.quote file),
      ['*', '/'] <:+: member.2) ↔ ∃ text ∈ doc.file.toList, ['*', '/'] <:+: text.toList := by
    simp [Json.infix_quote_iff]
  have contents : (∃ member ∈ (if doc.contents.isSome then
      [("sourcesContent", Json.array (doc.sourceContents.map Json.quoteOrNull))] else []),
      ['*', '/'] <:+: member.2) ↔
        ∃ text ∈ doc.sourceContents.filterMap id, ['*', '/'] <:+: text.toList := by
    rw [← infix_contents_iff]
    split <;> simp [*]
  have mappings : ¬ ['*', '/'] <:+: Mappings.encode doc :=
    not_infix_of_not_mem (Mappings.not_mem_encodeFrom rfl (by decide) (by decide) _ _ _ _ _)
  rw [values]
  simp only [members, texts, List.mem_append, or_and_right, exists_or, file, contents,
    List.mem_cons, List.not_mem_nil, or_false, exists_eq_left, version, Json.infix_array_iff,
    Json.infix_quote_iff, String.toList_ofList, mappings, false_or]

end Document

namespace DataUrl

/-- With percent escapes the pair is in the payload exactly if it is in a text of the document. -/
theorem infix_data_percent_iff (doc : Document) :
    ['*', '/'] <:+: data .percent doc ↔ ∃ text ∈ doc.texts, ['*', '/'] <:+: text.toList := by
  have noDigit : ∀ value < 16, '*' ≠ Percent.hexDigit value ∧ '/' ≠ Percent.hexDigit value := by
    decide
  have star : Shows (Percent.written isReserved) 0x2a '*' :=
    Percent.shows_written (by decide) (by decide) (by decide) fun value small =>
      (noDigit value small).1
  have slash : Shows (Percent.written isReserved) 0x2f '/' :=
    Percent.shows_written (by decide) (by decide) (by decide) fun value small =>
      (noDigit value small).2
  calc ['*', '/'] <:+: data .percent doc
    _ ↔ [0x2a, 0x2f] <:+: doc.encodeBytes :=
      pair_infix_flatMap_iff star slash (Percent.written_ne_nil isReserved) doc.encodeBytes
    _ ↔ ['*', '/'] <:+: doc.encode.toList :=
      pair_infix_flatMap_iff (Text.Utf8.shows_utf8EncodeChar (c := '*') (by decide))
        (Text.Utf8.shows_utf8EncodeChar (c := '/') (by decide)) Text.Utf8.utf8EncodeChar_ne_nil _
    _ ↔ ∃ text ∈ doc.texts, ['*', '/'] <:+: text.toList := doc.infix_encode_iff

theorem star_not_mem_header (encoding : Encoding) :
    '*' ∉ "data:".toList ∧ '*' ∉ (header encoding).toList := by
  refine ⟨by decide, ?_⟩
  cases encoding <;> decide

/-- What is in front of the payload holds no part of the pair. -/
theorem infix_encode_iff (encoding : Encoding) (doc : Document) :
    ['*', '/'] <:+: (encode encoding doc).toList ↔ ['*', '/'] <:+: data encoding doc := by
  obtain ⟨scheme, kind⟩ := star_not_mem_header encoding
  rw [toList_encode, pair_infix_append_iff scheme, pair_infix_append_iff kind, pair_infix_cons_iff]
  simp

theorem not_infix_encode_base64 (doc : Document) :
    ¬ ['*', '/'] <:+: (encode .base64 doc).toList := by
  rw [infix_encode_iff]
  have plain : ∀ c ∈ data .base64 doc, c ≠ '*' :=
    Base64.forall_mem_encode (by decide) (Base64.digit_ne_of_foreign rfl) doc.encodeBytes
  exact not_infix_of_not_mem fun member => plain '*' member rfl

theorem infix_encode_percent_iff (doc : Document) :
    ['*', '/'] <:+: (encode .percent doc).toList ↔
      ∃ text ∈ doc.texts, ['*', '/'] <:+: text.toList := by
  rw [infix_encode_iff, infix_data_percent_iff]

end DataUrl

end SourceTrace
