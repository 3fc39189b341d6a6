import Mathlib.Data.List.Forall2
import SourceTrace.Json.Reader
import SourceTrace.Proofs.Json.Text

/-!
# Written values are read back

What the printer writes for a text, an array or an object is read back as a tree, whatever comma or
bracket follows it. The reader takes fuel; a value never takes more than two for each of its
characters.
-/
namespace SourceTrace.Json

open Text.Utf8 (encode)

/-- What follows a value inside another one. -/
def Ends (rest : List UInt8) : Prop :=
  ∃ b more, rest = b :: more ∧ (b = 0x2c ∨ b = 0x5d ∨ b = 0x7d)

/-- A written value and the tree that it is read as. -/
structure Reads (text : List Char) (tree : Tree) : Prop where
  starts : ∃ b more, encode text = b :: more ∧ isSpace b = false ∧ b ≠ 0x5d
  reads : ∀ fuel rest, 2 * text.length < fuel → Ends rest →
    readTree? fuel (encode text ++ rest) = some (tree, rest)

theorem skipSpace_cons {b : UInt8} (token : isSpace b = false) (rest : List UInt8) :
    skipSpace (b :: rest) = b :: rest := by
  simp [skipSpace, token]

theorem encode_quote (text : String) :
    encode (quote text) = 0x22 :: (encode (text.toList.flatMap escape) ++ [0x22]) := by
  rw [quote, List.cons_append, encode_cons, encode_append]
  rfl

/-- A quoted text is read as its pieces. -/
theorem reads_quote (text : String) :
    ∃ pieces, Reads (quote text) (.text pieces) ∧ text? pieces = some text := by
  obtain ⟨pieces, read, same⟩ := exists_readText? text
  refine ⟨pieces, ⟨⟨_, _, encode_quote text, by decide, by decide⟩, ?_⟩, same⟩
  intro fuel rest enough _
  cases fuel with
  | zero => omega
  | succ fuel =>
    rw [encode_quote, List.cons_append, List.append_assoc, readTree?, skipSpace_cons (by decide)]
    simp [read]

theorem reads_null : Reads "null".toList .null := by
  refine ⟨⟨0x6e, [0x75, 0x6c, 0x6c], by decide, by decide, by decide⟩, ?_⟩
  intro fuel rest enough _
  cases fuel with
  | zero => omega
  | succ fuel =>
    have bytes : encode "null".toList = [0x6e, 0x75, 0x6c, 0x6c] := by decide
    rw [bytes, List.cons_append, readTree?, skipSpace_cons (by decide)]
    simp [afterWord?]

theorem commaSeparated_cons_cons (first second : List Char) (rest : List (List Char)) :
    commaSeparated (first :: second :: rest) =
      first ++ ',' :: commaSeparated (second :: rest) := rfl

/-- The items of an array are read up to its closing bracket. -/
theorem readItems?_commaSeparated {items : List (List Char)} {trees : List Tree}
    (read : List.Forall₂ Reads items trees) (some : items ≠ []) {fuel : Nat}
    (enough : 2 * (commaSeparated items).length + 1 < fuel) (rest : List UInt8) :
    readItems? fuel (encode (commaSeparated items) ++ 0x5d :: rest) = .some (trees, rest) := by
  induction read generalizing fuel with
  | nil => exact absurd rfl some
  | @cons item tree items trees head tail ih =>
    cases fuel with
    | zero => omega
    | succ fuel =>
      cases tail with
      | nil =>
        have here := head.reads fuel (0x5d :: rest)
          (by simp only [commaSeparated] at enough; omega) ⟨_, _, rfl, by decide⟩
        simp [readItems?, commaSeparated, here,
          skipSpace_cons (show isSpace 0x5d = false by decide)]
      | @cons second _ others _ _ _ =>
        rw [commaSeparated_cons_cons] at enough ⊢
        simp only [List.length_append, List.length_cons] at enough
        have here := head.reads fuel
          (0x2c :: (encode (commaSeparated (second :: others)) ++ 0x5d :: rest)) (by omega)
          ⟨_, _, rfl, by decide⟩
        have left : 2 * (commaSeparated (second :: others)).length + 1 < fuel := by omega
        have further := ih (List.cons_ne_nil _ _) left
        have bytes : encode (item ++ ',' :: commaSeparated (second :: others)) ++ 0x5d :: rest =
            encode item ++
              0x2c :: (encode (commaSeparated (second :: others)) ++ 0x5d :: rest) := by
          rw [encode_append, List.append_assoc]
          rfl
        rw [bytes]
        simp [readItems?, here, skipSpace_cons (show isSpace 0x2c = false by decide), further]

theorem encode_array (items : List (List Char)) :
    encode (array items) = 0x5b :: (encode (commaSeparated items) ++ [0x5d]) := by
  rw [array, List.cons_append, encode_cons, encode_append]
  rfl

theorem starts_commaSeparated {items : List (List Char)} {trees : List Tree}
    (read : List.Forall₂ Reads items trees) (some : items ≠ []) :
    ∃ b more, encode (commaSeparated items) = b :: more ∧ isSpace b = false ∧ b ≠ 0x5d := by
  cases read with
  | nil => exact absurd rfl some
  | cons head tail =>
    obtain ⟨b, more, bytes, token, other⟩ := head.starts
    cases tail with
    | nil => exact ⟨b, more, bytes, token, other⟩
    | cons _ _ =>
      rw [commaSeparated_cons_cons, encode_append, bytes]
      exact ⟨b, _, rfl, token, other⟩

/-- An array is read as the trees of its items. -/
theorem reads_array {items : List (List Char)} {trees : List Tree}
    (read : List.Forall₂ Reads items trees) : Reads (array items) (.array trees) := by
  refine ⟨⟨_, _, encode_array items, by decide, by decide⟩, ?_⟩
  intro fuel rest enough _
  cases fuel with
  | zero => omega
  | succ fuel =>
    rw [encode_array, List.cons_append, List.append_assoc, List.singleton_append, readTree?,
      skipSpace_cons (by decide)]
    by_cases none : items = []
    · subst none
      cases read
      simp [commaSeparated, encode, skipSpace_cons (show isSpace 0x5d = false by decide)]
    · have left : 2 * (commaSeparated items).length + 1 < fuel := by
        simp only [array, List.length_append, List.length_cons, List.length_nil] at enough
        omega
      have inner := readItems?_commaSeparated read none left rest
      obtain ⟨b, more, bytes, token, other⟩ := starts_commaSeparated read none
      rw [bytes] at inner ⊢
      simp only [List.cons_append, skipSpace_cons token] at inner ⊢
      split
      · next _ same => simp_all
      · simp [inner]

/-- A member and the key and the tree that it is read as. -/
def ReadsMember (member : String × List Char) (read : List Piece × Tree) : Prop :=
  (∀ rest, readText? (encode (member.1.toList.flatMap escape) ++ 0x22 :: rest) =
    some (read.1, rest)) ∧ Reads member.2 read.2

/-- The text of a member. -/
def memberText (member : String × List Char) : List Char := quote member.1 ++ ':' :: member.2

theorem encode_memberText (member : String × List Char) (after : List UInt8) :
    encode (memberText member) ++ after =
      0x22 :: (encode (member.1.toList.flatMap escape) ++
        0x22 :: 0x3a :: (encode member.2 ++ after)) := by
  rw [memberText, encode_append, encode_quote, encode_cons]
  simp only [List.cons_append, List.append_assoc]
  rfl

/-- The last member. -/
theorem readMembers?_last {member : String × List Char} {read : List Piece × Tree}
    (known : ReadsMember member read) {fuel : Nat} (enough : 2 * (memberText member).length < fuel)
    (rest : List UInt8) :
    readMembers? (fuel + 1) (encode (memberText member) ++ 0x7d :: rest) = some ([read], rest) := by
  obtain ⟨key, value⟩ := known
  have inner := value.reads fuel (0x7d :: rest)
    (by simp only [memberText, List.length_append, List.length_cons] at enough; omega)
    ⟨_, _, rfl, by decide⟩
  rw [encode_memberText, readMembers?, skipSpace_cons (by decide)]
  simp [key, inner, skipSpace_cons (show isSpace 0x3a = false by decide),
    skipSpace_cons (show isSpace 0x7d = false by decide)]

/-- A member that others follow. -/
theorem readMembers?_more {member : String × List Char} {read : List Piece × Tree}
    (known : ReadsMember member read) {fuel : Nat} (enough : 2 * (memberText member).length < fuel)
    {rest more : List UInt8} {reads : List (List Piece × Tree)}
    (further : readMembers? fuel rest = some (reads, more)) :
    readMembers? (fuel + 1) (encode (memberText member) ++ 0x2c :: rest) =
      some (read :: reads, more) := by
  obtain ⟨key, value⟩ := known
  have inner := value.reads fuel (0x2c :: rest)
    (by simp only [memberText, List.length_append, List.length_cons] at enough; omega)
    ⟨_, _, rfl, by decide⟩
  rw [encode_memberText, readMembers?, skipSpace_cons (by decide)]
  simp [key, inner, skipSpace_cons (show isSpace 0x3a = false by decide),
    skipSpace_cons (show isSpace 0x2c = false by decide), further]

/-- The members of an object are read up to its closing brace. -/
theorem readMembers?_commaSeparated {members : List (String × List Char)}
    {trees : List (List Piece × Tree)} (read : List.Forall₂ ReadsMember members trees)
    (some : members ≠ []) {fuel : Nat}
    (enough : 2 * (commaSeparated (members.map memberText)).length + 1 < fuel)
    (rest : List UInt8) :
    readMembers? fuel (encode (commaSeparated (members.map memberText)) ++ 0x7d :: rest) =
      .some (trees, rest) := by
  induction read generalizing fuel with
  | nil => exact absurd rfl some
  | @cons member tree members trees head tail ih =>
    cases fuel with
    | zero => omega
    | succ fuel =>
      cases tail with
      | nil =>
        simp only [List.map_cons, List.map_nil, commaSeparated] at enough ⊢
        exact readMembers?_last head (by omega) rest
      | @cons second _ others _ _ _ =>
        simp only [List.map_cons, commaSeparated_cons_cons, List.length_append,
          List.length_cons] at enough ih ⊢
        have left : 2 * (commaSeparated (memberText second :: others.map memberText)).length + 1 <
            fuel := by omega
        have further := ih (List.cons_ne_nil _ _) left
        rw [encode_append, encode_cons, List.append_assoc, List.append_assoc]
        exact readMembers?_more head (by omega) further

theorem encode_object (members : List (String × List Char)) :
    encode (object members) =
      0x7b :: (encode (commaSeparated (members.map memberText)) ++ [0x7d]) := by
  rw [object, List.cons_append, encode_cons, encode_append]
  rfl

theorem length_le_encode (text : List Char) : text.length ≤ (encode text).length := by
  induction text with
  | nil => exact Nat.le_refl 0
  | cons c rest ih =>
    have some := List.length_pos_iff.mpr (String.utf8EncodeChar_ne_nil (c := c))
    rw [encode_cons, List.length_append, List.length_cons]
    omega

/-- A written object is read back as its members. -/
theorem parse?_object {members : List (String × List Char)} {trees : List (List Piece × Tree)}
    (read : List.Forall₂ ReadsMember members trees) (some : members ≠ []) :
    parse? (encode (object members)) = .some (.object trees) := by
  have enough : 2 * (commaSeparated (members.map memberText)).length + 1 <
      2 * (encode (object members)).length := by
    have chars := length_le_encode (commaSeparated (members.map memberText))
    simp only [encode_object, List.length_cons, List.length_append, List.length_nil]
    omega
  have inner := readMembers?_commaSeparated read some enough []
  obtain ⟨more, starts⟩ : ∃ more,
      encode (commaSeparated (members.map memberText)) ++ [0x7d] = 0x22 :: more := by
    obtain ⟨first, others, rfl⟩ := List.exists_cons_of_ne_nil some
    cases others with
    | nil => exact ⟨_, encode_memberText first _⟩
    | cons second others =>
      simp only [List.map_cons, commaSeparated_cons_cons]
      rw [encode_append, List.append_assoc, encode_memberText]
      exact ⟨_, rfl⟩
  rw [starts] at inner
  unfold parse?
  generalize (encode (object members)).length = size at inner
  have nothing : skipSpace [] = [] := rfl
  rw [encode_object, starts, readTree?, skipSpace_cons (by decide)]
  simp [skipSpace_cons (show isSpace 0x22 = false by decide), inner, nothing]

/-- Puts members into the fields of their keys, one after another. -/
def Fields.putAll? (keys : List String) (fields : Fields) : List (String × Tree) → Option Fields
  | [] => some fields
  | (key, value) :: rest => (fields.put? keys key value).bind fun fields => putAll? keys fields rest

/-- A written object is read back as a record with the written keys and the trees of the values. -/
theorem parse?_record {members : List (String × List Char)} {values : List (String × Tree)}
    (read : List.Forall₂ (fun member value => member.1 = value.1 ∧ Reads member.2 value.2)
      members values) (some : members ≠ []) :
    ∃ trees, parse? (encode (object members)) = .some (.object trees) ∧ ∀ keys fields,
      Fields.ofMembers? keys fields trees = fields.putAll? keys values := by
  obtain ⟨trees, readTrees, same⟩ : ∃ trees, List.Forall₂ ReadsMember members trees ∧
      ∀ keys fields, Fields.ofMembers? keys fields trees = fields.putAll? keys values := by
    clear some
    induction read with
    | nil => exact ⟨[], .nil, fun _ _ => rfl⟩
    | @cons member value _ _ head _ ih =>
      obtain ⟨trees, readTrees, same⟩ := ih
      obtain ⟨pieces, readKey, key⟩ := exists_readText? member.1
      refine ⟨(pieces, value.2) :: trees, .cons ⟨readKey, head.2⟩ readTrees, ?_⟩
      intro keys fields
      simp [Fields.ofMembers?, key, head.1, same, Fields.putAll?]
  exact ⟨trees, parse?_object readTrees some, same⟩

end SourceTrace.Json
