import SourceTrace.Proofs.Mappings.Range
import SourceTrace.Proofs.Reference.Lines
import SourceTrace.Proofs.Text.Offsets

/-!
# Two ways to look for a reference

The reference of a text can be looked for by its value, in the lines without their terminators, or
by its place, as the number of bytes in front of a line with its terminator. Both find the same
line, and it is the last one that is a reference. The code of an artifact is therefore all of its
text up to the line whose map was loaded.
-/
namespace SourceTrace

namespace Reference

open Text (Whole byteSize)

/-- A line without its terminator: a line feed, and a carriage return in front of it. -/
def withoutEnd (line : List Char) : List Char :=
  match line.reverse with
  | '\n' :: '\r' :: front => front.reverse
  | '\n' :: front => front.reverse
  | _ => line

/-- The last reference among lines, where `found` is the last one so far. -/
def scanFrom (found : Option Reference) : List (List Char) → Option Reference
  | [] => found
  | line :: rest => scanFrom ((ofLine? (withoutEnd line)).or found) rest

/-- The number of bytes in front of the last line that is a reference. `offset` bytes lie behind,
and `found` is the last such number so far. -/
def offsetFrom (offset : Nat) (found : Option Nat) : List (List Char) → Option Nat
  | [] => found
  | line :: rest =>
    offsetFrom (offset + byteSize line) (if (ofLine? line).isSome then some offset else found) rest

/-- Where the line of the reference starts in a text. -/
def offset? (text : String) : Option Nat := offsetFrom 0 none (linesWithEnds text.toList)

/-- One of the lines is a reference, and none behind it is. -/
structure IsLast (lines before : List (List Char)) (line : List Char) (behind : List (List Char))
    (reference : Reference) : Prop where
  parts : lines = before ++ line :: behind
  refers : ofLine? line = some reference
  silent : ∀ other ∈ behind, ofLine? other = none

theorem ofLine?_concat_blank {c : Char} (blank : Text.isBlank c) (line : List Char) :
    ofLine? (line ++ [c]) = ofLine? line := by
  rw [ofLine?, Text.trim_concat_blank blank, ofLine?]

/-- The terminator of a line does not matter. -/
theorem ofLine?_withoutEnd (line : List Char) : ofLine? (withoutEnd line) = ofLine? line := by
  unfold withoutEnd
  split
  · next front ends =>
    have same : line = front.reverse ++ ['\r'] ++ ['\n'] := by
      rw [← line.reverse_reverse, ends]
      simp
    rw [same, ofLine?_concat_blank (by decide), ofLine?_concat_blank (by decide)]
  · next front _ ends =>
    have same : line = front.reverse ++ ['\n'] := by
      rw [← line.reverse_reverse, ends]
      simp
    rw [same, ofLine?_concat_blank (by decide)]
  · rfl

section Scan

variable {lines before behind : List (List Char)} {line : List Char} {reference : Reference}

/-- Lines without a reference leave what has been found. -/
theorem scanFrom_silent (silent : ∀ line ∈ lines, ofLine? line = none)
    (found : Option Reference) : scanFrom found lines = found := by
  induction lines with
  | nil => rfl
  | cons line rest ih =>
    obtain ⟨first, others⟩ := List.forall_mem_cons.mp silent
    rw [scanFrom, ofLine?_withoutEnd, first]
    exact ih others

theorem offsetFrom_silent (silent : ∀ line ∈ lines, ofLine? line = none) (offset : Nat)
    (found : Option Nat) : offsetFrom offset found lines = found := by
  induction lines generalizing offset with
  | nil => rfl
  | cons line rest ih =>
    obtain ⟨first, others⟩ := List.forall_mem_cons.mp silent
    simp [offsetFrom, first, ih others]

theorem linesBefore?_silent (silent : ∀ line ∈ lines, ofLine? line = none) :
    linesBefore? lines = none := by
  induction lines with
  | nil => rfl
  | cons line rest ih =>
    obtain ⟨first, others⟩ := List.forall_mem_cons.mp silent
    simp [linesBefore?, first, ih others]

theorem scanFrom_append (found : Option Reference) (front rest : List (List Char)) :
    scanFrom found (front ++ rest) = scanFrom (scanFrom found front) rest := by
  induction front generalizing found with
  | nil => rfl
  | cons line front ih => exact ih _

theorem offsetFrom_append (offset : Nat) (found : Option Nat) (front rest : List (List Char)) :
    offsetFrom offset found (front ++ rest) =
      offsetFrom (offset + byteSize front.flatten) (offsetFrom offset found front) rest := by
  induction front generalizing offset found with
  | nil => rfl
  | cons line front ih =>
    rw [List.cons_append, offsetFrom, ih, offsetFrom, List.flatten_cons, Text.byteSize_append,
      Nat.add_assoc]

/-- Some line is the last reference, or no line is one. -/
theorem isLast_or_silent (lines : List (List Char)) :
    (∃ before line behind reference, IsLast lines before line behind reference) ∨
      ∀ line ∈ lines, ofLine? line = none := by
  induction lines with
  | nil => exact .inr (by simp)
  | cons first rest ih =>
    rcases ih with ⟨before, line, behind, reference, last⟩ | silent
    · exact .inl ⟨first :: before, line, behind, reference,
        by rw [last.parts, List.cons_append], last.refers, last.silent⟩
    · cases refers : ofLine? first with
      | none => exact .inr (List.forall_mem_cons.mpr ⟨refers, silent⟩)
      | some reference => exact .inl ⟨[], first, rest, reference, rfl, refers, silent⟩

namespace IsLast

theorem scanFrom_eq (last : IsLast lines before line behind reference) :
    scanFrom none lines = some reference := by
  rw [last.parts, scanFrom_append, scanFrom, scanFrom_silent last.silent, ofLine?_withoutEnd,
    last.refers, Option.some_or]

theorem offsetFrom_eq (last : IsLast lines before line behind reference) :
    offsetFrom 0 none lines = some (byteSize before.flatten) := by
  rw [last.parts, offsetFrom_append, offsetFrom, offsetFrom_silent last.silent, last.refers]
  simp

theorem linesBefore?_eq (last : IsLast lines before line behind reference) :
    linesBefore? lines = some before := by
  rw [last.parts]
  induction before generalizing lines with
  | nil => simp [linesBefore?, linesBefore?_silent last.silent, last.refers]
  | cons first before ih =>
    rw [List.cons_append, linesBefore?, ih ⟨rfl, last.refers, last.silent⟩]

end IsLast

end Scan

/-- Both ways to cut a text into lines lead to the same references. -/
theorem locate?_eq_getLast? (text : String) :
    locate? text = ((linesWithEnds text.toList).filterMap ofLine?).getLast? := by
  rw [locate?, filterMap_linesWithEnds]

theorem locate?_of_silent {text : String}
    (silent : ∀ line ∈ linesWithEnds text.toList, ofLine? line = none) : locate? text = none := by
  rw [locate?_eq_getLast?, List.filterMap_eq_nil_iff.mpr silent, List.getLast?_nil]

theorem IsLast.locate?_eq {text : String} {before behind : List (List Char)} {line : List Char}
    {reference : Reference}
    (last : IsLast (linesWithEnds text.toList) before line behind reference) :
    locate? text = some reference := by
  rw [locate?_eq_getLast?, last.parts, List.filterMap_append, List.filterMap_cons, last.refers,
    List.filterMap_eq_nil_iff.mpr last.silent, List.getLast?_concat]

/-- The value that is located is the one that the scan of the lines without their terminators
ends with. -/
theorem locate?_eq_scan (text : String) :
    locate? text = scanFrom none (linesWithEnds text.toList) := by
  rcases isLast_or_silent (linesWithEnds text.toList) with ⟨_, _, _, _, last⟩ | silent
  · rw [last.locate?_eq, last.scanFrom_eq]
  · rw [locate?_of_silent silent, scanFrom_silent silent]

/-- A line of a text, with its line feed if it has one. The lines in front of it are `before`, and
what is behind it is `behind`. -/
structure IsLine (text before line behind : List Char) : Prop where
  parts : text = before ++ (line ++ behind)
  whole : Whole before
  line : ∃ inner, '\n' ∉ inner ∧ (line = inner ++ ['\n'] ∨ line = inner ∧ behind = [])

/-- What is behind a line is cut into the lines behind it. -/
theorem linesWithEnds_tail {text line : List Char} {behind : List (List Char)}
    (lines : linesWithEnds text = line :: behind) :
    linesWithEnds behind.flatten = behind := by
  fun_induction linesWithEnds text generalizing line behind with
  | case1 => cases lines
  | case2 rest _ =>
    cases lines
    rw [flatten_linesWithEnds]
  | case3 =>
    cases lines
    rfl
  | case4 c rest other first more some ih =>
    cases lines
    exact ih some

theorem linesWithEnds_drop {text : List Char} {before behind : List (List Char)}
    (lines : linesWithEnds text = before ++ behind) : linesWithEnds behind.flatten = behind := by
  induction before generalizing text with
  | nil => rw [← List.nil_append behind, ← lines, flatten_linesWithEnds]
  | cons first before ih =>
    have further : linesWithEnds (before ++ behind).flatten = before ++ behind :=
      linesWithEnds_tail lines
    exact ih further

/-- A line ends at its line feed, and only the last one lacks it. -/
theorem exists_inner_of_linesWithEnds {text line : List Char} {behind : List (List Char)}
    (lines : linesWithEnds text = line :: behind) :
    ∃ inner, '\n' ∉ inner ∧ (line = inner ++ ['\n'] ∨ line = inner ∧ behind = []) := by
  fun_induction linesWithEnds text generalizing line behind with
  | case1 => cases lines
  | case2 rest _ =>
    cases lines
    exact ⟨[], by simp, .inl rfl⟩
  | case3 c rest other none _ =>
    cases lines
    exact ⟨[c], by simpa using Ne.symm other, .inr ⟨rfl, rfl⟩⟩
  | case4 c rest other first more some ih =>
    cases lines
    obtain ⟨inner, free, shape⟩ := ih some
    refine ⟨c :: inner, by simp [Ne.symm other, free], ?_⟩
    rcases shape with rfl | ⟨rfl, last⟩
    · exact .inl rfl
    · exact .inr ⟨rfl, last⟩

/-- The lines that a text is cut into are its lines. -/
theorem isLine_of_linesWithEnds {text line : List Char} {before behind : List (List Char)}
    (lines : linesWithEnds text = before ++ line :: behind) :
    IsLine text before.flatten line behind.flatten := by
  refine ⟨?_, whole_of_linesWithEnds lines (by simp), ?_⟩
  · rw [← flatten_linesWithEnds text, lines, List.flatten_append, List.flatten_cons]
  · obtain ⟨inner, free, shape⟩ := exists_inner_of_linesWithEnds (linesWithEnds_drop lines)
    refine ⟨inner, free, shape.imp_right fun last => ⟨last.1, ?_⟩⟩
    rw [last.2, List.flatten_nil]

theorem locateBytes?_bytes (text : String) :
    locateBytes? (Text.Utf8.bytes text) = .ok (locate? text) := by
  rw [locateBytes?, Text.Utf8.decode?_bytes]

theorem IsLast.toList_codeOf {text : String} {before behind : List (List Char)} {line : List Char}
    {reference : Reference}
    (last : IsLast (linesWithEnds text.toList) before line behind reference) :
    (codeOf text).toList = before.flatten := by
  rw [codeOf, last.linesBefore?_eq]
  exact String.toList_ofList

theorem offset?_eq_none_iff (text : String) : offset? text = none ↔ locate? text = none := by
  rcases isLast_or_silent (linesWithEnds text.toList) with ⟨_, _, _, _, last⟩ | silent
  · rw [offset?, last.offsetFrom_eq, last.locate?_eq]
    simp
  · rw [offset?, offsetFrom_silent silent, locate?_of_silent silent]
    simp

/-- The line of the reference is the one behind the code. -/
theorem exists_isLine {text : String} {reference : Reference}
    (located : locate? text = some reference) : ∃ line behind,
      IsLine text.toList (codeOf text).toList line behind ∧ ofLine? line = some reference ∧
      offset? text = some (byteSize (codeOf text).toList) ∧
      ∀ later ∈ linesWithEnds behind, ofLine? later = none := by
  rcases isLast_or_silent (linesWithEnds text.toList) with
    ⟨before, line, behind, other, last⟩ | silent
  · rw [last.locate?_eq] at located
    cases located
    have rest : linesWithEnds behind.flatten = behind := by
      have lines : linesWithEnds text.toList = (before ++ [line]) ++ behind := by
        rw [last.parts, List.append_assoc, List.singleton_append]
      exact linesWithEnds_drop lines
    refine ⟨line, behind.flatten, ?_, last.refers, ?_, ?_⟩
    · rw [last.toList_codeOf]
      exact isLine_of_linesWithEnds last.parts
    · rw [last.toList_codeOf, offset?, last.offsetFrom_eq]
    · rw [rest]
      exact last.silent
  · rw [locate?_of_silent silent] at located
    cases located

end Reference

namespace Artifact

/-- The document of an artifact is the one that a reference leads to. -/
inductive LoadedFrom (tree : FileTree) (reference : Reference) (artifact : Artifact) : Prop
  | carried {encoding : DataUrl.Encoding} {bytes : List UInt8} {document : Document}
      (embedded : reference.isEmbedded = true)
      (payload : DataUrl.payload reference.url = .ok (encoding, bytes))
      (decoded : Document.decode bytes = .ok document)
      (loaded : artifact.document = document.setBaseDir artifact.path.parent?)
  | linked {mapPath : Path} {bytes : List UInt8} {document : Document}
      (notEmbedded : reference.isEmbedded = false)
      (path : reference.path? artifact.path = some mapPath)
      (holds : tree.read mapPath = .ok bytes)
      (decoded : Document.decode bytes = .ok document)
      (loaded : artifact.document = document.setBaseDir mapPath.parent?)

/-- A result that is there in spite of a renamed error was there before. -/
theorem eq_ok_of_mapError {ε ε' α : Type} {rename : ε → ε'} {result : Except ε α} {value : α}
    (succeeds : result.mapError rename = .ok value) : result = .ok value := by
  cases result with
  | error cause => cases succeeds
  | ok found =>
    cases succeeds
    rfl

theorem exists_of_ofText {tree : FileTree} {path : Path} {text : String} {artifact : Artifact}
    (made : ofText tree path text = .ok artifact) :
    artifact.text = text ∧ artifact.path = path ∧ ∃ reference,
      Reference.locate? text = some reference ∧ artifact.LoadedFrom tree reference := by
  unfold ofText at made
  split at made
  · next reference located =>
    split at made
    · next embedded =>
      obtain ⟨⟨encoding, bytes⟩, payload, made⟩ := exists_of_bind_eq_ok made
      obtain ⟨document, decoded, made⟩ := exists_of_bind_eq_ok made
      cases made
      exact ⟨rfl, rfl, reference, located, .carried embedded payload decoded rfl⟩
    · next notEmbedded =>
      split at made
      · next mapPath linked =>
        obtain ⟨bytes, holds, made⟩ := exists_of_bind_eq_ok made
        obtain ⟨document, decoded, made⟩ := exists_of_bind_eq_ok made
        cases made
        exact ⟨rfl, rfl, reference, located, .linked (by simpa using notEmbedded) linked
          (eq_ok_of_mapError holds) decoded rfl⟩
      · cases made
  · cases made

end Artifact

open Text (byteSize) in
/-- A text has a reference if and only if it has a line that is found by its place. That line starts
where the text does or behind a line feed, the reference that it is is the located one, no line
behind it is a reference, and the code of the text is what is in front of it. An artifact that was
made from a text therefore has this text up to some line for its code, and its map is the one that
was loaded for the reference on that line. -/
theorem scanners_agree :
    (∀ text : String,
      Reference.locateBytes? (Text.Utf8.bytes text) =
        .ok (Reference.scanFrom none (Reference.linesWithEnds text.toList)) ∧
      (Reference.locateBytes? (Text.Utf8.bytes text) = .ok none ↔
        Reference.offset? text = none) ∧
      ∀ offset, Reference.offset? text = some offset → ∃ line behind reference,
        Reference.IsLine text.toList (Reference.codeOf text).toList line behind ∧
        byteSize (Reference.codeOf text).toList = offset ∧
        Reference.ofLine? line = some reference ∧
        Reference.locateBytes? (Text.Utf8.bytes text) = .ok (some reference) ∧
        ∀ later ∈ Reference.linesWithEnds behind, Reference.ofLine? later = none) ∧
    ∀ tree path artifact, (Artifact.load tree path = .ok artifact ∨
        ∃ text, Artifact.ofText tree path text = .ok artifact) →
      ∃ line behind reference,
        Reference.IsLine artifact.text.toList artifact.code.toList line behind ∧
        Reference.ofLine? line = some reference ∧ artifact.LoadedFrom tree reference := by
  refine ⟨fun text => ⟨?_, ?_, ?_⟩, ?_⟩
  · rw [Reference.locateBytes?_bytes, Reference.locate?_eq_scan]
  · rw [Reference.locateBytes?_bytes, Reference.offset?_eq_none_iff]
    simp
  · intro offset found
    rw [Reference.locateBytes?_bytes]
    cases located : Reference.locate? text with
    | none =>
      rw [(Reference.offset?_eq_none_iff text).mpr located] at found
      cases found
    | some reference =>
      obtain ⟨line, behind, isLine, refers, place, silent⟩ := Reference.exists_isLine located
      rw [place] at found
      cases found
      exact ⟨line, behind, reference, isLine, rfl, refers, rfl, silent⟩
  · intro tree path artifact made
    obtain ⟨text, made⟩ : ∃ text, Artifact.ofText tree path text = .ok artifact := by
      rcases made with loaded | made
      · obtain ⟨text, -, loaded⟩ := exists_of_bind_eq_ok loaded
        exact ⟨text, loaded⟩
      · exact made
    obtain ⟨rfl, rfl, reference, located, loaded⟩ := Artifact.exists_of_ofText made
    obtain ⟨line, behind, isLine, refers, -⟩ := Reference.exists_isLine located
    exact ⟨line, behind, reference, isLine, refers, loaded⟩

/-- The second of two references counts, though it is indented, ends with a carriage return and has
code behind it. -/
theorem scanners_agree_twice :
    let text := "//# sourceMappingURL=old\r\nf();\n\t/*@ sourceMappingURL=data:," ++
      "\x7b\"version\":3,\"sources\":[\"a.ts\"],\"mappings\":\"AAAA\"\x7d */\r\ng();"
    Reference.offset? text = some 31 ∧
      (∃ line behind reference,
        Reference.IsLine text.toList (Reference.codeOf text).toList line behind ∧
        Reference.ofLine? line = some reference ∧
        Reference.locateBytes? (Text.Utf8.bytes text) = .ok (some reference)) ∧
      ∃ artifact, Artifact.ofText FileTree.empty ⟨"out.js"⟩ text = .ok artifact ∧
        ∃ line behind reference,
          Reference.IsLine artifact.text.toList artifact.code.toList line behind ∧
          Reference.ofLine? line = some reference ∧
          artifact.LoadedFrom FileTree.empty reference := by
  intro text
  obtain ⟨texts, artifacts⟩ := scanners_agree
  have found : Reference.offset? text = some 31 := by decide +kernel
  have succeeds : (Artifact.ofText FileTree.empty ⟨"out.js"⟩ text).toOption.isSome := by
    decide +kernel
  obtain ⟨line, behind, reference, isLine, -, refers, located, -⟩ := (texts text).2.2 31 found
  refine ⟨found, ⟨line, behind, reference, isLine, refers, located⟩, ?_⟩
  cases made : Artifact.ofText FileTree.empty ⟨"out.js"⟩ text with
  | error cause =>
    rw [made] at succeeds
    cases succeeds
  | ok artifact => exact ⟨artifact, rfl, artifacts _ _ _ (.inr ⟨text, made⟩)⟩

end SourceTrace
