import Mathlib.Data.List.Forall2
import SourceTrace.Proofs.Json.Text
import SourceTrace.Proofs.Text.Offsets

/-!
# Lines and their terminators

A text is its lines with a terminator behind each but the last: a line feed, a carriage return, or
the pair of both. The terminators are determined by the text once a carriage return in front of a
line feed is taken as the pair, and so are the lines. A loop over the bytes of the text that records
where each line starts and ends finds the same lines, and never cuts a character.
-/
namespace SourceTrace.Text

/-- What ends a line. -/
inductive Terminator where
  | feed
  | pair
  | back
  deriving DecidableEq, Repr

/-- The characters of a terminator. -/
def Terminator.text : Terminator → List Char
  | .feed => ['\n']
  | .pair => ['\r', '\n']
  | .back => ['\r']

/-- Lines with the terminators between them. -/
def weave : List (List Char) → List Terminator → List Char
  | line :: lines, terminator :: terminators =>
    line ++ (terminator.text ++ weave lines terminators)
  | lines, _ => lines.flatten

/-- No carriage return that ends a line has a line feed behind it. -/
def Apart : List (List Char) → List Terminator → Prop
  | _ :: lines, terminator :: terminators =>
    (terminator = .back → (weave lines terminators).head? ≠ some '\n') ∧ Apart lines terminators
  | _, _ => True

/-- The terminators of a text, in order. -/
def terminators : List Char → List Terminator
  | [] => []
  | '\n' :: rest => .feed :: terminators rest
  | '\r' :: '\n' :: rest => .pair :: terminators rest
  | '\r' :: rest => .back :: terminators rest
  | _ :: rest => terminators rest

/-- A text consists of lines that hold no terminators, with a terminator behind each but the last. A
carriage return that ends a line has no line feed behind it. -/
inductive Consists : List Char → List (List Char) → List Terminator → Prop
  | last {line : List Char} (free : ∀ c ∈ line, ¬ EndsLine c) : Consists line [line] []
  | more {line rest : List Char} {lines : List (List Char)} {terminator : Terminator}
      {terminators : List Terminator} (free : ∀ c ∈ line, ¬ EndsLine c)
      (meets : terminator = .back → rest.head? ≠ some '\n')
      (others : Consists rest lines terminators) :
      Consists (line ++ (terminator.text ++ rest)) (line :: lines) (terminator :: terminators)

/-- The bytes from the start of a line to its end, for the lines from `start` on, where `index`
bytes lie behind. -/
def lineRangesFrom (start index : Nat) : List UInt8 → List (Nat × Nat)
  | [] => [(start, index)]
  | 0x0a :: rest => (start, index) :: lineRangesFrom (index + 1) (index + 1) rest
  | 0x0d :: 0x0a :: rest => (start, index) :: lineRangesFrom (index + 2) (index + 2) rest
  | 0x0d :: rest => (start, index) :: lineRangesFrom (index + 1) (index + 1) rest
  | _ :: rest => lineRangesFrom start (index + 1) rest

/-- Where the lines of a text start and end. -/
def lineRanges (text : String) : List (Nat × Nat) := lineRangesFrom 0 0 (Utf8.bytes text)

/-- The part of a text between two offsets, which must be boundaries. -/
def between? (text : List Char) (range : Nat × Nat) : Option (List Char) := do
  let (front, _) ← cutAtByte? text range.2
  let (_, part) ← cutAtByte? front range.1
  return part

section Terminators

variable {text line : List Char} {others : List (List Char)} {ends : List Terminator}

theorem terminators_cons {c : Char} (inside : ¬ EndsLine c) (rest : List Char) :
    terminators (c :: rest) = terminators rest := by
  have feed : c ≠ '\n' := fun same => inside (.inl same)
  have back : c ≠ '\r' := fun same => inside (.inr same)
  rw [terminators]
  · exact feed
  · exact fun _ same _ => back same
  · exact back

theorem terminators_of_free (free : ∀ c ∈ line, ¬ EndsLine c) : terminators line = [] := by
  induction line with
  | nil => rfl
  | cons c line ih =>
    obtain ⟨inside, rest⟩ := List.forall_mem_cons.mp free
    rw [terminators_cons inside, ih rest]

theorem Consists.cons {c : Char} (inside : ¬ EndsLine c) {rest : List Char}
    (consists : Consists rest (line :: others) ends) :
    Consists (c :: rest) ((c :: line) :: others) ends := by
  have front {line : List Char} (free : ∀ d ∈ line, ¬ EndsLine d) :
      ∀ d ∈ c :: line, ¬ EndsLine d := List.forall_mem_cons.mpr ⟨inside, free⟩
  cases consists with
  | last free => exact .last (front free)
  | more free meets others => exact .more (front free) meets others

/-- An empty line in front. -/
theorem Consists.blank {rest : List Char} (consists : Consists rest others ends)
    (terminator : Terminator) (meets : terminator = .back → rest.head? ≠ some '\n') :
    Consists (terminator.text ++ rest) ([] :: others) (terminator :: ends) :=
  .more (List.forall_mem_nil _) meets consists

/-- Every text consists of its lines and its terminators. -/
theorem consists_lines (text : List Char) : Consists text (lines text) (terminators text) := by
  fun_induction lines text with
  | case1 => exact .last (List.forall_mem_nil _)
  | case2 rest ih => exact ih.blank .feed (by simp)
  | case3 rest ih => exact ih.blank .pair (by simp)
  | case4 rest other ih =>
    rw [terminators]
    · refine ih.blank .back fun _ head => ?_
      obtain ⟨behind, rfl⟩ := List.head?_eq_some_iff.mp head
      exact other behind rfl
    · exact other
  | case5 c rest feed pair single none ih => exact absurd none (lines_ne_nil rest)
  | case6 c rest feed pair single first more some ih =>
    have inside : ¬ EndsLine c := fun ended => ended.elim feed single
    rw [terminators_cons inside]
    exact Consists.cons inside (some ▸ ih)

/-- A line ends at its terminator. -/
theorem lines_terminated {rest : List Char} {terminator : Terminator}
    (free : ∀ c ∈ line, ¬ EndsLine c) (meets : terminator = .back → rest.head? ≠ some '\n') :
    lines (line ++ (terminator.text ++ rest)) = line :: lines rest ∧
      terminators (line ++ (terminator.text ++ rest)) = terminator :: terminators rest := by
  induction line with
  | nil =>
    cases terminator with
    | feed => exact ⟨rfl, rfl⟩
    | pair => exact ⟨rfl, rfl⟩
    | back =>
      have apart : ∀ behind, rest ≠ '\n' :: behind := by
        rintro behind rfl
        exact meets rfl rfl
      simp only [Terminator.text, List.nil_append, List.singleton_append]
      rw [lines, terminators]
      · exact ⟨rfl, rfl⟩
      · exact fun behind same => apart behind same
      · exact fun behind same => apart behind same
  | cons c line ih =>
    obtain ⟨inside, others⟩ := List.forall_mem_cons.mp free
    obtain ⟨cut, ended⟩ := ih others
    exact ⟨lines_cons inside cut, (terminators_cons inside _).trans ended⟩

/-- Nothing else is the lines and the terminators of a text. -/
theorem Consists.unique (consists : Consists text others ends) :
    lines text = others ∧ terminators text = ends := by
  induction consists with
  | last free => exact ⟨lines_eq_singleton free, terminators_of_free free⟩
  | more free meets _ ih =>
    obtain ⟨cut, ended⟩ := lines_terminated free meets
    rw [cut, ended, ih.1, ih.2]
    exact ⟨rfl, rfl⟩

theorem consists_iff : Consists text others ends ↔
    others.length = ends.length + 1 ∧ (∀ line ∈ others, ∀ c ∈ line, ¬ EndsLine c) ∧
      Apart others ends ∧ weave others ends = text := by
  constructor
  · intro consists
    induction consists with
    | last free => exact ⟨rfl, by simpa using free, trivial, by simp [weave]⟩
    | more free meets _ ih =>
      obtain ⟨length, inside, apart, same⟩ := ih
      refine ⟨by simp [length], List.forall_mem_cons.mpr ⟨free, inside⟩, ⟨?_, apart⟩, ?_⟩
      · rw [same]
        exact meets
      · rw [weave, same]
  · rintro ⟨length, inside, apart, rfl⟩
    induction ends generalizing others with
    | nil =>
      obtain ⟨line, rfl⟩ := List.length_eq_one_iff.mp length
      have free := inside line List.mem_cons_self
      simpa [weave] using Consists.last free
    | cons terminator ends ih =>
      obtain ⟨line, rest, rfl⟩ := List.exists_cons_of_length_eq_add_one length
      obtain ⟨free, within⟩ := List.forall_mem_cons.mp inside
      exact .more free apart.1 (ih (Nat.succ.inj length) within apart.2)

end Terminators

section Ranges

variable {whole : List Char}

/-- A line of a text that starts and ends at the given offsets. -/
def Spans (whole line : List Char) (range : Nat × Nat) : Prop :=
  ∃ before after, whole = before ++ (line ++ after) ∧
    range = (byteSize before, byteSize before + byteSize line)

/-- The bytes of a character that ends no line are passed. -/
theorem lineRangesFrom_pass (start : Nat) {bytes : List UInt8}
    (plain : ∀ b ∈ bytes, b ≠ 0x0a ∧ b ≠ 0x0d) (index : Nat) (rest : List UInt8) :
    lineRangesFrom start index (bytes ++ rest) =
      lineRangesFrom start (index + bytes.length) rest := by
  induction bytes generalizing index with
  | nil => rfl
  | cons b bytes ih =>
    obtain ⟨⟨feed, back⟩, others⟩ := List.forall_mem_cons.mp plain
    have passed : index + 1 + bytes.length = index + (b :: bytes).length := by
      rw [List.length_cons]
      omega
    rw [List.cons_append, lineRangesFrom, ih others, passed]
    · exact feed
    · exact fun _ same _ => back same
    · exact back

/-- A byte of ASCII stands for its own character only. -/
theorem eq_of_mem_utf8EncodeChar {c d : Char} {b : UInt8} (member : b ∈ String.utf8EncodeChar c)
    (ascii : d.toNat < 0x80) (same : b.toNat = d.toNat) : c = d := by
  rcases Json.mem_utf8EncodeChar member with ⟨_, number⟩ | beyond
  · exact Char.toNat_inj.mp (number.symm.trans same)
  · omega

theorem plain_of_free {line : List Char} (free : ∀ c ∈ line, ¬ EndsLine c) :
    ∀ b ∈ Utf8.encode line, b ≠ 0x0a ∧ b ≠ 0x0d := by
  intro b member
  obtain ⟨c, listed, byte⟩ := List.mem_flatMap.mp member
  constructor
  · rintro rfl
    exact free c listed (.inl (eq_of_mem_utf8EncodeChar byte (by decide) rfl))
  · rintro rfl
    exact free c listed (.inr (eq_of_mem_utf8EncodeChar byte (by decide) rfl))

/-- A text whose bytes start with a line feed starts with one. -/
theorem exists_of_encode_feed {text : List Char} {bytes : List UInt8}
    (same : Utf8.encode text = 0x0a :: bytes) : ∃ rest, text = '\n' :: rest := by
  cases text with
  | nil => cases same
  | cons c rest =>
    obtain ⟨b, more, first⟩ := List.exists_cons_of_ne_nil (String.utf8EncodeChar_ne_nil (c := c))
    have member : b ∈ String.utf8EncodeChar c := first ▸ List.mem_cons_self
    rw [Json.encode_cons, first] at same
    cases same
    exact ⟨rest, by rw [eq_of_mem_utf8EncodeChar (d := '\n') member (by decide) rfl]⟩

/-- A line that has been passed is recorded at its terminator. -/
theorem lineRangesFrom_terminated (start index : Nat) {terminator : Terminator} {rest : List Char}
    (meets : terminator = .back → rest.head? ≠ some '\n') :
    lineRangesFrom start index (Utf8.encode (terminator.text ++ rest)) =
      (start, index) :: lineRangesFrom (index + byteSize terminator.text)
        (index + byteSize terminator.text) (Utf8.encode rest) := by
  cases terminator with
  | feed => rfl
  | pair => rfl
  | back =>
    have apart : ∀ bytes, Utf8.encode rest ≠ 0x0a :: bytes := by
      intro bytes same
      obtain ⟨behind, rfl⟩ := exists_of_encode_feed same
      exact meets rfl rfl
    change lineRangesFrom start index (0x0d :: Utf8.encode rest) = _
    rw [lineRangesFrom]
    · rfl
    · exact apart

/-- The lines that follow `base` are recorded where they stand. -/
theorem forall₂_spans {rest : List Char} {others : List (List Char)} {ends : List Terminator}
    (consists : Consists rest others ends) (base : List Char) (parts : whole = base ++ rest) :
    List.Forall₂ (Spans whole) others
      (lineRangesFrom (byteSize base) (byteSize base) (Utf8.encode rest)) := by
  induction consists generalizing base with
  | @last line free =>
    have ranges : lineRangesFrom (byteSize base) (byteSize base) (Utf8.encode line) =
        [(byteSize base, byteSize base + byteSize line)] := by
      have passed := lineRangesFrom_pass (byteSize base) (plain_of_free free) (byteSize base) []
      rwa [List.append_nil, ← byteSize_eq_length] at passed
    rw [ranges]
    exact .cons ⟨base, [], by simpa using parts, rfl⟩ .nil
  | @more line rest _ terminator _ free meets _ ih =>
    have further := ih (base ++ (line ++ terminator.text)) (by simpa using parts)
    rw [byteSize_append, byteSize_append, ← Nat.add_assoc] at further
    rw [Json.encode_append, lineRangesFrom_pass _ (plain_of_free free), ← byteSize_eq_length,
      lineRangesFrom_terminated _ _ meets]
    exact .cons ⟨base, terminator.text ++ rest, parts, rfl⟩ further

theorem Spans.between?_eq {line : List Char} {range : Nat × Nat} (spans : Spans whole line range) :
    between? whole range = some line := by
  obtain ⟨before, after, rfl, rfl⟩ := spans
  have front := cutAtByte?_append (before ++ line) after
  rw [byteSize_append, List.append_assoc] at front
  simp [between?, front, cutAtByte?_append]

theorem Spans.isBoundary {line : List Char} {range : Nat × Nat} (spans : Spans whole line range) :
    IsBoundary whole range.1 ∧ IsBoundary whole range.2 := by
  obtain ⟨before, after, rfl, rfl⟩ := spans
  exact ⟨⟨before, line ++ after, rfl, rfl⟩, ⟨before ++ line, after, by simp, byteSize_append ..⟩⟩

section Recorded

variable {others : List (List Char)} {ranges : List (Nat × Nat)}

theorem getElem?_of_spans (spans : List.Forall₂ (Spans whole) others ranges) (index : Nat) :
    others[index]? = ranges[index]?.bind (between? whole) := by
  induction spans generalizing index with
  | nil => rfl
  | cons first _ ih =>
    cases index with
    | zero => exact first.between?_eq.symm
    | succ index => exact ih index

theorem isBoundary_of_spans (spans : List.Forall₂ (Spans whole) others ranges) :
    ∀ range ∈ ranges, IsBoundary whole range.1 ∧ IsBoundary whole range.2 := by
  induction spans with
  | nil => simp
  | cons first _ ih => exact List.forall_mem_cons.mpr ⟨first.isBoundary, ih⟩

end Recorded

theorem forall₂_lineRanges (text : String) :
    List.Forall₂ (Spans text.toList) (View.ofString text).lines (lineRanges text) :=
  forall₂_spans (consists_lines text.toList) [] rfl

end Ranges

theorem free_iff {line : List Char} :
    (∀ c ∈ line, ¬ EndsLine c) ↔ '\n' ∉ line ∧ '\r' ∉ line := by
  constructor
  · intro free
    exact ⟨fun member => free _ member (.inl rfl), fun member => free _ member (.inr rfl)⟩
  · rintro ⟨feed, back⟩ c member (rfl | rfl)
    · exact feed member
    · exact back member

/-- The lines of a text hold no line feed and no carriage return. Exactly one choice of terminators
between them gives the text back such that no carriage return that ends a line has a line feed
behind it, and other lines have no such choice. The loop over the bytes records one range for each
line, from boundary to boundary, and what stands there is the line of that number. -/
theorem lines_lossless (text : String) :
    let view := View.ofString text
    (∀ line ∈ view.lines, '\n' ∉ line ∧ '\r' ∉ line) ∧
    (∃! ends : List Terminator, view.lines.length = ends.length + 1 ∧ Apart view.lines ends ∧
      weave view.lines ends = text.toList) ∧
    (∀ others ends, (∀ line ∈ others, '\n' ∉ line ∧ '\r' ∉ line) →
      others.length = ends.length + 1 → Apart others ends → weave others ends = text.toList →
      others = view.lines) ∧
    (lineRanges text).length = view.lines.length ∧
    (∀ range ∈ lineRanges text,
      IsBoundary text.toList range.1 ∧ IsBoundary text.toList range.2) ∧
    ∀ index, view.line? index = view.lines[index]? ∧
      view.line? index = (lineRanges text)[index]?.bind (between? text.toList) ∧
      (view.line? index = none ↔ view.lines.length ≤ index) := by
  intro view
  have consists : Consists text.toList view.lines (terminators text.toList) :=
    consists_lines text.toList
  have spans : List.Forall₂ (Spans text.toList) view.lines (lineRanges text) :=
    forall₂_lineRanges text
  obtain ⟨length, free, apart, same⟩ := consists_iff.mp consists
  have inside : ∀ line ∈ view.lines, '\n' ∉ line ∧ '\r' ∉ line :=
    fun line listed => free_iff.mp (free line listed)
  refine ⟨inside, ⟨terminators text.toList, ⟨length, apart, same⟩, ?_⟩, ?_, spans.length_eq.symm,
    isBoundary_of_spans spans,
    fun index => ⟨rfl, getElem?_of_spans spans index, List.getElem?_eq_none_iff⟩⟩
  · rintro ends ⟨number, distant, woven⟩
    exact (consists_iff.mpr ⟨number, free, distant, woven⟩).unique.2.symm
  · intro others ends within number distant woven
    have listed : ∀ line ∈ others, ∀ c ∈ line, ¬ EndsLine c :=
      fun line member => free_iff.mpr (within line member)
    exact (consists_iff.mpr ⟨number, listed, distant, woven⟩).unique.1.symm

/-- Terminators of all three kinds, with a carriage return right behind a pair and a character of
four bytes in front of a line feed. -/
theorem lines_lossless_mixed :
    let text := "a\r\n\rb👌\n"
    let others := ["a".toList, [], "b👌".toList, []]
    let ends := [Terminator.pair, Terminator.back, Terminator.feed]
    (∀ line ∈ others, '\n' ∉ line ∧ '\r' ∉ line) ∧ others.length = ends.length + 1 ∧
      Apart others ends ∧ weave others ends = text.toList ∧
      others = (View.ofString text).lines ∧
      (4, 9) ∈ lineRanges text ∧ IsBoundary text.toList 4 ∧ IsBoundary text.toList 9 := by
  intro text others ends
  obtain ⟨-, -, only, -, boundaries, -⟩ := lines_lossless text
  have inside : ∀ line ∈ others, '\n' ∉ line ∧ '\r' ∉ line := by decide
  have apart : Apart others ends := ⟨nofun, fun _ => by decide, nofun, trivial⟩
  have woven : weave others ends = text.toList := by decide
  have recorded : (4, 9) ∈ lineRanges text := by decide
  exact ⟨inside, rfl, apart, woven, only others ends inside rfl apart woven, recorded,
    boundaries (4, 9) recorded⟩

end SourceTrace.Text
