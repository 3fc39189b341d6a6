import Mathlib.Data.List.Nodup
import SourceTrace.Check.Coverage
import SourceTrace.Proofs.Compose.Assembly
import SourceTrace.Proofs.Document.Directions
import SourceTrace.Proofs.Text.Lines
import SourceTrace.Proofs.Text.Split

/-!
# What the check of the coverage decides

The check looks up one column of a line, the first one of its code, and then only looks for unmapped
segments. That is enough to know about every column: between two columns the segment that is found
changes only where another one starts.
-/
namespace SourceTrace

/-- The line that a failure is about stands at the beginning of its message. -/
def Failure.IsAbout (failure : Failure) (line : Nat) : Prop :=
  ∃ rest, failure.message = s!"line {line} " ++ rest

theorem Failure.IsAbout.digits {failure : Failure} {line : Nat} (about : failure.IsAbout line) :
    (failure.message.toList.drop 5).takeWhile Char.isDigit = Nat.toDigits 10 line := by
  obtain ⟨rest, message⟩ := about
  have text : failure.message.toList.drop 5 = Nat.toDigits 10 line ++ ' ' :: rest.toList := by
    rw [message]
    simp [toString]
  have digits : ∀ c ∈ Nat.toDigits 10 line, c.isDigit = true := fun c =>
    Nat.isDigit_of_mem_toDigits (by decide) (by decide)
  rw [text, List.takeWhile_append_of_pos digits, List.takeWhile_cons_of_neg (by decide),
    List.append_nil]

/-- A failure is about one line at most. -/
theorem Failure.IsAbout.unique {failure : Failure} {line other : Nat}
    (about : failure.IsAbout line) (again : failure.IsAbout other) : line = other := by
  rw [← Nat.ofDigitChars_toDigits (b := 10) (n := line) (by decide) (by decide), ← about.digits,
    again.digits, Nat.ofDigitChars_toDigits (by decide) (by decide)]

namespace Document

/-- Every column of a line from `first` up to `stop` has a source position. -/
def Covers (doc : Document) (line first stop : Nat) : Prop :=
  ∀ column, first ≤ column → column < stop → (doc.lookup? line column).isSome

variable {doc : Document} {line column : Nat} {found : Segment}

/-- In a document that lists its sources, a segment leads nowhere only if it is unmapped. -/
theorem lookup?_isSome_of_closed (closed : Compose.Closed doc)
    (hit : doc.segmentAt? line column = some found) (mapped : found.isUnmapped = false) :
    (doc.lookup? line column).isSome := by
  obtain ⟨id, source⟩ : ∃ id, found.source = some id := by
    simpa [Segment.isUnmapped, Option.isSome_iff_exists] using mapped
  have listed : id < doc.sources.length := closed found (mem_of_segmentAt? hit) id source
  simp [lookup?, hit, sourcePosition?, segmentSource?, source, source?, listed]

theorem lookup?_eq_none_of_unmapped (hit : doc.segmentAt? line column = some found)
    (unmapped : found.isUnmapped = true) : doc.lookup? line column = none := by
  have source : found.source = none := by simpa [Segment.isUnmapped] using unmapped
  simp [lookup?, hit, sourcePosition?, segmentSource?, source]

/-- What is mapped at a column stays mapped up to the next unmapped segment. -/
theorem InOrder.covers_of_lookup? (order : doc.InOrder) (closed : Compose.Closed doc)
    {first stop : Nat} (start : (doc.lookup? line first).isSome)
    (mapped : ∀ segment ∈ doc.lineSegments line, first ≤ segment.column → segment.column < stop →
      segment.isUnmapped = false) : doc.Covers line first stop := by
  intro column reached inside
  obtain ⟨leading, hit⟩ : ∃ leading, doc.segmentAt? line first = some leading := by
    cases hit : doc.segmentAt? line first with
    | none => simp [lookup?, hit] at start
    | some leading => exact ⟨leading, rfl⟩
  have some : (doc.segmentAt? line column).isSome := by
    obtain ⟨line_eq, column_le, -⟩ := order.exists_of_segmentAt? hit
    rw [order.segmentAt?_eq, List.getLast?_isSome]
    refine List.ne_nil_of_mem (List.mem_filter.mpr ⟨mem_of_segmentAt? hit, ?_⟩)
    simp only [line_eq, beq_self_eq_true, Bool.true_and, decide_eq_true_eq]
    omega
  obtain ⟨found, here⟩ := Option.isSome_iff_exists.mp some
  obtain ⟨line_eq, column_le, -⟩ := order.exists_of_segmentAt? here
  by_cases earlier : found.column ≤ first
  · have same := order.segmentAt?_between here earlier reached
    rwa [lookup?, here, ← same]
  · have listed : found ∈ doc.lineSegments line := by
      rw [order.lineSegments_eq]
      exact List.mem_filter.mpr ⟨mem_of_segmentAt? here, by simp [line_eq]⟩
    exact lookup?_isSome_of_closed closed here (mapped found listed (by omega) (by omega))

/-- Where an unmapped segment starts without another one, nothing is mapped. -/
theorem InOrder.lookup?_eq_none_of_mem (order : doc.InOrder)
    (apart : ((doc.lineSegments line).map Segment.column).Nodup) {segment : Segment}
    (listed : segment ∈ doc.lineSegments line) (unmapped : segment.isUnmapped = true) :
    doc.lookup? line segment.column = none := by
  have inLine : ∀ other, other ∈ doc.lineSegments line ↔
      other ∈ doc.segments ∧ other.line = line := by
    simp [order.lineSegments_eq]
  obtain ⟨member, rfl⟩ := (inLine segment).mp listed
  refine lookup?_eq_none_of_unmapped (order.segmentAt?_of_alone member ?_) unmapped
  intro other otherMember together
  simp only [Segment.place, GeneratedPosition.mk.injEq] at together
  exact List.inj_on_of_nodup_map apart ((inLine other).mpr ⟨otherMember, together.1⟩) listed
    together.2

end Document

namespace Check

variable {doc : Document} {index : Nat} {isOpen : Bool} {line before code : List Char}

/-- Whether a comment is open behind some lines, as the check carries it from line to line. -/
def carried (isOpen : Bool) (lines : List (List Char)) : Bool :=
  lines.foldl (fun isOpen line => (codeStart isOpen line).2) isOpen

/-- Where the check cuts a line of a text, if it sees code there. -/
def codeAt? (isOpen : Bool) (lines : List (List Char)) (index : Nat) :
    Option (List Char × List Char) :=
  lines[index]?.bind fun line => (codeStart (carried isOpen (lines.take index)) line).1

/-- What the check has to say about a line of a text. -/
def report? (doc : Document) (offset : Nat) (isOpen : Bool) (lines : List (List Char))
    (index : Nat) : Option Failure :=
  (codeAt? isOpen lines index).bind fun (before, code) =>
    lineCoverage doc (offset + index) before code

theorem coverageFrom_cons (doc : Document) (offset : Nat) (isOpen : Bool) (line : List Char)
    (rest : List (List Char)) : coverageFrom doc offset isOpen (line :: rest) =
      (report? doc offset isOpen (line :: rest) 0).toList ++
        coverageFrom doc (offset + 1) (codeStart isOpen line).2 rest := rfl

theorem report?_succ (doc : Document) (offset : Nat) (isOpen : Bool) (line : List Char)
    (rest : List (List Char)) (index : Nat) : report? doc offset isOpen (line :: rest) (index + 1) =
      report? doc (offset + 1) (codeStart isOpen line).2 rest index := by
  simp only [report?, Nat.add_right_comm offset 1 index, ← Nat.add_assoc]
  rfl

theorem coverageFrom_eq (doc : Document) (offset : Nat) (isOpen : Bool)
    (lines : List (List Char)) : coverageFrom doc offset isOpen lines =
      (List.range lines.length).filterMap (report? doc offset isOpen lines) := by
  induction lines generalizing offset isOpen with
  | nil => rfl
  | cons line rest ih =>
    have later : report? doc offset isOpen (line :: rest) ∘ Nat.succ =
        report? doc (offset + 1) (codeStart isOpen line).2 rest :=
      funext fun index => report?_succ doc offset isOpen line rest index
    rw [coverageFrom_cons, ih, List.length_cons, List.range_succ_eq_map, List.filterMap_cons,
      List.filterMap_map, later]
    cases report? doc offset isOpen (line :: rest) 0 with
    | none => rfl
    | some failure => rfl

theorem passComments_append (fuel : Nat) (text : List Char) :
    (passComments fuel text).1 ++ (passComments fuel text).2 = text := by
  induction fuel generalizing text with
  | zero => exact List.takeWhile_append_dropWhile
  | succ fuel ih =>
    unfold passComments
    dsimp only
    split
    · next inner rest passed =>
      obtain ⟨behind, opens, closes⟩ := Option.bind_eq_some_iff.mp passed
      have comment : text.dropWhile Text.isBlank = "/*".toList ++ inner ++ "*/".toList ++ rest := by
        rw [(Text.after?_eq_some_iff _ _ _).mp opens, Text.eq_append_of_cutAt? closes]
        simp
      rw [List.append_assoc, ih rest]
      conv => rhs; rw [← List.takeWhile_append_dropWhile (p := Text.isBlank) (l := text), comment]
      simp
    · exact List.takeWhile_append_dropWhile

theorem eq_append_of_passOpenComment {opened rest : List Char}
    (passes : passOpenComment isOpen line = some (opened, rest)) : line = opened ++ rest := by
  cases isOpen with
  | false =>
    cases passes
    rfl
  | true =>
    obtain ⟨⟨inner, behind⟩, closes, same⟩ := Option.map_eq_some_iff.mp passes
    cases same
    exact Text.eq_append_of_cutAt? closes

/-- The check cuts a line where its code starts, and loses nothing. -/
theorem eq_append_of_codeStart (cut : (codeStart isOpen line).1 = some (before, code)) :
    line = before ++ code ∧ code ≠ [] := by
  unfold codeStart at cut
  split at cut
  · cases cut
  · next opened rest passes =>
    have passed := passComments_append rest.length rest
    dsimp only at cut
    split at cut
    · cases cut
    · split at cut
      · cases cut
      · next plain =>
        cases cut
        refine ⟨?_, ?_⟩
        · rw [eq_append_of_passOpenComment passes, List.append_assoc, passed]
        · intro empty
          simp [empty] at plain

theorem isAbout_of_lineCoverage {failure : Failure}
    (reported : lineCoverage doc index before code = some failure) : failure.IsAbout index := by
  unfold lineCoverage at reported
  dsimp only at reported
  split at reported
  · cases reported
    refine ⟨s!"is not mapped at column {Text.units before}", String.toList_inj.mp ?_⟩
    simp [Failure.of, Failure.observing, toString]
  · obtain ⟨segment, -, rfl⟩ := Option.map_eq_some_iff.mp reported
    refine ⟨s!"loses its mapping at column {segment.column}", String.toList_inj.mp ?_⟩
    simp [Failure.of, Failure.observing, toString]

/-- Where nothing is wrong with a line, all of its code is mapped. -/
theorem covers_of_lineCoverage_eq_none (order : doc.InOrder) (closed : Compose.Closed doc)
    (fine : lineCoverage doc index before code = none) :
    doc.Covers index (Text.units before) (Text.units (before ++ code)) := by
  unfold lineCoverage at fine
  dsimp only at fine
  split at fine
  · cases fine
  · next mapped =>
    have start : (doc.lookup? index (Text.units before)).isSome := by
      simpa [Option.isSome_iff_ne_none] using mapped
    refine order.covers_of_lookup? closed start ?_
    intro segment listed reached inside
    have goesOn := List.find?_eq_none.mp (Option.map_eq_none_iff.mp fine) segment listed
    simpa [reached, inside] using goesOn

/-- Where something is wrong with a line, a column of its code is not mapped. -/
theorem exists_of_lineCoverage {failure : Failure} (order : doc.InOrder)
    (apart : ((doc.lineSegments index).map Segment.column).Nodup) (filled : code ≠ [])
    (reported : lineCoverage doc index before code = some failure) :
    ∃ column, Text.units before ≤ column ∧ column < Text.units (before ++ code) ∧
      doc.lookup? index column = none := by
  unfold lineCoverage at reported
  dsimp only at reported
  split at reported
  · next nowhere =>
    have wide := Text.units_pos filled
    refine ⟨Text.units before, Nat.le_refl _, ?_, by simpa using nowhere⟩
    rw [Text.units_append]
    omega
  · obtain ⟨segment, found, -⟩ := Option.map_eq_some_iff.mp reported
    have ends := List.find?_some found
    simp only [Bool.and_eq_true, decide_eq_true_eq] at ends
    obtain ⟨⟨unmapped, reached⟩, inside⟩ := ends
    exact ⟨segment.column, reached, inside,
      order.lookup?_eq_none_of_mem apart (List.mem_of_find?_eq_some found) unmapped⟩

/-- Some failures report a line. -/
def Reports (failures : List Failure) (index : Nat) : Prop :=
  ∃ failure ∈ failures, failure.IsAbout index

theorem report?_eq_some_iff {lines : List (List Char)} {failure : Failure} :
    report? doc 0 isOpen lines index = some failure ↔
      ∃ before code, codeAt? isOpen lines index = some (before, code) ∧
        lineCoverage doc index before code = some failure := by
  simp [report?, Option.bind_eq_some_iff]

/-- What the check reports about a line is what is wrong with its code. -/
theorem reports_coverage_iff {text : String} :
    Reports (coverage text doc) index ↔
      ∃ before code, codeAt? false (Text.lines text.toList) index = some (before, code) ∧
        (lineCoverage doc index before code).isSome := by
  simp only [Reports, coverage, coverageFrom_eq, List.mem_filterMap, List.mem_range,
    report?_eq_some_iff]
  constructor
  · rintro ⟨failure, ⟨other, -, before, code, cut, reported⟩, about⟩
    obtain rfl := (isAbout_of_lineCoverage reported).unique about
    exact ⟨before, code, cut, by simp [reported]⟩
  · rintro ⟨before, code, cut, wrong⟩
    obtain ⟨failure, reported⟩ := Option.isSome_iff_exists.mp wrong
    obtain ⟨line, listed, -⟩ := Option.bind_eq_some_iff.mp cut
    exact ⟨failure, ⟨index, (List.getElem?_eq_some_iff.mp listed).1, before, code, cut, reported⟩,
      isAbout_of_lineCoverage reported⟩

/-- What a function keeps of a list corresponds to the elements that it keeps something of. -/
theorem forall₂_filterMap {α β : Type} {f : α → Option β} {R : β → α → Prop}
    (related : ∀ a b, f a = some b → R b a) (list : List α) :
    List.Forall₂ R (list.filterMap f) (list.filter fun a => (f a).isSome) := by
  induction list with
  | nil => exact .nil
  | cons a rest ih =>
    cases kept : f a with
    | none => rwa [List.filterMap_cons_none kept, List.filter_cons_of_neg (by simp [kept])]
    | some b =>
      rw [List.filterMap_cons_some kept, List.filter_cons_of_pos (by simp [kept])]
      exact .cons (related a b kept) ih

/-- The check reports lines of code in ascending order, each at most once. It reports no line all of
whose code is mapped, and if no two segments of the line start together, it reports every line with
a column in its code that is not mapped. -/
theorem coverage_decides (order : doc.InOrder) (closed : Compose.Closed doc) (text : String) :
    let lines := Text.lines text.toList
    (∃ indexes : List Nat, indexes.Pairwise (· < ·) ∧
      List.Forall₂ (fun failure index => failure.IsAbout index ∧
        (codeAt? false lines index).isSome) (coverage text doc) indexes) ∧
    ∀ index line before code, lines[index]? = some line →
      codeAt? false lines index = some (before, code) →
      (¬ Reports (coverage text doc) index →
        doc.Covers index (Text.units before) (Text.units line)) ∧
      (((doc.lineSegments index).map Segment.column).Nodup → Reports (coverage text doc) index →
        ∃ column, Text.units before ≤ column ∧ column < Text.units line ∧
          doc.lookup? index column = none) := by
  intro lines
  constructor
  · rw [coverage, coverageFrom_eq]
    refine ⟨_, ?_, forall₂_filterMap (fun index failure reported => ?_) _⟩
    · exact List.Pairwise.filter _ List.pairwise_lt_range
    · obtain ⟨before, code, cut, wrong⟩ := report?_eq_some_iff.mp reported
      exact ⟨isAbout_of_lineCoverage wrong, by simp [lines, cut]⟩
  · intro index line before code listed cut
    have start : (codeStart (carried false (lines.take index)) line).1 = some (before, code) := by
      rwa [codeAt?, listed] at cut
    obtain ⟨rfl, filled⟩ := eq_append_of_codeStart start
    constructor
    · intro silent
      refine covers_of_lineCoverage_eq_none order closed (Option.not_isSome_iff_eq_none.mp ?_)
      exact fun wrong => silent (reports_coverage_iff.mpr ⟨before, code, cut, wrong⟩)
    · intro apart reported
      obtain ⟨front, rest, sameCut, wrong⟩ := reports_coverage_iff.mp reported
      cases cut.symm.trans sameCut
      obtain ⟨failure, here⟩ := Option.isSome_iff_exists.mp wrong
      exact exists_of_lineCoverage order apart filled here

/-- A line of code behind a comment with a wide character, and a line that loses its mapping. -/
theorem coverage_decides_wide :
    let doc := Document.ofParts none [⟨0, 6, 0, 0, some 0, none⟩, ⟨1, 0, 1, 0, some 0, none⟩,
      ⟨1, 2, 0, 0, none, none⟩] [] ["a.js"] none
    doc.Covers 0 7 9 ∧ ∃ column, 0 ≤ column ∧ column < 4 ∧ doc.lookup? 1 column = none := by
  intro doc
  have closed : Compose.Closed doc := by
    unfold Compose.Closed
    decide
  have order : doc.InOrder := Document.ofParts_inOrder _ _ _ _ _
  have reported : coverage "/*😀*/ ab\ncd e" doc =
      [⟨.coverage, "line 1 loses its mapping at column 2", none, some " e", none⟩] := by
    decide +kernel
  have about : ∀ failure ∈ coverage "/*😀*/ ab\ncd e" doc, failure.IsAbout 1 := by
    rw [reported]
    rintro failure member
    cases List.mem_singleton.mp member
    exact ⟨"loses its mapping at column 2", rfl⟩
  have decides := (coverage_decides order closed "/*😀*/ ab\ncd e").2
  constructor
  · refine (decides 0 "/*😀*/ ab".toList "/*😀*/ ".toList "ab".toList rfl rfl).1 ?_
    rintro ⟨failure, member, first⟩
    exact absurd (first.unique (about failure member)) (by decide)
  · refine (decides 1 "cd e".toList [] "cd e".toList rfl rfl).2 (by decide) ?_
    rw [Reports, reported]
    exact ⟨_, List.mem_singleton_self _, "loses its mapping at column 2", rfl⟩

end Check

end SourceTrace
