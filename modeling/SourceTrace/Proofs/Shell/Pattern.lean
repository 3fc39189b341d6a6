import Mathlib.Data.List.Basic
import SourceTrace.Shell.Pattern

/-!
# What patterns match

A pattern is compared with a text by trying every way to take characters for a star. Beside that
stands what a pattern means, one rule for each kind of element, and the test decides it. Taking away
what a pattern matches at an end of a text then has a description that does not mention how the cut
is found.
-/
namespace SourceTrace.Shell

/-- When an element that takes one character takes this one. -/
def Matcher.Takes : Matcher → Char → Prop
  | .exact c, d => c = d
  | .any, _ => True
  | .many, _ => False
  | .oneOf outside ranges, c =>
    outside = false ↔ ∃ first last, (first, last) ∈ ranges ∧ first ≤ c ∧ c ≤ last

namespace Pattern

/-- When a pattern matches a whole text. -/
inductive Matches : List Matcher → List Char → Prop where
  | nil : Matches [] []
  | one {matcher : Matcher} {pattern : List Matcher} {c : Char} {text : List Char}
      (taken : matcher.Takes c) (rest : Matches pattern text) :
      Matches (matcher :: pattern) (c :: text)
  | many {pattern : List Matcher} {text left : List Char} (kept : left <:+ text)
      (rest : Matches pattern left) : Matches (.many :: pattern) text

theorem mem_suffixes_iff {text left : List Char} : left ∈ suffixes text ↔ left <:+ text := by
  induction text with
  | nil => simp [suffixes]
  | cons c rest ih => rw [suffixes, List.mem_cons, ih, List.suffix_cons_iff]

theorem matches_many_iff {pattern : List Matcher} {text : List Char} :
    Matches (.many :: pattern) text ↔ ∃ left, left <:+ text ∧ Matches pattern left := by
  constructor
  · intro found
    cases found with
    | one taken _ => exact absurd taken id
    | many kept rest => exact ⟨_, kept, rest⟩
  · rintro ⟨left, kept, rest⟩
    exact .many kept rest

theorem matches_one_iff {matcher : Matcher} (single : matcher ≠ .many) {pattern : List Matcher}
    {c : Char} {text : List Char} :
    Matches (matcher :: pattern) (c :: text) ↔ matcher.Takes c ∧ Matches pattern text := by
  constructor
  · intro found
    cases found with
    | one taken rest => exact ⟨taken, rest⟩
    | many => exact absurd rfl single
  · rintro ⟨taken, rest⟩
    exact .one taken rest

theorem not_matches_nil {matcher : Matcher} (single : matcher ≠ .many) {pattern : List Matcher} :
    ¬ Matches (matcher :: pattern) [] := by
  intro found
  cases found
  exact single rfl

/-- The test decides what a pattern means. -/
theorem covers_iff {pattern : List Matcher} {text : List Char} :
    covers pattern text = true ↔ Matches pattern text := by
  induction pattern generalizing text with
  | nil =>
    cases text with
    | nil => simp [covers, Matches.nil]
    | cons c rest =>
      have none : ¬ Matches [] (c :: rest) := fun found => nomatch found
      simp [covers, none]
  | cons matcher pattern ih =>
    cases matcher with
    | many =>
      rw [covers, List.any_eq_true, matches_many_iff]
      simp only [mem_suffixes_iff, ih]
    | exact d =>
      cases text with
      | nil => simp [covers, not_matches_nil]
      | cons c rest => simp [covers, matches_one_iff, Matcher.Takes, ih]
    | any =>
      cases text with
      | nil => simp [covers, not_matches_nil]
      | cons c rest => simp [covers, matches_one_iff, Matcher.Takes, ih]
    | oneOf outside ranges =>
      cases text with
      | nil => simp [covers, not_matches_nil]
      | cons c rest =>
        rw [covers, Bool.and_eq_true, ih, matches_one_iff (by simp)]
        cases outside <;> simp [Matcher.Takes]

/-- What two patterns match one behind the other is what the patterns match together. -/
theorem matches_append_iff {first second : List Matcher} {text : List Char} :
    Matches (first ++ second) text
      ↔ ∃ front back, text = front ++ back ∧ Matches first front ∧ Matches second back := by
  constructor
  · intro found
    induction first generalizing text with
    | nil => exact ⟨[], text, rfl, .nil, found⟩
    | cons matcher first ih =>
      cases found with
      | one taken rest =>
        obtain ⟨front, back, rfl, matched, left⟩ := ih rest
        exact ⟨_ :: front, back, rfl, .one taken matched, left⟩
      | many kept rest =>
        obtain ⟨taken, rfl⟩ := kept
        obtain ⟨front, back, rfl, matched, left⟩ := ih rest
        exact ⟨taken ++ front, back, (List.append_assoc ..).symm,
          .many (List.suffix_append taken front) matched, left⟩
  · rintro ⟨front, back, rfl, matched, left⟩
    induction matched with
    | nil => exact left
    | one taken _ ih => exact .one taken ih
    | many kept _ ih =>
      obtain ⟨taken, rfl⟩ := kept
      exact .many ⟨taken, (List.append_assoc ..).symm⟩ ih

section Plain

/-- Glyphs without anything open become a pattern of their characters. -/
theorem within_plain {fuel : Nat} {glyphs : List Glyph} (enough : glyphs.length ≤ fuel)
    (plain : isOpen glyphs = false) :
    within fuel glyphs = glyphs.map fun glyph => .exact glyph.char := by
  induction fuel generalizing glyphs with
  | zero => rw [List.length_eq_zero_iff.mp (Nat.le_zero.mp enough), within, List.map_nil]
  | succ fuel ih =>
    cases glyphs with
    | nil => rw [within, List.map_nil]; exact fun h => nomatch h
    | cons glyph rest =>
      rw [isOpen, List.any_cons, Bool.or_eq_false_iff] at plain
      have tail := ih (Nat.le_of_succ_le_succ enough) plain.2
      have closed : glyph.isQuoted = true
          ∨ glyph.char ≠ '*' ∧ glyph.char ≠ '?' ∧ glyph.char ≠ '[' := by
        simpa [or_iff_not_imp_left] using plain.1
      rw [within, List.map_cons, tail]
      rcases closed with quoted | ⟨star, question, bracket⟩
      · rw [if_pos quoted]
      · rw [if_neg star, if_neg question, if_neg bracket, ite_self]

theorem matches_exact_iff {letters text : List Char} :
    Matches (letters.map .exact) text ↔ text = letters := by
  induction letters generalizing text with
  | nil =>
    constructor
    · intro found
      cases found
      rfl
    · rintro rfl
      exact .nil
  | cons c letters ih =>
    cases text with
    | nil => simp [not_matches_nil]
    | cons d rest =>
      rw [List.map_cons, matches_one_iff (by simp), ih]
      simp [Matcher.Takes, eq_comm]

/-- Quoted characters and those that mean no more than themselves match their own text alone. -/
theorem covers_plain_iff {glyphs : List Glyph} (plain : isOpen glyphs = false) {text : List Char} :
    covers (ofGlyphs glyphs) text = true ↔ text = glyphs.map Glyph.char := by
  have letters : ofGlyphs glyphs = (glyphs.map Glyph.char).map .exact := by
    rw [ofGlyphs, within_plain (Nat.le_refl _) plain, List.map_map]
    rfl
  rw [covers_iff, letters, matches_exact_iff]

example : covers (ofGlyphs [⟨'a', false⟩, ⟨'*', true⟩]) ['a', '*'] = true := by decide

end Plain

section Cutting

variable {pattern : List Matcher} {text : List Char}

theorem mem_cuts_iff {first second : List Char} :
    (first, second) ∈ cuts text ↔ first ++ second = text := by
  induction text generalizing first with
  | nil => simp [cuts]
  | cons c rest ih =>
    cases first with
    | nil => simp [cuts]
    | cons d first => simp [cuts, ih, and_comm, eq_comm]

theorem cuts_sorted : (cuts text).Pairwise fun cut later => cut.1.length < later.1.length := by
  induction text with
  | nil => simp [cuts]
  | cons c rest ih =>
    rw [cuts, List.pairwise_cons]
    constructor
    · intro later member
      obtain ⟨cut, -, rfl⟩ := List.mem_map.mp member
      exact Nat.succ_pos _
    · simpa [List.pairwise_map] using ih

/-- A part among others that none of them is longer, or shorter, than. -/
structure IsOutermost (longest : Bool) (parts : List Char → Prop) (part : List Char) : Prop where
  among : parts part
  outermost : ∀ other, parts other →
    if longest then other.length ≤ part.length else part.length ≤ other.length

theorem outer_spec {cuts : List (List Char × List Char)}
    (sorted : cuts.Pairwise fun cut later => cut.1.length < later.1.length) {isLast : Bool}
    {cut : List Char × List Char}
    (found : (if isLast then cuts.getLast? else cuts.head?) = some cut) :
    cut ∈ cuts ∧ ∀ other ∈ cuts,
      if isLast then other.1.length ≤ cut.1.length else cut.1.length ≤ other.1.length := by
  cases isLast with
  | true =>
    obtain ⟨others, rfl⟩ := List.getLast?_eq_some_iff.mp found
    refine ⟨List.mem_append_right _ (List.mem_singleton_self cut), fun other member => ?_⟩
    rcases List.mem_append.mp member with earlier | same
    · exact Nat.le_of_lt ((List.pairwise_append.mp sorted).2.2 other earlier cut (by simp))
    · exact Nat.le_of_eq (by rw [List.mem_singleton.mp same])
  | false =>
    obtain ⟨others, rfl⟩ := List.head?_eq_some_iff.mp found
    refine ⟨List.mem_cons_self, fun other member => ?_⟩
    rcases List.mem_cons.mp member with rfl | later
    · exact Nat.le_refl _
    · exact Nat.le_of_lt ((List.pairwise_cons.mp sorted).1 other later)

theorem outer_eq_none {cuts : List (List Char × List Char)} {isLast : Bool}
    (missing : (if isLast then cuts.getLast? else cuts.head?) = none) : cuts = [] := by
  cases isLast with
  | true => exact List.getLast?_eq_none_iff.mp missing
  | false => exact List.head?_eq_none_iff.mp missing

section Choosing

variable (side : List Char × List Char → List Char) {isLast : Bool}

theorem mem_covered_iff {first second : List Char} :
    (first, second) ∈ (cuts text).filter (fun cut => covers pattern (side cut))
      ↔ first ++ second = text ∧ Matches pattern (side (first, second)) := by
  rw [List.mem_filter, mem_cuts_iff, covers_iff]

/-- The cut that is chosen is one of those whose side the pattern matches, and the outermost. -/
theorem chosen_cut {cut : List Char × List Char}
    (found : (if isLast then ((cuts text).filter fun cut => covers pattern (side cut)).getLast?
      else ((cuts text).filter fun cut => covers pattern (side cut)).head?) = some cut) :
    cut.1 ++ cut.2 = text ∧ Matches pattern (side cut) ∧
      ∀ first second, first ++ second = text → Matches pattern (side (first, second)) →
        if isLast then first.length ≤ cut.1.length else cut.1.length ≤ first.length := by
  obtain ⟨member, outermost⟩ := outer_spec (cuts_sorted.filter _) found
  obtain ⟨whole, matched⟩ := (mem_covered_iff side).mp member
  exact ⟨whole, matched, fun first second same otherMatched =>
    outermost (first, second) ((mem_covered_iff side).mpr ⟨same, otherMatched⟩)⟩

theorem no_cut
    (missing : (if isLast then ((cuts text).filter fun cut => covers pattern (side cut)).getLast?
      else ((cuts text).filter fun cut => covers pattern (side cut)).head?) = none)
    {first second : List Char} (whole : first ++ second = text) :
    ¬ Matches pattern (side (first, second)) := by
  intro matched
  have member := (mem_covered_iff side).mpr ⟨whole, matched⟩
  rw [outer_eq_none missing] at member
  exact List.not_mem_nil member

end Choosing

/-- In front goes the longest, or the shortest, part that the pattern matches there, and nothing if
it matches none. -/
theorem dropStart_spec (longest : Bool) (pattern : List Matcher) (text : List Char) :
    (∃ front, front ++ dropStart longest pattern text = text
        ∧ IsOutermost longest (fun part => part <+: text ∧ Matches pattern part) front)
      ∨ dropStart longest pattern text = text
        ∧ ∀ part, part <+: text → ¬ Matches pattern part := by
  rw [dropStart]
  split
  next front rest found =>
    obtain ⟨whole, matched, outermost⟩ := chosen_cut Prod.fst found
    refine .inl ⟨front, whole, ⟨⟨rest, whole⟩, matched⟩, ?_⟩
    rintro other ⟨⟨left, same⟩, otherMatched⟩
    exact outermost other left same otherMatched
  next missing =>
    refine .inr ⟨rfl, ?_⟩
    rintro part ⟨left, same⟩
    exact no_cut Prod.fst missing same

/-- At the end goes the longest, or the shortest, part that the pattern matches there, and nothing
if it matches none. -/
theorem dropEnd_spec (longest : Bool) (pattern : List Matcher) (text : List Char) :
    (∃ back, dropEnd longest pattern text ++ back = text
        ∧ IsOutermost longest (fun part => part <:+ text ∧ Matches pattern part) back)
      ∨ dropEnd longest pattern text = text
        ∧ ∀ part, part <:+ text → ¬ Matches pattern part := by
  -- A longer part at the end leaves a shorter one in front, so that the ends of the list swap.
  have swapped {cuts : List (List Char × List Char)} :
      (if longest then cuts.head? else cuts.getLast?)
        = if !longest then cuts.getLast? else cuts.head? := by
    cases longest <;> rfl
  rw [dropEnd, swapped]
  split
  next front back found =>
    obtain ⟨whole, matched, outermost⟩ := chosen_cut Prod.snd found
    refine .inl ⟨back, whole, ⟨⟨front, whole⟩, matched⟩, ?_⟩
    rintro other ⟨⟨left, same⟩, otherMatched⟩
    have inner := outermost left other same otherMatched
    have whole : front ++ back = text := whole
    have lengths := congrArg List.length (whole.trans same.symm)
    rw [List.length_append, List.length_append] at lengths
    cases longest with
    | true =>
      have inner : front.length ≤ left.length := inner
      change other.length ≤ back.length
      omega
    | false =>
      have inner : left.length ≤ front.length := inner
      change back.length ≤ other.length
      omega
  next missing =>
    refine .inr ⟨rfl, ?_⟩
    rintro part ⟨left, same⟩
    exact no_cut Prod.snd missing same

end Cutting

end Pattern

end SourceTrace.Shell
