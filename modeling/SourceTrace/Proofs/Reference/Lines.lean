import SourceTrace.Artifact
import SourceTrace.Proofs.Text.Split
import SourceTrace.Proofs.Text.Trim

/-!
# The line of a reference

The lines of a text can be looked at with or without the line feeds they end with; for references
this makes no difference. The text in front of a reference therefore consists of whole lines, and a
reference that is written on a line of its own behind whole lines is the one that is found again,
with exactly those lines in front of it.
-/
namespace SourceTrace

namespace Text

/-- A text of whole lines: it is empty or ends with a line feed. -/
def Whole (text : List Char) : Prop := text = [] ∨ ∃ front, text = front ++ ['\n']

theorem Whole.of_cons {c : Char} {rest : List Char} (whole : Whole (c :: rest))
    (other : c ≠ '\n' ∨ rest ≠ []) : rest ≠ [] ∧ Whole rest := by
  obtain none | ⟨front, same⟩ := whole
  · cases none
  · cases front with
    | nil =>
      cases same
      simp at other
    | cons d front =>
      cases same
      exact ⟨by simp, .inr ⟨front, rfl⟩⟩

end Text

namespace Reference

open Text (Whole)

/-- A line feed at the end of a line does not matter. -/
theorem ofLine?_concat (line : List Char) : ofLine? (line ++ ['\n']) = ofLine? line := by
  rw [ofLine?, Text.trim_concat_blank (by decide), ofLine?]

theorem ofLine?_nil : ofLine? [] = none := by decide

/-- The two ways to cut a text into lines. -/
theorem linesWithEnds_eq (text : List Char) :
    ∃ front last, Text.split (· == '\n') text = front ++ [last] ∧
      linesWithEnds text = front.map (· ++ ['\n']) ++ if last.isEmpty then [] else [last] := by
  fun_induction linesWithEnds text with
  | case1 => exact ⟨[], [], rfl, rfl⟩
  | case2 rest ih =>
    obtain ⟨front, last, pieces, lines⟩ := ih
    exact ⟨[] :: front, last, by simp [Text.split, pieces], by simp [lines]⟩
  | case3 c rest other none ih =>
    have inside : (c == '\n') = false := by simpa using other
    obtain ⟨front, last, pieces, lines⟩ := ih
    rw [none, eq_comm, List.append_eq_nil_iff, List.map_eq_nil_iff] at lines
    obtain ⟨rfl, empty⟩ := lines
    have nothing : last = [] := by simpa using empty
    subst nothing
    exact ⟨[], [c], by simp [Text.split, inside, pieces], rfl⟩
  | case4 c rest other line more some ih =>
    have inside : (c == '\n') = false := by simpa using other
    obtain ⟨front, last, pieces, lines⟩ := ih
    rw [some] at lines
    cases front with
    | nil =>
      cases last with
      | nil => cases lines
      | cons d last =>
        cases lines
        exact ⟨[], c :: d :: last, by simp [Text.split, inside, pieces], rfl⟩
    | cons first front =>
      cases lines
      exact ⟨(c :: first) :: front, last, by simp [Text.split, inside, pieces], by simp⟩

/-- Either way to cut a text finds the same references. -/
theorem filterMap_linesWithEnds (text : List Char) :
    (linesWithEnds text).filterMap ofLine? =
      (Text.split (· == '\n') text).filterMap ofLine? := by
  obtain ⟨front, last, pieces, lines⟩ := linesWithEnds_eq text
  have closed : (front.map (· ++ ['\n'])).filterMap ofLine? = front.filterMap ofLine? := by
    rw [List.filterMap_map]
    exact List.filterMap_congr fun line _ => ofLine?_concat line
  rw [lines, pieces, List.filterMap_append, List.filterMap_append, closed]
  cases last with
  | nil => simp [ofLine?_nil]
  | cons c rest => rfl

/-- Only the last line may lack its line feed, so lines with another one behind them are whole. -/
theorem whole_of_linesWithEnds {text : List Char} {before behind : List (List Char)}
    (lines : linesWithEnds text = before ++ behind) (some : behind ≠ []) :
    Whole before.flatten := by
  obtain ⟨front, last, -, ends⟩ := linesWithEnds_eq text
  rw [lines] at ends
  have positive := List.length_pos_of_ne_nil some
  have short : before.length ≤ (front.map (· ++ ['\n'])).length := by
    have sizes := congrArg List.length ends
    simp only [List.length_append] at sizes
    split at sizes
    · rw [List.length_nil] at sizes
      omega
    · rw [List.length_singleton] at sizes
      omega
  have front_part : before = (front.take before.length).map (· ++ ['\n']) := by
    rw [List.map_take, ← List.take_append_of_le_length short, ← ends, List.take_left]
  rw [front_part]
  obtain none | ⟨others, line, same⟩ := (front.take before.length).eq_nil_or_concat
  · rw [none]
    exact .inl rfl
  · rw [same]
    exact .inr ⟨(others.map (· ++ ['\n'])).flatten ++ line, by simp⟩

theorem flatten_linesWithEnds (text : List Char) : (linesWithEnds text).flatten = text := by
  fun_induction linesWithEnds text with
  | case1 => rfl
  | case2 rest ih => simp [ih]
  | case3 c rest other none ih => simpa [none] using ih
  | case4 c rest other line more some ih => simpa [some] using ih

theorem linesWithEnds_cons {c : Char} (other : c ≠ '\n') {rest line : List Char}
    {more : List (List Char)} (lines : linesWithEnds rest = line :: more) :
    linesWithEnds (c :: rest) = (c :: line) :: more := by
  rw [linesWithEnds, lines]
  exact other

theorem linesWithEnds_append {code : List Char} (whole : Whole code) (rest : List Char) :
    linesWithEnds (code ++ rest) = linesWithEnds code ++ linesWithEnds rest := by
  fun_induction linesWithEnds code with
  | case1 => rfl
  | case2 code ih =>
    have further : Whole code := by
      by_cases none : code = []
      · exact .inl none
      · exact (whole.of_cons (.inr none)).2
    rw [List.cons_append, linesWithEnds, ih further, List.cons_append]
  | case3 c code other none ih =>
    have some := (whole.of_cons (.inl other)).1
    rw [← flatten_linesWithEnds code, none] at some
    simp at some
  | case4 c code other line more some ih =>
    have lines := ih (whole.of_cons (.inl other)).2
    rw [some, List.cons_append] at lines
    exact linesWithEnds_cons other lines

/-- A line without a line feed inside. -/
theorem linesWithEnds_line {line : List Char} (inside : '\n' ∉ line) :
    linesWithEnds (line ++ ['\n']) = [line ++ ['\n']] := by
  induction line with
  | nil => rfl
  | cons c line ih =>
    simp only [List.mem_cons, not_or] at inside
    exact linesWithEnds_cons (Ne.symm inside.1) (ih inside.2)

/-- What is in front of the last reference. -/
theorem linesBefore?_spec {lines before : List (List Char)}
    (found : linesBefore? lines = some before) :
    ∃ line behind, lines = before ++ line :: behind := by
  induction lines generalizing before with
  | nil => cases found
  | cons line rest ih =>
    unfold linesBefore? at found
    split at found
    · next inside =>
      cases found
      obtain ⟨last, behind, same⟩ := ih inside
      exact ⟨last, behind, by rw [same, List.cons_append]⟩
    · split at found
      · cases found
        exact ⟨line, rest, rfl⟩
      · cases found

theorem linesBefore?_eq_none {lines : List (List Char)} (missing : linesBefore? lines = none) :
    lines.filterMap ofLine? = [] := by
  induction lines with
  | nil => rfl
  | cons line rest ih =>
    unfold linesBefore? at missing
    split at missing
    · cases missing
    · next none =>
      split at missing
      · cases missing
      · next other => simp [ih none, Option.not_isSome_iff_eq_none.mp other]

theorem linesBefore?_concat (lines : List (List Char)) {line : List Char}
    (refers : (ofLine? line).isSome) : linesBefore? (lines ++ [line]) = some lines := by
  induction lines with
  | nil => simp [linesBefore?, refers]
  | cons first rest ih => rw [List.cons_append, linesBefore?, ih]

/-- The text in front of a reference consists of whole lines. -/
theorem codeOf_whole {text : String} (referred : (locate? text).isSome) :
    Whole (codeOf text).toList := by
  unfold codeOf
  split
  · next before found =>
    obtain ⟨line, behind, lines⟩ := linesBefore?_spec found
    rw [String.toList_ofList]
    exact whole_of_linesWithEnds lines (by simp)
  · next missing =>
    have none := linesBefore?_eq_none missing
    rw [filterMap_linesWithEnds] at none
    simp [locate?, none] at referred

/-- A reference on a line of its own behind whole lines. -/
theorem locate?_append_line {code line : List Char} {reference : Reference} (whole : Whole code)
    (inside : '\n' ∉ line) (refers : ofLine? line = some reference) :
    locate? (String.ofList (code ++ (line ++ ['\n']))) = some reference := by
  rw [locate?, String.toList_ofList, ← filterMap_linesWithEnds, linesWithEnds_append whole,
    linesWithEnds_line inside, List.filterMap_append]
  simp [ofLine?_concat, refers]

theorem codeOf_append_line {code line : List Char} {reference : Reference} (whole : Whole code)
    (inside : '\n' ∉ line) (refers : ofLine? line = some reference) :
    codeOf (String.ofList (code ++ (line ++ ['\n']))) = String.ofList code := by
  have found : (ofLine? (line ++ ['\n'])).isSome := by simp [ofLine?_concat, refers]
  rw [codeOf, String.toList_ofList, linesWithEnds_append whole, linesWithEnds_line inside,
    linesBefore?_concat _ found]
  dsimp only
  rw [flatten_linesWithEnds]

end Reference

namespace Text

theorem before?_append (front tail : List Char) : before? tail (front ++ tail) = some front := by
  have found : after? tail.reverse (front ++ tail).reverse = some front.reverse :=
    (after?_eq_some_iff _ _ _).mpr List.reverse_append
  rw [before?, found, Option.map_some, List.reverse_reverse]

/-- A text that keeps its place in a line: it is not empty, neither starts nor ends with a blank,
and holds no line feed. -/
structure Solid (text : List Char) : Prop where
  first : ∃ c rest, text = c :: rest ∧ isBlank c = false
  last : ∃ front c, text = front ++ [c] ∧ isBlank c = false
  inside : '\n' ∉ text

theorem Solid.trimEnd {text : List Char} (solid : Solid text) : trimEnd text = text := by
  obtain ⟨front, c, rfl, bare⟩ := solid.last
  exact trimEnd_concat bare front

theorem Solid.trim_concat {text : List Char} (solid : Solid text) :
    trim (text ++ [' ']) = text := by
  obtain ⟨c, rest, same, bare⟩ := solid.first
  rw [trim_concat_blank (by decide), trim, same, trimStart_cons bare, ← same, solid.trimEnd]

theorem solid_of_bare {text : List Char} (some : text ≠ [])
    (bare : ∀ c ∈ text, isBlank c = false) : Solid text := by
  refine ⟨?_, ?_, ?_⟩
  · obtain ⟨c, rest, rfl⟩ := List.exists_cons_of_ne_nil some
    exact ⟨c, rest, rfl, bare c List.mem_cons_self⟩
  · obtain ⟨front, c, same⟩ := text.eq_nil_or_concat.resolve_left some
    exact ⟨front, c, by simpa using same, bare c (by simp [same])⟩
  · intro inside
    have blank := bare '\n' inside
    exact absurd blank (by decide)

end Text

namespace Reference

open Text (Solid)

/-- What stands behind the mark of a comment. -/
theorem after?_key (url : List Char) :
    Text.after? "sourceMappingURL=".toList
      (Text.trimStart (' ' :: "sourceMappingURL=".toList ++ url)) = some url := by
  have trimmed : Text.trimStart (' ' :: "sourceMappingURL=".toList ++ url) =
      "sourceMappingURL=".toList ++ url := rfl
  rw [trimmed]
  exact (Text.after?_eq_some_iff _ _ _).mpr rfl

/-- A comment up to the end of the line. -/
theorem ofLine?_of_lineComment {line url : List Char} (solid : Solid url)
    (trimmed : Text.trim line = "//# sourceMappingURL=".toList ++ url) :
    ofLine? line = some ⟨String.ofList url, false⟩ := by
  have comment : comment? ("//# sourceMappingURL=".toList ++ url) =
      some ('#' :: (' ' :: "sourceMappingURL=".toList ++ url), false) := rfl
  simp only [ofLine?, trimmed, comment, Option.bind_eq_bind, Option.bind_some, after?_key,
    solid.trimEnd]
  rfl

/-- A comment that is closed on the line. -/
theorem ofLine?_of_blockComment {line url : List Char} (solid : Solid url)
    (trimmed : Text.trim line = "/*# sourceMappingURL=".toList ++ url ++ " */".toList) :
    ofLine? line = some ⟨String.ofList url, false⟩ := by
  have close : Text.before? "*/".toList
      ("# sourceMappingURL=".toList ++ (url ++ " */".toList)) =
        some ('#' :: (' ' :: "sourceMappingURL=".toList ++ (url ++ [' ']))) := by
    have body : "# sourceMappingURL=".toList ++ (url ++ " */".toList) =
        '#' :: (' ' :: "sourceMappingURL=".toList ++ (url ++ [' '])) ++ "*/".toList := by simp
    rw [body, Text.before?_append]
  have comment : comment? ("/*# sourceMappingURL=".toList ++ url ++ " */".toList) =
      some ('#' :: (' ' :: "sourceMappingURL=".toList ++ (url ++ [' '])), true) := by
    rw [List.append_assoc]
    change (Text.before? "*/".toList
      ("# sourceMappingURL=".toList ++ (url ++ " */".toList))).map _ = _
    rw [close]
    rfl
  simp only [ofLine?, trimmed, comment, Option.bind_eq_bind, Option.bind_some, after?_key,
    solid.trim_concat]
  rfl

end Reference

namespace Artifact

open Text (Solid)

/-- The line that refers to a map, without its line feed. -/
def referenceText (dest : Path) (url : List Char) : List Char :=
  if isStylesheet dest then "/*# sourceMappingURL=".toList ++ url ++ " */".toList
  else "//# sourceMappingURL=".toList ++ url

theorem toList_referenceLine (dest : Path) (url : String) :
    (referenceLine dest url).toList = referenceText dest url.toList ++ ['\n'] := by
  unfold referenceLine referenceText
  split
  · change ("/*# sourceMappingURL=" ++ url ++ " */\n").toList = _
    simp
  · change ("//# sourceMappingURL=" ++ url ++ "\n").toList = _
    simp

theorem referenceText_inside (dest : Path) {url : List Char} (solid : Solid url) :
    '\n' ∉ referenceText dest url := by
  have inside := solid.inside
  unfold referenceText
  split
  · simp [inside]
  · simp [inside]

theorem trim_referenceText (dest : Path) {url : List Char} (solid : Solid url) :
    Text.trim (referenceText dest url) = referenceText dest url := by
  unfold referenceText
  split
  · have bracketed := Text.trim_bracketed (show Text.isBlank '/' = false by decide)
      (show Text.isBlank '/' = false by decide)
      ("*# sourceMappingURL=".toList ++ url ++ " *".toList)
    rwa [List.cons_append, List.append_assoc, List.append_assoc] at bracketed
  · obtain ⟨front, last, same, bare⟩ := solid.last
    rw [same, ← List.append_assoc]
    exact Text.trim_bracketed (by decide) bare ("/# sourceMappingURL=".toList ++ front)

/-- The line that refers to a map is a reference to it. -/
theorem ofLine?_referenceText {dest : Path} {url : List Char} (solid : Solid url) :
    Reference.ofLine? (referenceText dest url) = some ⟨String.ofList url, false⟩ := by
  have trimmed := trim_referenceText dest solid
  by_cases block : isStylesheet dest
  · refine Reference.ofLine?_of_blockComment solid (trimmed.trans ?_)
    rw [referenceText, if_pos block]
  · refine Reference.ofLine?_of_lineComment solid (trimmed.trans ?_)
    rw [referenceText, if_neg block]

end Artifact

end SourceTrace
