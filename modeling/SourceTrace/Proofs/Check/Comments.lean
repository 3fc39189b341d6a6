import Mathlib.Data.List.TakeWhile
import SourceTrace.Proofs.Check.Coverage

/-!
# The lines that the check takes for comments

A line is scanned from left to right: outside comments two slashes open a comment that ends with the
line, and a slash and a star open one that goes on, over lines if need be, up to the next star and
slash. The check only looks at the comments in front of a line's code, so it does not see a comment
that is opened behind the code of a line and goes on in the next one.
-/
namespace SourceTrace.Check

/-- A character of a line, and whether it stands outside comments. -/
structure Mark where
  char : Char
  outside : Bool
  deriving DecidableEq

/-- A character that is part of the code: visible and outside comments. -/
def Mark.isCode (mark : Mark) : Bool := mark.outside && !Text.isBlank mark.char

/-- The characters of a line that starts inside a block comment or outside, marked. -/
def marks : Bool → List Char → List Mark
  | _, [] => []
  | true, '*' :: '/' :: rest => ⟨'*', false⟩ :: ⟨'/', false⟩ :: marks false rest
  | true, c :: rest => ⟨c, false⟩ :: marks true rest
  | false, '/' :: '*' :: rest => ⟨'/', false⟩ :: ⟨'*', false⟩ :: marks true rest
  | false, '/' :: '/' :: rest => ⟨'/', false⟩ :: ⟨'/', false⟩ :: rest.map (⟨·, false⟩)
  | false, c :: rest => ⟨c, true⟩ :: marks false rest

/-- Whether a line leaves a block comment open. -/
def leavesOpen : Bool → List Char → Bool
  | isOpen, [] => isOpen
  | true, '*' :: '/' :: rest => leavesOpen false rest
  | true, _ :: rest => leavesOpen true rest
  | false, '/' :: '*' :: rest => leavesOpen true rest
  | false, '/' :: '/' :: _ => false
  | false, _ :: rest => leavesOpen false rest

/-- A line from its first character of code on. -/
def codeOf (isOpen : Bool) (line : List Char) : List Char :=
  ((marks isOpen line).dropWhile (!·.isCode)).map Mark.char

variable {isOpen : Bool} {line text rest : List Char} {c : Char}

theorem marks_char (isOpen : Bool) (line : List Char) :
    (marks isOpen line).map Mark.char = line := by
  fun_induction marks isOpen line with
  | case5 rest => simp [Function.comp_def]
  | _ => simp_all

theorem codeOf_ne_nil_iff : codeOf isOpen line ≠ [] ↔ ∃ mark ∈ marks isOpen line, mark.isCode := by
  simp [codeOf, List.dropWhile_eq_nil_iff]

/-- What is left of a line behind something without code, where no block comment is open. -/
def Skips (isOpen : Bool) (text rest : List Char) : Prop :=
  codeOf isOpen text = codeOf false rest ∧ leavesOpen isOpen text = leavesOpen false rest

theorem Skips.refl (text : List Char) : Skips false text text := ⟨rfl, rfl⟩

theorem Skips.trans {middle : List Char} (first : Skips isOpen text middle)
    (second : Skips false middle rest) : Skips isOpen text rest :=
  ⟨first.1.trans second.1, first.2.trans second.2⟩

theorem skips_blank (blank : Text.isBlank c) (text : List Char) : Skips false (c :: text) text := by
  have slash : c ≠ '/' := by
    rintro rfl
    exact absurd blank (by decide)
  have marked : marks false (c :: text) = ⟨c, true⟩ :: marks false text := by
    rw [marks]
    · exact fun _ same _ => slash same
    · exact fun _ same _ => slash same
  have open? : leavesOpen false (c :: text) = leavesOpen false text := by
    rw [leavesOpen]
    · exact fun _ same _ => slash same
    · exact fun _ same _ => slash same
  exact ⟨by simp [codeOf, marked, Mark.isCode, blank], open?⟩

theorem skips_blanks (text : List Char) : Skips false text (text.dropWhile Text.isBlank) := by
  induction text with
  | nil => exact .refl []
  | cons c rest ih =>
    by_cases blank : Text.isBlank c
    · rw [List.dropWhile_cons_of_pos blank]
      exact (skips_blank blank rest).trans ih
    · rw [List.dropWhile_cons_of_neg blank]
      exact .refl _

/-- Inside a block comment a character is passed that does not begin the end of it. -/
theorem inside_cons (goesOn : Text.after? "*/".toList (c :: rest) = none) :
    codeOf true (c :: rest) = codeOf true rest ∧
      leavesOpen true (c :: rest) = leavesOpen true rest := by
  have noEnd : ∀ following, c = '*' → rest ≠ '/' :: following := by
    rintro following rfl rfl
    simp [Text.after?] at goesOn
  have marked : marks true (c :: rest) = ⟨c, false⟩ :: marks true rest := by
    rw [marks]
    exact fun following => noEnd following
  have open? : leavesOpen true (c :: rest) = leavesOpen true rest := by
    rw [leavesOpen]
    exact fun following => noEnd following
  exact ⟨by simp [codeOf, marked, Mark.isCode], open?⟩

/-- A block comment that ends on its line is passed. -/
theorem skips_of_cutAt? {inner : List Char}
    (cut : Text.cutAt? "*/".toList text = some (inner, rest)) : Skips true text rest := by
  induction text generalizing inner with
  | nil => cases cut
  | cons c text ih =>
    unfold Text.cutAt? at cut
    split at cut
    · next following here =>
      cases cut
      rw [(Text.after?_eq_some_iff _ _ _).mp here]
      exact ⟨rfl, rfl⟩
    · next goesOn =>
      obtain ⟨⟨front, behind⟩, later, same⟩ := Option.map_eq_some_iff.mp cut
      cases same
      have passed := inside_cons goesOn
      have skips := ih later
      exact ⟨passed.1.trans skips.1, passed.2.trans skips.2⟩

/-- A block comment that does not end on its line is all there is. -/
theorem inside_of_cutAt?_eq_none (cut : Text.cutAt? "*/".toList text = none) :
    codeOf true text = [] ∧ leavesOpen true text = true := by
  induction text with
  | nil => exact ⟨rfl, rfl⟩
  | cons c text ih =>
    unfold Text.cutAt? at cut
    split at cut
    · cases cut
    · next goesOn =>
      have passed := inside_cons goesOn
      have further := ih (Option.map_eq_none_iff.mp cut)
      exact ⟨passed.1.trans further.1, passed.2.trans further.2⟩

theorem codeOf_lineComment (inside : List Char) : codeOf false ('/' :: '/' :: inside) = [] := by
  have marked : marks false ('/' :: '/' :: inside) =
      ('/' :: '/' :: inside).map (Mark.mk · false) := rfl
  rw [codeOf, marked, List.map_eq_nil_iff, List.dropWhile_eq_nil_iff]
  simp [Mark.isCode]

/-- A visible character that opens no comment begins the code. -/
theorem codeOf_eq_self (visible : ¬ Text.isBlank c)
    (noBlock : Text.after? "/*".toList (c :: rest) = none)
    (noLine : Text.after? "//".toList (c :: rest) = none) :
    codeOf false (c :: rest) = c :: rest := by
  have marked : marks false (c :: rest) = ⟨c, true⟩ :: marks false rest := by
    rw [marks]
    · rintro following rfl rfl
      simp [Text.after?] at noBlock
    · rintro following rfl rfl
      simp [Text.after?] at noLine
  have code : (Mark.mk c true).isCode := by simpa [Mark.isCode] using visible
  rw [codeOf, marked, List.dropWhile_cons_of_neg (by simp [code]), ← marked, marks_char]

/-- What is left behind the comments in front of a line's code: it starts with no blank and with no
block comment that ends. -/
structure Passed (text left : List Char) : Prop where
  skips : Skips false text left
  visible : ∀ c ∈ left.head?, ¬ Text.isBlank c
  unclosed : ∀ inside, Text.after? "/*".toList left = some inside →
    Text.cutAt? "*/".toList inside = none

theorem passComments_passed (fuel : Nat) (text : List Char) (enough : text.length ≤ fuel) :
    Passed text (passComments fuel text).2 := by
  induction fuel generalizing text with
  | zero =>
    obtain rfl := List.length_eq_zero_iff.mp (Nat.le_zero.mp enough)
    exact ⟨.refl [], by simp [passComments], by simp [passComments, Text.after?]⟩
  | succ fuel ih =>
    have blanks := skips_blanks text
    unfold passComments
    dsimp only
    split
    · next inner rest passed =>
      obtain ⟨inside, opens, closes⟩ := Option.bind_eq_some_iff.mp passed
      have comment := (Text.after?_eq_some_iff _ _ _).mp opens
      have shorter : rest.length ≤ fuel := by
        have whole := congrArg List.length (Text.eq_append_of_cutAt? closes)
        have front := congrArg List.length comment
        have dropped := (List.dropWhile_suffix (l := text) Text.isBlank).length_le
        simp at whole front
        omega
      have further := ih rest shorter
      refine ⟨blanks.trans (.trans ?_ further.skips), further.visible, further.unclosed⟩
      rw [comment]
      exact skips_of_cutAt? closes
    · next unclosed =>
      refine ⟨blanks, ?_, ?_⟩
      · intro c first
        have stops := List.head?_dropWhile_not Text.isBlank text
        rw [Option.mem_def.mp first] at stops
        simpa using stops
      · intro inside opens
        exact Option.bind_eq_none_iff.mp unclosed inside opens

/-- Where no block comment is left, either there is no code left or all that is left is code. -/
theorem Passed.code_cases {left : List Char} (passed : Passed text left)
    (noBlock : Text.after? "/*".toList left = none) :
    (left = [] ∨ (Text.after? "//".toList left).isSome) ∧ codeOf false left = [] ∧
      leavesOpen false left = false ∨
    left ≠ [] ∧ Text.after? "//".toList left = none ∧ codeOf false left = left := by
  cases left with
  | nil => exact .inl ⟨.inl rfl, rfl, rfl⟩
  | cons c rest =>
    cases comment : Text.after? "//".toList (c :: rest) with
    | none => exact .inr ⟨by simp, rfl, codeOf_eq_self (passed.visible c rfl) noBlock comment⟩
    | some inside =>
      cases (Text.after?_eq_some_iff _ _ _).mp comment
      exact .inl ⟨.inr rfl, codeOf_lineComment inside, rfl⟩

theorem skips_of_passOpenComment {opened : List Char}
    (passes : passOpenComment isOpen line = some (opened, rest)) : Skips isOpen line rest := by
  cases isOpen with
  | false =>
    cases passes
    exact .refl _
  | true =>
    obtain ⟨⟨inner, behind⟩, closes, same⟩ := Option.map_eq_some_iff.mp passes
    cases same
    exact skips_of_cutAt? closes

/-- A line has code: a visible character outside comments, where the code is no shebang. -/
def HasCode (isOpen : Bool) (line : List Char) : Prop :=
  (∃ mark ∈ marks isOpen line, mark.isCode) ∧ Text.after? "#!".toList (codeOf isOpen line) = none

instance (isOpen : Bool) (line : List Char) : Decidable (HasCode isOpen line) :=
  inferInstanceAs (Decidable (_ ∧ _))

theorem codeStart_spec (isOpen : Bool) (line : List Char) :
    ((codeStart isOpen line).1.isSome ↔ HasCode isOpen line) ∧
      (codeStart isOpen line).2 = (leavesOpen isOpen line && (codeOf isOpen line).isEmpty) := by
  rw [HasCode, ← codeOf_ne_nil_iff]
  unfold codeStart
  cases passes : passOpenComment isOpen line with
  | none =>
    cases isOpen with
    | false => cases passes
    | true =>
      obtain ⟨noCode, open?⟩ := inside_of_cutAt?_eq_none (Option.map_eq_none_iff.mp passes)
      simp [noCode, open?]
  | some cut =>
    obtain ⟨opened, rest⟩ := cut
    have passed := passComments_passed rest.length rest (Nat.le_refl _)
    have skips := (skips_of_passOpenComment passes).trans passed.skips
    rw [skips.1, skips.2]
    dsimp only
    generalize (passComments rest.length rest).2 = left at passed
    cases block : Text.after? "/*".toList left with
    | some inside =>
      obtain ⟨noCode, open?⟩ := inside_of_cutAt?_eq_none (passed.unclosed inside block)
      have comment := (Text.after?_eq_some_iff _ _ _).mp block
      have none : codeOf false left = [] := by
        rw [comment]
        exact noCode
      have goesOn : leavesOpen false left = true := by
        rw [comment]
        exact open?
      simp [none, goesOn]
    | none =>
      simp only [List.any_cons, List.any_nil, Bool.or_false, Option.isSome_none, Bool.false_eq_true,
        if_false]
      rcases passed.code_cases block with ⟨nothing, noCode, closed⟩ | ⟨filled, noLine, code⟩
      · have empty : (left.isEmpty || ((Text.after? "//".toList left).isSome ||
            (Text.after? "#!".toList left).isSome)) = true := by
          rcases nothing with rfl | comment
          · rfl
          · rw [comment, Bool.true_or, Bool.or_true]
        rw [if_pos empty]
        simp [noCode, closed]
      · rw [code, noLine]
        cases Text.after? "#!".toList left with
        | none => simp [filled]
        | some _ => simp [filled]

/-- Whether a block comment is open behind some lines. -/
def openBehind (lines : List (List Char)) : Bool := lines.foldl leavesOpen false

/-- Whether a block comment seems open behind some lines to someone who reads a line only as far as
its code. -/
def seemsOpenBehind (lines : List (List Char)) : Bool :=
  lines.foldl (fun isOpen line => leavesOpen isOpen line && (codeOf isOpen line).isEmpty) false

theorem carried_eq (lines : List (List Char)) : carried false lines = seemsOpenBehind lines := by
  have step : (fun isOpen line => (codeStart isOpen line).2) =
      fun isOpen line => leavesOpen isOpen line && (codeOf isOpen line).isEmpty :=
    funext fun isOpen => funext fun line => (codeStart_spec isOpen line).2
  rw [carried, seemsOpenBehind, step]

/-- Behind the code of a line a block comment is opened that does not end on the line. -/
def OpensBehindCode (lines : List (List Char)) (index : Nat) : Prop :=
  ∃ line ∈ lines[index]?, codeOf (openBehind (lines.take index)) line ≠ [] ∧
    leavesOpen (openBehind (lines.take index)) line = true

instance (lines : List (List Char)) (index : Nat) : Decidable (OpensBehindCode lines index) :=
  inferInstanceAs (Decidable (∃ line ∈ lines[index]?, _ ∧ _))

theorem seemsOpenBehind_eq {lines : List (List Char)} {count : Nat}
    (closes : ∀ index < count, ¬ OpensBehindCode lines index) :
    seemsOpenBehind (lines.take count) = openBehind (lines.take count) := by
  induction count with
  | zero => rfl
  | succ count ih =>
    have before := ih fun index earlier => closes index (Nat.lt_succ_of_lt earlier)
    rw [List.take_add_one]
    cases listed : lines[count]? with
    | none => simpa using before
    | some line =>
      have here : codeOf (openBehind (lines.take count)) line ≠ [] →
          leavesOpen (openBehind (lines.take count)) line = false := by
        intro code
        refine Bool.eq_false_iff.mpr fun opens => closes count (Nat.lt_succ_self count) ?_
        exact ⟨line, listed, code, opens⟩
      have seems : seemsOpenBehind (lines.take count ++ [line]) =
          (leavesOpen (openBehind (lines.take count)) line &&
            (codeOf (openBehind (lines.take count)) line).isEmpty) := by
        rw [← before, seemsOpenBehind, List.foldl_append]
        rfl
      have opens : openBehind (lines.take count ++ [line]) =
          leavesOpen (openBehind (lines.take count)) line := by
        rw [openBehind, List.foldl_append]
        rfl
      rw [Option.toList_some, seems, opens]
      by_cases code : codeOf (openBehind (lines.take count)) line = []
      · rw [code, List.isEmpty_nil, Bool.and_true]
      · rw [here code, Bool.false_and]

theorem lookup?_eq_none_of_segments {doc : Document} (empty : doc.segments = [])
    (line column : Nat) : doc.lookup? line column = none := by
  have none : doc.lineSegments line = [] := by
    unfold Document.lineSegments
    split
    · simp [empty]
    · rfl
  simp [Document.lookup?, Document.segmentAt?, none]

/-- For a document without segments the check reports the lines that seem to have code to someone
who reads every earlier line only as far as its code. As long as no block comment is opened behind
the code of a line and goes on in the next, these are the lines that have code. -/
theorem reports_iff_hasCode {doc : Document} (empty : doc.segments = []) (text : String)
    (index : Nat) :
    let lines := Text.lines text.toList
    (Reports (coverage text doc) index ↔
      ∃ line ∈ lines[index]?, HasCode (seemsOpenBehind (lines.take index)) line) ∧
    ((∀ earlier < index, ¬ OpensBehindCode lines earlier) →
      (Reports (coverage text doc) index ↔
        ∃ line ∈ lines[index]?, HasCode (openBehind (lines.take index)) line)) := by
  intro lines
  have reported : Reports (coverage text doc) index ↔
      ∃ line ∈ lines[index]?, HasCode (seemsOpenBehind (lines.take index)) line := by
    have wrong : ∀ before code, (lineCoverage doc index before code).isSome := by
      intro before code
      simp [lineCoverage, lookup?_eq_none_of_segments empty]
    rw [reports_coverage_iff]
    simp only [wrong, and_true, codeAt?, carried_eq, Option.bind_eq_some_iff]
    constructor
    · rintro ⟨before, code, line, listed, cut⟩
      exact ⟨line, listed, (codeStart_spec _ line).1.mp (by rw [cut]; rfl)⟩
    · rintro ⟨line, listed, code⟩
      obtain ⟨⟨before, code⟩, cut⟩ :=
        Option.isSome_iff_exists.mp ((codeStart_spec _ line).1.mpr code)
      exact ⟨before, code, line, listed, cut⟩
  refine ⟨reported, fun closes => ?_⟩
  rw [reported, seemsOpenBehind_eq closes]

/-- A document that maps nothing. -/
def nowhere : Document := Document.ofParts none [] [] [] none

/-- A comment over three lines with code behind its end, and two comments on one line. -/
theorem reports_iff_hasCode_spanning :
    let text := "/* a\n b\n */ c /* d */\n/* e */ // f"
    ∀ index < 5, Reports (coverage text nowhere) index ↔ index = 2 := by
  intro text index small
  have closes : ∀ earlier < 5, ¬ OpensBehindCode (Text.lines text.toList) earlier := by
    decide +kernel
  rw [(reports_iff_hasCode rfl text index).2 fun earlier before =>
    closes earlier (Nat.lt_trans before small)]
  revert index
  decide +kernel

/-- The second and the third line of a comment are reported when the first one begins with code. -/
theorem reports_comment_behind_code :
    let lines := Text.lines "x /*\ny\n*/".toList
    ¬ ∀ index, Reports (coverage "x /*\ny\n*/" nowhere) index ↔
      ∃ line ∈ lines[index]?, HasCode (openBehind (lines.take index)) line := by
  intro lines exact
  have reported : Reports (coverage "x /*\ny\n*/" nowhere) 1 :=
    ⟨⟨.coverage, "line 1 is not mapped at column 0", none, some "y", none⟩, by decide +kernel,
      "is not mapped at column 0", rfl⟩
  exact absurd ((exact 1).mp reported) (by decide +kernel)

end SourceTrace.Check
