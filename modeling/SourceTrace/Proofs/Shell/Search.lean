import SourceTrace.Proofs.Shell.Regex
import SourceTrace.Shell.Program.Sed

/-!
# What a search finds

A search tries one place after the other and takes the longest match at the first place that has
one. What it answers is a match, and without references back to numbered parts it is the leftmost
match of the whole text and the longest there. All matches in a text, with what is between them,
make up the text, so a substitution changes nothing but the matches.
-/
namespace SourceTrace.Shell.Regex

variable {same : Char → Char → Bool} {regex : Regex} {place next : Place}

section Searching

variable {before text front : List Char} {found : Match}

/-- The one of two places with fewer characters left, the earlier one if they are equal. -/
def nearer (best : Option Place) (next : Place) : Option Place :=
  match best with
  | some old => if next.rest.length < old.rest.length then some next else best
  | none => some next

theorem foldl_nearer {listed : List Place} {best : Option Place} {chosen : Place}
    (choice : listed.foldl nearer best = some chosen) :
    chosen ∈ best.toList ++ listed ∧
      ∀ next ∈ best.toList ++ listed, chosen.rest.length ≤ next.rest.length := by
  induction listed generalizing best with
  | nil =>
    obtain rfl : best = some chosen := choice
    simp
  | cons place listed ih =>
    cases best with
    | none => exact ih choice
    | some old =>
      have step : nearer (some old) place
          = if place.rest.length < old.rest.length then some place else some old := rfl
      rw [List.foldl_cons, step] at choice
      split at choice
      next shorter =>
        obtain ⟨member, shortest⟩ := ih choice
        have near := shortest place List.mem_cons_self
        refine ⟨List.mem_cons_of_mem _ member, List.forall_mem_cons.mpr ⟨?_, shortest⟩⟩
        omega
      next longer =>
        obtain ⟨member, shortest⟩ := ih choice
        have near := shortest old List.mem_cons_self
        refine ⟨?_, List.forall_mem_cons.mpr ⟨near, List.forall_mem_cons.mpr ⟨by omega, ?_⟩⟩⟩
        · exact (List.mem_cons.mp member).elim (· ▸ List.mem_cons_self)
            fun later => List.mem_cons_of_mem _ (List.mem_cons_of_mem _ later)
        · exact fun next later => shortest next (List.mem_cons_of_mem _ later)

theorem foldl_nearer_eq_none {listed : List Place} {best : Option Place}
    (choice : listed.foldl nearer best = none) : best = none ∧ listed = [] := by
  induction listed generalizing best with
  | nil => exact ⟨choice, rfl⟩
  | cons place listed ih =>
    obtain ⟨step, -⟩ := ih choice
    unfold nearer at step
    split at step
    · split at step <;> exact absurd step (by simp)
    · exact absurd step (by simp)

/-- When an expression matches a part of a text between what stands before it, read backwards, and
what follows. -/
def MatchesPart (same : Char → Char → Bool) (regex : Regex) (before part rest : List Char) : Prop :=
  ∃ next, Leads same regex ⟨before, part ++ rest, []⟩ next ∧ next.rest = rest

theorem longest?_eq_foldl : longest? same regex place
    = (places same ((place.rest.length + 2) * (regex.size + 2)) regex place).foldl nearer none :=
  rfl

theorem longest?_matches (chosen : longest? same regex ⟨before, text, []⟩ = some next) :
    ∃ part, text = part ++ next.rest ∧ MatchesPart same regex before part next.rest := by
  rw [longest?_eq_foldl] at chosen
  have leads := leads_of_mem_places (foldl_nearer chosen).1
  obtain ⟨part, ahead⟩ := leads.ahead
  exact ⟨part, ahead.rest, next, ahead.rest ▸ leads, rfl⟩

/-- A part that an expression without references matches is no longer than the one chosen, and there
is one. -/
theorem exists_longest? (free : regex.Free) {part rest : List Char}
    (matched : MatchesPart same regex before part rest) :
    ∃ next, longest? same regex ⟨before, part ++ rest, []⟩ = some next
      ∧ next.rest.length ≤ rest.length := by
  obtain ⟨reached, leads, rfl⟩ := matched
  have enough : regex.depth (part ++ reached.rest).length
      ≤ ((part ++ reached.rest).length + 2) * (regex.size + 2) :=
    Nat.le_trans (depth_le _ _) (Nat.mul_le_mul_left _ (Nat.le_add_right _ _))
  obtain ⟨last, listed, beside⟩ := exists_mem_places free enough leads ⟨rfl, rfl⟩
  rw [longest?_eq_foldl]
  cases choice : (places same _ regex ⟨before, part ++ reached.rest, []⟩).foldl nearer none with
  | none =>
    rw [(foldl_nearer_eq_none choice).2] at listed
    exact absurd listed List.not_mem_nil
  | some next =>
    exact ⟨next, rfl, beside.rest ▸ (foldl_nearer choice).2 last listed⟩

/-- A cut of a text into what is passed, a part that an expression matches there, and the rest. -/
structure Cut (same : Char → Char → Bool) (regex : Regex)
    (before text passed part rest : List Char) : Prop where
  whole : passed ++ part ++ rest = text
  matched : MatchesPart same regex (passed.reverse ++ before) part rest

/-- A match that a search answers is one. -/
theorem search_cut (answer : search same regex front before text = some found) :
    ∃ passed, found.front = front.reverse ++ passed
      ∧ Cut same regex before text passed found.found found.rest := by
  induction text generalizing front before with
  | nil =>
    obtain ⟨next, chosen, rfl⟩ := Option.map_eq_some_iff.mp answer
    obtain ⟨part, whole, matched⟩ := longest?_matches chosen
    obtain ⟨rfl, back⟩ := List.append_eq_nil_iff.mp whole.symm
    rw [back] at matched
    exact ⟨[], (List.append_nil _).symm, rfl, matched⟩
  | cons c rest ih =>
    rw [search] at answer
    split at answer
    next next chosen =>
      obtain ⟨part, whole, matched⟩ := longest?_matches chosen
      cases answer
      have width : (c :: rest).take ((c :: rest).length - next.rest.length) = part := by
        rw [whole, List.length_append, Nat.add_sub_cancel, List.take_left]
      refine ⟨[], (List.append_nil _).symm, ?_, ?_⟩
      · rw [width, whole, List.nil_append]
      · rw [width]
        exact matched
    next =>
      obtain ⟨passed, front_eq, whole, matched⟩ := ih answer
      refine ⟨c :: passed, ?_, ?_, ?_⟩
      · rw [front_eq, List.reverse_cons, List.append_assoc]
        rfl
      · rw [← whole]
        rfl
      · rw [List.reverse_cons, List.append_assoc]
        exact matched

/-- Without references, where a text has a match the search answers one that begins no later, and
of those that begin at the same character none is longer. -/
theorem exists_search (free : regex.Free) {passed part rest : List Char}
    (cut : Cut same regex before text passed part rest) :
    ∃ found, search same regex front before text = some found ∧
      (found.front.length < front.length + passed.length ∨
        found.front.length = front.length + passed.length ∧
          part.length ≤ found.found.length) := by
  obtain ⟨whole, matched⟩ := cut
  induction text generalizing front before passed with
  | nil =>
    obtain ⟨outer, rfl⟩ := List.append_eq_nil_iff.mp whole
    obtain ⟨rfl, rfl⟩ := List.append_eq_nil_iff.mp outer
    obtain ⟨next, chosen, -⟩ := exists_longest? free matched
    refine ⟨_, Option.map_eq_some_iff.mpr ⟨next, chosen, rfl⟩, .inr ⟨?_, Nat.le_refl _⟩⟩
    exact List.length_reverse
  | cons c text ih =>
    rw [search]
    cases passed with
    | nil =>
      have whole : part ++ rest = c :: text := whole
      have matched : MatchesPart same regex before part rest := matched
      obtain ⟨next, chosen, shorter⟩ := exists_longest? free matched
      rw [whole] at chosen
      rw [chosen]
      refine ⟨_, rfl, .inr ⟨List.length_reverse, ?_⟩⟩
      have lengths := congrArg List.length whole
      rw [List.length_append] at lengths
      rw [List.length_take]
      omega
    | cons d passed =>
      obtain ⟨rfl, inner⟩ := List.cons.inj whole
      rw [List.reverse_cons, List.append_assoc] at matched
      split
      next next chosen => exact ⟨_, rfl, .inl (by simp)⟩
      next =>
        obtain ⟨found, answer, place⟩ :
          ∃ found, search same regex (d :: front) (d :: before) text = some found ∧ _ :=
            ih inner matched
        refine ⟨found, answer, ?_⟩
        simp only [List.length_cons] at place ⊢
        omega

/-- For an expression without references the search answers the leftmost match, the longest one
there, and it answers nothing only if there is no match anywhere. -/
theorem find?_leftmost_longest (free : regex.Free) (ignoresCase : Bool) (text : List Char) :
    (find? ignoresCase regex text = none ↔
        ∀ passed part rest, ¬ Cut (sameness ignoresCase) regex [] text passed part rest) ∧
      ∀ found, find? ignoresCase regex text = some found →
        Cut (sameness ignoresCase) regex [] text found.front found.found found.rest ∧
        ∀ passed part rest, Cut (sameness ignoresCase) regex [] text passed part rest →
          found.front.length < passed.length ∨
            found.front.length = passed.length ∧ part.length ≤ found.found.length := by
  have answered {found : Match} (answer : find? ignoresCase regex text = some found) :
      Cut (sameness ignoresCase) regex [] text found.front found.found found.rest := by
    obtain ⟨passed, front, cut⟩ := search_cut answer
    rw [List.reverse_nil, List.nil_append] at front
    exact front ▸ cut
  have best {passed part rest : List Char}
      (cut : Cut (sameness ignoresCase) regex [] text passed part rest) :
      ∃ found, find? ignoresCase regex text = some found ∧
        (found.front.length < passed.length ∨
          found.front.length = passed.length ∧ part.length ≤ found.found.length) := by
    obtain ⟨found, answer, place⟩ :
      ∃ found, search (sameness ignoresCase) regex [] [] text = some found ∧ _ :=
        exists_search free cut
    exact ⟨found, answer, by simpa using place⟩
  refine ⟨⟨fun missing passed part rest cut => ?_, fun none => ?_⟩, fun found answer =>
    ⟨answered answer, fun passed part rest cut => ?_⟩⟩
  · obtain ⟨found, answer, -⟩ := best cut
    exact absurd (missing.symm.trans answer) (by simp)
  · cases answer : find? ignoresCase regex text with
    | none => rfl
    | some found => exact absurd (answered answer) (none _ _ _)
  · obtain ⟨first, same, place⟩ := best cut
    rwa [Option.some.inj (answer.symm.trans same)]

end Searching

section Tiling

/-- Matches one behind the other which, with what is between them and behind the last one, make up
a text. -/
def Tiles (found : List Match) (text : List Char) : Prop :=
  ∀ last, found.getLast? = some last →
    (found.flatMap fun part => part.front ++ part.found) ++ last.rest = text

theorem tiles_nil (text : List Char) : Tiles [] text := fun _ missing => nomatch missing

theorem Tiles.cons {part : Match} {found : List Match} (tiles : Tiles found part.rest) :
    Tiles (part :: found) (part.front ++ part.found ++ part.rest) := by
  intro last isLast
  rw [List.flatMap_cons, List.append_assoc]
  cases found with
  | nil =>
    obtain rfl : part = last := Option.some.inj isLast
    rfl
  | cons next others => rw [tiles last (by rwa [List.getLast?_cons_cons] at isLast)]

/-- A character in front of a text is in front of the first match. -/
theorem Tiles.shift (c : Char) {found : List Match} {text : List Char} :
    Tiles found text → Tiles (match found with
      | next :: others => { next with front := c :: next.front } :: others
      | [] => []) (c :: text) := by
  intro tiles last isLast
  match found with
  | [] => exact nomatch isLast
  | [next] =>
    obtain rfl : { next with front := c :: next.front } = last := Option.some.inj isLast
    rw [← tiles next rfl]
    simp
  | next :: other :: others =>
    rw [List.getLast?_cons_cons] at isLast
    rw [← tiles last (by rwa [List.getLast?_cons_cons])]
    simp

theorem allFrom_tiles {fuel : Nat} {isBehind : Bool} {before text : List Char} :
    Tiles (allFrom same regex fuel isBehind before text) text := by
  induction fuel generalizing isBehind before text with
  | zero => exact tiles_nil text
  | succ fuel ih =>
    rw [allFrom]
    split
    next => exact tiles_nil text
    next found answer =>
      obtain ⟨passed, front, whole, -⟩ := search_cut answer
      rw [List.reverse_nil, List.nil_append] at front
      rw [← front] at whole
      rw [← whole]
      split
      next empty =>
        -- An empty match counts here unless it stands directly behind another one. The search goes
        -- on behind the next character, which the next match then has in front of it.
        have here := List.isEmpty_iff.mp empty
        generalize back : found.rest = left
        cases left with
        | nil =>
          dsimp only
          split
          next => exact tiles_nil _
          next => exact back ▸ (back ▸ tiles_nil [] : Tiles [] found.rest).cons
        | cons c rest =>
          dsimp only
          split
          next skipped =>
            have start : found.front = [] :=
              List.isEmpty_iff.mp ((Bool.and_eq_true _ _).mp skipped).2
            rw [start, here]
            exact ih.shift c
          next => exact back ▸ (back ▸ ih.shift c : Tiles _ found.rest).cons
      next => exact ih.cons

/-- All matches in a text and what is between them make up the text. -/
theorem all_tiles (ignoresCase : Bool) (regex : Regex) (text : List Char) :
    Tiles (all ignoresCase regex text) text := allFrom_tiles

end Tiling

end SourceTrace.Shell.Regex

namespace SourceTrace.Shell.Program.Sed

/-- A substitution that puts every match in its own place changes nothing. -/
theorem Substitution.apply_itself {substitution : Substitution} {text result : List Char}
    (itself : substitution.filling = [.group 0])
    (applied : substitution.apply text = some result) : result = text := by
  have filled_itself (part : Regex.Match) : filled part substitution.filling = part.found := by
    rw [itself, filled, List.flatMap_cons, List.flatMap_nil, List.append_nil]
    rfl
  rw [apply] at applied
  split at applied
  next => exact absurd applied (by simp)
  next last isLast =>
    split at applied
    next => exact absurd applied (by simp)
    next =>
      have whole := Regex.all_tiles _ _ text last isLast
      rw [← Option.some.inj applied]
      simp only [filled_itself, ite_self]
      refine Eq.trans (congrArg (· ++ last.rest) ?_) whole
      rw [List.flatMap_def]
      generalize Regex.all _ _ text = found
      conv => rhs; rw [← List.zipIdx_map_fst 0 found, List.map_map]
      rfl

end SourceTrace.Shell.Program.Sed
