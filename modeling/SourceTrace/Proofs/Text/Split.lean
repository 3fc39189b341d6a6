import SourceTrace.Text.Basic

/-!
# The pieces of a text

Cutting a text between stops agrees with cutting a list where a predicate holds, so what is known
of the latter is known of the former. Pieces hold no stops, and pieces without stops come back when
they are put together and cut again. A cut at the first place of a needle loses nothing either.
-/
namespace SourceTrace.Text

theorem split_eq_splitOnP (stop : Char → Bool) (text : List Char) :
    split stop text = text.splitOnP stop := by
  induction text with
  | nil => rfl
  | cons c rest ih =>
    rw [split, List.splitOnP_cons_eq_if_modifyHead, ih]
    obtain ⟨piece, pieces, same⟩ := List.exists_cons_of_ne_nil (List.splitOnP_ne_nil stop rest)
    rw [same]
    rfl

theorem split_ne_nil (stop : Char → Bool) (text : List Char) : split stop text ≠ [] := by
  rw [split_eq_splitOnP]
  exact List.splitOnP_ne_nil stop text

/-- A stop divides the pieces of a text. -/
theorem split_append_cons {stop : Char → Bool} {c : Char} (stops : stop c)
    (left right : List Char) :
    split stop (left ++ c :: right) = split stop left ++ split stop right := by
  simp only [split_eq_splitOnP]
  exact List.splitOnP_append_cons left right stops

theorem split_eq_singleton {stop : Char → Bool} {text : List Char}
    (free : ∀ c ∈ text, stop c = false) : split stop text = [text] := by
  rw [split_eq_splitOnP]
  exact List.splitOnP_eq_singleton free

theorem split_of_not_mem {separator : Char} {text : List Char} (free : separator ∉ text) :
    split (· == separator) text = [text] := by
  refine split_eq_singleton ?_
  intro c member
  exact beq_eq_false_iff_ne.mpr fun same => free (same ▸ member)

/-- Pieces consist of characters of the text that are no stops. -/
theorem mem_split {stop : Char → Bool} {text piece : List Char} (member : piece ∈ split stop text)
    {c : Char} (inside : c ∈ piece) : stop c = false ∧ c ∈ text := by
  induction text generalizing piece with
  | nil => simp_all [split]
  | cons d rest ih =>
    unfold split at member
    split at member
    · rcases List.mem_cons.mp member with rfl | further
      · simp at inside
      · exact ⟨(ih further inside).1, List.mem_cons_of_mem d (ih further inside).2⟩
    · next free =>
      obtain ⟨first, others, same⟩ := List.exists_cons_of_ne_nil (split_ne_nil stop rest)
      simp only [same] at member ih
      rcases List.mem_cons.mp member with rfl | further
      · rcases List.mem_cons.mp inside with rfl | within
        · exact ⟨by simpa using free, List.mem_cons_self⟩
        · have known := ih List.mem_cons_self within
          exact ⟨known.1, List.mem_cons_of_mem d known.2⟩
      · have known := ih (List.mem_cons_of_mem first further) inside
        exact ⟨known.1, List.mem_cons_of_mem d known.2⟩

theorem split_congr {stop other : Char → Bool} {text : List Char}
    (same : ∀ c ∈ text, stop c = other c) : split stop text = split other text := by
  induction text with
  | nil => rfl
  | cons c rest ih =>
    have others := ih fun d member => same d (List.mem_cons_of_mem c member)
    rw [split, split, same c List.mem_cons_self, others]

/-- Pieces without the separator come back. -/
theorem split_intercalate {separator : Char} {pieces : List (List Char)} (some : pieces ≠ [])
    (free : ∀ piece ∈ pieces, separator ∉ piece) :
    split (· == separator) ([separator].intercalate pieces) = pieces := by
  rw [split_eq_splitOnP, ← List.splitOn_eq_splitOnP]
  exact List.splitOn_intercalate separator free some

/-- A cut loses nothing. -/
theorem eq_append_of_cutAt? {needle text before following : List Char}
    (cut : cutAt? needle text = some (before, following)) :
    text = before ++ needle ++ following := by
  induction text generalizing before with
  | nil =>
    obtain ⟨empty, rfl, rfl⟩ : needle = [] ∧ [] = before ∧ [] = following := by
      simpa [cutAt?] using cut
    simp [empty]
  | cons c rest ih =>
    unfold cutAt? at cut
    split at cut
    · next here =>
      obtain ⟨rfl, rfl⟩ : [] = before ∧ _ = following := by simpa using cut
      exact (after?_eq_some_iff _ _ _).mp here
    · obtain ⟨⟨front, behind⟩, later, same⟩ := Option.map_eq_some_iff.mp cut
      obtain ⟨rfl, rfl⟩ : c :: front = before ∧ behind = following := by simpa using same
      simp [ih later]

end SourceTrace.Text
