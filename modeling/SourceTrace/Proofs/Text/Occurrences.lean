import SourceTrace.Proofs.Text.Lines

/-!
# Where a needle is found

The search for a needle goes on behind everything that it has matched, and only then looks whether
the match is part of a longer identifier. What it reports are occurrences, in order, and an
occurrence that it does not report overlaps an earlier match. If that match was reported, nothing is
lost; if it was dropped, the occurrence is. Which needles can lose an occurrence in this way is
decided by the needle alone: it overlaps itself so that its first copy can be part of a longer
identifier while the second one is not.
-/
namespace SourceTrace.Text

/-- Two neighbouring characters belong to one identifier. -/
def Joined (left right : Option Char) : Prop :=
  left.any Identifier.isContinue ∧ right.any Identifier.isContinue

instance (left right : Option Char) : Decidable (Joined left right) :=
  inferInstanceAs (Decidable (_ ∧ _))

/-- The needle stands at an offset of a line and is not part of a longer identifier there. -/
structure OccursAt (needle line : List Char) (offset : Nat) : Prop where
  stands : needle <+: line.drop offset
  before : ¬ Joined (line.take offset).getLast? needle.head?
  behind : ¬ Joined needle.getLast? (line.drop (offset + needle.length)).head?

theorem insideIdentifier_iff (needle : List Char) (before following : Option Char) :
    insideIdentifier needle before following ↔
      Joined before needle.head? ∨ Joined needle.getLast? following := by
  simp only [insideIdentifier, Joined, Bool.or_eq_true, Bool.and_eq_true]
  rw [and_comm]

/-- A match is an occurrence unless it is inside of an identifier. -/
theorem occursAt_iff {needle line front following : List Char}
    (parts : line = front ++ (needle ++ following)) :
    OccursAt needle line front.length ↔
      ¬ insideIdentifier needle front.getLast? following.head? := by
  have next : line.drop (front.length + needle.length) = following := by
    rw [parts, ← List.drop_drop, List.drop_left, List.drop_left]
  have taken : line.take front.length = front := by rw [parts, List.take_left]
  rw [insideIdentifier_iff, not_or]
  constructor
  · rintro ⟨_, before, behind⟩
    rw [taken] at before
    rw [next] at behind
    exact ⟨before, behind⟩
  · rintro ⟨before, behind⟩
    refine ⟨?_, by rwa [taken], by rwa [next]⟩
    rw [parts, List.drop_left]
    exact List.prefix_append needle following

section Search

variable {needle : List Char}

theorem lt_of_passed {column : Nat} {c : Char} {columns : List Nat}
    (later : ∀ found ∈ columns, column + unitWidth c ≤ found) :
    ∀ found ∈ columns, column < found := by
  intro found member
  have wide := unitWidth_pos c
  have := later found member
  omega

/-- What is found comes in order. -/
theorem occurrencesFrom_sorted (column : Nat) (before : Option Char) (skip : Nat)
    (rest : List Char) :
    (∀ found ∈ occurrencesFrom needle column before skip rest, column ≤ found) ∧
      (occurrencesFrom needle column before skip rest).Pairwise (· < ·) := by
  fun_induction occurrencesFrom needle column before skip rest with
  | case1 => simp
  | case2 column _ skip c rest ih =>
    exact ⟨fun found member => Nat.le_of_lt (lt_of_passed ih.1 found member), ih.2⟩
  | case3 column _ c rest _ ih =>
    exact ⟨fun found member => Nat.le_of_lt (lt_of_passed ih.1 found member), ih.2⟩
  | case4 column before c rest following _ more inside ih =>
    exact ⟨fun found member => Nat.le_of_lt (lt_of_passed ih.1 found member), ih.2⟩
  | case5 column before c rest following _ more outside ih =>
    have later := lt_of_passed ih.1
    refine ⟨?_, List.pairwise_cons.mpr ⟨later, ih.2⟩⟩
    intro found member
    rcases List.mem_cons.mp member with rfl | further
    · exact Nat.le_refl _
    · exact Nat.le_of_lt (later found further)

/-- The search from behind `front` on, with `skip` characters still to be passed. -/
def search (needle front : List Char) (skip : Nat) (rest : List Char) : List Nat :=
  occurrencesFrom needle (units front) front.getLast? skip rest

theorem search_nil (front : List Char) (skip : Nat) : search needle front skip [] = [] := by
  cases skip <;> rfl

/-- Passing a character takes it to the front. -/
theorem occurrencesFrom_concat (front : List Char) (c : Char) (skip : Nat) (rest : List Char) :
    occurrencesFrom needle (units front + unitWidth c) (some c) skip rest =
      search needle (front ++ [c]) skip rest := by
  rw [search, units_append, List.getLast?_concat]
  rfl

theorem search_pass (front : List Char) (c : Char) (skip : Nat) (rest : List Char) :
    search needle front (skip + 1) (c :: rest) = search needle (front ++ [c]) skip rest := by
  rw [← occurrencesFrom_concat]
  rfl

theorem search_none (front : List Char) {c : Char} {rest : List Char}
    (absent : ¬ needle <+: c :: rest) :
    search needle front 0 (c :: rest) = search needle (front ++ [c]) 0 rest := by
  have none : after? needle (c :: rest) = none := by
    rw [Option.eq_none_iff_forall_ne_some]
    intro following same
    exact absent ⟨following, ((after?_eq_some_iff _ _ _).mp same).symm⟩
  rw [← occurrencesFrom_concat, search, occurrencesFrom, none]

theorem search_match (front : List Char) {c : Char} {rest following : List Char}
    (stands : c :: rest = needle ++ following) :
    search needle front 0 (c :: rest) =
      let more := search needle (front ++ [c]) (needle.length - 1) rest
      if insideIdentifier needle front.getLast? following.head? then more
      else units front :: more := by
  rw [← occurrencesFrom_concat, search, occurrencesFrom,
    (after?_eq_some_iff _ _ _).mpr stands]

/-- What the search finds are occurrences, behind what it has passed. -/
theorem occursAt_of_mem_search {line front rest : List Char} {skip column : Nat}
    (parts : line = front ++ rest) (found : column ∈ search needle front skip rest) :
    ∃ offset, front.length + skip ≤ offset ∧ column = units (line.take offset) ∧
      OccursAt needle line offset := by
  induction rest generalizing front skip with
  | nil =>
    rw [search_nil] at found
    cases found
  | cons c rest ih =>
    have onward : ∀ passed, skip ≤ passed + 1 →
        column ∈ search needle (front ++ [c]) passed rest →
        ∃ offset, front.length + skip ≤ offset ∧ column = units (line.take offset) ∧
          OccursAt needle line offset := by
      intro passed le later
      obtain ⟨offset, far, occurrence⟩ := ih (parts.trans (List.append_cons ..)) later
      rw [List.length_append, List.length_singleton] at far
      exact ⟨offset, by omega, occurrence⟩
    cases skip with
    | succ skip =>
      rw [search_pass] at found
      exact onward skip (Nat.le_refl _) found
    | zero =>
      by_cases here : needle <+: c :: rest
      · obtain ⟨following, stands⟩ := here
        rw [search_match front stands.symm] at found
        dsimp only at found
        split at found
        · exact onward _ (Nat.zero_le _) found
        · next outside =>
          rcases List.mem_cons.mp found with rfl | later
          · rw [← stands] at parts
            exact ⟨front.length, Nat.le_refl _, by rw [parts, List.take_left],
              (occursAt_iff parts).mpr outside⟩
          · exact onward _ (Nat.zero_le _) later
      · rw [search_none front here] at found
        exact onward 0 (Nat.zero_le _) found

/-- An occurrence is found where the search gets to it. -/
theorem mem_search_of_occursAt {line front rest : List Char} {c : Char}
    (parts : line = front ++ c :: rest) (occurs : OccursAt needle line front.length) :
    units (line.take front.length) ∈ search needle front 0 (c :: rest) := by
  have stands := occurs.stands
  rw [parts, List.drop_left] at stands
  obtain ⟨following, same⟩ := stands
  have outside := (occursAt_iff (by rw [parts, same])).mp occurs
  rw [search_match front same.symm, if_neg outside, parts, List.take_left]
  exact List.mem_cons_self

/-- What is found behind a match is found. -/
theorem search_subset (front : List Char) {c : Char} {rest : List Char}
    (stands : needle <+: c :: rest) :
    search needle (front ++ [c]) (needle.length - 1) rest ⊆ search needle front 0 (c :: rest) := by
  obtain ⟨following, same⟩ := stands
  rw [search_match front same.symm]
  dsimp only
  split
  · exact List.Subset.refl _
  · exact List.subset_cons_self ..

/-- An occurrence is found unless it overlaps an earlier match, which is found if it is an
occurrence itself. -/
theorem mem_search_or_overlapped (nonempty : needle ≠ []) {line front rest : List Char}
    (skip : Nat) {offset : Nat} (parts : line = front ++ rest)
    (far : front.length + skip ≤ offset) (occurs : OccursAt needle line offset) :
    units (line.take offset) ∈ search needle front skip rest ∨
      ∃ earlier < offset, offset < earlier + needle.length ∧ needle <+: line.drop earlier ∧
        (OccursAt needle line earlier →
          units (line.take earlier) ∈ search needle front skip rest) := by
  induction rest generalizing front skip with
  | nil =>
    have nothing : line.drop offset = [] := by
      rw [parts, List.append_nil, List.drop_eq_nil_iff]
      omega
    have stands := occurs.stands
    rw [nothing, List.prefix_nil] at stands
    exact absurd stands nonempty
  | cons c rest ih =>
    have onward := fun passed => ih passed (parts.trans (List.append_cons ..))
    rw [List.length_append, List.length_singleton] at onward
    cases skip with
    | succ skip =>
      rw [search_pass]
      exact onward skip (by omega)
    | zero =>
      have atFront : line.drop front.length = c :: rest := by rw [parts, List.drop_left]
      by_cases here : needle <+: c :: rest
      · rcases Nat.lt_trichotomy offset front.length with less | same | more
        · omega
        · -- the match is the occurrence
          subst same
          exact .inl (mem_search_of_occursAt parts occurs)
        · by_cases overlaps : offset < front.length + needle.length
          · exact .inr ⟨front.length, more, overlaps, atFront ▸ here, mem_search_of_occursAt parts⟩
          · have positive := List.length_pos_iff.mpr nonempty
            have kept := search_subset front here
            rcases onward (needle.length - 1) (by omega) with listed | overlapped
            · exact .inl (kept listed)
            · obtain ⟨earlier, before, reaches, same, listed⟩ := overlapped
              exact .inr ⟨earlier, before, reaches, same,
                fun occurrence => kept (listed occurrence)⟩
      · have elsewhere : offset ≠ front.length := by
          rintro rfl
          exact here (atFront ▸ occurs.stands)
        rw [search_none front here]
        exact onward 0 (by omega)

end Search

/-- A needle that can lose an occurrence to a match that is dropped. It overlaps itself `shift`
characters on; the second copy is not joined to what the first one puts in front of it, but the
first copy can be part of a longer identifier: by what precedes it, or by what the second copy puts
behind it. -/
structure HidesItself (needle : List Char) (shift : Nat) : Prop where
  oneLine : ∀ c ∈ needle, ¬ EndsLine c
  positive : 0 < shift
  overlaps : shift < needle.length
  again : needle.drop shift <+: needle
  apart : ¬ Joined (needle.take shift).getLast? needle.head?
  joined : needle.head?.any Identifier.isContinue ∨
    Joined needle.getLast? needle[needle.length - shift]?

theorem take_ne_nil {needle : List Char} {shift : Nat} (positive : 0 < shift)
    (overlaps : shift < needle.length) : needle.take shift ≠ [] := by
  rw [Ne, List.take_eq_nil_iff]
  rintro (zero | rfl)
  · omega
  · cases overlaps

theorem getLast?_append_take {needle : List Char} {shift : Nat} (positive : 0 < shift)
    (overlaps : shift < needle.length) (front : List Char) :
    (front ++ needle.take shift).getLast? = (needle.take shift).getLast? := by
  rw [List.getLast?_append, List.getLast?_eq_some_getLast (take_ne_nil positive overlaps),
    Option.some_or]

/-- An occurrence that overlaps an earlier match which is none. -/
theorem hidesItself_of_overlap {needle line : List Char} (free : ∀ c ∈ line, ¬ EndsLine c)
    {earlier shift : Nat} (positive : 0 < shift) (overlaps : shift < needle.length)
    (stands : needle <+: line.drop earlier) (occurs : OccursAt needle line (earlier + shift))
    (dropped : ¬ OccursAt needle line earlier) : HidesItself needle shift := by
  obtain ⟨rest, first⟩ := id stands
  obtain ⟨last, second⟩ := occurs.stands
  have copies : needle ++ last = needle.drop shift ++ rest := by
    rw [second, ← List.drop_drop, ← first, List.drop_append_of_le_length (Nat.le_of_lt overlaps)]
  have before : (line.take (earlier + shift)).getLast? = (needle.take shift).getLast? := by
    rw [List.take_add, ← first, List.take_append_of_le_length (Nat.le_of_lt overlaps)]
    exact getLast?_append_take positive overlaps _
  have behind : (line.drop (earlier + needle.length)).head? = needle[needle.length - shift]? := by
    have place : earlier + needle.length = earlier + shift + (needle.length - shift) := by omega
    rw [place, List.head?_drop, ← List.getElem?_drop, ← second,
      List.getElem?_append_left (by omega)]
  refine ⟨fun c member => free c ?_, positive, overlaps, ?_, ?_, ?_⟩
  · exact List.mem_of_mem_drop (stands.subset member)
  · exact List.prefix_of_prefix_length_le (List.prefix_append _ rest) ⟨last, copies⟩ (by simp)
  · rw [← before]
    exact occurs.before
  · rw [← behind]
    refine Classical.byContradiction fun neither => ?_
    obtain ⟨front, back⟩ := not_or.mp neither
    exact dropped ⟨stands, fun joined => front joined.2, back⟩

namespace HidesItself

variable {needle : List Char} {shift : Nat}

/-- The two copies are the needle and what it puts behind it. -/
theorem copies (hides : HidesItself needle shift) :
    ∃ behind, needle.take shift ++ needle = needle ++ behind ∧
      behind.head? = needle[needle.length - shift]? ∧ behind.length = shift := by
  obtain ⟨behind, same⟩ := hides.again
  have overlaps := hides.overlaps
  have length := congrArg List.length same
  rw [List.length_append, List.length_drop] at length
  refine ⟨behind, ?_, ?_, by omega⟩
  · calc needle.take shift ++ needle
        = needle.take shift ++ (needle.drop shift ++ behind) := by rw [same]
      _ = needle ++ behind := by rw [← List.append_assoc, List.take_append_drop]
  · calc behind.head?
        = (needle.drop shift ++ behind)[(needle.drop shift).length]? := by
          rw [List.getElem?_append_right (Nat.le_refl _), Nat.sub_self, List.head?_eq_getElem?]
      _ = needle[needle.length - shift]? := by rw [same, List.length_drop]

/-- A match that is dropped takes the overlapping copy with it. -/
theorem search_eq_nil (hides : HidesItself needle shift) {front : List Char}
    (inside : insideIdentifier needle front.getLast? needle[needle.length - shift]?) :
    search needle front 0 (needle.take shift ++ needle) = [] := by
  obtain ⟨behind, same, next, length⟩ := hides.copies
  have overlaps := hides.overlaps
  rw [same]
  cases both : needle ++ behind with
  | nil => exact search_nil front 0
  | cons c rest =>
    rw [search_match front both.symm, next, if_pos inside, List.eq_nil_iff_forall_not_mem]
    intro column found
    obtain ⟨offset, far, -, occurs⟩ := occursAt_of_mem_search rfl found
    -- behind the match there is no room for another one
    have room := occurs.stands.length_le
    have sizes := congrArg List.length both
    rw [List.length_drop, List.length_append] at room
    rw [List.length_append, List.length_cons] at sizes
    omega

/-- What is lost: a copy of the needle with the beginning of an earlier copy before it. -/
theorem occursAt (hides : HidesItself needle shift) (front : List Char) :
    OccursAt needle (front ++ (needle.take shift ++ needle)) (front.length + shift) := by
  have overlaps := hides.overlaps
  have place : front.length + shift = (front ++ needle.take shift).length := by
    rw [List.length_append, List.length_take, Nat.min_eq_left (Nat.le_of_lt overlaps)]
  have parts : front ++ (needle.take shift ++ needle) =
      (front ++ needle.take shift) ++ (needle ++ []) := by simp
  rw [place, occursAt_iff parts, insideIdentifier_iff,
    getLast?_append_take hides.positive overlaps]
  rintro (joined | joined)
  · exact hides.apart joined
  · exact absurd joined.2 (by simp)

end HidesItself

/-- Within an identifier every copy is joined to what is in front of it. -/
theorem not_hidesItself_of_identifier {needle : List Char}
    (identifier : ∀ c ∈ needle, Identifier.isContinue c) (shift : Nat) :
    ¬ HidesItself needle shift := by
  intro hides
  have filled := take_ne_nil hides.positive hides.overlaps
  refine hides.apart ⟨?_, ?_⟩
  · rw [List.getLast?_eq_some_getLast filled]
    exact identifier _ (List.mem_of_mem_take (List.getLast_mem filled))
  · cases needle with
    | nil => cases hides.overlaps
    | cons c rest => exact identifier c (List.mem_cons_self ..)

theorem exists_isContinue_ne (c : Char) :
    ∃ d, Identifier.isContinue d ∧ d ≠ c ∧ ¬ EndsLine d := by
  by_cases same : c = 'a'
  · subst same
    exact ⟨'b', by decide, by decide, by rintro (h | h) <;> cases h⟩
  · exact ⟨'a', by decide, Ne.symm same, by rintro (h | h) <;> cases h⟩

namespace View

variable {view : View} {needle : List Char}

theorem mem_findAll (nonempty : needle ≠ []) {place : Place} :
    place ∈ view.findAll needle ↔ ∃ line, view.line? place.line = some line ∧
      place.column ∈ occurrences needle line := by
  have isEmpty : needle.isEmpty = false := by simpa using nonempty
  simp only [findAll, isEmpty, Bool.false_eq_true, if_false, List.mem_flatMap, List.mem_map,
    Prod.exists, List.mem_zipIdx_iff_getElem?, line?]
  constructor
  · rintro ⟨line, index, listed, column, found, rfl⟩
    exact ⟨line, listed, found⟩
  · rintro ⟨line, listed, found⟩
    exact ⟨line, place.line, listed, place.column, found, rfl⟩

/-- What is found at a place of a line that is listed. -/
theorem mk_mem_findAll (nonempty : needle ≠ []) {line : List Char} {index column : Nat}
    (listed : view.line? index = some line) :
    ⟨index, column⟩ ∈ view.findAll needle ↔ column ∈ occurrences needle line := by
  simp [mem_findAll nonempty, listed]

theorem findAll_sorted (needle : List Char) (view : View) :
    (view.findAll needle).Pairwise fun place other =>
      place.line < other.line ∨ place.line = other.line ∧ place.column < other.column := by
  unfold findAll
  split
  · exact .nil
  · refine List.pairwise_flatMap.mpr ⟨?_, ?_⟩
    · rintro ⟨line, index⟩ _
      refine List.pairwise_map.mpr ?_
      exact (occurrencesFrom_sorted 0 none 0 line).2.imp fun less => .inr ⟨rfl, less⟩
    · have indexes : (view.lines.zipIdx.map Prod.snd).Pairwise (· < ·) := by
        rw [List.zipIdx_map_snd]
        exact List.pairwise_lt_range' 1
      refine (List.pairwise_map.mp indexes).imp fun less => ?_
      intro place listed other further
      obtain ⟨_, _, rfl⟩ := List.mem_map.mp listed
      obtain ⟨_, _, rfl⟩ := List.mem_map.mp further
      exact .inl less

/-- Every occurrence in a text is found, or it overlaps an earlier one that is. -/
def MissesNothing (view : View) (needle : List Char) : Prop :=
  ∀ index line offset, view.line? index = some line → OccursAt needle line offset →
    ⟨index, units (line.take offset)⟩ ∈ view.findAll needle ∨
      ∃ earlier < offset, offset < earlier + needle.length ∧ OccursAt needle line earlier ∧
        ⟨index, units (line.take earlier)⟩ ∈ view.findAll needle

theorem missesNothing_of_not_hidesItself (nonempty : needle ≠ [])
    (plain : ∀ shift, ¬ HidesItself needle shift) (text : String) :
    (ofString text).MissesNothing needle := by
  intro index line offset listed occurs
  have free := not_endsLine_of_mem_lines (List.mem_of_getElem? listed)
  rcases mem_search_or_overlapped nonempty 0 (List.nil_append line).symm (Nat.zero_le _) occurs
    with found | ⟨earlier, less, overlaps, stands, found⟩
  · exact .inl ((mk_mem_findAll nonempty listed).mpr found)
  · by_cases occurrence : OccursAt needle line earlier
    · exact .inr ⟨earlier, less, overlaps, occurrence,
        (mk_mem_findAll nonempty listed).mpr (found occurrence)⟩
    · obtain ⟨shift, rfl⟩ := Nat.exists_eq_add_of_lt less
      exact absurd (hidesItself_of_overlap free (Nat.succ_pos shift) (by omega) stands occurs
        occurrence) (plain _)

/-- A line of both copies, behind something that makes the first one a part of a longer
identifier. -/
theorem not_missesNothing {shift : Nat} (hides : HidesItself needle shift) (front : List Char)
    {line : List Char} (parts : line = front ++ (needle.take shift ++ needle))
    (free : ∀ c ∈ front, ¬ EndsLine c)
    (starts : occurrences needle line = search needle front 0 (needle.take shift ++ needle))
    (inside : Joined front.getLast? needle.head? ∨
      Joined needle.getLast? needle[needle.length - shift]?) :
    ¬ (ofString (String.ofList line)).MissesNothing needle := by
  intro complete
  have nonempty : needle ≠ [] := by
    rintro rfl
    cases hides.overlaps
  have oneLine : ∀ c ∈ line, ¬ EndsLine c := by
    simp only [parts, List.forall_mem_append]
    exact ⟨free, fun c member => hides.oneLine c (List.mem_of_mem_take member), hides.oneLine⟩
  have listed : (ofString (String.ofList line)).line? 0 = some line := by
    rw [ofString, String.toList_ofList, lines_eq_singleton oneLine]
    rfl
  have nothing : ∀ column, ⟨0, column⟩ ∉ (ofString (String.ofList line)).findAll needle := by
    intro column
    rw [mk_mem_findAll nonempty listed, starts,
      hides.search_eq_nil ((insideIdentifier_iff ..).mpr inside)]
    exact List.not_mem_nil
  rcases complete 0 _ _ listed (parts ▸ hides.occursAt front) with found | ⟨_, _, _, _, found⟩
  · exact nothing _ found
  · exact nothing _ found

/-- What the search for a needle finds comes in order and consists of occurrences, and an occurrence
that is not found overlaps an earlier match. That every such match is an occurrence that is found
holds in all texts exactly for the needles that do not hide themselves. -/
theorem findAll_missesNothing_iff (nonempty : needle ≠ []) :
    (∀ text : String,
      ((ofString text).findAll needle).Pairwise (fun place other =>
        place.line < other.line ∨ place.line = other.line ∧ place.column < other.column) ∧
      (∀ place ∈ (ofString text).findAll needle, ∃ line offset,
        (ofString text).line? place.line = some line ∧ place.column = units (line.take offset) ∧
        OccursAt needle line offset) ∧
      ∀ index line offset, (ofString text).line? index = some line → OccursAt needle line offset →
        ⟨index, units (line.take offset)⟩ ∈ (ofString text).findAll needle ∨
          ∃ earlier < offset, offset < earlier + needle.length ∧ needle <+: line.drop earlier) ∧
    ((∀ text : String, (ofString text).MissesNothing needle) ↔
      ∀ shift, ¬ HidesItself needle shift) := by
  refine ⟨fun text => ⟨findAll_sorted needle _, ?_, ?_⟩, ?_, ?_⟩
  · intro place found
    obtain ⟨line, listed, column⟩ := (mem_findAll nonempty).mp found
    obtain ⟨offset, -, columnEq, occurs⟩ :=
      occursAt_of_mem_search (List.nil_append line).symm column
    exact ⟨line, offset, listed, columnEq, occurs⟩
  · intro index line offset listed occurs
    rw [mk_mem_findAll nonempty listed]
    rcases mem_search_or_overlapped nonempty 0 (List.nil_append line).symm (Nat.zero_le _) occurs
      with found | ⟨earlier, less, overlaps, stands, -⟩
    · exact .inl found
    · exact .inr ⟨earlier, less, overlaps, stands⟩
  · intro complete shift hides
    obtain ⟨c, rest, rfl⟩ := List.exists_cons_of_ne_nil nonempty
    by_cases identifier : Identifier.isContinue c
    · obtain ⟨d, continues, differs, inside⟩ := exists_isContinue_ne c
      refine not_missesNothing hides [d] rfl (by simpa using inside) ?_
        (.inl ⟨continues, identifier⟩) (complete _)
      exact search_none [] fun stands => differs (List.cons_prefix_cons.mp stands).1.symm
    · exact not_missesNothing hides [] rfl (by simp) rfl
        (.inr (hides.joined.resolve_left identifier)) (complete _)
  · exact fun plain => missesNothing_of_not_hidesItself nonempty plain

/-- Copies of this needle overlap, but none of them is ever lost. -/
theorem findAll_missesNothing_identifier : "x0x0".toList ≠ [] ∧
    ∀ text : String, (ofString text).MissesNothing "x0x0".toList :=
  ⟨by decide, (findAll_missesNothing_iff (by decide)).2.mpr
    (not_hidesItself_of_identifier (List.all_eq_true.mp (by decide)))⟩

/-- The first copy continues the identifier in front of it, and the second one is an occurrence. -/
theorem findAll_missesNothing_dashed :
    OccursAt "a-a".toList "xa-a-a".toList 3 ∧ (ofString "xa-a-a").findAll "a-a".toList = [] ∧
      ¬ (ofString "xa-a-a").MissesNothing "a-a".toList := by
  have occurs : OccursAt "a-a".toList "xa-a-a".toList 3 := ⟨by decide, by decide, by decide⟩
  have nothing : (ofString "xa-a-a").findAll "a-a".toList = [] := by decide
  refine ⟨occurs, nothing, ?_⟩
  intro complete
  rcases complete 0 _ 3 rfl occurs with found | ⟨_, _, _, _, found⟩
  · rw [nothing] at found
    cases found
  · rw [nothing] at found
    cases found

end View

end SourceTrace.Text
