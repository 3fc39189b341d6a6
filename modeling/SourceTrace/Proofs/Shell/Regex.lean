import Mathlib.Data.List.Basic
import SourceTrace.Shell.Regex

/-!
# What regular expressions match

Matching lists the places behind all matches, to a bound on its depth. An expression has a meaning
of its own beside that: between which places it leads. Every place that is listed is one of those,
and if nothing refers back to numbered parts and the bound is not too low, no point of the text is
left out.
-/
namespace SourceTrace.Shell.Regex

variable {same : Char → Char → Bool} {regex : Regex} {place next : Place}

namespace Place

/-- A place that is reached by passing a text. -/
structure Ahead (place : Place) (passed : List Char) (next : Place) : Prop where
  rest : place.rest = passed ++ next.rest
  before : next.before = passed.reverse ++ place.before

theorem Ahead.refl (place : Place) : place.Ahead [] place := ⟨rfl, rfl⟩

theorem Ahead.trans {last : Place} {first second : List Char} (near : place.Ahead first next)
    (far : next.Ahead second last) : place.Ahead (first ++ second) last where
  rest := by rw [near.rest, far.rest, List.append_assoc]
  before := by rw [far.before, near.before, List.reverse_append, List.append_assoc]

theorem Ahead.length_le {passed : List Char} (ahead : place.Ahead passed next) :
    next.rest.length ≤ place.rest.length := by
  rw [ahead.rest, List.length_append]
  exact Nat.le_add_left _ _

/-- A place behind a text that leaves the numbered parts alone. -/
def Passes (place : Place) (passed : List Char) (next : Place) : Prop :=
  place.Ahead passed next ∧ next.groups = place.groups

theorem mem_step_iff {test : Char → Bool} :
    next ∈ place.step test ↔ ∃ c, test c = true ∧ place.Passes [c] next := by
  obtain ⟨before, rest, groups⟩ := place
  obtain ⟨nextBefore, nextRest, nextGroups⟩ := next
  cases rest with
  | nil =>
    have stuck {c : Char} :
        ¬ Passes ⟨before, [], groups⟩ [c] ⟨nextBefore, nextRest, nextGroups⟩ :=
      fun passes => nomatch passes.1.rest
    simp [step, stuck]
  | cons c rest =>
    constructor
    · intro member
      by_cases passes : test c = true
      · simp only [step, passes, if_true, List.mem_singleton] at member
        cases member
        exact ⟨c, passes, ⟨rfl, rfl⟩, rfl⟩
      · simp [step, passes] at member
    · rintro ⟨d, passes, ⟨rest, before⟩, groups⟩
      dsimp only at rest before groups
      cases rest
      subst before groups
      simp [step, passes]

theorem mem_skips_iff {text : List Char} {places : List Place} :
    next ∈ text.foldl (fun places c => places.flatMap fun place => place.step (same c)) places
      ↔ ∃ place ∈ places, ∃ passed,
        List.Forall₂ (fun c d => same c d = true) text passed ∧ place.Passes passed next := by
  induction text generalizing places with
  | nil =>
    constructor
    · intro member
      exact ⟨next, member, [], .nil, .refl next, rfl⟩
    · rintro ⟨place, member, passed, alike, ahead, groups⟩
      cases alike
      obtain ⟨before, rest, groups⟩ := place
      obtain ⟨nextBefore, nextRest, nextGroups⟩ := next
      obtain ⟨rest, before⟩ := ahead
      dsimp only [List.nil_append, List.reverse_nil] at rest before groups
      subst rest before groups
      exact member
  | cons c text ih =>
    rw [List.foldl_cons, ih]
    constructor
    · rintro ⟨middle, member, passed, alike, far⟩
      obtain ⟨place, there, stepped⟩ := List.mem_flatMap.mp member
      obtain ⟨d, near, passes⟩ := mem_step_iff.mp stepped
      exact ⟨place, there, d :: passed, .cons near alike, passes.1.trans far.1,
        far.2.trans passes.2⟩
    · rintro ⟨place, there, passed, alike, ahead, groups⟩
      cases alike with
      | cons near alike =>
        rename_i d passed
        refine ⟨⟨d :: place.before, passed ++ next.rest, place.groups⟩,
          List.mem_flatMap.mpr ⟨place, there, mem_step_iff.mpr ⟨d, near, ⟨ahead.rest, rfl⟩, rfl⟩⟩,
          passed, alike, ⟨rfl, ?_⟩, groups⟩
        rw [ahead.before, List.reverse_cons, List.append_assoc]
        rfl

theorem mem_skip_iff {text : List Char} :
    next ∈ place.skip same text ↔
      ∃ passed, List.Forall₂ (fun c d => same c d = true) text passed
        ∧ place.Passes passed next := by
  rw [skip, mem_skips_iff]
  simp

end Place

/-- A number of steps of a relation. -/
inductive Repeats (step : Place → Place → Prop) : Nat → Place → Place → Prop where
  | none (place : Place) : Repeats step 0 place place
  | more {count : Nat} {place next last : Place} (near : step place next)
      (far : Repeats step count next last) : Repeats step (count + 1) place last

/-- Between which places an expression leads. -/
def Leads (same : Char → Char → Bool) : Regex → Place → Place → Prop
  | .nothing, place, next => next = place
  | .exact c, place, next => ∃ d, same c d = true ∧ place.Passes [d] next
  | .any, place, next => ∃ d, place.Passes [d] next
  | .oneOf outside members, place, next =>
    ∃ d, (outside = false ↔ ∃ c ∈ members, same c d = true) ∧ place.Passes [d] next
  | .start, place, next => place.before = [] ∧ next = place
  | .finish, place, next => place.rest = [] ∧ next = place
  | .edge isStart isEnd, place, next => place.isEdge isStart isEnd = true ∧ next = place
  | .sequence first second, place, last =>
    ∃ next, Leads same first place next ∧ Leads same second next last
  | .either first second, place, next => Leads same first place next ∨ Leads same second place next
  | .repeated least most inner, place, next =>
    ∃ count, least ≤ count ∧ (∀ limit, most = some limit → count ≤ limit) ∧
      Repeats (Leads same inner) count place next
  | .group number inner, place, last =>
    ∃ next passed, Leads same inner place next ∧ place.Ahead passed next ∧
      last = { next with
        groups := (number, passed) :: next.groups.filter fun (known, _) => known != number }
  | .again number, place, next =>
    ∃ text passed, List.lookup number place.groups = some text ∧
      List.Forall₂ (fun c d => same c d = true) text passed ∧ place.Passes passed next

theorem Repeats.ahead {step : Place → Place → Prop} {count : Nat}
    (each : ∀ {place next}, step place next → ∃ passed, place.Ahead passed next)
    (steps : Repeats step count place next) : ∃ passed, place.Ahead passed next := by
  induction steps with
  | none place => exact ⟨[], .refl place⟩
  | more near _ ih =>
    obtain ⟨first, ahead⟩ := each near
    obtain ⟨second, further⟩ := ih
    exact ⟨first ++ second, ahead.trans further⟩

theorem Leads.ahead (leads : Leads same regex place next) : ∃ passed, place.Ahead passed next := by
  induction regex generalizing place next with
  | nothing => exact ⟨[], leads ▸ .refl place⟩
  | exact c =>
    obtain ⟨d, -, passes⟩ := leads
    exact ⟨[d], passes.1⟩
  | any =>
    obtain ⟨d, passes⟩ := leads
    exact ⟨[d], passes.1⟩
  | oneOf outside members =>
    obtain ⟨d, -, passes⟩ := leads
    exact ⟨[d], passes.1⟩
  | start => exact ⟨[], leads.2 ▸ .refl place⟩
  | finish => exact ⟨[], leads.2 ▸ .refl place⟩
  | edge isStart isEnd => exact ⟨[], leads.2 ▸ .refl place⟩
  | sequence first second firstIh secondIh =>
    obtain ⟨middle, near, far⟩ := leads
    obtain ⟨passed, ahead⟩ := firstIh near
    obtain ⟨more, further⟩ := secondIh far
    exact ⟨passed ++ more, ahead.trans further⟩
  | either first second firstIh secondIh => exact leads.elim firstIh secondIh
  | repeated least most inner ih =>
    obtain ⟨count, -, -, steps⟩ := leads
    exact steps.ahead ih
  | group number inner ih =>
    obtain ⟨middle, passed, -, ahead, rfl⟩ := leads
    exact ⟨passed, ahead.rest, ahead.before⟩
  | again number =>
    obtain ⟨text, passed, -, -, passes⟩ := leads
    exact ⟨passed, passes.1⟩

theorem Leads.length_le (leads : Leads same regex place next) :
    next.rest.length ≤ place.rest.length := by
  obtain ⟨passed, ahead⟩ := leads.ahead
  exact ahead.length_le

/-- What a group keeps is the text between its two places. -/
theorem kept_eq {passed : List Char} (ahead : place.Ahead passed next) :
    place.rest.take (place.rest.length - next.rest.length) = passed := by
  rw [ahead.rest, List.length_append, Nat.add_sub_cancel, List.take_left]

/-- What is listed behind repetitions: the place itself when no more are needed, and what is behind
one match that is needed or goes ahead and the repetitions that are left. -/
theorem mem_repeated_iff {fuel least : Nat} {most : Option Nat} :
    next ∈ places same (fuel + 1) (.repeated least most regex) place ↔
      (least = 0 ∧ next = place) ∨
      (most ≠ some 0 ∧ ∃ middle ∈ places same fuel regex place,
        (0 < least ∨ middle.rest.length < place.rest.length) ∧
          next ∈ places same fuel (.repeated (least - 1) (most.map (· - 1)) regex) middle) := by
  rw [places]
  by_cases done : most = some 0 <;> by_cases free : least = 0 <;>
    simp [done, free, List.mem_flatMap, and_assoc, or_comm]

/-- Every place that is listed is one that the expression leads to. -/
theorem leads_of_mem_places {fuel : Nat} (listed : next ∈ places same fuel regex place) :
    Leads same regex place next := by
  induction fuel generalizing regex place next with
  | zero => exact absurd listed List.not_mem_nil
  | succ fuel ih =>
    cases regex with
    | nothing => exact List.mem_singleton.mp listed
    | exact c => exact Place.mem_step_iff.mp listed
    | any =>
      obtain ⟨d, -, passes⟩ := Place.mem_step_iff.mp listed
      exact ⟨d, passes⟩
    | oneOf outside members =>
      obtain ⟨d, inside, passes⟩ := Place.mem_step_iff.mp listed
      refine ⟨d, ?_, passes⟩
      rw [← List.any_eq_true]
      cases outside <;> simpa using inside
    | start =>
      rw [places] at listed
      split at listed
      next front => exact ⟨List.isEmpty_iff.mp front, List.mem_singleton.mp listed⟩
      next => exact absurd listed List.not_mem_nil
    | finish =>
      rw [places] at listed
      split at listed
      next back => exact ⟨List.isEmpty_iff.mp back, List.mem_singleton.mp listed⟩
      next => exact absurd listed List.not_mem_nil
    | edge isStart isEnd =>
      rw [places] at listed
      split at listed
      next edge => exact ⟨edge, List.mem_singleton.mp listed⟩
      next => exact absurd listed List.not_mem_nil
    | sequence first second =>
      obtain ⟨middle, near, far⟩ := List.mem_flatMap.mp listed
      exact ⟨middle, ih near, ih far⟩
    | either first second => exact (List.mem_append.mp listed).imp ih ih
    | group number inner =>
      obtain ⟨middle, near, rfl⟩ := List.mem_map.mp listed
      obtain ⟨passed, ahead⟩ := (ih near).ahead
      refine ⟨middle, passed, ih near, ahead, ?_⟩
      rw [kept_eq ahead]
    | again number =>
      rw [places] at listed
      split at listed
      next text known =>
        obtain ⟨passed, alike, passes⟩ := Place.mem_skip_iff.mp listed
        exact ⟨text, passed, known, alike, passes⟩
      next => exact absurd listed List.not_mem_nil
    | repeated least most inner =>
      rcases mem_repeated_iff.mp listed with ⟨free, rfl⟩ | ⟨unfinished, middle, near, -, far⟩
      · exact ⟨0, Nat.le_of_eq free, fun _ _ => Nat.zero_le _, .none next⟩
      · obtain ⟨count, enough, fits, steps⟩ := ih far
        refine ⟨count + 1, by omega, fun limit bound => ?_, .more (ih near) steps⟩
        subst bound
        have positive : limit ≠ 0 := fun zero => unfinished (congrArg some zero)
        have := fits (limit - 1) rfl
        omega

section Completeness

/-- An expression without references back to numbered parts. -/
def Free : Regex → Prop
  | .sequence first second | .either first second => first.Free ∧ second.Free
  | .repeated _ _ inner | .group _ inner => inner.Free
  | .again _ => False
  | _ => True

/-- How deep a search for an expression goes in a text of a length. -/
def depth : Regex → Nat → Nat
  | .sequence first second, length | .either first second, length =>
    max (first.depth length) (second.depth length) + 1
  | .repeated least _ inner, length => inner.depth length + least + length + 1
  | .group _ inner, length => inner.depth length + 1
  | _, _ => 1

theorem depth_mono (regex : Regex) {short long : Nat} (le : short ≤ long) :
    regex.depth short ≤ regex.depth long := by
  induction regex with
  | sequence first second firstIh secondIh => simp only [depth]; omega
  | either first second firstIh secondIh => simp only [depth]; omega
  | repeated least most inner ih => simp only [depth]; omega
  | group number inner ih => simp only [depth]; omega
  | _ => exact Nat.le_refl _

theorem depth_pos (regex : Regex) (length : Nat) : 0 < regex.depth length := by
  cases regex <;> simp [depth]

theorem depth_le (regex : Regex) (length : Nat) :
    regex.depth length ≤ (length + 2) * regex.size := by
  induction regex with
  | sequence first second firstIh secondIh =>
    simp only [depth, size, Nat.mul_add]
    omega
  | either first second firstIh secondIh =>
    simp only [depth, size, Nat.mul_add]
    omega
  | repeated least most inner ih =>
    have least_le : least ≤ (length + 2) * least := Nat.le_mul_of_pos_left _ (Nat.succ_pos _)
    calc (Regex.repeated least most inner).depth length
        ≤ (length + 2) * inner.size + (length + 2) * least + (length + 2) := by
          rw [depth]
          omega
      _ = (length + 2) * (inner.size + least + 1) := by
          rw [Nat.mul_add, Nat.mul_add, Nat.mul_one]
      _ ≤ (length + 2) * ((least + most.getD 0 + 1) * (inner.size + 1)) := by
          refine Nat.mul_le_mul_left _ ?_
          have part : least ≤ (least + most.getD 0) * (inner.size + 1) :=
            Nat.le_trans (Nat.le_add_right _ _) (Nat.le_mul_of_pos_right _ (Nat.succ_pos _))
          rw [Nat.add_mul _ 1, Nat.one_mul]
          omega
  | group number inner ih =>
    simp only [depth, size, Nat.mul_add]
    omega
  | _ => simp only [depth, size]; omega

/-- A place at the same point of the text, whatever the numbered parts are. -/
structure Place.Beside (place other : Place) : Prop where
  before : other.before = place.before
  rest : other.rest = place.rest

theorem Place.Passes.beside {passed : List Char} {other : Place} (passes : place.Passes passed next)
    (beside : place.Beside other) :
    ∃ last, other.Passes passed last ∧ next.Beside last :=
  ⟨{ next with groups := other.groups },
    ⟨⟨beside.rest.trans passes.1.rest, by rw [passes.1.before, beside.before]⟩, rfl⟩, rfl, rfl⟩

/-- A place that lies ahead without fewer characters left is at the same point. -/
theorem Place.Ahead.beside {passed : List Char} (ahead : place.Ahead passed next)
    (still : place.rest.length ≤ next.rest.length) : place.Beside next := by
  have nothing : passed = [] := by
    have lengths := congrArg List.length ahead.rest
    rw [List.length_append] at lengths
    exact List.length_eq_zero_iff.mp (by omega)
  subst nothing
  exact ⟨ahead.before, ahead.rest.symm⟩

/-- To every point that an expression without references leads to there is a place that is listed,
if the bound is not below the depth. -/
theorem exists_mem_places {fuel : Nat} {other : Place} (free : regex.Free)
    (enough : regex.depth other.rest.length ≤ fuel) (leads : Leads same regex place next)
    (beside : place.Beside other) :
    ∃ last ∈ places same fuel regex other, next.Beside last := by
  induction fuel generalizing regex place next other with
  | zero => exact absurd enough (Nat.not_le_of_gt (depth_pos _ _))
  | succ fuel ih =>
    cases regex with
    | nothing =>
      subst leads
      exact ⟨other, List.mem_singleton_self other, beside⟩
    | exact c =>
      obtain ⟨d, alike, passes⟩ := leads
      obtain ⟨last, there, near⟩ := passes.beside beside
      exact ⟨last, Place.mem_step_iff.mpr ⟨d, alike, there⟩, near⟩
    | any =>
      obtain ⟨d, passes⟩ := leads
      obtain ⟨last, there, near⟩ := passes.beside beside
      exact ⟨last, Place.mem_step_iff.mpr ⟨d, rfl, there⟩, near⟩
    | oneOf outside members =>
      obtain ⟨d, inside, passes⟩ := leads
      obtain ⟨last, there, near⟩ := passes.beside beside
      refine ⟨last, Place.mem_step_iff.mpr ⟨d, ?_, there⟩, near⟩
      rw [← List.any_eq_true] at inside
      cases outside <;> simpa using inside
    | start =>
      obtain ⟨front, rfl⟩ := leads
      refine ⟨other, ?_, beside⟩
      rw [places, beside.before, front]
      exact List.mem_singleton_self other
    | finish =>
      obtain ⟨back, rfl⟩ := leads
      refine ⟨other, ?_, beside⟩
      rw [places, beside.rest, back]
      exact List.mem_singleton_self other
    | edge isStart isEnd =>
      obtain ⟨edge, rfl⟩ := leads
      refine ⟨other, ?_, beside⟩
      rw [places, Place.isEdge, beside.before, beside.rest]
      rw [Place.isEdge] at edge
      rw [if_pos edge]
      exact List.mem_singleton_self other
    | sequence first second =>
      obtain ⟨middle, near, far⟩ := leads
      rw [depth] at enough
      obtain ⟨reached, listed, there⟩ := ih free.1 (by omega) near beside
      have below := second.depth_mono (leads_of_mem_places listed).length_le
      obtain ⟨last, found, last_beside⟩ := ih free.2 (by omega) far there
      exact ⟨last, List.mem_flatMap.mpr ⟨reached, listed, found⟩, last_beside⟩
    | either first second =>
      rw [depth] at enough
      rcases leads with left | right
      · obtain ⟨last, listed, there⟩ := ih free.1 (by omega) left beside
        exact ⟨last, List.mem_append_left _ listed, there⟩
      · obtain ⟨last, listed, there⟩ := ih free.2 (by omega) right beside
        exact ⟨last, List.mem_append_right _ listed, there⟩
    | group number inner =>
      obtain ⟨middle, passed, near, -, rfl⟩ := leads
      have free : inner.Free := free
      rw [depth] at enough
      obtain ⟨reached, listed, there⟩ := ih free (by omega) near beside
      exact ⟨_, List.mem_map_of_mem listed, there.before, there.rest⟩
    | again number => exact absurd free id
    | repeated least most inner =>
      obtain ⟨count, atLeast, atMost, steps⟩ := leads
      have free : inner.Free := free
      -- A match that is not needed and goes nowhere is left out; what follows it starts here.
      induction steps generalizing other with
      | none place =>
        exact ⟨other, mem_repeated_iff.mpr (.inl ⟨by omega, rfl⟩), beside⟩
      | more near far following =>
        rename_i count place middle next
        have enough' := enough
        rw [depth] at enough'
        obtain ⟨reached, listed, there⟩ := ih free (by omega) near beside
        obtain ⟨passed, ahead⟩ := (leads_of_mem_places listed).ahead
        have le := ahead.length_le
        have below := inner.depth_mono le
        by_cases onward : 0 < least ∨ reached.rest.length < other.rest.length
        · have left : Leads same (.repeated (least - 1) (most.map (· - 1)) inner) middle next := by
            refine ⟨count, by omega, fun limit bound => ?_, far⟩
            obtain ⟨old, rfl, rfl⟩ := Option.map_eq_some_iff.mp bound
            have := atMost old rfl
            omega
          have freeLeft : (Regex.repeated (least - 1) (most.map (· - 1)) inner).Free := free
          obtain ⟨last, found, last_beside⟩ := ih freeLeft (by rw [depth]; omega) left there
          refine ⟨last, mem_repeated_iff.mpr (.inr ⟨?_, reached, listed, onward, found⟩),
            last_beside⟩
          rintro rfl
          exact absurd (atMost 0 rfl) (by omega)
        · have stays := ahead.beside (by omega)
          refine following ⟨stays.before.symm.trans there.before,
            stays.rest.symm.trans there.rest⟩ enough (by omega) fun limit bound => ?_
          exact Nat.le_of_succ_le (atMost limit bound)

end Completeness

end SourceTrace.Shell.Regex
