import SourceTrace.Check.Associativity
import SourceTrace.Proofs.Compose.Spelling
import SourceTrace.Proofs.Compose.Tracked

/-!
# When composed documents pass the check of their layers

The check compares texts of sources. A composed document that was made from tracked artifacts passes
it exactly if every source of the outer document that is no tracked artifact has the text that
renaming it within its own directory gives: the composed document keeps such a text, and following
the layers does not.
-/
namespace SourceTrace

open Compose

section Memory

variable {σ : Type} {resolver : Resolver σ} {answers : Answers} {valid : σ → Prop}

/-- Following layers keeps the memory valid if every answer does. -/
theorem Layered.follow_valid
    (keeps : ∀ memory, valid memory → ∀ source base, valid (resolver.answer source base memory).2)
    (fuel : Nat) (seen : List String) (base : Option Path) (position : SourcePosition) {memory : σ}
    (start : valid memory) : valid (follow resolver fuel seen base position memory).2 := by
  induction fuel generalizing seen base position memory with
  | zero => exact start
  | succ fuel ih =>
    have after := keeps memory start position.source base
    unfold follow
    dsimp only
    split
    · exact start
    · generalize resolver.answer position.source base memory = reply at after
      rcases reply with ⟨cause | _ | inner, middle⟩
      · exact after
      · exact after
      · dsimp only
        split
        · exact after
        · exact ih _ _ _ after

theorem Layered.resolve_valid
    (keeps : ∀ memory, valid memory → ∀ source base, valid (resolver.answer source base memory).2)
    (outer : Document) (line column : Nat) {memory : σ} (start : valid memory) :
    valid (resolve resolver outer line column memory).2 := by
  unfold resolve
  split
  · exact start
  · next position _ =>
    have after := Layered.follow_valid keeps (resolver.bound memory + 1) [] outer.baseDir position
      start
    generalize Layered.follow resolver (resolver.bound memory + 1) [] outer.baseDir position
      memory = reply at after
    rcases reply with ⟨cause | _ | found, middle⟩
    · exact after
    · exact after
    · exact after

theorem Check.associativityFailure?_eq_none_iff (segment : Segment)
    (observed : Option SourcePosition) (layered : Except Error (Option SourcePosition)) :
    associativityFailure? segment observed layered = none ↔ layered = .ok observed := by
  unfold associativityFailure?
  cases layered with
  | error cause => simp
  | ok expected => simp

/-- The check finds nothing if it finds nothing at any segment. -/
theorem Check.associativityOf_eq_nil_iff {outer composed : Document} {holds : Segment → Prop}
    (keeps : ∀ memory, valid memory → ∀ line column,
      valid (Layered.resolve resolver outer line column memory).2)
    (each : ∀ memory, valid memory → ∀ segment : Segment,
      (Layered.resolve resolver outer segment.line segment.column memory).1 =
        .ok (composed.lookup? segment.line segment.column) ↔ holds segment)
    (segments : List Segment) {memory : σ} (start : valid memory) :
    (associativityOf resolver outer composed segments memory).1 = [] ↔
      ∀ segment ∈ segments, holds segment := by
  induction segments generalizing memory with
  | nil => simp [associativityOf]
  | cons segment rest ih =>
    have here := each memory start segment
    have others := ih (keeps memory start segment.line segment.column)
    simp only [associativityOf, List.append_eq_nil_iff, Option.toList_eq_nil_iff,
      associativityFailure?_eq_none_iff, here, others, List.forall_mem_cons]

/-- What composing a document of anchored directories gives. -/
structure Anchorage (answers : Answers) (outer composed : Document) (base : Path) : Prop
    extends Spelled answers outer composed where
  composed : Composed answers outer composed
  based : outer.baseDir = some base
  anchored : Source.Anchored base
  inner : ∀ key doc, answers key = .ok (some doc) → ∃ dir, doc.baseDir = some dir ∧
    Source.Anchored dir

/-- The end of a chain can be renamed from where it is. -/
theorem Compose.Denotes.movable {base : Path} {position : SourcePosition}
    {found : SourcePosition × Option Path} (denotes : Denotes (some base) position found) :
    Movable found.2 found.1.source := by
  have same := denotes.source.self_right
  have compatible := denotes.source.compatible
  generalize found.2 = dir at same compatible
  cases compatible with
  | anchored _ second => exact ⟨_, rfl, second, same.plain (by simp)⟩

/-- The end of a chain with another text, and what the composed document has. -/
theorem Compose.Denotes.eq_iff {base : Option Path} {position : SourcePosition}
    {found : SourcePosition × Option Path} (denotes : Denotes base position found) (text : String) :
    (⟨text, found.1.line, found.1.column, found.1.name⟩ : SourcePosition) = position ↔
      text = position.source := by
  rw [← denotes.line, ← denotes.column, ← denotes.name]
  refine ⟨congrArg SourcePosition.source, ?_⟩
  rintro rfl
  rfl

/-- A composed document agrees with its layers at a position, to the text, unless the source is no
build output and has a text that renaming it within its own directory changes. -/
theorem Anchorage.resolve_eq_lookup?_iff (keyed : resolver.Keyed answers valid)
    {outer composed : Document} {base : Path} (anchorage : Anchorage answers outer composed base)
    (line column : Nat) {memory : σ} (start : valid memory) :
    (Layered.resolve resolver outer line column memory).1 = .ok (composed.lookup? line column) ↔
      ∀ position, outer.lookup? line column = some position →
        answers (Source.key (some base) position.source) = .ok none →
          Source.rebase position.source (some base) (some base) = position.source := by
  unfold Layered.resolve
  cases hit : outer.lookup? line column with
  | none => simp [anchorage.none_of_none line column hit]
  | some position =>
    obtain ⟨found, follows, related⟩ := anchorage.leads line column position hit
    obtain ⟨keys, complete, bounded⟩ := keyed.bounded
    have trail := anchorage.composed.trail (List.mem_map_of_mem (source_mem_of_lookup? hit)) keys
    obtain ⟨after, ends⟩ := follows.follow_eq keyed complete trail
      (Nat.lt_succ_of_le (bounded memory start)) start
    have spells := anchorage.spells line column position
    simp only [ends]
    rw [anchorage.based] at follows related spells ⊢
    generalize composed.lookup? line column = seen at related spells
    cases related with
    | none =>
      refine iff_of_true rfl ?_
      rintro _ ⟨⟩ untracked
      cases follows with
      | lost answer _ => cases untracked.symm.trans answer
      | pass answer _ _ => cases untracked.symm.trans answer
    | @some other last denotes =>
      have spells := spells other hit rfl
      simp only [Except.ok.injEq, Option.some.injEq, denotes.eq_iff]
      have movable := denotes.movable
      generalize other.source = text at spells
      by_cases untracked : answers (Source.key (some base) position.source) = .ok none
      · -- no layer below: the composed document keeps the text
        cases spells with
        | pass answer _ _ => cases untracked.symm.trans answer
        | stop _ =>
          cases follows with
          | pass answer _ _ => cases untracked.symm.trans answer
          | stop _ =>
            refine ⟨fun same => ?_, fun same => ?_⟩
            · rintro _ rfl _
              exact same
            · exact same position rfl untracked
      · refine iff_of_true ?_ ?_
        · have texts := spells.rebase_eq anchorage.inner anchorage.anchored follows movable
          exact (texts.1 untracked).symm
        · rintro _ rfl nothing
          exact absurd nothing untracked

end Memory

namespace TrackedArtifacts

variable {tree : FileTree} {tracked : TrackedArtifacts}

/-- A source that names a file has no document exactly if the file is no output. -/
theorem answers_eq_none_iff {base : Option Path} {source : String} {path : Path}
    (named : Source.resolve? base source = some path) :
    tracked.answers tree (Source.key base source) = .ok none ↔ path ∉ tracked.outputs := by
  have key : Source.key base source = path.text := by rw [Source.key, named]
  rw [key, answers]
  by_cases listed : path ∈ tracked.outputs
  · have found : tracked.outputs.contains ⟨path.text⟩ = true := by simpa using listed
    rw [if_pos found]
    cases tracked.document tree ⟨path.text⟩ with
    | error cause => simp [Except.map, listed]
    | ok doc => simp [Except.map, listed]
  · have missing : ¬ tracked.outputs.contains ⟨path.text⟩ = true := by simpa using listed
    rw [if_neg missing]
    simp [listed]

/-- Tracked artifacts in anchored directories, after a document was composed with them. -/
theorem anchorage (distinct : tracked.Distinct) {outer composed : Document} {base : Path}
    (based : outer.baseDir = some base)
    (inOrder : ∀ doc, Involved (tracked.answers tree) outer doc → doc.InOrder)
    (placed : Placed (Involved (tracked.answers tree) outer))
    {composer : Composer TrackedArtifacts}
    (composes : (Composer.compose (resolver tree) tree outer).run.run (Composer.ofMemory tracked) =
      (.ok composed, composer)) :
    Anchorage (tracked.answers tree) outer composed base ∧ Agrees tree tracked composer.memory := by
  have keyed := resolver_keyed tree distinct
  obtain ⟨result, after, sound, known, same⟩ :=
    composeWithin_ends tree keyed outer (sound_ofMemory (Agrees.refl tree tracked))
  have ends : (result, after) = (.ok composed, composer) :=
    (same _ _ (Nat.le_refl _)).symm.trans composes
  cases ends
  have setting : Setting (tracked.answers tree) (Involved (tracked.answers tree) outer) :=
    ⟨fun key doc answer => .inr ⟨key, answer⟩, inOrder, placed⟩
  have anchored : ∀ doc, Involved (tracked.answers tree) outer doc →
      ∃ dir, doc.baseDir = some dir ∧ Source.Anchored dir := by
    intro doc involved
    rcases placed with unknown | known
    · rw [unknown outer (.inl rfl)] at based
      cases based
    · obtain ⟨dir, dirEq, dirAnchored, _⟩ := known doc involved
      exact ⟨dir, dirEq, dirAnchored⟩
  obtain ⟨dir, dirEq, dirAnchored⟩ := anchored outer (.inl rfl)
  rw [based] at dirEq
  cases dirEq
  have holds : Composed (tracked.answers tree) outer composed := known
  exact ⟨⟨holds.spelled setting (.inl rfl), holds, based, dirAnchored,
    fun key doc answer => anchored doc (.inr ⟨key, answer⟩)⟩, sound.memory⟩

end TrackedArtifacts

/-- A document that was composed with tracked artifacts passes the check of its layers exactly if
renaming within the directory of the outer document keeps the text of every source that a segment
leads to and that names a file which is not tracked. -/
theorem associativity_eq_nil_iff {tree : FileTree} {tracked : TrackedArtifacts}
    (distinct : tracked.Distinct) {outer composed : Document} {base : Path}
    (based : outer.baseDir = some base)
    (inOrder : ∀ doc, Involved (tracked.answers tree) outer doc → doc.InOrder)
    (placed : Placed (Involved (tracked.answers tree) outer))
    {composer : Composer TrackedArtifacts}
    (composes : (Composer.compose (TrackedArtifacts.resolver tree) tree outer).run.run
      (Composer.ofMemory tracked) = (.ok composed, composer)) :
    (Check.associativity (TrackedArtifacts.resolver tree) outer composed composer.memory).1 = [] ↔
      ∀ segment ∈ outer.segments, ∀ position path,
        outer.lookup? segment.line segment.column = some position →
        Source.resolve? (some base) position.source = some path → path ∉ tracked.outputs →
          Source.rebase position.source (some base) (some base) = position.source := by
  have keyed := TrackedArtifacts.resolver_keyed tree distinct
  obtain ⟨anchorage, agrees⟩ :=
    TrackedArtifacts.anchorage distinct based inOrder placed composes
  rw [Check.associativity, Check.associativityOf_eq_nil_iff
    (fun memory start line column =>
      Layered.resolve_valid keyed.valid_after outer line column start)
    (fun memory start segment =>
      anchorage.resolve_eq_lookup?_iff keyed segment.line segment.column start)
    outer.segments agrees]
  refine forall₂_congr fun segment _ => forall_congr' fun position => ?_
  constructor
  · intro kept path hit named untracked
    exact kept hit ((TrackedArtifacts.answers_eq_none_iff named).mpr untracked)
  · intro kept hit nothing
    cases named : Source.resolve? (some base) position.source with
    | none => simp [Source.rebase, named]
    | some path =>
      exact kept path hit named ((TrackedArtifacts.answers_eq_none_iff named).mp nothing)

namespace Check

/-- The document of `/w/out/c.js`, which was built from `/w/b.js` and `/w/out/d.js`. -/
def mixed : Document :=
  (Document.ofParts none [⟨0, 0, 2, 4, some 0, none⟩, ⟨0, 7, 0, 0, some 1, none⟩] []
    ["../b.js", "d.js"] none).setBaseDir (some ⟨"/w/out"⟩)

/-- The artifact at `/w/b.js`, whose document is loaded. -/
def tracked : TrackedArtifacts := ⟨[⟨"/w/b.js"⟩], [(⟨"/w/b.js"⟩, compiled)]⟩

theorem tracked_distinct : tracked.Distinct := by
  intro path listed
  rw [List.mem_singleton.mp listed]
  exact ⟨by decide, by decide⟩

end Check

theorem associativity_mixed : ∃ composed composer,
    (Composer.compose (TrackedArtifacts.resolver FileTree.empty) FileTree.empty Check.mixed).run.run
      (Composer.ofMemory Check.tracked) = (.ok composed, composer) ∧
    composed.sources = ["../src/a.ts", "d.js"] ∧
    (Check.associativity (TrackedArtifacts.resolver FileTree.empty) Check.mixed composed
      composer.memory).1 = [] := by
  have both : ∀ doc, Involved (Check.tracked.answers FileTree.empty) Check.mixed doc →
      doc = Check.mixed ∨ doc = compiled := by
    rintro doc (rfl | ⟨key, answer⟩)
    · exact .inl rfl
    · by_cases same : key = "/w/b.js"
      · subst same
        exact .inr (Option.some.inj (Except.ok.inj answer)).symm
      · simp [TrackedArtifacts.answers, Check.tracked, same] at answer
  have inOrder : ∀ doc, Involved (Check.tracked.answers FileTree.empty) Check.mixed doc →
      doc.InOrder := by
    intro doc involved
    rcases both doc involved with rfl | rfl
    · exact (Document.ofParts_inOrder _ _ _ _ _).setBaseDir _
    · exact (Document.ofParts_inOrder _ _ _ _ _).setBaseDir _
  have placed : Placed (Involved (Check.tracked.answers FileTree.empty) Check.mixed) := by
    refine .inr ?_
    intro doc involved
    rcases both doc involved with rfl | rfl
    · refine ⟨⟨"/w/out"⟩, rfl, ⟨by decide, by decide, by decide⟩, ?_⟩
      intro source listed path named
      rcases List.mem_pair.mp listed with rfl | rfl
      · have path_eq : some (Path.mk "/w/b.js") = some path := named
        cases path_eq
        exact ⟨by decide, by decide⟩
      · have path_eq : some (Path.mk "/w/out/d.js") = some path := named
        cases path_eq
        exact ⟨by decide, by decide⟩
    · refine ⟨⟨"/w"⟩, rfl, ⟨by decide, by decide, by decide⟩, ?_⟩
      intro source listed path named
      rw [List.mem_singleton.mp listed] at named
      have path_eq : some (Path.mk "/w/src/a.ts") = some path := named
      cases path_eq
      exact ⟨by decide, by decide⟩
  refine ⟨_, _, rfl, by decide, ?_⟩
  refine (associativity_eq_nil_iff Check.tracked_distinct rfl inOrder placed rfl).mpr ?_
  intro segment listed position path hit named untracked
  rcases List.mem_pair.mp listed with rfl | rfl
  · cases hit
    cases (show some (Path.mk "/w/b.js") = some path from named)
    exact absurd (List.mem_singleton.mpr rfl) untracked
  · cases hit
    rfl

/-- A source in a roundabout spelling that is no artifact: the composed document keeps the spelling,
and the layers lead to the plain one. -/
theorem associativity_roundabout :
    let outer := (Document.ofParts none [⟨0, 0, 0, 0, some 0, none⟩] [] ["./a.js"] none).setBaseDir
      (some ⟨"/w"⟩)
    ∃ composed composer,
      (Composer.compose (TrackedArtifacts.resolver FileTree.empty) FileTree.empty outer).run.run
        (Composer.ofMemory TrackedArtifacts.empty) = (.ok composed, composer) ∧
      (Check.associativity (TrackedArtifacts.resolver FileTree.empty) outer composed
        composer.memory).1 =
        [(Failure.of .associativity "composed lookup at 0:0 differs from layered lookup")
          |>.expecting "a.js:0:0" |>.observing "./a.js:0:0"] :=
  ⟨_, _, rfl, by decide +kernel⟩

end SourceTrace
