import SourceTrace.Proofs.Check.Associativity
import SourceTrace.Proofs.Document.Directions

/-!
# Checking the starts of segments is checking every position

The check of a composed document looks at the positions where the segments of the outer document
start, and at no others. Between two of them neither side changes: what the layers lead to depends
on the segment of the outer document that is found, a composed document has its segments at the same
positions, and a segment that is found for a position is also found where it starts.
-/
namespace SourceTrace

/-- A resolver that always gives the same answer to the same question, and whose bound does not
change. Its memory may change as long as it stays valid. -/
structure Resolver.Fixed {σ : Type} (resolver : Resolver σ)
    (answers : String → Option Path → Except Error (Option Document)) (valid : σ → Prop) :
    Prop where
  answer_eq : ∀ memory, valid memory → ∀ source base,
    (resolver.answer source base memory).1 = answers source base
  valid_after : ∀ memory, valid memory → ∀ source base,
    valid (resolver.answer source base memory).2
  bound_eq : ∀ memory other, valid memory → valid other →
    resolver.bound memory = resolver.bound other

namespace Layered

variable {σ : Type} {resolver : Resolver σ}
  {answers : String → Option Path → Except Error (Option Document)} {valid : σ → Prop}

/-- What following layers leads to does not depend on what was asked before. -/
theorem follow_fixed (fixed : resolver.Fixed answers valid) (fuel : Nat) (seen : List String)
    (base : Option Path) (position : SourcePosition) {memory other : σ} (start : valid memory)
    (otherStart : valid other) :
    (follow resolver fuel seen base position memory).1 =
      (follow resolver fuel seen base position other).1 := by
  induction fuel generalizing seen base position memory other with
  | zero => rfl
  | succ fuel ih =>
    have first := fixed.answer_eq memory start position.source base
    have second := fixed.answer_eq other otherStart position.source base
    have after := fixed.valid_after memory start position.source base
    have otherAfter := fixed.valid_after other otherStart position.source base
    unfold follow
    dsimp only
    split
    · rfl
    · generalize resolver.answer position.source base memory = reply at first after
      generalize resolver.answer position.source base other = otherReply at second otherAfter
      obtain ⟨reply, middle⟩ := reply
      obtain ⟨otherReply, otherMiddle⟩ := otherReply
      cases first.trans second.symm
      rcases reply with cause | _ | inner
      · rfl
      · rfl
      · dsimp only
        split
        · rfl
        · exact ih _ _ _ after otherAfter

theorem resolve_fixed (fixed : resolver.Fixed answers valid) (outer : Document)
    (line column : Nat) {memory other : σ} (start : valid memory) (otherStart : valid other) :
    (resolve resolver outer line column memory).1 =
      (resolve resolver outer line column other).1 := by
  unfold resolve
  split
  · rfl
  · next position _ =>
    have same := follow_fixed fixed (resolver.bound memory + 1) [] outer.baseDir position start
      otherStart
    rw [fixed.bound_eq memory other start otherStart] at same ⊢
    generalize follow resolver (resolver.bound other + 1) [] outer.baseDir position memory = reply
      at same
    generalize follow resolver (resolver.bound other + 1) [] outer.baseDir position other =
      otherReply at same
    obtain ⟨reply, after⟩ := reply
    obtain ⟨otherReply, otherAfter⟩ := otherReply
    cases same
    rcases reply with cause | _ | found
    · rfl
    · rfl
    · rfl

/-- Nothing changes between the start of the segment that is found and the position. -/
theorem resolve_start {outer : Document} (inOrder : outer.InOrder) {line column : Nat}
    {segment : Segment} (hit : outer.segmentAt? line column = some segment) (memory : σ) :
    resolve resolver outer line column memory =
      resolve resolver outer segment.line segment.column memory := by
  rw [resolve, resolve, inOrder.lookup?_start hit]

end Layered

/-- A resolver that answers by key is fixed if its bound is. -/
theorem Resolver.Keyed.fixed {σ : Type} {resolver : Resolver σ} {answers : Answers}
    {valid : σ → Prop} (keyed : resolver.Keyed answers valid)
    (bound_eq : ∀ memory other, valid memory → valid other →
      resolver.bound memory = resolver.bound other) :
    resolver.Fixed (fun source base => answers (Source.key base source)) valid :=
  ⟨keyed.answer_eq, keyed.valid_after, bound_eq⟩

namespace Document

variable {doc other : Document} {line column : Nat}

/-- Documents whose segments stand at the same places find corresponding ones. -/
theorem InOrder.segmentAt?_rel (order : doc.InOrder) (otherOrder : other.InOrder)
    (places : Compose.SamePlaces doc.segments other.segments) (line column : Nat) :
    Option.Rel (fun segment image => image.line = segment.line ∧ image.column = segment.column)
      (doc.segmentAt? line column) (other.segmentAt? line column) := by
  rw [order.segmentAt?_eq, otherOrder.segmentAt?_eq]
  exact getLast?_filter_rel places fun segment image same => by rw [same.1, same.2]

end Document

namespace Check

variable {σ τ : Type} {resolver : Resolver σ}
  {answers : String → Option Path → Except Error (Option Document)} {valid : σ → Prop}

/-- A composed document passes the check of its layers exactly if it agrees with them at every
generated position, whatever the resolver that it was composed with. -/
theorem associativity_eq_nil_iff_everywhere (fixed : resolver.Fixed answers valid)
    {composing : Resolver τ} {tree : FileTree} {composer after : Composer τ}
    {outer composed : Document} (inOrder : outer.InOrder)
    (composes : (Composer.compose composing tree outer).run.run composer = (.ok composed, after))
    {memory : σ} (start : valid memory) :
    (associativity resolver outer composed memory).1 = [] ↔
      ∀ line column later, valid later →
        (Layered.resolve resolver outer line column later).1 =
          .ok (composed.lookup? line column) := by
  obtain ⟨inners, rfl⟩ := Compose.exists_assemble_of_compose composes
  have order := Compose.assemble_inOrder outer inners
  have places := Compose.assemble_places inOrder inners
  have each : ∀ memory, valid memory → ∀ segment : Segment,
      (Layered.resolve resolver outer segment.line segment.column memory).1 =
        .ok ((Compose.assemble outer inners).lookup? segment.line segment.column) ↔
      ∀ later, valid later → (Layered.resolve resolver outer segment.line segment.column later).1 =
        .ok ((Compose.assemble outer inners).lookup? segment.line segment.column) := by
    intro memory here segment
    constructor
    · intro agrees later there
      rw [← agrees]
      exact Layered.resolve_fixed fixed outer _ _ there here
    · exact fun agrees => agrees memory here
  rw [associativity, associativityOf_eq_nil_iff
    (fun memory start line column =>
      Layered.resolve_valid fixed.valid_after outer line column start) each outer.segments start]
  constructor
  · intro passes line column later there
    have corresponds := inOrder.segmentAt?_rel order places line column
    cases hit : outer.segmentAt? line column with
    | none =>
      rw [hit] at corresponds
      generalize found : (Compose.assemble outer inners).segmentAt? line column = image
        at corresponds
      cases corresponds
      simp only [Layered.resolve, Document.lookup?, hit, found, Option.bind_none]
    | some segment =>
      rw [hit] at corresponds
      generalize found : (Compose.assemble outer inners).segmentAt? line column = image?
        at corresponds
      cases corresponds with
      | @some _ image place =>
        -- both sides are what they are where the segment starts, and there the check has looked
        have here := passes segment (Document.mem_of_segmentAt? hit) later there
        rw [Layered.resolve_start inOrder hit, here, order.lookup?_start found, place.1, place.2]
  · intro agrees segment _ later there
    exact agrees segment.line segment.column later there

/-- A document with two segments at one position and a segment that maps nothing. -/
def crowded : Document :=
  (Document.ofParts none [⟨0, 0, 2, 4, some 0, none⟩, ⟨0, 0, 0, 0, some 1, none⟩,
    ⟨0, 7, 0, 0, none, none⟩, ⟨1, 2, 2, 4, some 0, none⟩] [] ["../b.js", "d.js"] none).setBaseDir
    (some ⟨"/w/out"⟩)

theorem associativity_crowded : ∃ composed composer,
    (Composer.compose (TrackedArtifacts.resolver FileTree.empty) FileTree.empty crowded).run.run
      (Composer.ofMemory tracked) = (.ok composed, composer) ∧
    (associativity (TrackedArtifacts.resolver FileTree.empty) crowded composed
      composer.memory).1 = [] ∧
    ∀ line column, (Layered.resolve (TrackedArtifacts.resolver FileTree.empty) crowded line column
      composer.memory).1 = .ok (composed.lookup? line column) := by
  have fixed := (TrackedArtifacts.resolver_keyed FileTree.empty tracked_distinct).fixed (by
    intro memory other agrees otherAgrees
    exact congrArg List.length (agrees.outputs.trans otherAgrees.outputs.symm))
  have inOrder : crowded.InOrder := (Document.ofParts_inOrder _ _ _ _ _).setBaseDir _
  have agrees : TrackedArtifacts.Agrees FileTree.empty tracked tracked := .refl _ _
  have composes : (Composer.compose (TrackedArtifacts.resolver FileTree.empty) FileTree.empty
      crowded).run.run (Composer.ofMemory tracked) = (.ok _, _) := rfl
  have passes := associativity_eq_nil_iff_everywhere fixed inOrder composes agrees
  refine ⟨_, _, composes, ?_, ?_⟩
  · decide +kernel
  · intro line column
    exact passes.mp (by decide +kernel) line column tracked agrees

end Check

end SourceTrace
