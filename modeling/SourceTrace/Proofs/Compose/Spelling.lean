import SourceTrace.Proofs.Compose.Following

/-!
# How a composed document spells its sources

A source that comes from a layer below is renamed at every layer on the way up, while following the
layers renames it once at the end. Between anchored directories both give the same text. A source of
the outer document that is no build output is not renamed at all in the composed document, but
following the layers still rewrites it for the directory it is in.
-/
namespace SourceTrace.Compose

/-- The text of the source that a composed document in directory `base` has for a position: renamed
at every layer on the way up. -/
inductive Spells (answers : Answers) : Option Path → SourcePosition → String → Prop
  | stop {base : Option Path} {position : SourcePosition}
      (answer : answers (Source.key base position.source) = .ok none) :
      Spells answers base position position.source
  | pass {base : Option Path} {position next : SourcePosition} {inner : Document} {text : String}
      (answer : answers (Source.key base position.source) = .ok (some inner))
      (hit : inner.lookup? position.line position.column = some next)
      (further : Spells answers inner.baseDir next text) :
      Spells answers base position (Source.rebase text inner.baseDir base)

/-- A composed document that spells its sources as its layers do. -/
structure Spelled (answers : Answers) (doc composed : Document) : Prop
    extends Faithful answers doc composed where
  spells : ∀ line column position other, doc.lookup? line column = some position →
    composed.lookup? line column = some other → Spells answers doc.baseDir position other.source

/-- What is known of the composed document of a key. -/
def SpelledInner (answers : Answers) (key : String) : Option Document → Prop
  | none => answers key = .ok none
  | some composed => ∃ doc, answers key = .ok (some doc) ∧ Spelled answers doc composed

variable {answers : Answers} {docs : Document → Prop} {outer : Document}
  {inners : List (Option Document)}

theorem SpelledInner.faithful {key : String} {inner : Option Document}
    (spelled : SpelledInner answers key inner) : FaithfulInner answers key inner := by
  cases inner with
  | none => exact spelled
  | some composed =>
    obtain ⟨doc, answer, below⟩ := spelled
    exact ⟨doc, answer, below.toFaithful⟩

/-- How an assembled document spells the source of a segment. -/
theorem composedPosition?_spells
    (spelled : List.Forall₂ (fun source => SpelledInner answers (Source.key outer.baseDir source))
      outer.sources inners) {segment : Segment} {position other : SourcePosition}
    (known : outer.sourcePosition? segment = some position)
    (found : composedPosition? outer inners segment = some other) :
    Spells answers outer.baseDir position other.source := by
  obtain ⟨id, number, listed⟩ := source_of_sourcePosition? known
  obtain ⟨bound, sourceEq⟩ := List.getElem?_eq_some_iff.mp listed
  obtain ⟨lengths, each⟩ := List.forall₂_iff_get.mp spelled
  have inner := each id bound (lengths ▸ bound)
  have innerEq : inners[id]? = some (inners.get ⟨id, lengths ▸ bound⟩) := by simp
  generalize inners.get ⟨id, lengths ▸ bound⟩ = answer at inner innerEq
  rw [List.get_eq_getElem, sourceEq] at inner
  simp only [composedPosition?, known, number, Option.bind_some, innerEq, Option.join_some] at found
  cases answer with
  | none =>
    cases found
    exact .stop inner
  | some composed =>
    obtain ⟨doc, answer, below⟩ := inner
    obtain ⟨last, leads, rfl⟩ := Option.map_eq_some_iff.mp found
    cases hit : doc.lookup? position.line position.column with
    | none =>
      rw [below.none_of_none _ _ hit] at leads
      cases leads
    | some next =>
      rw [below.baseDir_eq]
      exact .pass answer hit (below.spells _ _ next last hit leads)

theorem closed_of_spelled
    (spelled : List.Forall₂ (fun source => SpelledInner answers (Source.key outer.baseDir source))
      outer.sources inners) (inner : Document) (member : some inner ∈ inners) : Closed inner := by
  obtain ⟨index, same⟩ := List.mem_iff_get.mp member
  obtain ⟨lengths, each⟩ := List.forall₂_iff_get.mp spelled
  have known := each index (by rw [lengths]; exact index.isLt) index.isLt
  rw [same] at known
  obtain ⟨_, _, below⟩ := known
  exact below.closed

/-- Assembling keeps the spelling. -/
theorem assemble_spelled (setting : Setting answers docs) (involved : docs outer)
    (spelled : List.Forall₂ (fun source => SpelledInner answers (Source.key outer.baseDir source))
      outer.sources inners) : Spelled answers outer (assemble outer inners) := by
  refine ⟨assemble_faithful setting involved (spelled.imp fun _ _ known => known.faithful), ?_⟩
  intro line column position other hit found
  obtain ⟨segment, at?, known⟩ := Option.bind_eq_some_iff.mp hit
  rw [lookup?_assemble (setting.inOrder outer involved) (closed_of_spelled spelled), at?,
    Option.bind_some] at found
  exact composedPosition?_spells spelled known found

mutual
/-- A composed document spells its sources as its layers do. -/
theorem Composed.spelled (setting : Setting answers docs) {doc composed : Document} :
    Composed answers doc composed → docs doc → Spelled answers doc composed
  | .assembled layers, involved => assemble_spelled setting involved (layers.spelled setting)

theorem Inner.spelled (setting : Setting answers docs) {key : String} {inner : Option Document} :
    Inner answers key inner → SpelledInner answers key inner
  | .leaf answer => answer
  | .layer answer below => ⟨_, answer, below.spelled setting (setting.answered _ _ answer)⟩

theorem Layers.spelled (setting : Setting answers docs) {base : Option Path}
    {sources : List String} {inners : List (Option Document)} :
    Layers answers base sources inners →
      List.Forall₂ (fun source => SpelledInner answers (Source.key base source)) sources inners
  | .nil => .nil
  | .cons head tail => .cons (head.spelled setting) (tail.spelled setting)
end

/-- A source that can be renamed from a directory. -/
def Movable (dir : Option Path) (source : String) : Prop :=
  ∃ origin, dir = some origin ∧ Source.Anchored origin ∧
    ∀ path, Source.resolve? (some origin) source = some path → Source.Plain path

/-- The text that comes up from the end of a chain: wherever it is renamed for, the end could have
been renamed for at once. If there is a layer in between, the text is the end renamed. -/
theorem Spells.rebase_eq
    (anchored : ∀ key doc, answers key = .ok (some doc) → ∃ dir, doc.baseDir = some dir ∧
      Source.Anchored dir) {base : Path} (based : Source.Anchored base)
    {position last : SourcePosition} {text : String} {name : Option String} {dir : Option Path}
    (spells : Spells answers (some base) position text)
    (follows : Follows answers (some base) { position with name } (some (last, dir)))
    (movable : Movable dir last.source) :
    (answers (Source.key (some base) position.source) ≠ .ok none →
      text = Source.rebase last.source dir (some base)) ∧
    ∀ target : Path, Source.rebase text (some base) (some target) =
      Source.rebase last.source dir (some target) := by
  obtain ⟨origin, rfl, originAnchored, plain⟩ := movable
  generalize begins : some base = start at spells follows
  induction spells generalizing base name with
  | stop answer =>
    cases follows with
    | stop _ => exact ⟨fun tracked => absurd answer tracked, fun target => rfl⟩
    | pass other _ _ => cases answer.symm.trans other
  | @pass start position next inner text answer hit further ih =>
    cases follows with
    | stop other => cases answer.symm.trans other
    | pass other found below =>
      cases answer.symm.trans other
      cases hit.symm.trans found
      obtain ⟨middle, middleEq, middleAnchored⟩ := anchored _ inner answer
      have lower := (ih middleAnchored middleEq.symm below).2
      subst begins
      refine ⟨fun _ => lower base, fun target => ?_⟩
      rw [lower base]
      exact Source.rebase_rebase originAnchored.absolute based plain

end SourceTrace.Compose
