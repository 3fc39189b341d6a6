import SourceTrace.Proofs.Compose.Layers
import SourceTrace.Proofs.Compose.Reuse

/-!
# Composing in two passes

The layers below a document can be composed all at once, or first those that one resolver knows and
then, in the result, those that another one knows. If no document of the second resolver leads back
to the first one, both give the same document but for the contents.

All directories are unknown here, so that a source keeps its text from layer to layer. An assembled
document is then given by the places of its segments and the positions they lead to, and these are
compared one by one: a position that was continued in a composed document and is continued again
ends where it would have ended in one step.
-/
namespace SourceTrace

/-- The answers of the first, and those of the second for the keys that have no document there. -/
def Answers.union (first second : Answers) : Answers := fun key =>
  match first key with
  | .ok none => second key
  | answer => answer

/-- The resolver that asks a second one for what the first one has no document for. -/
def Resolver.union {σ τ : Type} (first : Resolver σ) (second : Resolver τ) : Resolver (σ × τ) where
  answer source base memory :=
    match first.answer source base memory.1 with
    | (.ok none, known) =>
      let (answer, other) := second.answer source base memory.2
      (answer, known, other)
    | (answer, known) => (answer, known, memory.2)
  bound memory := first.bound memory.1 + second.bound memory.2

theorem Answers.union_of_some {first second : Answers} {key : String} {doc : Document}
    (found : first key = .ok (some doc)) : first.union second key = .ok (some doc) := by
  simp [Answers.union, found]

/-- What the first answers where the union does not fail. -/
theorem Answers.first_of_union {first second : Answers} {key : String} {known : Option Document}
    (answer : first.union second key = .ok known) :
    (first key = .ok none ∧ second key = .ok known) ∨
      ∃ doc, first key = .ok (some doc) ∧ known = some doc := by
  unfold Answers.union at answer
  cases asked : first key with
  | error cause => simp [asked] at answer
  | ok found =>
    cases found with
    | none => exact .inl ⟨rfl, by simpa [asked] using answer⟩
    | some doc =>
      simp only [asked, Except.ok.injEq] at answer
      exact .inr ⟨doc, rfl, answer.symm⟩

/-- Two resolvers that answer by key do so together. -/
theorem Resolver.Keyed.union {σ τ : Type} {first : Resolver σ} {second : Resolver τ}
    {firstAnswers secondAnswers : Answers} {firstValid : σ → Prop} {secondValid : τ → Prop}
    (keyed : first.Keyed firstAnswers firstValid) (other : second.Keyed secondAnswers secondValid) :
    (first.union second).Keyed (firstAnswers.union secondAnswers)
      fun memory => firstValid memory.1 ∧ secondValid memory.2 where
  answer_eq memory valid source base := by
    have here := keyed.answer_eq memory.1 valid.1 source base
    have there := other.answer_eq memory.2 valid.2 source base
    unfold Resolver.union Answers.union
    dsimp only
    rw [← here, ← there]
    rcases first.answer source base memory.1 with ⟨cause | _ | doc, known⟩
    · rfl
    · rfl
    · rfl
  valid_after memory valid source base := by
    have here := keyed.valid_after memory.1 valid.1 source base
    have there := other.valid_after memory.2 valid.2 source base
    unfold Resolver.union
    dsimp only
    generalize first.answer source base memory.1 = reply at here
    rcases reply with ⟨cause | _ | doc, known⟩
    · exact ⟨here, valid.2⟩
    · exact ⟨here, there⟩
    · exact ⟨here, valid.2⟩
  bounded := by
    obtain ⟨keys, complete, few⟩ := keyed.bounded
    obtain ⟨otherKeys, otherComplete, otherFew⟩ := other.bounded
    refine ⟨keys ++ otherKeys, ?_, ?_⟩
    · intro key doc answer
      rcases Answers.first_of_union answer with ⟨_, found⟩ | ⟨_, found, _⟩
      · exact List.mem_append_right keys (otherComplete key doc found)
      · exact List.mem_append_left otherKeys (complete key _ found)
    · intro memory valid
      rw [List.length_append]
      exact Nat.add_le_add (few memory.1 valid.1) (otherFew memory.2 valid.2)

/-- A document without its contents. -/
def Document.bare (doc : Document) : Document := { doc with contents := none }

/-- Documents that differ in their contents only have the same lookups. -/
theorem Document.lookup?_of_bare {left right : Document} (same : left.bare = right.bare) :
    left.lookup? = right.lookup? := by
  have lookup : left.bare.lookup? = right.bare.lookup? := by rw [same]
  exact lookup

namespace Builder

/-- A builder without its contents. -/
def bare (b : Builder) : Builder := { b with contents := [] }

theorem bare_finish (b : Builder) : b.finish.bare = b.bare.finish := rfl

theorem bare_add (b : Builder) (line column sourceLine sourceColumn : Nat) (source : String)
    (name : Option String) :
    (b.add line column sourceLine sourceColumn (some source) name).2.bare =
      (b.bare.add line column sourceLine sourceColumn (some source) name).2 := by
  cases name with
  | none => rfl
  | some name => rfl

theorem mem_sources_add {b : Builder} {line column sourceLine sourceColumn : Nat}
    {source other : String} {name : Option String}
    (member : other ∈ (b.add line column sourceLine sourceColumn (some source) name).2.sources) :
    other ∈ b.sources ∨ other = source := by
  cases name with
  | none => exact mem_register member
  | some name => exact mem_register member

/-- Without contents a segment is added as it would be with them. -/
theorem bare_addPosition (b : Builder) (line column : Nat) (position? : Option SourcePosition)
    (content : Option String) :
    (b.addPosition line column position? content).bare =
      b.bare.addPosition line column position? none := by
  cases position? with
  | none => rfl
  | some position =>
    simp only [addPosition]
    obtain ⟨contents, same⟩ := (b.add line column position.line position.column
      (some position.source) position.name).2.offerContent_eq _ content
    rw [same]
    exact b.bare_add line column position.line position.column position.source position.name

end Builder

namespace Compose

/-- The places of the segments of an assembled document and the positions they lead to. -/
def places (outer : Document) (inners : List (Option Document)) :
    List ((Nat × Nat) × Option SourcePosition) :=
  outer.segments.map fun segment =>
    ((segment.line, segment.column), composedPosition? outer inners segment)

/-- The document with segments at the given places. -/
def ofPlaces (file : Option String) (dir : Option Path)
    (places : List ((Nat × Nat) × Option SourcePosition)) : Document :=
  (places.foldl (fun b (place, position?) => b.addPosition place.1 place.2 position? none)
    ((Builder.empty file).setBaseDir dir)).finish

/-- But for its contents an assembled document is given by its places. -/
theorem bare_assemble {outer : Document} {inners : List (Option Document)}
    (closed : ∀ inner, some inner ∈ inners → Closed inner) :
    (assemble outer inners).bare = ofPlaces outer.file outer.baseDir (places outer inners) := by
  have folded : ∀ (segments : List Segment) (b : Builder),
      (segments.foldl (addComposed outer inners) b).bare =
        segments.foldl (fun b segment => b.addPosition segment.line segment.column
          (composedPosition? outer inners segment) none) b.bare := by
    intro segments
    induction segments with
    | nil => exact fun b => rfl
    | cons segment rest ih =>
      intro b
      rw [List.foldl_cons, ih, addComposed_eq closed, Builder.bare_addPosition, List.foldl_cons]
  rw [assemble, Builder.bare_finish, folded, ofPlaces, places, List.foldl_map]
  rfl

/-- Every source of a document with given places comes from one of them. -/
theorem exists_place_of_mem_sources {file : Option String} {dir : Option Path} {source : String}
    {places : List ((Nat × Nat) × Option SourcePosition)}
    (member : source ∈ (ofPlaces file dir places).sources) :
    ∃ place position, (place, some position) ∈ places ∧ position.source = source := by
  have grown : ∀ (places : List ((Nat × Nat) × Option SourcePosition)) (b : Builder),
      source ∈ (places.foldl (fun b (place, position?) =>
        b.addPosition place.1 place.2 position? none) b).sources → source ∈ b.sources ∨
          ∃ place position, (place, some position) ∈ places ∧ position.source = source := by
    intro places
    induction places with
    | nil => exact fun b known => .inl known
    | cons first rest ih =>
      obtain ⟨place, position?⟩ := first
      intro b known
      rcases ih _ known with early | ⟨place, position, listed, same⟩
      · cases position? with
        | none => exact .inl early
        | some position =>
          rcases Builder.mem_sources_add early with old | new
          · exact .inl old
          · exact .inr ⟨place, position, by simp, new.symm⟩
      · exact .inr ⟨place, position, by simp [listed], same⟩
  rcases grown places _ member with none | found
  · simp [Builder.empty, Builder.setBaseDir] at none
  · exact found

/-- Every source of an assembled document is one that a segment of the outer document leads to. -/
theorem exists_position_of_mem_sources {outer : Document} {inners : List (Option Document)}
    (closed : ∀ inner, some inner ∈ inners → Closed inner) {source : String}
    (member : source ∈ (assemble outer inners).sources) :
    ∃ segment position, composedPosition? outer inners segment = some position ∧
      position.source = source := by
  have listed : source ∈ (assemble outer inners).bare.sources := member
  rw [bare_assemble closed] at listed
  obtain ⟨place, position, found, same⟩ := exists_place_of_mem_sources listed
  obtain ⟨segment, _, leads⟩ := List.mem_map.mp found
  exact ⟨segment, position, (Prod.mk.inj leads).2, same⟩

variable {answers first second : Answers}

/-- Without a directory no text changes on the way up, and a name to fall back on may come before or
after a layer. -/
theorem continued?_withName (inner : Option Document) (name : Option String)
    (position : SourcePosition) :
    continued? none inner (withName name position) =
      (continued? none inner position).map (withName name) := by
  cases inner with
  | none => rfl
  | some inner =>
    simp only [continued?, withName, Option.map_map]
    congr 1
    funext found
    simp only [Function.comp_apply, withName, Option.or_assoc]

/-- No document of the second answers lists a key that has a document in the first ones. -/
def Apart (first second : Answers) : Prop :=
  ∀ key doc, second key = .ok (some doc) → ∀ next ∈ doc.keys, ∀ inner,
    first next ≠ .ok (some inner)

mutual
/-- Where the first answers have no document, only the second ones count. -/
theorem Composed.of_union (apart : Apart first second) {doc composed : Document} :
    Composed (first.union second) doc composed →
      (∀ next ∈ doc.keys, ∀ inner, first next ≠ .ok (some inner)) → Composed second doc composed
  | .assembled layers, free => by
    refine .assembled (layers.of_union apart ?_)
    exact fun source member => free _ (List.mem_map_of_mem member)

theorem Inner.of_union (apart : Apart first second) {key : String} {inner : Option Document} :
    Inner (first.union second) key inner → (∀ doc, first key ≠ .ok (some doc)) →
      Inner second key inner
  | .leaf answer, free => by
    rcases Answers.first_of_union answer with ⟨_, missing⟩ | ⟨doc, found, _⟩
    · exact .leaf missing
    · exact absurd found (free doc)
  | .layer answer below, free => by
    rcases Answers.first_of_union answer with ⟨_, found⟩ | ⟨doc, found, _⟩
    · exact .layer found (below.of_union apart (apart _ _ found))
    · exact absurd found (free doc)

theorem Layers.of_union (apart : Apart first second) {base : Option Path} {sources : List String}
    {inners : List (Option Document)} : Layers (first.union second) base sources inners →
      (∀ source ∈ sources, ∀ doc, first (Source.key base source) ≠ .ok (some doc)) →
      Layers second base sources inners
  | .nil, _ => .nil
  | .cons head tail, free =>
    .cons (head.of_union apart (free _ (by simp)))
      (tail.of_union apart fun source member => free source (by simp [member]))
end

/-- What comes of composing a document without a directory is the given one but for the contents. -/
structure Completes (answers : Answers) (half composed : Document) : Prop where
  unplaced : half.baseDir = none
  inOrder : half.InOrder
  exists_final : ∃ final, Composed answers half final ∧ final.bare = composed.bare

/-- What a second pass makes of the outcome of a first one for a key. -/
def CompletesInner (second : Answers) (key : String) (inner : Option Document) :
    Option Document → Prop
  | none => Inner second key inner
  | some half => ∃ composed, inner = some composed ∧ Completes second half composed

/-- The outcomes of a first pass for the sources of a document, beside those of both at once. -/
structure Halves (first second : Answers) (sources : List String)
    (inners halves : List (Option Document)) : Prop where
  layers : Layers first none sources halves
  completes : ∀ (id : Nat) (source : String), sources[id]? = some source → ∃ half inner,
    halves[id]? = some half ∧ inners[id]? = some inner ∧
      CompletesInner second (Source.key none source) inner half

theorem Halves.nil : Halves first second [] [] [] :=
  ⟨.nil, fun _ _ listed => by simp at listed⟩

theorem Halves.cons {source : String} {sources : List String} {inner half : Option Document}
    {inners halves : List (Option Document)} (head : Inner first (Source.key none source) half)
    (completes : CompletesInner second (Source.key none source) inner half)
    (tail : Halves first second sources inners halves) :
    Halves first second (source :: sources) (inner :: inners) (half :: halves) := by
  refine ⟨.cons head tail.layers, ?_⟩
  intro id other listed
  cases id with
  | zero =>
    simp only [List.getElem?_cons_zero, Option.some.injEq] at listed
    subst listed
    exact ⟨half, inner, rfl, rfl, completes⟩
  | succ id => exact tail.completes id other listed

variable {doc : Document} {inners halves : List (Option Document)}

/-- Where a segment leads in a first pass and where it leads at once, from its position in the
document. -/
theorem Halves.exists_half (halves_of : Halves first second doc.sources inners halves)
    (unplaced : doc.baseDir = none) {segment : Segment} {start : SourcePosition}
    (known : doc.sourcePosition? segment = some start) :
    ∃ half inner, CompletesInner second (Source.key none start.source) inner half ∧
      composedPosition? doc halves segment = continued? none half start ∧
      composedPosition? doc inners segment = continued? none inner start := by
  obtain ⟨id, number, listed⟩ := source_of_sourcePosition? known
  obtain ⟨half, inner, foundHalf, foundInner, completes⟩ := halves_of.completes id _ listed
  refine ⟨half, inner, completes, ?_, ?_⟩
  · rw [composedPosition?_of_inner known number foundHalf, unplaced]
  · rw [composedPosition?_of_inner known number foundInner, unplaced]

/-- Continuing a position without directories keeps the text of the source that is found. -/
theorem continued?_some (inner : Document) (position : SourcePosition) :
    continued? none (some inner) position =
      (inner.lookup? position.line position.column).map (withName position.name) := by
  have kept : ∀ source, Source.rebase source inner.baseDir none = source := by
    intro source
    cases inner.baseDir <;> rfl
  simp only [continued?, kept]
  rfl

/-- A position of a document that a first pass has left, in the second pass: it leads where it led
when both were done at once. -/
theorem Completes.continued? {half composed : Document} (completes : Completes second half composed)
    (start : SourcePosition) :
    (∀ position, Compose.continued? none (some half) start = some position →
      ∃ inner, Inner second (Source.key none position.source) inner ∧
        Compose.continued? none (some composed) start =
          Compose.continued? none inner position) ∧
    (Compose.continued? none (some half) start = none →
      Compose.continued? none (some composed) start = none) := by
  obtain ⟨final, holds, same⟩ := completes.exists_final
  have lookup := Document.lookup?_of_bare same.symm
  simp only [continued?_some, lookup]
  constructor
  · intro position leads
    obtain ⟨found, hit, rfl⟩ := Option.map_eq_some_iff.mp leads
    obtain ⟨inner, known, ends⟩ := holds.lookup?_of_some completes.inOrder hit
    rw [completes.unplaced] at known ends
    refine ⟨inner, known, ?_⟩
    rw [ends, continued?_withName]
  · intro nothing
    rw [Option.map_eq_none_iff] at nothing ⊢
    exact holds.lookup?_of_none completes.inOrder nothing

/-- A second pass leads from where the first one has led to where both lead at once. -/
theorem Halves.continued? (halves_of : Halves first second doc.sources inners halves)
    (unplaced : doc.baseDir = none) (segment : Segment) :
    (∀ position, composedPosition? doc halves segment = some position →
      ∃ inner, Inner second (Source.key none position.source) inner ∧
        composedPosition? doc inners segment = Compose.continued? none inner position) ∧
    (composedPosition? doc halves segment = none →
      composedPosition? doc inners segment = none) := by
  cases known : doc.sourcePosition? segment with
  | none => simp [composedPosition?, known]
  | some start =>
    obtain ⟨half, inner, completes, before, whole⟩ := halves_of.exists_half unplaced known
    rw [before, whole]
    cases half with
    | none =>
      refine ⟨?_, fun nothing => by cases nothing⟩
      rintro position ⟨⟩
      exact ⟨inner, completes, rfl⟩
    | some half =>
      obtain ⟨composed, rfl, completes⟩ := completes
      exact completes.continued? start

/-- Both passes give the places that composing at once gives. -/
theorem Halves.places_eq (halves_of : Halves first second doc.sources inners halves)
    (unplaced : doc.baseDir = none) (order : doc.InOrder) {finals : List (Option Document)}
    (layers : Layers second none (assemble doc halves).sources finals) :
    places doc inners = places (assemble doc halves) finals := by
  have closed := halves_of.layers.closed
  have halfUnplaced : (assemble doc halves).baseDir = none :=
    (assemble_baseDir closed).trans unplaced
  have images := assemble_images order closed
  unfold places
  rw [← List.forall₂_eq_eq_eq, List.forall₂_map_left_iff, List.forall₂_map_right_iff]
  refine images.imp ?_
  rintro segment image ⟨line, column, leads⟩
  have whole := halves_of.continued? unplaced segment
  rw [← leads] at whole
  rw [line, column]
  congr 1
  -- The second pass goes on from where the image of the segment leads after the first one.
  cases known : (assemble doc halves).sourcePosition? image with
  | none =>
    rw [whole.2 known, composedPosition?, known, Option.bind_none]
  | some position =>
    obtain ⟨inner, holds, ends⟩ := whole.1 position known
    obtain ⟨again, holdsToo, endsToo⟩ :=
      composedPosition?_of_layers (halfUnplaced.symm ▸ layers) known
    rw [halfUnplaced] at holdsToo endsToo
    rw [ends, endsToo, holds.unique holdsToo]

/-- Composing in two passes, when it is done for the sources. -/
theorem Halves.completes_assemble (halves_of : Halves first second doc.sources inners halves)
    (unplaced : doc.baseDir = none) (order : doc.InOrder)
    (closed : ∀ inner, some inner ∈ inners → Closed inner) :
    Completes second (assemble doc halves) (assemble doc inners) := by
  have halvesClosed := halves_of.layers.closed
  have halfUnplaced : (assemble doc halves).baseDir = none :=
    (assemble_baseDir halvesClosed).trans unplaced
  obtain ⟨finals, layers⟩ : ∃ finals, Layers second none (assemble doc halves).sources finals := by
    refine exists_layers fun source member => ?_
    obtain ⟨segment, position, leads, rfl⟩ := exists_position_of_mem_sources halvesClosed member
    obtain ⟨inner, holds, _⟩ := (halves_of.continued? unplaced segment).1 position leads
    exact ⟨inner, holds⟩
  have same := halves_of.places_eq unplaced order layers
  refine ⟨halfUnplaced, assemble_inOrder _ _, assemble (assemble doc halves) finals,
    .assembled (halfUnplaced.symm ▸ layers), ?_⟩
  rw [bare_assemble layers.closed, bare_assemble closed, assemble_file halvesClosed, same,
    halfUnplaced, unplaced]

/-- Documents of the first answers that a second pass can be compared on. -/
structure Passable (first second : Answers) : Prop where
  apart : Apart first second
  unplaced : ∀ key doc, first key = .ok (some doc) → doc.baseDir = none
  inOrder : ∀ key doc, first key = .ok (some doc) → doc.InOrder

mutual
/-- A document that is composed at once can be composed in two passes. -/
theorem Composed.twoPasses (passable : Passable first second) {doc composed : Document} :
    Composed (first.union second) doc composed → doc.baseDir = none → doc.InOrder →
      ∃ half, Composed first doc half ∧ Completes second half composed
  | .assembled layers, unplaced, order => by
    obtain ⟨halves, halves_of⟩ := layers.twoPasses passable unplaced
    exact ⟨assemble doc halves, .assembled (unplaced.symm ▸ halves_of.layers),
      halves_of.completes_assemble unplaced order layers.closed⟩

theorem Inner.twoPasses (passable : Passable first second) {key : String}
    {inner : Option Document} : Inner (first.union second) key inner →
      ∃ half, Inner first key half ∧ CompletesInner second key inner half
  | .leaf answer => by
    rcases Answers.first_of_union answer with ⟨missing, missingToo⟩ | ⟨_, _, impossible⟩
    · exact ⟨none, .leaf missing, Inner.leaf missingToo⟩
    · cases impossible
  | .layer answer below => by
    rcases Answers.first_of_union answer with ⟨missing, found⟩ | ⟨doc, found, same⟩
    · -- The first pass stops here, and no layer further below concerns it.
      have behind := below.of_union passable.apart (passable.apart _ _ found)
      exact ⟨none, .leaf missing, Inner.layer found behind⟩
    · cases same
      obtain ⟨half, holds, completes⟩ := below.twoPasses passable (passable.unplaced _ _ found)
        (passable.inOrder _ _ found)
      exact ⟨some half, .layer found holds, _, rfl, completes⟩

theorem Layers.twoPasses (passable : Passable first second) {base : Option Path}
    {sources : List String} {inners : List (Option Document)} :
    Layers (first.union second) base sources inners → base = none →
      ∃ halves, Halves first second sources inners halves
  | .nil, _ => ⟨[], .nil⟩
  | .cons head tail, unplaced => by
    obtain ⟨half, holds, completes⟩ := head.twoPasses passable
    obtain ⟨halves, rest⟩ := tail.twoPasses passable unplaced
    rw [unplaced] at holds completes
    exact ⟨half :: halves, .cons holds completes rest⟩
end

end Compose

open Compose

/-- A document without a directory that can be composed with two resolvers at once can be composed
with the first of them and the result with the second, if no document of the second lists a source
that has a document in the first. Both ways give the same file, segments, sources and names. -/
theorem compose_compose {σ τ : Type} {first : Resolver σ} {second : Resolver τ}
    {firstAnswers secondAnswers : Answers} {firstValid : σ → Prop} {secondValid : τ → Prop}
    (keyed : first.Keyed firstAnswers firstValid) (other : second.Keyed secondAnswers secondValid)
    (tree : FileTree) {memory : σ} {otherMemory : τ} (start : firstValid memory)
    (otherStart : secondValid otherMemory) {outer whole : Document}
    (inOrder : ∀ doc, Involved (firstAnswers.union secondAnswers) outer doc → doc.InOrder)
    (unplaced : ∀ doc, Involved (firstAnswers.union secondAnswers) outer doc → doc.baseDir = none)
    (apart : ∀ key doc, secondAnswers key = .ok (some doc) → ∀ source ∈ doc.sources, ∀ inner,
      firstAnswers (Source.key doc.baseDir source) ≠ .ok (some inner))
    (succeeds : compose (first.union second) tree (memory, otherMemory) outer = .ok whole) :
    ∃ half final, compose first tree memory outer = .ok half ∧
      compose second tree otherMemory half = .ok final ∧ final.file = whole.file ∧
      final.segments = whole.segments ∧ final.sources = whole.sources ∧
      final.names = whole.names ∧
      ∀ line column, final.lookup? line column = whole.lookup? line column := by
  have holds := (compose_eq_ok_iff (keyed.union other) tree ⟨start, otherStart⟩).mp succeeds
  have involved : ∀ key doc, firstAnswers key = .ok (some doc) →
      Involved (firstAnswers.union secondAnswers) outer doc := fun key doc found =>
    .inr ⟨key, Answers.union_of_some found⟩
  have passable : Passable firstAnswers secondAnswers := by
    refine ⟨?_, fun key doc found => unplaced doc (involved key doc found),
      fun key doc found => inOrder doc (involved key doc found)⟩
    intro key doc found next listed
    obtain ⟨source, member, rfl⟩ := List.mem_map.mp listed
    exact apart key doc found source member
  obtain ⟨half, passes, completes⟩ :=
    holds.twoPasses passable (unplaced outer (.inl rfl)) (inOrder outer (.inl rfl))
  obtain ⟨final, passesToo, same⟩ := completes.exists_final
  refine ⟨half, final, (compose_eq_ok_iff keyed tree start).mpr passes,
    (compose_eq_ok_iff other tree otherStart).mpr passesToo, ?_, ?_, ?_, ?_, ?_⟩
  · exact (Document.mk.inj same).1
  · exact (Document.mk.inj same).2.1
  · exact (Document.mk.inj same).2.2.2.2.1
  · exact (Document.mk.inj same).2.2.2.1
  · intro line column
    rw [Document.lookup?_of_bare same]

namespace Compose

/-- The document of `out.js`, which was built from `b.js`, `a.js` and `d.js`. -/
def layered : Document :=
  Document.ofParts (some "out.js")
    [⟨0, 0, 0, 3, some 0, some 0⟩, ⟨0, 4, 1, 0, some 0, none⟩, ⟨0, 8, 2, 2, some 1, some 1⟩,
      ⟨1, 0, 7, 0, some 2, none⟩]
    ["f", "g"] ["b.js", "a.js", "d.js"] none

/-- The document of `b.js`, which was built from `a.js` and has no name for its second segment. -/
def upper : Document :=
  Document.ofParts none [⟨0, 0, 2, 0, some 0, none⟩, ⟨1, 0, 9, 0, some 0, some 0⟩] ["h"] ["a.js"]
    none

/-- The document of `a.js`, which was built from `x.ts` and maps nothing on its tenth line. -/
def lower : Document :=
  Document.ofParts none [⟨2, 0, 5, 1, some 0, none⟩, ⟨9, 0, 0, 0, none, none⟩] [] ["x.ts"] none

end Compose

theorem compose_compose_layered :
    ∃ whole half final,
      compose ((Resolver.ofKeys [("b.js", .ok upper)]).union
        (Resolver.ofKeys [("a.js", .ok lower)])) FileTree.empty ((), ()) layered = .ok whole ∧
      compose (Resolver.ofKeys [("b.js", .ok upper)]) FileTree.empty () layered = .ok half ∧
      compose (Resolver.ofKeys [("a.js", .ok lower)]) FileTree.empty () half = .ok final ∧
      final.segments = whole.segments ∧ final.sources = whole.sources ∧
      half.sources = ["a.js", "d.js"] ∧ whole.sources = ["x.ts", "d.js"] ∧
      whole.lookup? 0 9 = some ⟨"x.ts", 5, 1, some "g"⟩ ∧ whole.lookup? 0 5 = none := by
  have all : ∀ doc, Involved ((Answers.ofTable [("b.js", .ok upper)]).union
      (Answers.ofTable [("a.js", .ok lower)])) layered doc →
      doc = layered ∨ doc = upper ∨ doc = lower := by
    rintro doc (rfl | ⟨key, answer⟩)
    · exact .inl rfl
    · rcases Answers.first_of_union answer with ⟨_, found⟩ | ⟨_, found, same⟩
      · have entry := Answers.mem_of_ofTable found
        simp only [List.mem_singleton, Prod.mk.injEq, Except.ok.injEq] at entry
        exact .inr (.inr entry.2)
      · have entry := Answers.mem_of_ofTable found
        simp only [List.mem_singleton, Prod.mk.injEq, Except.ok.injEq] at entry
        exact .inr (.inl ((Option.some.inj same).trans entry.2))
  obtain ⟨whole, succeeds, sources, leads, lost⟩ : ∃ whole,
      compose ((Resolver.ofKeys [("b.js", .ok upper)]).union
        (Resolver.ofKeys [("a.js", .ok lower)])) FileTree.empty ((), ()) layered = .ok whole ∧
      whole.sources = ["x.ts", "d.js"] ∧ whole.lookup? 0 9 = some ⟨"x.ts", 5, 1, some "g"⟩ ∧
      whole.lookup? 0 5 = none := ⟨_, rfl, by decide, by decide, by decide⟩
  obtain ⟨half, final, passes, passesToo, _, sameSegments, sameSources, _, _⟩ :=
    compose_compose (Resolver.ofKeys_keyed _) (Resolver.ofKeys_keyed _) FileTree.empty trivial
      trivial
      (fun doc involved => by
        rcases all doc involved with rfl | rfl | rfl
        · exact Document.ofParts_inOrder _ _ _ _ _
        · exact Document.ofParts_inOrder _ _ _ _ _
        · exact Document.ofParts_inOrder _ _ _ _ _)
      (fun doc involved => by rcases all doc involved with rfl | rfl | rfl <;> rfl)
      (fun key doc found source listed inner answer => by
        have entry := Answers.mem_of_ofTable found
        simp only [List.mem_singleton, Prod.mk.injEq, Except.ok.injEq] at entry
        obtain ⟨_, rfl⟩ := entry
        rw [List.mem_singleton.mp listed] at answer
        cases answer)
      succeeds
  have halfSources : half.sources = ["a.js", "d.js"] := by
    cases passes
    decide
  exact ⟨whole, half, final, succeeds, passes, passesToo, sameSegments, sameSources, halfSources,
    sources, leads, lost⟩

end SourceTrace
