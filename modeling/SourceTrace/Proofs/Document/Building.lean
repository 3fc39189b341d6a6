import Mathlib.Data.List.Forall2
import Mathlib.Data.List.Induction
import Mathlib.Data.List.Nodup
import SourceTrace.Document.Builder

/-!
# What building a document keeps

A builder only grows: a number that stands for a text keeps standing for it. So a segment that was
added leads to the same source position in every later state of the builder and in the finished
document. A content is set for one source and stays with it.
-/
namespace SourceTrace

/-- Registering a text keeps all numbers, and the number that is returned stands for the text. -/
theorem register_spec (texts : List String) (text : String) :
    texts <+: (register texts text).2 ∧
      (register texts text).2[(register texts text).1]? = some text := by
  unfold register
  cases found : texts.idxOf? text with
  | none => simp
  | some id =>
    obtain ⟨bound, same, _⟩ := List.idxOf?_eq_some_iff.mp found
    exact ⟨List.prefix_rfl, List.getElem?_eq_some_iff.mpr ⟨bound, same⟩⟩

theorem register_lt (texts : List String) (text : String) :
    (register texts text).1 < (register texts text).2.length :=
  (List.getElem?_eq_some_iff.mp (register_spec texts text).2).1

theorem mem_register {texts : List String} {text other : String}
    (member : other ∈ (register texts text).2) : other ∈ texts ∨ other = text := by
  unfold register at member
  split at member
  · exact .inl member
  · simpa using member

theorem idxOf?_register (texts : List String) (text other : String) :
    (register texts text).2.idxOf? other =
      if other = text then some (register texts text).1 else texts.idxOf? other := by
  unfold register
  cases found : texts.idxOf? text with
  | some id =>
    by_cases same : other = text
    · simp [same, found]
    · simp [same]
  | none =>
    have appended : (texts ++ [text]).idxOf? other =
        (texts.idxOf? other).or (if text = other then some texts.length else none) := by
      simp [List.idxOf?, List.findIdx?_append]
    by_cases same : other = text
    · subst same
      simp [appended, found]
    · simp [appended, same, Ne.symm same]

theorem nodup_register {texts : List String} (distinct : texts.Nodup) (text : String) :
    (register texts text).2.Nodup := by
  unfold register
  cases found : texts.idxOf? text with
  | some id => exact distinct
  | none =>
    have new : text ∉ texts := List.idxOf?_eq_none_iff.mp found
    simpa using List.Nodup.concat new distinct

/-- A text is registered behind those that have been used before. -/
theorem register_eraseDups (used : List String) (text : String) :
    (register used.eraseDups text).2 = (used ++ [text]).eraseDups := by
  rw [List.eraseDups_append]
  unfold register
  cases found : used.eraseDups.idxOf? text with
  | none =>
    have new : text ∉ used.eraseDups := List.idxOf?_eq_none_iff.mp found
    rw [List.mem_eraseDups] at new
    simp [List.removeAll, new, List.eraseDups_cons]
  | some id =>
    obtain ⟨bound, same, _⟩ := List.idxOf?_eq_some_iff.mp found
    have old : text ∈ used := List.mem_eraseDups.mp (List.mem_of_getElem same)
    simp [List.removeAll, old]

theorem nodup_eraseDups (texts : List String) : texts.eraseDups.Nodup := by
  induction texts using List.reverseRecOn with
  | nil => exact List.nodup_nil
  | append_singleton front last ih =>
    rw [← register_eraseDups]
    exact nodup_register ih last

/-- A text that is registered again keeps its number. -/
theorem register_again {texts : List String} (distinct : texts.Nodup) {text : String} {id : Nat}
    (known : texts[id]? = some text) : register texts text = (id, texts) := by
  obtain ⟨bound, rfl⟩ := List.getElem?_eq_some_iff.mp known
  have first : texts.idxOf? texts[id] = some id := by
    rw [List.idxOf?_eq_some_iff]
    refine ⟨bound, rfl, fun earlier before same => ?_⟩
    exact Nat.ne_of_lt before (distinct.getElem_inj_iff.mp same)
  simp [register, first]

namespace Builder

/-- The texts of the second builder start with those of the first. -/
structure Grows (b after : Builder) : Prop where
  sources : b.sources <+: after.sources
  names : b.names <+: after.names

/-- The source position of a segment of a builder. -/
def position? (b : Builder) (segment : Segment) : Option SourcePosition :=
  (segment.source.bind b.source?).map fun source =>
    { source, line := segment.sourceLine, column := segment.sourceColumn,
      name := segment.name.bind (b.names[·]?) }

/-- The numbers of a segment stand for texts. -/
structure Registered (b : Builder) (segment : Segment) : Prop where
  source : ∀ id ∈ segment.source, id < b.sources.length
  name : ∀ id ∈ segment.name, id < b.names.length

theorem Registered.grow {b after : Builder} {segment : Segment}
    (registered : b.Registered segment) (grows : Grows b after) : after.Registered segment :=
  ⟨fun id member => Nat.lt_of_lt_of_le (registered.source id member) grows.sources.length_le,
    fun id member => Nat.lt_of_lt_of_le (registered.name id member) grows.names.length_le⟩

theorem getElem?_of_prefix {texts longer : List String} (grown : texts <+: longer) {id : Nat}
    (bound : id < texts.length) : longer[id]? = texts[id]? := by
  obtain ⟨rest, rfl⟩ := grown
  exact List.getElem?_append_left bound

theorem position?_grow {b after : Builder} {segment : Segment} (registered : b.Registered segment)
    (grows : Grows b after) : after.position? segment = b.position? segment := by
  have source : segment.source.bind after.source? = segment.source.bind b.source? := by
    cases known : segment.source with
    | none => rfl
    | some id => exact getElem?_of_prefix grows.sources (registered.source id known)
  have name : segment.name.bind (after.names[·]?) = segment.name.bind (b.names[·]?) := by
    cases known : segment.name with
    | none => rfl
    | some id => exact getElem?_of_prefix grows.names (registered.name id known)
  rw [position?, position?, source, name]

/-- What a step of building does that adds one segment. -/
structure Adds (b after : Builder) (segment : Segment) : Prop where
  grows : Grows b after
  segments : after.segments = b.segments ++ [segment]
  registered : after.Registered segment
  file : after.file = b.file
  baseDir : after.baseDir = b.baseDir

theorem addUnmapped_adds (b : Builder) (line column : Nat) :
    Adds b (b.addUnmapped line column).2 (b.addUnmapped line column).1 :=
  ⟨⟨List.prefix_rfl, List.prefix_rfl⟩, rfl, ⟨by simp [addUnmapped], by simp [addUnmapped]⟩,
    rfl, rfl⟩

/-- A mapped segment leads to the source position it was added with. -/
theorem add_adds (b : Builder) (line column sourceLine sourceColumn : Nat) (source : String)
    (name : Option String) :
    Adds b (b.add line column sourceLine sourceColumn (some source) name).2
      (b.add line column sourceLine sourceColumn (some source) name).1 ∧
    (b.add line column sourceLine sourceColumn (some source) name).2.position?
      (b.add line column sourceLine sourceColumn (some source) name).1 =
        some { source, line := sourceLine, column := sourceColumn, name } := by
  have sources := register_spec b.sources source
  have bound := register_lt b.sources source
  cases name with
  | none =>
    refine ⟨⟨⟨sources.1, List.prefix_rfl⟩, rfl, ⟨?_, ?_⟩, rfl, rfl⟩, ?_⟩
    · simpa [add, addSource, addSegment] using bound
    · simp [add, addSource, addSegment]
    · simp [add, addSource, addSegment, position?, source?, sources.2]
  | some name =>
    have names := register_spec b.names name
    have nameBound := register_lt b.names name
    refine ⟨⟨⟨sources.1, names.1⟩, rfl, ⟨?_, ?_⟩, rfl, rfl⟩, ?_⟩
    · simpa [add, addSource, addName, addSegment] using bound
    · simpa [add, addSource, addName, addSegment] using nameBound
    · simp [add, addSource, addName, addSegment, position?, source?, sources.2, names.2]

theorem add_parts (b : Builder) (line column sourceLine sourceColumn : Nat) (source : String)
    (name : Option String) :
    let added := b.add line column sourceLine sourceColumn (some source) name
    added.1.source = some (register b.sources source).1 ∧
      added.2.sources = (register b.sources source).2 ∧ added.2.contents = b.contents := by
  cases name with
  | none => exact ⟨rfl, rfl, rfl⟩
  | some name => exact ⟨rfl, rfl, rfl⟩

/-- Adds a segment that leads to a position, or to none, with a content for the source there. -/
def addPosition (b : Builder) (line column : Nat) (position? : Option SourcePosition)
    (content : Option String) : Builder :=
  match position? with
  | none => (b.addUnmapped line column).2
  | some position =>
    let (added, b) := b.add line column position.line position.column (some position.source)
      position.name
    b.offerContent (added.source.getD 0) content

theorem offerContent_eq (b : Builder) (id : Nat) (content : Option String) :
    ∃ contents, b.offerContent id content = { b with contents } := by
  unfold offerContent
  split
  · unfold setContent?
    split
    · exact ⟨_, rfl⟩
    · exact ⟨b.contents, rfl⟩
  · exact ⟨b.contents, rfl⟩

theorem content?_eq_none {b : Builder} {id : Nat} (beyond : b.contents.length ≤ id) :
    b.content? id = none := by
  simp [content?, beyond]

theorem getElem?_padContents_join (count : Nat) (contents : List (Option String)) (id : Nat) :
    ((Document.padContents count contents)[id]?).join = (contents[id]?).join := by
  unfold Document.padContents
  by_cases bound : id < contents.length
  · rw [List.getElem?_append_left bound]
  · rw [List.getElem?_append_right (Nat.le_of_not_lt bound), List.getElem?_replicate,
      List.getElem?_eq_none (Nat.le_of_not_lt bound)]
    split
    · rfl
    · rfl

theorem exists_setContent? {b : Builder} {id : Nat} (registered : id < b.sources.length)
    (content : Option String) : ∃ after, b.setContent? id content = some after := by
  rw [setContent?, if_pos registered]
  exact ⟨_, rfl⟩

/-- Contents are set for registered sources only, and nothing else changes. -/
theorem setContent?_eq_some {b after : Builder} {id : Nat} {content : Option String}
    (done : b.setContent? id content = some after) :
    id < b.sources.length ∧
      after = { b with
        contents := (Document.padContents b.sources.length b.contents).set id content } := by
  unfold setContent? at done
  split at done
  · next registered =>
    cases done
    exact ⟨registered, rfl⟩
  · cases done

/-- A content that is set counts for one source. -/
theorem content?_setContent? {b after : Builder} {id : Nat} {content : Option String}
    (done : b.setContent? id content = some after) (other : Nat) :
    after.content? other = if other = id then content else b.content? other := by
  obtain ⟨registered, rfl⟩ := setContent?_eq_some done
  have room : id < (Document.padContents b.sources.length b.contents).length := by
    rw [Document.padContents, List.length_append, List.length_replicate]
    omega
  by_cases same : other = id
  · simp [content?, same, room]
  · simp [content?, same, Ne.symm same, getElem?_padContents_join]

/-- A finished document carries the contents of its builder. -/
theorem content?_finish (b : Builder) (id : Nat) : b.finish.content? id = b.content? id := by
  cases carries : b.contents.any Option.isSome with
  | true =>
    have contents : b.finish.contents =
        some (Document.padContents b.sources.length b.contents) := by
      simp [finish, Document.setBaseDir, Document.ofParts, carries]
    rw [Document.content?, contents, Option.bind_some, getElem?_padContents_join]
    rfl
  | false =>
    have contents : b.finish.contents = none := by
      simp [finish, Document.setBaseDir, Document.ofParts, carries]
    rw [Document.content?, contents, Option.bind_none, content?]
    cases found : b.contents[id]? with
    | none => rfl
    | some content =>
      have empty := List.any_eq_false.mp carries content (List.mem_of_getElem? found)
      cases content with
      | none => rfl
      | some text => simp at empty

end Builder

end SourceTrace
