import SourceTrace.Proofs.Document.Scan
import SourceTrace.Proofs.Document.WellFormed

/-!
# A builder hands out numbers that last

The client of a builder gets numbers and segments from it and sets contents by the numbers that it
got. Calls may come in any order: a source is registered after the contents of others were set, a
text comes again, a name comes without a source, a content is taken back. Through all of that every
number keeps its text, and the finished document is described by the list of calls and their answers
alone.
-/
namespace SourceTrace

namespace Builder

/-- A call on a builder. -/
inductive Call where
  | addSource (source : String)
  | addName (name : String)
  | addUnmapped (line column : Nat)
  | add (line column sourceLine sourceColumn : Nat) (source name : Option String)
  | setContent (id : Nat) (content : Option String)
  deriving DecidableEq, Repr

/-- What a call is answered. -/
inductive Answer where
  | source (id : Nat)
  | name (id : Nat)
  | segment (segment : Segment)
  | nothing
  deriving DecidableEq, Repr

namespace Call

/-- The source that a call registers. -/
def source? : Call → Option String
  | .addSource source => some source
  | .add _ _ _ _ source _ => source
  | _ => none

/-- The name that a call registers. One that comes without a source is not registered. -/
def name? : Call → Option String
  | .addName name => some name
  | .add _ _ _ _ source name => source.bind fun _ => name
  | _ => none

/-- The number of the source whose content a call sets. -/
def filled? : Call → Option Nat
  | .setContent id _ => some id
  | _ => none

/-- The content that a call sets for a source, which may be none. -/
def contentFor? (id : Nat) : Call → Option (Option String)
  | .setContent other content => if id = other then some content else none
  | _ => none

/-- Makes a call. Only contents can fail to be set. -/
def perform? (b : Builder) : Call → Option (Answer × Builder)
  | .addSource source =>
    let (id, after) := b.addSource source
    some (.source id, after)
  | .addName name =>
    let (id, after) := b.addName name
    some (.name id, after)
  | .addUnmapped line column =>
    let (segment, after) := b.addUnmapped line column
    some (.segment segment, after)
  | .add line column sourceLine sourceColumn source name =>
    let (segment, after) := b.add line column sourceLine sourceColumn source name
    some (.segment segment, after)
  | .setContent id content => (b.setContent? id content).map fun after => (.nothing, after)

end Call

namespace Answer

/-- The segment that was added. -/
def segment? : Answer → Option Segment
  | .segment added => some added
  | _ => none

/-- The number of a source that a client learns from an answer. -/
def source? : Answer → Option Nat
  | .source id => some id
  | .segment added => added.source
  | _ => none

end Answer

/-- A builder with the answers that it has given. -/
structure Session where
  builder : Builder
  answers : List Answer
  deriving DecidableEq, Repr

namespace Session

/-- A builder that has not been called yet. -/
def start (file : Option String) : Session := { builder := empty file, answers := [] }

/-- Makes the next call. -/
def perform? (session : Session) (call : Call) : Option Session :=
  (call.perform? session.builder).map fun (answer, builder) =>
    { builder, answers := session.answers ++ [answer] }

/-- Makes calls one after another. -/
def run? (file : Option String) (calls : List Call) : Option Session :=
  calls.foldlM perform? (start file)

end Session

/-- The numbers of sources that a client has learned from its calls. -/
def learned (file : Option String) (calls : List Call) : List Nat :=
  match Session.run? file calls with
  | some session => session.answers.filterMap Answer.source?
  | none => []

/-- Contents are set only for sources whose numbers have been learned before. -/
def FillsLearned (file : Option String) (calls : List Call) : Prop :=
  ∀ i < calls.length, ∀ id ∈ calls[i]?.bind Call.filled?, id ∈ learned file (calls.take i)

instance (file : Option String) (calls : List Call) : Decidable (FillsLearned file calls) :=
  inferInstanceAs (Decidable (∀ i < calls.length, ∀ id ∈ calls[i]?.bind Call.filled?,
    id ∈ learned file (calls.take i)))

/-- The content that was set last for a source, if any was. -/
def lastContent (calls : List Call) (id : Nat) : Option String :=
  (calls.filterMap (Call.contentFor? id)).getLast?.join

/-- What an answer to a call means in a document. A number stands for the text that it was given
for. A segment stands where it was added and leads to the source and the name it was added with; it
refers to a source only if it was added with one, and to a name only if it was added with both. -/
inductive Means (doc : Document) : Call → Answer → Prop
  | addSource {source : String} {id : Nat} (listed : doc.source? id = some source) :
      Means doc (.addSource source) (.source id)
  | addName {name : String} {id : Nat} (listed : doc.name? id = some name) :
      Means doc (.addName name) (.name id)
  | addUnmapped (line column : Nat) :
      Means doc (.addUnmapped line column) (.segment
        { line, column, sourceLine := 0, sourceColumn := 0, source := none, name := none })
  | add {segment : Segment} {source name : Option String}
      (source_eq : doc.segmentSource? segment = source)
      (source_isSome : segment.source.isSome = source.isSome)
      (name_eq : doc.segmentName? segment = source.bind fun _ => name)
      (name_isSome : segment.name.isSome = (source.bind fun _ => name).isSome) :
      Means doc (.add segment.line segment.column segment.sourceLine segment.sourceColumn source
        name) (.segment segment)
  | setContent (id : Nat) (content : Option String) : Means doc (.setContent id content) .nothing

/-- A builder that was given the calls and gave the answers, and the document that it makes. -/
structure Interns (calls : List Call) (answers : List Answer) (b : Builder) : Prop where
  sources : b.finish.sources = (calls.filterMap Call.source?).eraseDups
  names : b.finish.names = (calls.filterMap Call.name?).eraseDups
  nodup : b.finish.sources.Nodup ∧ b.finish.names.Nodup
  means : List.Forall₂ (Means b.finish) calls answers
  /-- A source that is registered again has its number already. -/
  source_again : ∀ id source, b.finish.source? id = some source → b.addSource source = (id, b)
  name_again : ∀ id name, b.finish.name? id = some name → b.addName name = (id, b)
  sorted : b.finish.segments.Pairwise (Segment.le · ·)
  segments : b.finish.segments.Perm (answers.filterMap Answer.segment?)
  /-- Segments that start together stay in the order of their calls. -/
  stable : ∀ place : Segment, b.finish.segments.filter (·.startsWith place) =
    (answers.filterMap Answer.segment?).filter (·.startsWith place)
  content : ∀ id, b.finish.content? id = lastContent calls id
  /-- Contents are there exactly if a source has one, and then for every source. -/
  contents : b.finish.contents =
    let each := (List.range b.finish.sources.length).map (lastContent calls)
    if each.any Option.isSome then some each else none

end Builder

/-- The texts after one of them may have been registered. -/
def registered (texts : List String) (text? : Option String) : List String :=
  match text? with
  | some text => (register texts text).2
  | none => texts

theorem registered_grows (texts : List String) (text? : Option String) :
    texts <+: registered texts text? := by
  cases text? with
  | none => exact List.prefix_rfl
  | some text => exact (register_spec texts text).1

theorem registered_eraseDups {α : Type} (text? : α → Option String) (used : List α) (next : α) :
    registered (used.filterMap text?).eraseDups (text? next) =
      ((used ++ [next]).filterMap text?).eraseDups := by
  rw [List.filterMap_append]
  cases new : text? next with
  | none => simp [registered, new]
  | some text => simpa [registered, new] using register_eraseDups (used.filterMap text?) text

namespace Builder

/-- A number stands for the same text in a longer list, and no number still stands for none. -/
theorem bind_getElem?_of_grown {texts longer : List String} (grown : texts <+: longer)
    (number : Option Nat) {text : Option String} (stands : number.bind (texts[·]?) = text)
    (given : number.isSome = text.isSome) : number.bind (longer[·]?) = text := by
  subst stands
  cases number with
  | none => rfl
  | some id =>
    have bound : id < texts.length := by simpa using given
    exact getElem?_of_prefix grown bound

/-- Answers keep their meaning as long as the lists of texts grow only. -/
theorem Means.grow {doc later : Document} {call : Call} {answer : Answer}
    (means : Means doc call answer) (sources : doc.sources <+: later.sources)
    (names : doc.names <+: later.names) : Means later call answer := by
  cases means with
  | addSource listed => exact .addSource (bind_getElem?_of_grown sources (some _) listed rfl)
  | addName listed => exact .addName (bind_getElem?_of_grown names (some _) listed rfl)
  | addUnmapped line column => exact .addUnmapped line column
  | add source_eq source_isSome name_eq name_isSome =>
    exact .add (bind_getElem?_of_grown sources _ source_eq source_isSome) source_isSome
      (bind_getElem?_of_grown names _ name_eq name_isSome) name_isSome
  | setContent id content => exact .setContent id content

/-- A client only learns numbers that stand for a source. -/
theorem Means.lt {doc : Document} {call : Call} {answer : Answer}
    (means : Means doc call answer) {id : Nat} (told : answer.source? = some id) :
    id < doc.sources.length := by
  cases means with
  | addSource listed =>
    cases told
    exact (List.getElem?_eq_some_iff.mp listed).1
  | @add segment source name source_eq source_isSome =>
    -- The segment has a number, so it was added with a source, and the number leads to it.
    have number : segment.source = some id := told
    rw [Document.segmentSource?, number, Option.bind_some] at source_eq
    rw [number, Option.isSome_some, ← source_eq] at source_isSome
    simpa [Document.source?] using source_isSome
  | addName | addUnmapped | setContent => cases told

theorem add_means (b : Builder) (line column sourceLine sourceColumn : Nat)
    (source name : Option String) :
    let added := b.add line column sourceLine sourceColumn source name
    Means added.2.finish (.add line column sourceLine sourceColumn source name)
      (.segment added.1) := by
  intro added
  cases source with
  | none => exact @Means.add _ added.1 none name rfl rfl rfl rfl
  | some source =>
    have sources := (register_spec b.sources source).2
    cases name with
    | none => exact @Means.add _ added.1 (some source) none sources rfl rfl rfl
    | some name =>
      have names := (register_spec b.names name).2
      exact @Means.add _ added.1 (some source) (some name) sources rfl names rfl

/-- What a call does to a builder, apart from the contents that it leaves alone. -/
structure Effect (b : Builder) (call : Call) (answer : Answer) (after : Builder) : Prop where
  built : b.Built → after.Built
  sources : after.sources = registered b.sources call.source?
  names : after.names = registered b.names call.name?
  segments : after.segments = b.segments ++ answer.segment?.toList
  content : ∀ id, after.content? id = (call.contentFor? id).getD (b.content? id)
  means : Means after.finish call answer

theorem perform?_effect {b after : Builder} {call : Call} {answer : Answer}
    (done : call.perform? b = some (answer, after)) : Effect b call answer after := by
  cases call with
  | addSource source =>
    cases done
    exact ⟨fun built => built.addSource source, rfl, rfl, (List.append_nil _).symm, fun _ => rfl,
      .addSource (register_spec b.sources source).2⟩
  | addName name =>
    cases done
    exact ⟨fun built => built.addName name, rfl, rfl, (List.append_nil _).symm, fun _ => rfl,
      .addName (register_spec b.names name).2⟩
  | addUnmapped line column =>
    cases done
    exact ⟨fun built => built.addUnmapped line column, rfl, rfl, rfl, fun _ => rfl,
      .addUnmapped line column⟩
  | add line column sourceLine sourceColumn source name =>
    cases done
    have built (before : b.Built) := before.add line column sourceLine sourceColumn source name
    have means := b.add_means line column sourceLine sourceColumn source name
    cases source with
    | none => exact ⟨built, rfl, rfl, rfl, fun _ => rfl, means⟩
    | some source =>
      cases name with
      | none => exact ⟨built, rfl, rfl, rfl, fun _ => rfl, means⟩
      | some name => exact ⟨built, rfl, rfl, rfl, fun _ => rfl, means⟩
  | setContent id content =>
    obtain ⟨filled, done, same⟩ := Option.map_eq_some_iff.mp done
    cases same
    have built (before : b.Built) := before.setContent id content done
    have contents := content?_setContent? done
    obtain ⟨-, rfl⟩ := setContent?_eq_some done
    refine ⟨built, rfl, rfl, (List.append_nil _).symm, fun other => ?_, .setContent id content⟩
    rw [contents, Call.contentFor?]
    split <;> rfl

/-- Only a content for a source that is not registered cannot be set. -/
theorem exists_perform? {b : Builder} {call : Call}
    (listed : ∀ id ∈ call.filled?, id < b.sources.length) :
    ∃ answer after, call.perform? b = some (answer, after) := by
  cases call with
  | setContent id content =>
    obtain ⟨after, done⟩ := exists_setContent? (listed id rfl) content
    exact ⟨.nothing, after, Option.map_eq_some_iff.mpr ⟨after, done, rfl⟩⟩
  | addSource | addName | addUnmapped | add => exact ⟨_, _, rfl⟩

/-- What a run leaves behind. -/
structure Kept (calls : List Call) (session : Session) : Prop where
  built : session.builder.Built
  sources : session.builder.sources = (calls.filterMap Call.source?).eraseDups
  names : session.builder.names = (calls.filterMap Call.name?).eraseDups
  segments : session.builder.segments = session.answers.filterMap Answer.segment?
  content : ∀ id, session.builder.content? id = lastContent calls id
  means : List.Forall₂ (Means session.builder.finish) calls session.answers

theorem lastContent_concat (calls : List Call) (call : Call) (id : Nat) :
    lastContent (calls ++ [call]) id = (call.contentFor? id).getD (lastContent calls id) := by
  rw [lastContent, List.filterMap_append]
  cases set : call.contentFor? id with
  | none => simp [set, lastContent]
  | some content => simp [set]

/-- One call more keeps what a run leaves behind: the lists of texts only grow, so that the answers
that were given before still mean what they meant. -/
theorem Kept.step {calls : List Call} {session : Session} (kept : Kept calls session) {call : Call}
    {answer : Answer} {after : Builder}
    (done : call.perform? session.builder = some (answer, after)) :
    Kept (calls ++ [call]) { builder := after, answers := session.answers ++ [answer] } := by
  have effect := perform?_effect done
  have sources : session.builder.sources <+: after.sources := by
    rw [effect.sources]
    exact registered_grows _ _
  have names : session.builder.names <+: after.names := by
    rw [effect.names]
    exact registered_grows _ _
  refine ⟨effect.built kept.built, ?_, ?_, ?_, ?_, ?_⟩
  · rw [effect.sources, kept.sources, registered_eraseDups]
  · rw [effect.names, kept.names, registered_eraseDups]
  · rw [effect.segments, kept.segments, List.filterMap_append]
    cases added : answer.segment? <;> simp [added]
  · intro id
    rw [effect.content, kept.content, lastContent_concat]
  · refine List.rel_append ?_ (.cons effect.means .nil)
    exact kept.means.imp fun _ _ means => means.grow sources names

theorem Kept.start (file : Option String) : Kept [] (.start file) :=
  ⟨.empty file, rfl, rfl, rfl, fun _ => rfl, .nil⟩

theorem Kept.lt {calls : List Call} {session : Session} (kept : Kept calls session) {id : Nat}
    (told : id ∈ session.answers.filterMap Answer.source?) :
    id < session.builder.sources.length := by
  obtain ⟨answer, given, told⟩ := List.mem_filterMap.mp told
  obtain ⟨i, bound, rfl⟩ := List.getElem_of_mem given
  exact (kept.means.get (kept.means.length_eq ▸ bound) bound).lt told

theorem FillsLearned.concat {file : Option String} {calls : List Call} {call : Call}
    (fills : FillsLearned file (calls ++ [call])) :
    FillsLearned file calls ∧ ∀ id ∈ call.filled?, id ∈ learned file calls := by
  constructor
  · intro i bound
    have earlier := fills i (by rw [List.length_append]; omega)
    rwa [List.getElem?_append_left bound, List.take_append_of_le_length (Nat.le_of_lt bound)]
      at earlier
  · simpa using fills calls.length (by simp)

/-- A client that sets contents only for sources it has the numbers of can make all its calls. -/
theorem exists_run? {file : Option String} {calls : List Call} (fills : FillsLearned file calls) :
    ∃ session, Session.run? file calls = some session ∧ Kept calls session := by
  -- From the last call backwards, since what a call may fill depends on the calls before it.
  induction calls using List.reverseRecOn with
  | nil => exact ⟨.start file, rfl, .start file⟩
  | append_singleton calls call ih =>
    obtain ⟨earlier, last⟩ := fills.concat
    obtain ⟨session, ran, kept⟩ := ih earlier
    have listed : ∀ id ∈ call.filled?, id < session.builder.sources.length := by
      intro id filled
      have told := last id filled
      rw [learned, ran] at told
      exact kept.lt told
    obtain ⟨answer, after, done⟩ := exists_perform? listed
    refine ⟨_, ?_, kept.step done⟩
    rw [Session.run?] at ran
    rw [Session.run?, List.foldlM_append, ran]
    simp [Session.perform?, done]

theorem Kept.interns {calls : List Call} {session : Session} (kept : Kept calls session) :
    Interns calls session.answers session.builder := by
  have formed := kept.built.tidy.finish
  have settled := kept.built.tidy.contentsSettled
  have content : session.builder.finish.content? = lastContent calls := by
    funext id
    rw [content?_finish, kept.content]
  have sources : session.builder.sources.Nodup := kept.sources ▸ nodup_eraseDups _
  have names : session.builder.names.Nodup := kept.names ▸ nodup_eraseDups _
  refine ⟨kept.sources, kept.names, ⟨sources, names⟩, kept.means, ?_, ?_, formed.sorted, ?_, ?_,
    congrFun content, ?_⟩
  · intro id source listed
    simp [addSource, register_again sources listed]
  · intro id name listed
    simp [addName, register_again names listed]
  · rw [← kept.segments]
    exact Sorting.sort_perm _ _
  · intro place
    rw [← kept.segments]
    exact Sorting.filter_sort (fun _ _ => Segment.le_of_startsWith) _
  · rw [← content]
    exact settled

/-- A client may make any calls in any order, as long as it sets contents only for sources whose
numbers it has learned, and all of them succeed. The sources and the names of the document are those
that were registered, each once and in the order of first registration. Every number that was given
out stands for its text and is given out for it again. The segments are those that were added, in
the order of their places and, at one place, of their calls; each leads to the source and the name
it was added with. Every source has the content that was set for it last. -/
theorem run?_interns (file : Option String) (calls : List Call) (fills : FillsLearned file calls) :
    ∃ session, Session.run? file calls = some session ∧
      Interns calls session.answers session.builder := by
  obtain ⟨session, ran, kept⟩ := exists_run? fills
  exact ⟨session, ran, kept.interns⟩

/-- Calls that set the content of a source before another source comes, take a content back, give a
name without a source and register a source again. -/
def interleaved : List Call :=
  [.add 1 4 0 0 (some "a.ts") (some "alpha"), .setContent 0 (some "let a;"), .addSource "b.ts",
    .setContent 1 (some "let b;"), .add 0 9 2 3 none (some "gamma"), .addName "beta",
    .setContent 1 none, .addUnmapped 1 4, .addSource "a.ts",
    .add 0 2 5 6 (some "b.ts") (some "alpha")]

theorem run?_interns_interleaved : FillsLearned (some "out.js") interleaved ∧
    ∃ session, Session.run? (some "out.js") interleaved = some session ∧
      Interns interleaved session.answers session.builder ∧
      session.builder.finish.sources = ["a.ts", "b.ts"] ∧
      session.builder.finish.names = ["alpha", "beta"] ∧
      session.builder.finish.contents = some [some "let a;", none] ∧
      session.answers.filterMap Answer.source? = [0, 1, 0, 1] ∧
      session.builder.finish.segments.map session.builder.finish.segmentName? =
        [some "alpha", none, some "alpha", none] := by
  have fills : FillsLearned (some "out.js") interleaved := by decide
  obtain ⟨session, ran, interns⟩ := run?_interns (some "out.js") interleaved fills
  cases ran
  exact ⟨fills, _, rfl, interns, rfl, rfl, rfl, rfl, rfl⟩

end Builder

end SourceTrace
