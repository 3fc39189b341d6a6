import SourceTrace.Content

/-!
# A text that was found stays the same

A content store is asked for texts and told texts, while the files change under it. What it has read
from a file, and that it could not read one, is remembered, and so is the first text it was told for
a key. Once it has answered a question the answer is therefore settled: a text that was found is
found again, in the same place, and a text that was missing can only come from what the store is
told later for the key of its source.
-/
namespace SourceTrace.ContentStore

/-- What happens to a store: it is asked for the text of a source, or told one. -/
inductive Event where
  | resolve (doc : Document) (id : Nat)
  | record (base : Option Path) (source text : String)

/-- The store after an event, with the files as they are then. -/
def Event.apply (tree : FileTree) (store : ContentStore) : Event → ContentStore
  | .resolve doc id => (store.resolve tree doc id).2
  | .record base source text => store.record base source text

/-- The store after a run of events. Each of them comes with the files as others have left them by
then. -/
def run (store : ContentStore) (events : List (FileTree × Event)) : ContentStore :=
  events.foldl (fun store (tree, event) => event.apply tree store) store

/-- The text that an event tells for a key. -/
def Event.told? (key : String) : Event → Option String
  | .resolve _ _ => none
  | .record base source text => if Source.key base source = key then some text else none

/-- The first text that a run tells for a key. -/
def firstTold? (key : String) (events : List (FileTree × Event)) : Option String :=
  events.findSome? fun (_, event) => event.told? key

variable {store later : ContentStore} {tree : FileTree} {doc : Document} {id : Nat}
  {base : Option Path} {source text : String}

/-- Every path that the first store has asked for has the same answer in the second. -/
def Remembers (store later : ContentStore) : Prop :=
  ∀ path known, List.lookup path store.files = some known →
    List.lookup path later.files = some known

/-- Reading a file forgets nothing, and leaves the texts of earlier layers alone. -/
theorem readFile_remembers (tree : FileTree) (base : Option Path) (source : String)
    (store : ContentStore) :
    store.Remembers (store.readFile tree base source).2 ∧
      (store.readFile tree base source).2.backfill = store.backfill := by
  unfold readFile
  split
  · exact ⟨fun _ _ known => known, rfl⟩
  · next path _ =>
    split
    · exact ⟨fun _ _ known => known, rfl⟩
    · next new =>
      refine ⟨?_, rfl⟩
      intro other known found
      have different : (other == path.text) = false := by
        refine beq_eq_false_iff_ne.mpr ?_
        rintro rfl
        cases new.symm.trans found
      simpa only [List.lookup_cons, different] using found

/-- A file that was asked for is answered from memory, whatever the files are by then. -/
theorem readFile_of_remembers (remembers : (store.readFile tree base source).2.Remembers later)
    (now : FileTree) :
    later.readFile now base source = ((store.readFile tree base source).1, later) := by
  cases named : Source.resolve? base source with
  | none => simp [readFile, named]
  | some path =>
    have known : List.lookup path.text (store.readFile tree base source).2.files =
        some (store.readFile tree base source).1 := by
      cases asked : List.lookup path.text store.files with
      | none => simp [readFile, named, asked]
      | some known => simp [readFile, named, asked]
    simp only [readFile, named, remembers _ _ known]

/-- The answer for a source without a content of its own, by what its file and the earlier layers
have. -/
def outside (source : String) (file layer : Option String) :
    Except Error (String × ContentOrigin) :=
  match file, layer with
  | some text, _ => .ok (text, .file)
  | none, some text => .ok (text, .backfill)
  | none, none => .error (.missingContent source)

/-- Asking for a text that the document does not carry. -/
theorem resolve_of_outside (listed : doc.source? id = some source) (bare : doc.content? id = none)
    (tree : FileTree) (store : ContentStore) :
    store.resolve tree doc id =
      (outside source (store.readFile tree doc.baseDir source).1
        (store.backfill? doc.baseDir source), (store.readFile tree doc.baseDir source).2) := by
  have layers := (readFile_remembers tree doc.baseDir source store).2
  unfold resolve
  simp only [listed, bare]
  generalize store.readFile tree doc.baseDir source = reply at layers
  rcases reply with ⟨_ | text, after⟩
  · simp only at layers
    simp only [backfill?, layers, outside]
    cases List.lookup (Source.key doc.baseDir source) store.backfill with
    | none => rfl
    | some text => rfl
  · rfl

/-- Asking forgets nothing, and leaves the texts of earlier layers alone. -/
theorem resolve_remembers (tree : FileTree) (doc : Document) (id : Nat) (store : ContentStore) :
    store.Remembers (store.resolve tree doc id).2 ∧
      (store.resolve tree doc id).2.backfill = store.backfill := by
  cases listed : doc.source? id with
  | none => simp [resolve, listed, Remembers]
  | some source =>
    cases carried : doc.content? id with
    | some text => simp [resolve, listed, carried, Remembers]
    | none =>
      rw [resolve_of_outside listed carried]
      exact readFile_remembers tree doc.baseDir source store

/-- The first text for a key stays, and no file is forgotten. -/
theorem record_spec (store : ContentStore) (base : Option Path) (source text : String) :
    store.Remembers (store.record base source text) ∧
      ∀ key, List.lookup key (store.record base source text).backfill =
        (List.lookup key store.backfill).or
          (if Source.key base source = key then some text else none) := by
  unfold record
  dsimp only
  cases known : List.lookup (Source.key base source) store.backfill with
  | some first =>
    refine ⟨fun _ _ found => found, fun key => ?_⟩
    by_cases same : Source.key base source = key
    · subst same
      simp [known]
    · simp [same]
  | none =>
    refine ⟨fun _ _ found => found, fun key => ?_⟩
    simp only [List.lookup_append, List.lookup_cons, List.lookup_nil]
    by_cases same : Source.key base source = key
    · subst same
      simp
    · have different : (key == Source.key base source) = false :=
        beq_eq_false_iff_ne.mpr (Ne.symm same)
      simp [same, different]

/-- One event. -/
theorem Event.apply_spec (tree : FileTree) (store : ContentStore) (event : Event) :
    store.Remembers (event.apply tree store) ∧
      ∀ key, List.lookup key (event.apply tree store).backfill =
        (List.lookup key store.backfill).or (event.told? key) := by
  cases event with
  | resolve doc id =>
    obtain ⟨remembers, layers⟩ := resolve_remembers tree doc id store
    refine ⟨remembers, fun key => ?_⟩
    simp only [Event.apply, Event.told?, layers, Option.or_none]
  | record base source text => exact record_spec store base source text

/-- A run of events forgets no file, and the text for a key is the first one there was. -/
theorem run_spec (store : ContentStore) (events : List (FileTree × Event)) :
    store.Remembers (store.run events) ∧
      ∀ key, List.lookup key (store.run events).backfill =
        (List.lookup key store.backfill).or (firstTold? key events) := by
  induction events generalizing store with
  | nil => exact ⟨fun _ _ known => known, fun key => by simp [run, firstTold?]⟩
  | cons first rest ih =>
    obtain ⟨tree, event⟩ := first
    obtain ⟨remembers, layers⟩ := event.apply_spec tree store
    obtain ⟨further, after⟩ := ih (event.apply tree store)
    refine ⟨fun path known found => further path known (remembers path known found), ?_⟩
    intro key
    refine (after key).trans ?_
    rw [layers key, Option.or_assoc]
    congr 1
    cases told : event.told? key with
    | none => simp [firstTold?, told]
    | some text => simp [firstTold?, told]

/-- A text that the document does not carry, when it was asked for before a run and is asked for
again behind it: the file is as it was, and the earlier layers have what they had or were told. -/
theorem resolve_run_of_outside (listed : doc.source? id = some source)
    (bare : doc.content? id = none) (tree now : FileTree) (store : ContentStore)
    (events : List (FileTree × Event)) :
    (((store.resolve tree doc id).2.run events).resolve now doc id).1 =
      outside source (store.readFile tree doc.baseDir source).1
        ((store.backfill? doc.baseDir source).or
          (firstTold? (Source.key doc.baseDir source) events)) := by
  have asked := resolve_of_outside listed bare tree store
  obtain ⟨remembers, layers⟩ := run_spec (store.resolve tree doc id).2 events
  have told := layers (Source.key doc.baseDir source)
  rw [(resolve_remembers tree doc id store).2] at told
  rw [asked] at remembers
  rw [resolve_of_outside listed bare, asked, readFile_of_remembers remembers now]
  rw [asked] at told
  simp only [backfill?, told]

theorem told_of_firstTold? {key : String} {events : List (FileTree × Event)}
    (told : firstTold? key events = some text) :
    ∃ tree base source, (tree, Event.record base source text) ∈ events ∧
      Source.key base source = key := by
  obtain ⟨⟨tree, event⟩, member, tells⟩ := List.exists_of_findSome?_eq_some told
  cases event with
  | resolve doc id => cases tells
  | record base source first =>
    simp only [Event.told?, Option.ite_none_right_eq_some, Option.some.injEq] at tells
    obtain ⟨same, rfl⟩ := tells
    exact ⟨tree, base, source, member, same⟩

/-- After any run of questions and recorded texts, on files that change in any way: a text that was
found is found again in the same place. A text that was missing is still missing unless a text was
recorded for the key of its source, and then it is the first one of these. -/
theorem resolve_settled {asked : ContentStore} {answer : Except Error (String × ContentOrigin)}
    (first : store.resolve tree doc id = (answer, asked)) (events : List (FileTree × Event))
    (now : FileTree) :
    (∀ text origin, answer = .ok (text, origin) →
      ((asked.run events).resolve now doc id).1 = .ok (text, origin)) ∧
    ∀ source, answer = .error (.missingContent source) →
      doc.source? id = some source ∧
      ((asked.run events).resolve now doc id).1 =
        (match firstTold? (Source.key doc.baseDir source) events with
        | some text => .ok (text, .backfill)
        | none => .error (.missingContent source)) ∧
      ∀ text origin, ((asked.run events).resolve now doc id).1 = .ok (text, origin) →
        origin = .backfill ∧ ∃ moment base other,
          (moment, Event.record base other text) ∈ events ∧
            Source.key base other = Source.key doc.baseDir source := by
  have answer_eq : answer = (store.resolve tree doc id).1 := by rw [first]
  have asked_eq : asked = (store.resolve tree doc id).2 := by rw [first]
  subst answer_eq asked_eq
  cases listed : doc.source? id with
  | none => simp [resolve, listed]
  | some source =>
    cases carried : doc.content? id with
    | some text => simp [resolve, listed, carried]
    | none =>
      have before : (store.resolve tree doc id).1 = outside source
          (store.readFile tree doc.baseDir source).1 (store.backfill? doc.baseDir source) :=
        congrArg Prod.fst (resolve_of_outside listed carried tree store)
      rw [before, resolve_run_of_outside listed carried tree now store events]
      -- What the first question learned about the file decides whether anything can change.
      rcases (store.readFile tree doc.baseDir source).1 with _ | file
      · rcases store.backfill? doc.baseDir source with _ | layer
        · refine ⟨fun _ _ found => (by cases found), ?_⟩
          rintro _ ⟨⟩
          rw [Option.none_or]
          cases told : firstTold? (Source.key doc.baseDir source) events with
          | none => exact ⟨rfl, rfl, fun _ _ found => by cases found⟩
          | some first =>
            refine ⟨rfl, rfl, ?_⟩
            rintro _ _ ⟨⟩
            exact ⟨rfl, told_of_firstTold? told⟩
        · exact ⟨fun _ _ found => found, fun _ missing => by cases missing⟩
      · exact ⟨fun _ _ found => found, fun _ missing => by cases missing⟩

/-- The document of `w/out.js`, which was built from `w/a.js` and carries no text. -/
def untold : Document :=
  (Document.ofParts none [⟨0, 0, 0, 0, some 0, none⟩] [] ["a.js"] none).setBaseDir (some ⟨"w"⟩)

/-- A file that is written after it was found missing is not read, and of two texts that are
recorded under different spellings the first one counts. -/
theorem resolve_settled_untold :
    let written : FileTree := ⟨[], [(["w"], .directory), (["w", "a.js"], .file [104, 105])]⟩
    let events := [(written, Event.resolve untold 0),
      (written, .record (some ⟨"w/lib"⟩) "../a.js" "let a;"),
      (FileTree.empty, .record (some ⟨"w"⟩) "a.js" "let b;")]
    ∃ asked, empty.resolve FileTree.empty untold 0 = (.error (.missingContent "a.js"), asked) ∧
      (written.readText ⟨"w/a.js"⟩).toOption = some "hi" ∧
      ((asked.run events).resolve written untold 0).1 = .ok ("let a;", .backfill) := by
  intro written events
  have first : empty.resolve FileTree.empty untold 0 =
      (.error (.missingContent "a.js"), ⟨[], [("w/a.js", none)]⟩) := rfl
  have told : firstTold? (Source.key untold.baseDir "a.js") events = some "let a;" := by
    decide +kernel
  have later := ((resolve_settled first events written).2 "a.js" rfl).2.1
  rw [told] at later
  exact ⟨_, first, by decide +kernel, later⟩

end SourceTrace.ContentStore
