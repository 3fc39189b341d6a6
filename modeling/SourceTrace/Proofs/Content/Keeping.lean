import Mathlib.Logic.Relation
import SourceTrace.Compose.Composer
import SourceTrace.Proofs.Content.Stability

/-!
# Texts that were kept can be found

On files that do not change, a source whose text can be found stays such a source, and the only way
to become one is a text that is recorded for its key. When the texts of a composed document are
kept, every text that can be found is recorded. From then on a source of the document that has a
text has a recorded one, whichever place the text was found in.
-/
namespace SourceTrace.ContentStore

/-- The text of a source of a document can be found. -/
def Resolvable (tree : FileTree) (doc : Document) (id : Nat) (store : ContentStore) : Prop :=
  ∃ found, (store.resolve tree doc id).1 = .ok found

/-- The store comes to be the later one by some events, on files that do not change. -/
def Leads (tree : FileTree) : ContentStore → ContentStore → Prop :=
  Relation.ReflTransGen fun store later => ∃ event : Event, later = event.apply tree store

/-- The text of a file: what is remembered of it, or else what is in it. -/
def fileText? (tree : FileTree) (store : ContentStore) (path : Path) : Option String :=
  (List.lookup path.text store.files).getD (tree.readText path).toOption

variable {store later : ContentStore} {tree : FileTree} {doc : Document} {id : Nat}
  {source : String}

/-- Reading a file gives its text and does not change the text of any file. -/
theorem readFile_spec (tree : FileTree) (base : Option Path) (source : String)
    (store : ContentStore) :
    (store.readFile tree base source).1 =
        (Source.resolve? base source).bind (store.fileText? tree) ∧
      (store.readFile tree base source).2.fileText? tree = store.fileText? tree := by
  unfold readFile
  cases Source.resolve? base source with
  | none => exact ⟨rfl, rfl⟩
  | some path =>
    dsimp only
    cases asked : List.lookup path.text store.files with
    | some known => simp [fileText?, asked]
    | none =>
      refine ⟨by simp [fileText?, asked], ?_⟩
      funext other
      by_cases same : other.text = path.text
      · have paths : other = path := by
          cases other
          cases path
          exact congrArg Path.mk same
        subst paths
        simp [fileText?, asked]
      · have different : (other.text == path.text) = false := beq_eq_false_iff_ne.mpr same
        simp [fileText?, List.lookup_cons, different]

/-- An event does not change the text of any file. -/
theorem fileText?_apply (tree : FileTree) (store : ContentStore) (event : Event) :
    (event.apply tree store).fileText? tree = store.fileText? tree := by
  cases event with
  | record base source text =>
    unfold Event.apply record
    dsimp only
    split
    · rfl
    · rfl
  | resolve doc id =>
    cases listed : doc.source? id with
    | none => simp [Event.apply, resolve, listed]
    | some source =>
      cases carried : doc.content? id with
      | some text => simp [Event.apply, resolve, listed, carried]
      | none =>
        rw [Event.apply, resolve_of_outside listed carried]
        exact (readFile_spec tree doc.baseDir source store).2

theorem Leads.fileText?_eq (leads : Leads tree store later) :
    later.fileText? tree = store.fileText? tree := by
  induction leads with
  | refl => rfl
  | tail _ step ih =>
    obtain ⟨event, rfl⟩ := step
    exact (fileText?_apply tree _ event).trans ih

theorem Leads.backfill? (leads : Leads tree store later) {base : Option Path}
    (known : (store.backfill? base source).isSome) : (later.backfill? base source).isSome := by
  induction leads with
  | refl => exact known
  | tail _ step ih =>
    obtain ⟨event, rfl⟩ := step
    rw [ContentStore.backfill?, (event.apply_spec tree _).2, Option.isSome_or]
    exact Bool.or_eq_true_iff.mpr (.inl ih)

/-- The three places where a text can be found. -/
theorem resolvable_iff (listed : doc.source? id = some source) :
    store.Resolvable tree doc id ↔ (doc.content? id).isSome ∨
      ((Source.resolve? doc.baseDir source).bind (store.fileText? tree)).isSome ∨
      (store.backfill? doc.baseDir source).isSome := by
  unfold Resolvable
  cases carried : doc.content? id with
  | some text => simp [resolve, listed, carried]
  | none =>
    rw [resolve_of_outside listed carried, (readFile_spec tree doc.baseDir source store).1]
    cases (Source.resolve? doc.baseDir source).bind (store.fileText? tree) with
    | some text => simp [outside]
    | none =>
      cases store.backfill? doc.baseDir source with
      | some text => simp [outside]
      | none => simp [outside]

/-- A text that can be found stays one that can be found. -/
theorem Resolvable.mono (listed : doc.source? id = some source) (leads : Leads tree store later)
    (found : store.Resolvable tree doc id) : later.Resolvable tree doc id := by
  rw [resolvable_iff listed] at found ⊢
  rw [leads.fileText?_eq]
  exact found.imp_right (Or.imp_right leads.backfill?)

/-- A text that can be found now could be found before, or it is a recorded one. -/
theorem Resolvable.earlier (listed : doc.source? id = some source) (leads : Leads tree store later)
    (found : later.Resolvable tree doc id) :
    store.Resolvable tree doc id ∨ (later.backfill? doc.baseDir source).isSome := by
  rw [resolvable_iff listed, leads.fileText?_eq] at found
  rw [resolvable_iff listed]
  rcases found with carried | file | layer
  · exact .inl (.inl carried)
  · exact .inl (.inr (.inl file))
  · exact .inr layer

end SourceTrace.ContentStore

namespace SourceTrace.Compose

open ContentStore (Leads Resolvable)

variable {tree : FileTree} {doc : Document}

/-- Keeps the text of one source of a composed document. -/
def keepText (tree : FileTree) (doc : Document) (store : ContentStore) (entry : String × Nat) :
    ContentStore :=
  match store.resolve tree doc entry.2 with
  | (.ok (text, _), store) => store.record doc.baseDir entry.1 text
  | (.error _, store) => store

theorem keepContents_eq (tree : FileTree) (doc : Document) (store : ContentStore) :
    keepContents tree doc store = doc.sources.zipIdx.foldl (keepText tree doc) store := rfl

/-- A text that can be found is recorded. -/
theorem keepText_spec (tree : FileTree) (doc : Document) (store : ContentStore)
    (entry : String × Nat) :
    Leads tree store (keepText tree doc store entry) ∧
      (store.Resolvable tree doc entry.2 →
        ((keepText tree doc store entry).backfill? doc.baseDir entry.1).isSome) := by
  have asked : Leads tree store (store.resolve tree doc entry.2).2 :=
    .single ⟨.resolve doc entry.2, rfl⟩
  unfold keepText Resolvable
  generalize store.resolve tree doc entry.2 = reply at asked
  rcases reply with ⟨cause | ⟨text, origin⟩, after⟩
  · exact ⟨asked, fun ⟨_, found⟩ => by cases found⟩
  · refine ⟨asked.tail ⟨.record doc.baseDir entry.1 text, rfl⟩, fun _ => ?_⟩
    rw [ContentStore.backfill?, (ContentStore.record_spec after doc.baseDir entry.1 text).2]
    simp

/-- The texts of some sources, one after another. -/
theorem foldl_keepText_spec (tree : FileTree) (entries : List (String × Nat)) (store : ContentStore)
    (listed : ∀ entry ∈ entries, doc.source? entry.2 = some entry.1) :
    Leads tree store (entries.foldl (keepText tree doc) store) ∧
      ∀ entry ∈ entries, (entries.foldl (keepText tree doc) store).Resolvable tree doc entry.2 →
        ((entries.foldl (keepText tree doc) store).backfill? doc.baseDir entry.1).isSome := by
  induction entries generalizing store with
  | nil => exact ⟨.refl, by simp⟩
  | cons first rest ih =>
    obtain ⟨step, recorded⟩ := keepText_spec tree doc store first
    obtain ⟨further, others⟩ := ih (keepText tree doc store first) fun entry member =>
      listed entry (by simp [member])
    have all := step.trans further
    refine ⟨all, ?_⟩
    intro entry member found
    rcases List.mem_cons.mp member with rfl | later
    · -- What can be found in the end could be found when its turn came, or was recorded since.
      rcases found.earlier (listed entry (by simp)) all with before | known
      · exact further.backfill? (recorded before)
      · exact known
    · exact others entry later found

theorem keepContents_leads (tree : FileTree) (doc : Document) (store : ContentStore) :
    Leads tree store (keepContents tree doc store) := by
  rw [keepContents_eq]
  refine (foldl_keepText_spec tree _ store ?_).1
  intro entry member
  exact List.mem_zipIdx_iff_getElem?.mp member

/-- Once the texts of a document are kept, a source of it that has a text has a recorded one. -/
theorem backfill?_of_keepContents {moment later : ContentStore} {id : Nat} {source : String}
    (leads : Leads tree (keepContents tree doc moment) later)
    (listed : doc.source? id = some source) (found : later.Resolvable tree doc id) :
    (later.backfill? doc.baseDir source).isSome := by
  rcases found.earlier listed leads with before | known
  · have entry : (source, id) ∈ doc.sources.zipIdx := List.mem_zipIdx_iff_getElem?.mpr listed
    have all : ∀ entry ∈ doc.sources.zipIdx, doc.source? entry.2 = some entry.1 :=
      fun entry member => List.mem_zipIdx_iff_getElem?.mp member
    have kept := (foldl_keepText_spec tree doc.sources.zipIdx moment all).2 (source, id) entry
    exact leads.backfill? (kept before)
  · exact known

end SourceTrace.Compose
