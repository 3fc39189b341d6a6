import SourceTrace.Proofs.Compose.Semantics
import SourceTrace.Proofs.Source.Rebase

/-!
# Tracked artifacts answer by key

The resolver of tracked artifacts loads a document when it is first asked for and keeps it. On files
that do not change, what it answers depends on the key of the source alone and not on what it was
asked before.
-/
namespace SourceTrace.TrackedArtifacts

variable {tree : FileTree} {tracked memory : TrackedArtifacts}

/-- The document of an output: the one that was loaded, or the one that would be. -/
def document (tree : FileTree) (tracked : TrackedArtifacts) (path : Path) :
    Except Error Document :=
  match List.lookup path tracked.loaded with
  | some doc => .ok doc
  | none => (Artifact.load tree path).map Artifact.document

/-- What is answered for a key. -/
def answers (tree : FileTree) (tracked : TrackedArtifacts) : Answers := fun key =>
  if tracked.outputs.contains ⟨key⟩ then (tracked.document tree ⟨key⟩).map some else .ok none

/-- A memory that differs from the tracked artifacts only by documents that were loaded since. -/
structure Agrees (tree : FileTree) (tracked memory : TrackedArtifacts) : Prop where
  outputs : memory.outputs = tracked.outputs
  document : ∀ path, memory.document tree path = tracked.document tree path

theorem Agrees.refl (tree : FileTree) (tracked : TrackedArtifacts) : Agrees tree tracked tracked :=
  ⟨rfl, fun _ => rfl⟩

/-- Keeping a document that was loaded changes nothing. -/
theorem document_keep {path : Path} {artifact : Artifact}
    (new : List.lookup path memory.loaded = none)
    (loaded : Artifact.load tree path = .ok artifact) (other : Path) :
    document tree { memory with loaded := memory.loaded ++ [(path, artifact.document)] } other =
      memory.document tree other := by
  unfold document
  rw [List.lookup_append]
  cases known : List.lookup other memory.loaded with
  | some doc => rfl
  | none =>
    by_cases same : other = path
    · subst same
      simp [loaded, Except.map]
    · have differs : (other == path) = false := beq_eq_false_iff_ne.mpr same
      simp [List.lookup_cons, differs]

/-- One answer, and what is remembered afterwards. -/
theorem answer_spec (agrees : Agrees tree tracked memory) (source : String) (base : Option Path) :
    (answer tree source base memory).1 =
      (match Source.resolve? base source with
      | none => .ok none
      | some path =>
        if tracked.outputs.contains path then (tracked.document tree path).map some else .ok none) ∧
    Agrees tree tracked (answer tree source base memory).2 := by
  unfold answer
  cases Source.resolve? base source with
  | none => exact ⟨rfl, agrees⟩
  | some path =>
    dsimp only
    rw [agrees.outputs, ← agrees.document path]
    cases listed : tracked.outputs.contains path with
    | false => exact ⟨rfl, agrees⟩
    | true =>
      unfold document
      cases known : List.lookup path memory.loaded with
      | some doc => exact ⟨rfl, agrees⟩
      | none =>
        cases loaded : Artifact.load tree path with
        | error cause => exact ⟨rfl, agrees⟩
        | ok artifact =>
          refine ⟨rfl, rfl, ?_⟩
          intro other
          rw [← agrees.document other]
          exact document_keep known loaded other

/-- Outputs whose paths cannot be taken for the text of a source that names no file. -/
def Distinct (tracked : TrackedArtifacts) : Prop :=
  ∀ path ∈ tracked.outputs, path.isAbsolute ∧ ':' ∉ path.text.toList

theorem resolve?_of_absolute_path {path : Path} (absolute : path.isAbsolute)
    (free : ':' ∉ path.text.toList) (base : Option Path) :
    Source.resolve? base path.text ≠ none := by
  obtain ⟨rest, text⟩ := Path.exists_slash absolute
  have some : path.text ≠ "" := by
    rw [text]
    simp
  have starts : Source.isAbsolute path.text = true := by
    simp [Source.isAbsolute, text]
  simp [Source.resolve?, some, Url.read_eq_plain free, Source.resolvePlain?, starts]

/-- On files that do not change, tracked artifacts answer by key. -/
theorem resolver_keyed (tree : FileTree) (distinct : tracked.Distinct) :
    (resolver tree).Keyed (tracked.answers tree) (Agrees tree tracked) where
  answer_eq memory agrees source base := by
    refine (answer_spec agrees source base).1.trans ?_
    unfold answers Source.key
    cases named : Source.resolve? base source with
    | some path => rfl
    | none =>
      have other : tracked.outputs.contains ⟨source⟩ = false := by
        by_contra listed
        obtain ⟨absolute, free⟩ := distinct ⟨source⟩ (by simpa using listed)
        exact resolve?_of_absolute_path absolute free base named
      simp only [other, Bool.false_eq_true, ↓reduceIte]
  valid_after memory agrees source base := (answer_spec agrees source base).2
  bounded := by
    refine ⟨tracked.outputs.map Path.text, ?_, ?_⟩
    · intro key doc answer
      unfold answers at answer
      split at answer
      · next listed =>
        exact List.mem_map.mpr ⟨⟨key⟩, by simpa using listed, rfl⟩
      · cases answer
    · intro memory agrees
      simp [resolver, agrees.outputs]

end SourceTrace.TrackedArtifacts
