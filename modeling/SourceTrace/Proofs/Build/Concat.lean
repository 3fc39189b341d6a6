import SourceTrace.Build.Concat
import SourceTrace.Proofs.Artifact.Embedding
import SourceTrace.Proofs.Verify.Confinement

/-!
# The bundler stays in its output directory

Whatever mistake the concatenating bundler makes, it writes below the directory it is asked to build
into and nowhere else: the output of an entry is named by the last component of the entry, so that
not even an entry above the input leads out.
-/
namespace SourceTrace.Concat

open FileTree (Elsewhere Opened)
open SourceTrace.Path (LeadsDown)

/-- The output directory stands where its path leads. -/
structure Emitting (base : FileTree) (dir : Path) (location : Location) (tree : FileTree) :
    Prop where
  leads : tree.locate dir = .ok location
  opened : Opened base location tree

variable {base : FileTree} {dir : Path} {location : Location}

theorem Emitting.elsewhere {tree : FileTree} (emitting : Emitting base dir location tree) :
    Elsewhere base location tree :=
  emitting.opened.toElsewhere

/-- A step of a build once its output directory stands. -/
abbrev Emits {α : Type} (base : FileTree) (dir : Path) (location : Location)
    (step : FileAction α) : Prop :=
  Carries (Emitting base dir location) (Elsewhere base location) (Emitting base dir location) step

theorem emits_query {α : Type} (ask : FileTree → Except Error α) :
    Emits base dir location (FileAction.query ask) :=
  carries_query (fun _ => Emitting.elsewhere) ask

/-- Making the output directory, whose path leads somewhere already. -/
theorem carries_createOutDir (leads : base.locate dir = .ok location) :
    Carries (· = base) (Elsewhere base location) (Emitting base dir location)
      (FileAction.createAll dir) := by
  have unchanged : Elsewhere base location base := ⟨rfl, fun _ _ => rfl⟩
  refine carries_change (fun tree same => same ▸ unchanged) ?_
  rintro tree after rfl created
  obtain ⟨filled, -⟩ := FileTree.exists_of_locate leads
  have bare := FileTree.locate_withoutEndSlashes leads
  rcases FileTree.createAllFrom_cases filled created with (made | ⟨rfl, there⟩) | ⟨-, -, lost, -⟩
  · have adds := FileTree.AddsDirectories.of_makes (.inl made)
    obtain ⟨goal, found, missing, rfl⟩ := FileTree.exists_of_createDirectory made
    obtain rfl : location = goal := Except.ok.inj (bare.symm.trans found)
    exact ⟨adds.locate leads, .of_missing missing⟩
  · obtain ⟨goal, found, directory⟩ := FileTree.isDirectory_iff.mp there
    obtain rfl : location = goal := Except.ok.inj (leads.symm.trans found)
    exact ⟨leads, unchanged, directory⟩
  · -- the path leads somewhere, so its parent is there
    exfalso
    cases here : tree.node? location with
    | none =>
      rw [FileTree.createDirectory_of_missing bare here] at lost
      cases lost
    | some node =>
      rw [FileTree.createDirectory_of_taken bare here] at lost
      cases lost

/-- Writing a file under a name that leads down. -/
theorem emits_writeText {name : String} (down : LeadsDown name) (text : String) :
    Emits base dir location (FileAction.writeText (dir / name) text) := by
  refine carries_change (fun _ => Emitting.elsewhere) ?_
  rintro tree after ⟨leads, opened⟩ written
  obtain ⟨goal, found, free, rfl⟩ := FileTree.exists_of_write written
  rw [FileTree.locate_div leads down.relative] at found
  have below := FileTree.prefix_of_walk down.not_mem found
  exact ⟨FileTree.locate_put free leads, opened.put below free _⟩

theorem emits_addModule (fuel : Nat) (found : Found) (path : Path) :
    Emits base dir location (addModule fuel found path) := by
  induction fuel generalizing found path with
  | zero => exact .pure found
  | succ fuel ih =>
    unfold addModule
    refine .ite (.pure found) ?_
    refine .bind (emits_query _) fun text => ?_
    refine .bind (.forIn (fun name _ held => ?_) _) fun found => .pure _
    exact .bind (ih held _) fun found => .pure _

theorem emits_modulesOf (bundle : Bool) (entry : Path) :
    Emits base dir location (modulesOf bundle entry) := by
  unfold modulesOf
  refine .ite ?_ ?_
  · refine .bind (emits_query _) fun tree => ?_
    exact .bind (emits_addModule _ _ entry) fun found => .pure _
  · exact .bind (emits_query _) fun text => .pure _

/-- The last component of an entry leads down, and so does the name of its map. -/
theorem leadsDown_fileName (entry : Path) :
    LeadsDown (entry.fileName?.getD "") ∧ LeadsDown (entry.fileName?.getD "" ++ ".map") := by
  cases named : entry.fileName? with
  | none => exact ⟨by decide, by decide⟩
  | some name =>
    obtain ⟨isName, -⟩ := Path.endsIn_of_fileName? named
    exact ⟨isName.leadsDown, (Artifact.isName_map isName).leadsDown⟩

/-- Building one entry. -/
theorem emits_emit (fault : Fault) (request : BuildRequest) (entry : String) :
    Emits base request.outDir location (emit fault request entry) := by
  obtain ⟨down, mapDown⟩ := leadsDown_fileName ⟨entry⟩
  unfold emit
  refine .bind (emits_modulesOf _ _) fun modules => ?_
  dsimp only
  split
  · exact .bind (emits_writeText mapDown _) fun _ => .bind (.pure _) fun url =>
      emits_writeText down _
  · exact .bind (.pure _) fun url => emits_writeText down _

/-- The bundler is confined to its output directory. -/
theorem tool_confined (fault : Fault) : (tool fault).Confined := by
  intro request state tree location leads
  have carries : Carries (· = tree) (Elsewhere tree location)
      (Emitting tree request.outDir location) (do
        FileAction.createAll request.outDir
        for entry in request.entries do emit fault request entry
        FileAction.query fun tree => Artifact.collect tree request.outDir) := by
    refine .bind (carries_createOutDir leads) fun _ => ?_
    refine .bind (.forIn (fun entry _ held => ?_) _) fun _ => emits_query _
    exact .bind (emits_emit fault request entry) fun _ => .pure _
  exact carries.either (fun _ => Emitting.elsewhere) tree rfl

end SourceTrace.Concat
