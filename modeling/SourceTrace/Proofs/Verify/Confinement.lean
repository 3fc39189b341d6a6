import SourceTrace.Proofs.FileTree.Frame
import SourceTrace.Proofs.Verify.Steps

/-!
# A run stays in its directory

Whatever a run writes, creates or has built lies below the directory it was given, also when the run
ends early. This takes names that lead down and a build tool that changes nothing outside of the
directory it is asked to build into.

The steps of a run are followed by `Carries`: what holds of the files before a step, when it ends
and when it fails. All the while the directory stands and the rest of the files is as it was
(`Stands`); a build further needs the directory above its output, which was made before.
-/
namespace SourceTrace

open FileTree (Vacant Opened)
open SourceTrace.Path (Named Continues LeadsDown IsName)

/-- A tool that changes nothing outside of the directory that it is asked to build into. -/
def BuildTool.Confined {σ : Type} (tool : BuildTool σ) : Prop :=
  ∀ request state tree location, FileTree.locate tree request.outDir = .ok location →
    FileTree.Elsewhere tree location ((tool.build request).run.run (state, tree)).2.2

/-- A fixture whose files stay where they are put: their names lead down. -/
structure Fixture.LeadsDown (fixture : Fixture) : Prop where
  files : ∀ entry ∈ fixture.files, Path.LeadsDown entry.1
  extra : ∀ chain ∈ fixture.chain, Path.LeadsDown chain.extra.name

/-- A step that is started where `before` holds leads to where `after` holds, or to where `always`
holds if it fails. -/
structure Carries {σ α : Type} (before always after : σ → Prop)
    (step : ExceptT Error (StateM σ) α) : Prop where
  ends : ∀ start value finish, before start → step.run.run start = (.ok value, finish) →
    after finish
  fails : ∀ start cause finish, before start → step.run.run start = (.error cause, finish) →
    always finish

namespace Carries

variable {σ α β : Type} {before always middle after : σ → Prop}
  {step : ExceptT Error (StateM σ) α} {next : α → ExceptT Error (StateM σ) β}

/-- Wherever a step leads to, that is one of the two. -/
theorem either (carries : Carries before always after step)
    (weaker : ∀ state, after state → always state) (start : σ) (holds : before start) :
    always (step.run.run start).2 := by
  cases ends : step.run.run start with
  | mk result finish =>
    cases result with
    | ok value => exact weaker finish (carries.ends start value finish holds ends)
    | error cause => exact carries.fails start cause finish holds ends

theorem pure (value : α) : Carries before always before (Pure.pure value) := by
  constructor
  · rintro start _ finish holds ⟨⟩
    exact holds
  · rintro start _ finish holds ⟨⟩

theorem throw_bind (weaker : ∀ state, before state → always state) (cause : Error) :
    Carries before always after (MonadExcept.throw cause >>= next) := by
  constructor
  · rintro start value finish holds ⟨⟩
  · rintro start _ finish holds ⟨⟩
    exact weaker start holds

theorem bind (first : Carries before always middle step)
    (second : ∀ value, Carries middle always after (next value)) :
    Carries before always after (step >>= next) := by
  constructor
  · intro start value finish holds ends
    obtain ⟨given, between, here, there⟩ := run_bind_eq_ok_iff.mp ends
    exact (second given).ends between value finish (first.ends start given between holds here) there
  · intro start cause finish holds ends
    simp only [ExceptT.run_bind, StateT.run_bind] at ends
    cases here : step.run.run start with
    | mk result between =>
      rw [here] at ends
      cases result with
      | error failed =>
        cases ends
        exact first.fails start cause between holds here
      | ok given =>
        exact (second given).fails between cause finish
          (first.ends start given between holds here) ends

theorem weaken {other : σ → Prop} (carries : Carries before always middle step)
    (weaker : ∀ state, middle state → other state) : Carries before always other step :=
  ⟨fun start value finish holds ends => weaker finish (carries.ends start value finish holds ends),
    carries.fails⟩

theorem ite {condition : Prop} [Decidable condition] {yes no : ExceptT Error (StateM σ) α}
    (first : Carries before always after yes) (second : Carries before always after no) :
    Carries before always after (if condition then yes else no) := by
  split
  · exact first
  · exact second

theorem mapM {γ : Type} {each : γ → ExceptT Error (StateM σ) α} {items : List γ}
    (carries : ∀ item ∈ items, Carries before always before (each item)) :
    Carries before always before (items.mapM each) := by
  induction items with
  | nil =>
    rw [List.mapM_nil]
    exact .pure []
  | cons item rest ih =>
    rw [List.mapM_cons]
    refine .bind (carries item List.mem_cons_self) fun value => ?_
    exact .bind (ih fun other member => carries other (List.mem_cons_of_mem item member))
      fun values => .pure (value :: values)

theorem forIn {γ : Type} {each : γ → β → ExceptT Error (StateM σ) (ForInStep β)} {items : List γ}
    (carries : ∀ item ∈ items, ∀ held, Carries before always before (each item held))
    (held : β) : Carries before always before (ForIn.forIn items held each) := by
  induction items generalizing held with
  | nil =>
    rw [List.forIn_nil]
    exact .pure held
  | cons item rest ih =>
    rw [List.forIn_cons]
    refine .bind (carries item List.mem_cons_self held) fun step => ?_
    cases step with
    | done held => exact .pure held
    | yield held =>
      exact ih (fun other member => carries other (List.mem_cons_of_mem item member)) held

theorem forM {γ : Type} {each : γ → ExceptT Error (StateM σ) Unit} {items : List γ}
    (carries : ∀ item ∈ items, Carries before always before (each item)) :
    Carries before always before (items.forM each) := by
  induction items with
  | nil => exact .pure ()
  | cons item rest ih =>
    exact .bind (carries item List.mem_cons_self) fun _ =>
      ih fun other member => carries other (List.mem_cons_of_mem item member)

end Carries

/-- The directory of a run stands, with the given directories in it, and nothing has changed outside
of it. -/
structure Stands (base : FileTree) (location : Location) (folders : List Path) (tree : FileTree) :
    Prop where
  opened : Opened base location tree
  folders : ∀ folder ∈ folders, tree.isDirectory folder = true

section Files

variable {α : Type} {base : FileTree} {dir path : Path} {location : Location}
  {folders : List Path}

theorem Stands.bare {tree : FileTree} (stands : Stands base location folders tree) :
    Stands base location [] tree :=
  ⟨stands.opened, by simp⟩

theorem carries_query {before always : FileTree → Prop} (weaker : ∀ tree, before tree → always tree)
    (ask : FileTree → Except Error α) : Carries before always before (FileAction.query ask) := by
  constructor
  · intro tree value finish holds ends
    obtain ⟨-, rfl⟩ := Prod.mk.inj ends
    exact holds
  · intro tree cause finish holds ends
    obtain ⟨-, rfl⟩ := Prod.mk.inj ends
    exact weaker tree holds

theorem carries_change {before always after : FileTree → Prop}
    (weaker : ∀ tree, before tree → always tree) {step : FileTree → Except FileError FileTree}
    (changes : ∀ tree changed, before tree → step tree = .ok changed → after changed) :
    Carries before always after (FileAction.change step) := by
  have run_ok : ∀ tree changed, step tree = .ok changed →
      (FileAction.change step).run.run tree = (.ok (), changed) := by
    intro tree changed done
    simp [FileAction.change, StateT.run, done]
  have run_error : ∀ tree cause, step tree = .error cause →
      (FileAction.change step).run.run tree = (.error (.file cause), tree) := by
    intro tree cause failed
    simp [FileAction.change, StateT.run, failed]
  constructor
  · intro tree value finish holds ends
    cases done : step tree with
    | error cause =>
      rw [run_error tree cause done] at ends
      cases ends
    | ok changed =>
      rw [run_ok tree changed done] at ends
      obtain ⟨-, rfl⟩ := Prod.mk.inj ends
      exact changes tree _ holds done
  · intro tree cause finish holds ends
    cases done : step tree with
    | error known =>
      rw [run_error tree known done] at ends
      obtain ⟨-, rfl⟩ := Prod.mk.inj ends
      exact weaker tree holds
    | ok changed =>
      rw [run_ok tree changed done] at ends
      cases ends

/-- A directory stays one when a file is written. -/
theorem FileTree.isDirectory_write {tree after : FileTree} {folder : Path} {bytes : List UInt8}
    (there : tree.isDirectory folder = true) (written : tree.write path bytes = .ok after) :
    after.isDirectory folder = true := by
  obtain ⟨location, leads, directory⟩ := isDirectory_iff.mp there
  obtain ⟨goal, -, free, rfl⟩ := exists_of_write written
  exact isDirectory_iff.mpr ⟨location, locate_put free leads, directory_put free directory⟩

theorem FileTree.AddsDirectories.isDirectory {tree after : FileTree} {folder : Path}
    (adds : AddsDirectories tree after) (there : tree.isDirectory folder = true) :
    after.isDirectory folder = true := by
  obtain ⟨location, leads, directory⟩ := isDirectory_iff.mp there
  exact isDirectory_iff.mpr ⟨location, adds.locate leads, adds.directory directory⟩

variable (vacant : Vacant base dir location)

include vacant

theorem carries_writeText (continues : Continues dir.pieces path) (text : String) :
    Carries (Stands base location folders) (Stands base location [])
      (Stands base location folders) (FileAction.writeText path text) := by
  refine carries_change (fun _ => Stands.bare) fun tree after stands written => ⟨?_, ?_⟩
  · exact stands.opened.write vacant continues written
  · intro folder listed
    exact FileTree.isDirectory_write (stands.folders folder listed) written

theorem carries_createAll (continues : Continues dir.pieces path) :
    Carries (Stands base location folders) (Stands base location [])
      (Stands base location (path :: folders)) (FileAction.createAll path) := by
  refine carries_change (fun _ => Stands.bare) fun tree after stands created => ⟨?_, ?_⟩
  · exact stands.opened.createAllFrom vacant continues created
  · obtain ⟨rest, pieces, -⟩ := continues
    intro folder listed
    rcases List.mem_cons.mp listed with rfl | earlier
    · exact FileTree.isDirectory_of_createAll (vacant.named.text_ne pieces) created
    · exact (FileTree.AddsDirectories.of_createAllFrom created).isDirectory
        (stands.folders folder earlier)

/-- Writing the files of a fixture into a directory of the run. -/
theorem Fixture.carries_writeTo {fixture : Fixture} (leads : fixture.LeadsDown) {name : String}
    (isName : IsName name) (ending : LineEnding) :
    Carries (Stands base location []) (Stands base location []) (Stands base location [])
      (fixture.writeTo (dir / name) ending) := by
  unfold writeTo
  refine .bind (.mapM fun entry listed => ?_) fun files => .pure _
  obtain ⟨file, text⟩ := entry
  have down := leads.files (file, text) listed
  have inside : Continues (dir / name).pieces (dir / name / file) :=
    (Continues.refl _).div (vacant.named.div isName) down
  have continues := inside.of_div vacant.named isName
  dsimp only
  cases above : (dir / name / file).parent? with
  | none => exact .bind (carries_writeText vacant continues _) fun _ => .pure _
  | some parent =>
    have parentContinues := inside.parent?_of_div vacant.named isName above
    have created : Carries (Stands base location []) (Stands base location [])
        (Stands base location []) (FileAction.createAll parent) :=
      (carries_createAll vacant parentContinues).weaken fun _ => Stands.bare
    refine .bind created fun _ => ?_
    exact .bind (carries_writeText vacant continues _) fun _ => .pure _

/-- Writing an artifact under a name in a directory of the run. -/
theorem Artifact.carries_writeTo (artifact : Artifact) {name file : String} (isName : IsName name)
    (isFile : IsName file) (isMap : IsName (file ++ ".map")) (embedding : Embedding) :
    Carries (Stands base location folders) (Stands base location [])
      (Stands base location folders) (artifact.writeTo (dir / name / file) embedding) := by
  have named := Path.fileName?_of_endsIn (Path.endsIn_div (dir / name) isFile)
  obtain ⟨parent, above⟩ := Path.exists_parent? named
  have inside : Continues (dir / name).pieces (dir / name / file) :=
    (Continues.refl _).div (vacant.named.div isName) isFile.leadsDown
  have parentContinues := inside.parent?_of_div vacant.named isName above
  have mapContinues := parentContinues.div vacant.named isMap.leadsDown
  have continues := inside.of_div vacant.named isName
  unfold writeTo
  simp only [named, above, Option.getD_some]
  have attached : ∀ text, Carries (Stands base location folders) (Stands base location [])
      (Stands base location folders) (do
        FileAction.writeText (dir / name / file) text
        FileAction.query fun tree => ofText tree (dir / name / file) text) :=
    fun text => .bind (carries_writeText vacant continues text) fun _ =>
      carries_query (fun _ => Stands.bare) _
  cases embedding with
  | linked =>
    exact .bind (carries_writeText vacant mapContinues _) fun _ => .bind (.pure _) fun _ =>
      attached _
  | inlineBase64 => exact .bind (.pure _) fun _ => attached _
  | inlinePercent => exact .bind (.pure _) fun _ => attached _

/-- Writing the input of a later build makes its directory. -/
theorem Verify.carries_writeChainInput (flags : BuildFlags) {chain : ChainSetup}
    (extra : LeadsDown chain.extra.name) (artifact : Artifact) {name : String}
    (isName : IsName name) (embedding : Embedding) (order : ChainOrder) :
    Carries (Stands base location []) (Stands base location []) (Stands base location [dir / name])
      (writeChainInput flags chain artifact (dir / name) embedding order) := by
  have continues : Continues dir.pieces (dir / name) :=
    (Continues.refl dir).div vacant.named isName.leadsDown
  have inputName : IsName "input.js" := by decide
  have mapName : IsName "input.js.map" := by decide
  have entryName : IsName "entry.js" := by decide
  unfold writeChainInput
  refine .bind (carries_createAll vacant continues) fun _ => ?_
  refine .bind (artifact.carries_writeTo vacant isName inputName mapName embedding) fun input => ?_
  refine .bind (carries_writeText vacant (continues.div vacant.named extra) _) fun _ => ?_
  split
  · exact .bind (carries_writeText vacant (continues.div vacant.named entryName.leadsDown) _)
      fun _ => .pure _
  · exact .pure _

end Files

/-- What holds of the files of a run. -/
def RunState.Has {σ : Type} (holds : FileTree → Prop) (state : RunState σ) : Prop :=
  holds state.files

namespace Carries

variable {σ α : Type} {before always after : FileTree → Prop}

theorem onFiles {action : FileAction α} (carries : Carries before always after action) :
    Carries (RunState.Has before) (RunState.Has always) (RunState.Has after)
      (Verifying.onFiles action : Verifying σ α) := by
  constructor
  · intro start value finish holds ends
    obtain ⟨result, rfl⟩ := Prod.mk.inj ends
    exact carries.ends start.files value _ holds (Prod.ext result rfl)
  · intro start cause finish holds ends
    obtain ⟨result, rfl⟩ := Prod.mk.inj ends
    exact carries.fails start.files cause _ holds (Prod.ext result rfl)

theorem note (context : String) (failures : List Failure) :
    Carries (RunState.Has before) (RunState.Has always) (RunState.Has before)
      (Verifying.note context failures : Verifying σ Unit) := by
  constructor
  · rintro start _ finish holds ⟨⟩
    exact holds
  · rintro start _ finish holds ⟨⟩

theorem files : Carries (RunState.Has before) (RunState.Has always) (RunState.Has before)
    (Verifying.files : Verifying σ FileTree) := by
  constructor
  · rintro start _ finish holds ⟨⟩
    exact holds
  · rintro start _ finish holds ⟨⟩

theorem ofExcept (weaker : ∀ tree, before tree → always tree) (result : Except Error α) :
    Carries (RunState.Has before) (RunState.Has always) (RunState.Has before)
      (Verifying.ofExcept result : Verifying σ α) := by
  constructor
  · intro start value finish holds ends
    obtain ⟨-, rfl⟩ := Prod.mk.inj ends
    exact holds
  · intro start cause finish holds ends
    obtain ⟨-, rfl⟩ := Prod.mk.inj ends
    exact weaker start.files holds

end Carries

namespace Verify

variable {σ : Type} {tool : BuildTool σ} {fixture : Fixture} {flags : BuildFlags} {base : FileTree}
  {dir : Path} {location : Location}

/-- A step that keeps the directory of the run standing and everything outside of it as it was,
whether it ends or fails. -/
abbrev Remains {α : Type} (base : FileTree) (location : Location) (step : Verifying σ α) : Prop :=
  Carries (RunState.Has (Stands base location [])) (RunState.Has (Stands base location []))
    (RunState.Has (Stands base location [])) step

/-- A build into a directory below that of the run. -/
theorem carries_build (confined : tool.Confined) {request : BuildRequest} {folders : List Path}
    (leads : ∀ tree, Stands base location folders tree → ∃ goal,
      tree.locate request.outDir = .ok goal ∧ location <+: goal ∧ goal ≠ location) :
    Carries (RunState.Has (Stands base location folders)) (RunState.Has (Stands base location []))
      (RunState.Has (Stands base location [])) (Verifying.build tool request) := by
  have built : ∀ start : RunState σ, RunState.Has (Stands base location folders) start →
      Stands base location [] ((tool.build request).run.run (start.tool, start.files)).2.2 := by
    intro start stands
    obtain ⟨goal, found, below, apart⟩ := leads start.files stands
    have frame := confined request start.tool start.files goal found
    have opened := stands.opened
    refine ⟨⟨⟨frame.current.trans opened.current, fun other outside => ?_⟩, ?_⟩, by simp⟩
    · rw [frame.outside other fun above => outside (below.trans above),
        opened.outside other outside]
    · have outside : ¬ goal <+: location := fun above =>
        apart (below.eq_of_length (Nat.le_antisymm below.length_le above.length_le)).symm
      rw [frame.outside location outside, opened.directory]
  constructor
  · intro start value finish stands ends
    obtain ⟨-, rfl⟩ := Prod.mk.inj ends
    exact built start stands
  · intro start cause finish stands ends
    obtain ⟨-, rfl⟩ := Prod.mk.inj ends
    exact built start stands

/-- Checks change no files. -/
theorem carries_checkPrimary (dir : Path) (written : WrittenFixture) (artifact : Artifact)
    {before always : FileTree → Prop} :
    Carries (σ := RunState σ) (RunState.Has before) (RunState.Has always) (RunState.Has before)
      (checkPrimary fixture flags dir written artifact) := by
  unfold checkPrimary
  dsimp only
  have later : ∀ (code : String) (index : Index) (hits : List MarkerHit) (doc : Document)
      (context : String), Carries (σ := RunState σ) (RunState.Has before) (RunState.Has always)
        (RunState.Has before) (do
          Verifying.note context (Check.names code index fixture written)
          let tree ← Verifying.files
          Verifying.note context (Check.contents tree doc written ContentStore.empty).1
          return hits) := fun code index hits doc context =>
    .bind (.note _ _) fun _ => .bind .files fun _ => .bind (.note _ _) fun _ => .pure _
  refine .bind (.note _ _) fun _ => .bind (.note _ _) fun _ => ?_
  split
  · exact .bind (.note _ _) fun _ => later _ _ _ _ _
  · exact later _ _ _ _ _

theorem carries_checkSecondary (written : WrittenFixture) (tracked : TrackedArtifacts)
    (root : Path) (embedding : Embedding) (secondary : Artifact) {before always : FileTree → Prop}
    (weaker : ∀ tree, before tree → always tree) :
    Carries (σ := RunState σ) (RunState.Has before) (RunState.Has always) (RunState.Has before)
      (checkSecondary fixture written tracked root embedding secondary) := by
  unfold checkSecondary
  exact .bind .files fun _ => .bind (.ofExcept weaker _) fun _ => .bind (.note _ _) fun _ =>
    .bind (.note _ _) fun _ => .bind (.note _ _) fun _ => .bind (.note _ _) fun _ =>
    .bind (.note _ _) fun _ => .pure _

variable (vacant : Vacant base dir location)

include vacant

/-- Building an artifact once more in a directory of the run. -/
theorem carries_verifyChain (confined : tool.Confined) {chain : ChainSetup}
    (extra : LeadsDown chain.extra.name) (artifact : Artifact) (hits : List MarkerHit)
    (written : WrittenFixture) {name : String} (isName : IsName name) (embedding : Embedding)
    (order : ChainOrder) :
    Remains base location (verifyChain tool fixture flags chain artifact hits written (dir / name)
      embedding order) := by
  have outName : IsName "out" := by decide
  unfold verifyChain
  refine .bind (.onFiles (carries_writeChainInput vacant flags extra artifact isName embedding
    order)) fun given => ?_
  refine .bind (carries_build confined ?_) fun artifacts => ?_
  · intro tree stands
    have leads := stands.opened.locate_div vacant isName
    obtain ⟨folder, found, directory⟩ :=
      FileTree.isDirectory_iff.mp (stands.folders (dir / name) List.mem_cons_self)
    obtain rfl : location ++ [name] = folder := Except.ok.inj (leads.symm.trans found)
    refine ⟨_, FileTree.locate_div_name leads directory outName, ?_, ?_⟩
    · exact (List.prefix_append location [name]).trans (List.prefix_append _ ["out"])
    · simp
  · refine .bind (.mapM fun secondary _ => ?_) fun found => .note _ _
    exact carries_checkSecondary written _ _ embedding secondary fun _ => id

omit vacant in
/-- The directory of a later build has a name. -/
theorem isName_chain (index : Nat) (embedding : Embedding) (order : ChainOrder) :
    IsName s!"chain-{index}-{embedding.text}-{order.text}" := by
  change IsName ("chain-" ++ toString index ++ "-" ++ embedding.text ++ "-" ++ order.text)
  refine Path.isName_of_head (by simp) (by simp) ?_
  have digits := Path.noSlash_digits index
  have ways : '/' ∉ embedding.text.toList := by cases embedding <;> decide
  have orders : '/' ∉ order.text.toList := by cases order <;> decide
  simp [digits, ways, orders]

theorem carries_verifyChains (confined : tool.Confined) {chain : ChainSetup}
    (extra : LeadsDown chain.extra.name) (written : WrittenFixture)
    (artifacts : List (Artifact × List MarkerHit)) :
    Remains base location (verifyChains tool fixture flags chain dir written artifacts) :=
  .forM fun ((artifact, hits), index) _ => .forM fun embedding _ => .forM fun order _ =>
    carries_verifyChain vacant confined extra artifact hits written
      (isName_chain index embedding order) embedding order

/-- A whole run changes files in its directory only. -/
theorem carries_verify (confined : tool.Confined) (leads : fixture.LeadsDown) :
    Remains base location (verify tool fixture flags dir) := by
  have inName : IsName "in" := by decide
  have outName : IsName "out" := by decide
  have checked : ∀ (written : WrittenFixture) (artifacts : List Artifact),
      Remains base location (artifacts.mapM (checkPrimary (σ := σ) fixture flags dir written)) :=
    fun written artifacts => .mapM fun artifact _ => carries_checkPrimary dir written artifact
  unfold verify
  dsimp only
  refine .bind (.onFiles (Fixture.carries_writeTo vacant leads inName _)) fun written => ?_
  refine .bind (carries_build confined ?_) fun artifacts => ?_
  · intro tree stands
    have found := stands.opened.locate_div vacant outName
    exact ⟨_, found, List.prefix_append location ["out"], by simp⟩
  · refine .ite (.throw_bind (fun _ => id) _) ?_
    refine .bind (checked written artifacts) fun hits => .bind (.note _ _) fun _ => ?_
    split
    · exact .pure ()
    · next chain asked =>
      exact .ite (carries_verifyChains vacant confined (leads.extra chain asked) written _)
        (.pure ())

end Verify

end SourceTrace
