import SourceTrace.Proofs.FileTree.Writing
import SourceTrace.Proofs.Path.Below

/-!
# Making directories

A directory that is asked for is made with all that is missing above it. Nothing else changes: what
is new is directories, and every one of them lies on the way along the path that was asked for.
-/
namespace SourceTrace.FileTree

open SourceTrace.Path (IsName isMute)

variable {tree after : FileTree} {path : Path} {location goal : Location}

/-- A walk goes on from where its first part ends. -/
theorem walk_append_of_ok {start middle : Location} {front : List String}
    (leads : tree.walk start front = .ok middle) (rest : List String) :
    tree.walk start (front ++ rest) = tree.walk middle rest := by
  induction front generalizing start with
  | nil =>
    cases leads
    rfl
  | cons piece front ih =>
    obtain ⟨directory, further⟩ := walk_cons_eq_ok.mp leads
    rw [List.cons_append, walk_cons directory, ih further]

theorem exists_of_walk_append {start : Location} {front rest : List String}
    (leads : tree.walk start (front ++ rest) = .ok goal) :
    ∃ middle, tree.walk start front = .ok middle ∧ tree.walk middle rest = .ok goal := by
  induction front generalizing start with
  | nil => exact ⟨start, rfl, leads⟩
  | cons piece front ih =>
    obtain ⟨directory, further⟩ := walk_cons_eq_ok.mp leads
    obtain ⟨middle, first, second⟩ := ih further
    exact ⟨middle, (walk_cons directory piece front).trans first, second⟩

/-- A walk that never goes up stays below its start. -/
theorem prefix_of_walk {start : Location} {pieces : List String} (down : ".." ∉ pieces)
    (leads : tree.walk start pieces = .ok goal) : start <+: goal := by
  induction pieces generalizing start with
  | nil =>
    cases leads
    exact List.prefix_rfl
  | cons piece rest ih =>
    obtain ⟨-, further⟩ := walk_cons_eq_ok.mp leads
    have below := ih (fun member => down (List.mem_cons_of_mem piece member)) further
    have notUp : piece ≠ ".." := by
      rintro rfl
      exact down List.mem_cons_self
    simp only [step, beq_iff_eq, notUp, ↓reduceIte] at below
    split at below
    · exact below
    · exact (List.prefix_append start [piece]).trans below

/-- A relative text that is put onto a path is looked up from where the path leads. -/
theorem locate_div (leads : tree.locate path = .ok location) {next : String}
    (relative : (Path.mk next).isAbsolute = false) :
    tree.locate (path / next) = tree.walk location (Path.mk next).pieces := by
  obtain ⟨filled, walks⟩ := exists_of_locate leads
  obtain ⟨kept, stillFilled⟩ := Path.isAbsolute_div filled relative
  rw [locate_eq_walk stillFilled, start, kept, ← start]
  rcases Path.pieces_div_cases filled relative with joined | ⟨above, ends, joined⟩
  · rw [joined, walk_append_of_ok walks]
  · rw [ends] at walks
    obtain ⟨middle, first, last⟩ := exists_of_walk_append walks
    rw [joined, walk_append_of_ok first, walk_mute (by decide) last]

/-- A name put onto the path of a directory. -/
theorem locate_div_name (leads : tree.locate path = .ok location)
    (directory : tree.node? location = some .directory) {name : String} (isName : IsName name) :
    tree.locate (path / name) = .ok (location ++ [name]) := by
  rw [locate_div leads isName.leadsDown.relative, Path.pieces_of_isMove isName.toIsMove,
    walk_cons directory, step_of_isName isName]
  rfl

/-- What is missing is neither the current directory nor above it. -/
theorem not_prefix_of_missing (missing : tree.node? location = none) :
    ¬ location <+: tree.current :=
  not_prefix_of_free (by simp [missing])

theorem ne_nil_of_missing (missing : tree.node? location = none) : location ≠ [] := by
  rintro rfl
  exact not_prefix_of_missing missing List.nil_prefix

theorem find_eq_ok_iff {node : Node} : tree.find path = .ok node ↔
    ∃ location, tree.locate path = .ok location ∧ tree.node? location = some node := by
  unfold find
  cases leads : tree.locate path with
  | error cause => simp [bind, Except.bind]
  | ok location =>
    simp only [bind, Except.bind, Except.ok.injEq, exists_eq_left']
    cases here : tree.node? location with
    | none => simp
    | some found => simp

theorem isDirectory_iff : tree.isDirectory path = true ↔
    ∃ location, tree.locate path = .ok location ∧ tree.node? location = some .directory := by
  rw [← find_eq_ok_iff]
  unfold isDirectory
  split
  · next found => simp [found]
  · next other => simpa using other

/-- Pieces that say nothing can be followed in a directory. -/
theorem walk_of_mute (directory : tree.node? location = some .directory) {pieces : List String}
    (mute : ∀ piece ∈ pieces, isMute piece = true) : tree.walk location pieces = .ok location := by
  induction pieces with
  | nil => rfl
  | cons piece rest ih =>
    rw [walk_cons directory, step_of_mute (mute piece List.mem_cons_self)]
    exact ih fun other member => mute other (List.mem_cons_of_mem piece member)

theorem isMute_of_mem_replicate {count : Nat} (piece : String)
    (member : piece ∈ List.replicate count "") : isMute piece = true := by
  rw [List.eq_of_mem_replicate member]
  rfl

theorem start_withoutEndSlashes (filled : path.text ≠ "") :
    tree.start (withoutEndSlashes path) = tree.start path := by
  rw [start, start, Path.isAbsolute_withoutEndSlashes filled]

/-- Slashes at the end of a path ask for a directory and say nothing else. -/
theorem locate_of_withoutEndSlashes
    (leads : tree.locate (withoutEndSlashes path) = .ok location)
    (directory : tree.node? location = some .directory) : tree.locate path = .ok location := by
  obtain ⟨keptFilled, walks⟩ := exists_of_locate leads
  have filled : path.text ≠ "" := fun empty => keptFilled (by simp [withoutEndSlashes, empty,
    Path.isAbsolute])
  obtain ⟨count, pieces⟩ := Path.exists_pieces_withoutEndSlashes path
  rw [start_withoutEndSlashes filled] at walks
  rw [locate_eq_walk filled, pieces, walk_append_of_ok walks]
  exact walk_of_mute directory isMute_of_mem_replicate

theorem locate_withoutEndSlashes (leads : tree.locate path = .ok location) :
    tree.locate (withoutEndSlashes path) = .ok location := by
  obtain ⟨filled, walks⟩ := exists_of_locate leads
  obtain ⟨count, pieces⟩ := Path.exists_pieces_withoutEndSlashes path
  rw [pieces] at walks
  obtain ⟨middle, first, last⟩ := exists_of_walk_append walks
  rw [locate_eq_walk (Path.withoutEndSlashes_ne filled), start_withoutEndSlashes filled, first,
    walk_mute isMute_of_mem_replicate last]

/-- What creating a directory does when it succeeds. -/
theorem exists_of_createDirectory (created : tree.createDirectory path = .ok after) :
    ∃ location, tree.locate (withoutEndSlashes path) = .ok location ∧
      tree.node? location = none ∧ after = tree.put location .directory := by
  obtain ⟨location, leads, created⟩ := exists_of_bind_eq_ok created
  cases here : tree.node? location with
  | some node =>
    simp only [here] at created
    cases created
  | none =>
    simp only [here, Except.ok.injEq] at created
    exact ⟨location, leads, here, created.symm⟩

theorem createDirectory_of_taken {node : Node}
    (leads : tree.locate (withoutEndSlashes path) = .ok location)
    (taken : tree.node? location = some node) :
    tree.createDirectory path = .error .alreadyExists := by
  simp only [createDirectory, leads, bind, Except.bind, taken]

theorem createDirectory_of_missing
    (leads : tree.locate (withoutEndSlashes path) = .ok location)
    (missing : tree.node? location = none) :
    tree.createDirectory path = .ok (tree.put location .directory) := by
  simp only [createDirectory, leads, bind, Except.bind, missing]

/-- A directory that is made, or there already. -/
def Makes (tree : FileTree) (path : Path) (after : FileTree) : Prop :=
  tree.createDirectory path = .ok after ∨ after = tree ∧ tree.isDirectory path = true

/-- What making a directory with all above it does when it succeeds: the directory is made at once,
or its parent is made before. -/
theorem createAllFrom_cases {fuel : Nat} (filled : path.text ≠ "")
    (created : tree.createAllFrom (fuel + 1) path = .ok after) :
    Makes tree path after ∨ ∃ parent middle, tree.createDirectory path = .error .notFound ∧
      path.parent? = some parent ∧ tree.createAllFrom fuel parent = .ok middle ∧
      Makes middle path after := by
  have named : (path.text == "") = false := beq_eq_false_iff_ne.mpr filled
  simp only [createAllFrom, named, Bool.false_eq_true, ↓reduceIte] at created
  split at created
  · next made =>
    cases created
    exact .inl (.inl made)
  · next missing =>
    cases above : path.parent? with
    | none =>
      simp only [above] at created
      cases created
    | some parent =>
      simp only [above] at created
      obtain ⟨middle, makes, created⟩ := exists_of_bind_eq_ok created
      refine .inr ⟨parent, middle, missing, rfl, makes, ?_⟩
      split at created
      · next made =>
        cases created
        exact .inl made
      · split at created
        · next there =>
          cases created
          exact .inr ⟨rfl, there⟩
        · cases created
  · split at created
    · next there =>
      cases created
      exact .inl (.inr ⟨rfl, there⟩)
    · cases created

/-- A tree with nothing but new directories. -/
structure AddsDirectories (tree after : FileTree) : Prop where
  current : after.current = tree.current
  nodes : ∀ other, after.node? other = tree.node? other ∨
    tree.node? other = none ∧ after.node? other = some .directory

namespace AddsDirectories

theorem refl (tree : FileTree) : AddsDirectories tree tree := ⟨rfl, fun _ => .inl rfl⟩

theorem trans {middle : FileTree} (first : AddsDirectories tree middle)
    (second : AddsDirectories middle after) : AddsDirectories tree after := by
  refine ⟨second.current.trans first.current, fun other => ?_⟩
  rcases second.nodes other with same | ⟨missing, new⟩
  · rw [same]
    exact first.nodes other
  · rcases first.nodes other with kept | ⟨missingToo, made⟩
    · exact .inr ⟨kept ▸ missing, new⟩
    · rw [missing] at made
      cases made

theorem directory (adds : AddsDirectories tree after)
    (there : tree.node? location = some .directory) : after.node? location = some .directory := by
  rcases adds.nodes location with same | ⟨missing, -⟩
  · exact same.trans there
  · rw [missing] at there
    cases there

theorem locate (adds : AddsDirectories tree after) (leads : tree.locate path = .ok goal) :
    after.locate path = .ok goal :=
  locate_of_directories adds.current (fun _ => adds.directory) leads

theorem of_makes (makes : Makes tree path after) : AddsDirectories tree after := by
  rcases makes with created | ⟨rfl, -⟩
  · obtain ⟨location, -, missing, rfl⟩ := exists_of_createDirectory created
    refine ⟨rfl, fun other => ?_⟩
    rw [node?_put (not_prefix_of_missing missing)]
    split
    · next same => exact .inr ⟨same ▸ missing, rfl⟩
    · exact .inl rfl
  · exact .refl _

theorem of_createAllFrom {fuel : Nat} (created : tree.createAllFrom fuel path = .ok after) :
    AddsDirectories tree after := by
  induction fuel generalizing path after with
  | zero => cases created
  | succ fuel ih =>
    by_cases empty : path.text = ""
    · simp only [createAllFrom, empty, beq_self_eq_true, ↓reduceIte, Except.ok.injEq] at created
      exact created ▸ .refl tree
    · rcases createAllFrom_cases empty created with
        makes | ⟨parent, middle, -, -, before, makes⟩
      · exact .of_makes makes
      · exact (ih before).trans (.of_makes makes)

end AddsDirectories

theorem isDirectory_of_makes (makes : Makes tree path after) : after.isDirectory path = true := by
  rcases makes with created | ⟨rfl, there⟩
  · have adds := AddsDirectories.of_makes (.inl created)
    obtain ⟨location, leads, missing, rfl⟩ := exists_of_createDirectory created
    have directory : (tree.put location .directory).node? location = some .directory := by
      rw [node?_put (not_prefix_of_missing missing), if_pos rfl]
    have leadsNow := locate_of_withoutEndSlashes (adds.locate leads) directory
    exact isDirectory_iff.mpr ⟨location, leadsNow, directory⟩
  · exact there

/-- What was made is there. The empty path, which is nowhere, asks for nothing. -/
theorem isDirectory_of_createAll (filled : path.text ≠ "")
    (created : tree.createAll path = .ok after) : after.isDirectory path = true := by
  rcases createAllFrom_cases filled created with makes | ⟨_, _, _, _, _, makes⟩
  · exact isDirectory_of_makes makes
  · exact isDirectory_of_makes makes

theorem createAll_of_isDirectory (there : tree.isDirectory path = true) :
    tree.createAll path = .ok tree := by
  obtain ⟨location, leads, directory⟩ := isDirectory_iff.mp there
  obtain ⟨filled, -⟩ := exists_of_locate leads
  have named : (path.text == "") = false := beq_eq_false_iff_ne.mpr filled
  have taken := createDirectory_of_taken (locate_withoutEndSlashes leads) directory
  simp only [createAll, createAllFrom, named, taken, there, Bool.false_eq_true, ↓reduceIte]

/-- The walk along a path comes by a location. -/
def OnTheWay (tree : FileTree) (path : Path) (location : Location) : Prop :=
  ∃ front, front <+: path.pieces ∧ tree.walk (tree.start path) front = .ok location

namespace OnTheWay

theorem adds (way : tree.OnTheWay path location) (adds : AddsDirectories tree after) :
    after.OnTheWay path location := by
  obtain ⟨front, first, walks⟩ := way
  refine ⟨front, first, ?_⟩
  rw [start_eq adds.current]
  exact walk_of_directories (fun _ => adds.directory) walks

/-- The way to where a path leads. -/
theorem of_locate (leads : tree.locate (withoutEndSlashes path) = .ok location)
    (filled : path.text ≠ "") : tree.OnTheWay path location := by
  obtain ⟨-, walks⟩ := exists_of_locate leads
  obtain ⟨count, pieces⟩ := Path.exists_pieces_withoutEndSlashes path
  rw [start_withoutEndSlashes filled] at walks
  exact ⟨_, pieces ▸ List.prefix_append _ _, walks⟩

/-- The way to the parent is the first part of the way. -/
theorem of_parent? {parent : Path} (above : path.parent? = some parent)
    (way : tree.OnTheWay parent location) : tree.OnTheWay path location := by
  obtain ⟨front, first, walks⟩ := way
  obtain ⟨same, further | silent⟩ := Path.pieces_parent? above
  · rw [start, same, ← start] at walks
    exact ⟨front, first.trans further, walks⟩
  · rw [start, same, ← start] at walks
    have mute := walk_mute (fun piece member => silent piece (first.subset member)) walks
    exact ⟨[], List.nil_prefix, by rw [mute, walk]⟩

/-- A path without two dots leads down all the way. -/
theorem above (down : ".." ∉ path.pieces) (leads : tree.locate path = .ok goal)
    (way : tree.OnTheWay path location) : location <+: goal := by
  obtain ⟨front, ⟨rest, pieces⟩, walks⟩ := way
  obtain ⟨-, whole⟩ := exists_of_locate leads
  rw [← pieces, walk_append_of_ok walks] at whole
  exact prefix_of_walk (fun member => down (pieces ▸ List.mem_append_right _ member)) whole

end OnTheWay

/-- A directory that is new once a single one was made. -/
theorem onTheWay_of_makes (filled : path.text ≠ "") (makes : Makes tree path after)
    (missing : tree.node? location = none) (there : after.node? location ≠ none) :
    after.OnTheWay path location := by
  rcases makes with created | ⟨rfl, -⟩
  · have adds := AddsDirectories.of_makes (.inl created)
    obtain ⟨made, leads, free, rfl⟩ := exists_of_createDirectory created
    rw [node?_put (not_prefix_of_missing free)] at there
    split at there
    · next same =>
      subst same
      exact .of_locate (adds.locate leads) filled
    · exact absurd missing there
  · exact absurd missing there

/-- Every new directory is on the way. -/
theorem onTheWay_of_createAllFrom {fuel : Nat} (created : tree.createAllFrom fuel path = .ok after)
    (missing : tree.node? location = none) (there : after.node? location ≠ none) :
    after.OnTheWay path location := by
  induction fuel generalizing path after with
  | zero => cases created
  | succ fuel ih =>
    by_cases empty : path.text = ""
    · simp only [createAllFrom, empty, beq_self_eq_true, ↓reduceIte, Except.ok.injEq] at created
      exact absurd (created ▸ missing) there
    · rcases createAllFrom_cases empty created with
        makes | ⟨parent, middle, -, above, before, makes⟩
      · exact onTheWay_of_makes empty makes missing there
      · cases between : middle.node? location with
        | none => exact onTheWay_of_makes empty makes between there
        | some node =>
          have way : middle.OnTheWay parent location := ih before (by simp [between])
          exact (way.of_parent? above).adds (.of_makes makes)

end SourceTrace.FileTree
