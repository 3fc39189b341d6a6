import SourceTrace.FileTree
import SourceTrace.Proofs.Mappings.Range
import SourceTrace.Proofs.Path.Parent

/-!
# What is written is read back

A file that was written is read back under the same path, also after other files were written: a
write only ever changes the node at one location, which is no directory before or after, so every
path that led somewhere still leads there.
-/
namespace SourceTrace.FileTree

variable {tree after : FileTree} {path : Path} {bytes : List UInt8}

theorem lookup_putEntry (location other : Location) (node : Node)
    (entries : List (Location × Node)) :
    List.lookup other (putEntry location node entries) =
      if other = location then some node else List.lookup other entries := by
  induction entries with
  | nil =>
    by_cases same : other = location
    · simp [putEntry, same]
    · have differs : (other == location) = false := beq_eq_false_iff_ne.mpr same
      simp [putEntry, List.lookup_cons, differs, same]
  | cons entry rest ih =>
    obtain ⟨known, old⟩ := entry
    unfold putEntry
    split
    · next here =>
      subst here
      by_cases same : other = known
      · simp [same]
      · have differs : (other == known) = false := beq_eq_false_iff_ne.mpr same
        simp [List.lookup_cons, differs, same]
    · next elsewhere =>
      by_cases same : other = known
      · simp [same, elsewhere]
      · have differs : (other == known) = false := beq_eq_false_iff_ne.mpr same
        rw [List.lookup_cons, differs, List.lookup_cons, differs]
        exact ih

@[simp]
theorem current_put (tree : FileTree) (location : Location) (node : Node) :
    (tree.put location node).current = tree.current := rfl

/-- The current directory and those above it are always there. -/
theorem node?_of_above {location : Location} (above : location <+: tree.current) :
    tree.node? location = some .directory := by
  rw [node?, if_pos (List.isPrefixOf_iff_prefix.mpr above)]

theorem node?_eq_lookup {location : Location} (outside : ¬ location <+: tree.current) :
    tree.node? location = List.lookup location tree.entries := by
  rw [node?, if_neg (fun above => outside (List.isPrefixOf_iff_prefix.mp above))]

theorem not_prefix_of_free {location : Location} (free : tree.node? location ≠ some .directory) :
    ¬ location <+: tree.current := fun above => free (node?_of_above above)

/-- The node at a location after another node was put somewhere. -/
theorem node?_put {location other : Location} (outside : ¬ location <+: tree.current)
    (node : Node) : (tree.put location node).node? other =
      if other = location then some node else tree.node? other := by
  by_cases above : other <+: tree.current
  · have apart : other ≠ location := fun same => outside (same ▸ above)
    have aboveToo : other <+: (tree.put location node).current := above
    rw [node?_of_above aboveToo, if_neg apart, node?_of_above above]
  · have belowToo : ¬ other <+: (tree.put location node).current := above
    rw [node?_eq_lookup belowToo, node?_eq_lookup above]
    exact lookup_putEntry location other node tree.entries

theorem expectDirectory_eq_ok {location : Location} :
    tree.expectDirectory location = .ok () ↔ tree.node? location = some .directory := by
  unfold expectDirectory
  split <;> simp_all

/-- Directories stay where they are when something is put where there is none. -/
theorem directory_put {location other : Location} {node : Node}
    (free : tree.node? location ≠ some .directory)
    (directory : tree.node? other = some .directory) :
    (tree.put location node).node? other = some .directory := by
  have apart : other ≠ location := fun same => free (same ▸ directory)
  rw [node?_put (not_prefix_of_free free), if_neg apart, directory]

theorem step_of_mute {piece : String} (mute : Path.isMute piece = true) (location : Location) :
    step location piece = location := if_pos mute

theorem step_of_isName {name : String} (isName : Path.IsName name) (location : Location) :
    step location name = location ++ [name] := by
  simp [step, isName.ne_empty, isName.ne_dot, isName.ne_up]

/-- One step of a walk in a directory. -/
theorem walk_cons {location : Location} (directory : tree.node? location = some .directory)
    (piece : String) (rest : List String) :
    tree.walk location (piece :: rest) = tree.walk (step location piece) rest := by
  rw [walk, expectDirectory_eq_ok.mpr directory]
  rfl

theorem walk_cons_eq_ok {location goal : Location} {piece : String} {rest : List String} :
    tree.walk location (piece :: rest) = .ok goal ↔
      tree.node? location = some .directory ∧ tree.walk (step location piece) rest = .ok goal := by
  rw [← expectDirectory_eq_ok, walk]
  cases tree.expectDirectory location with
  | error cause => simp [bind, Except.bind]
  | ok value => simp [bind, Except.bind]

/-- Walks are kept by what keeps directories. -/
theorem walk_of_directories
    (kept : ∀ location, tree.node? location = some .directory →
      after.node? location = some .directory)
    {start goal : Location} {pieces : List String} (leads : tree.walk start pieces = .ok goal) :
    after.walk start pieces = .ok goal := by
  induction pieces generalizing start with
  | nil => exact leads
  | cons piece rest ih =>
    obtain ⟨directory, further⟩ := walk_cons_eq_ok.mp leads
    exact walk_cons_eq_ok.mpr ⟨kept start directory, ih further⟩

theorem locate_eq_walk (filled : path.text ≠ "") :
    tree.locate path = tree.walk (tree.start path) path.pieces := by
  rw [locate, if_neg (by simpa using filled)]

theorem exists_of_locate {location : Location} (leads : tree.locate path = .ok location) :
    path.text ≠ "" ∧ tree.walk (tree.start path) path.pieces = .ok location := by
  unfold locate at leads
  split at leads
  · cases leads
  · next filled => exact ⟨by simpa using filled, leads⟩

theorem start_eq (same : after.current = tree.current) (path : Path) :
    after.start path = tree.start path := by
  rw [start, start, same]

theorem locate_of_directories (same : after.current = tree.current)
    (kept : ∀ location, tree.node? location = some .directory →
      after.node? location = some .directory)
    {goal : Location} (leads : tree.locate path = .ok goal) : after.locate path = .ok goal := by
  obtain ⟨filled, walks⟩ := exists_of_locate leads
  rw [locate_eq_walk filled, start_eq same]
  exact walk_of_directories kept walks

/-- A path that leads somewhere still does when a file is put where no directory is. -/
theorem locate_put {location : Location} (free : tree.node? location ≠ some .directory)
    {goal : Location} (leads : tree.locate path = .ok goal) :
    (tree.put location (.file bytes)).locate path = .ok goal := by
  have same := tree.current_put location (.file bytes)
  exact locate_of_directories same (fun other => directory_put free) leads

/-- What a write does when it succeeds. -/
theorem exists_of_write (written : tree.write path bytes = .ok after) :
    ∃ location, tree.locate path = .ok location ∧ tree.node? location ≠ some .directory ∧
      after = tree.put location (.file bytes) := by
  obtain ⟨location, found, written⟩ := exists_of_bind_eq_ok written
  cases here : tree.node? location with
  | none =>
    simp only [here] at written
    split at written
    · next same =>
      cases written
      exact ⟨location, same ▸ found, by simp [here], rfl⟩
    · cases written
  | some node =>
    cases node with
    | directory =>
      simp only [here] at written
      cases written
    | file old =>
      simp only [here] at written
      split at written
      · next same =>
        cases written
        exact ⟨location, same ▸ found, by simp [here], rfl⟩
      · cases written

theorem read_eq_ok {location : Location} (leads : tree.locate path = .ok location)
    (holds : tree.node? location = some (.file bytes)) : tree.read path = .ok bytes := by
  simp only [read, find, leads, bind, Except.bind, holds]

/-- A file that was written is read back. -/
theorem read_of_write (written : tree.write path bytes = .ok after) :
    after.read path = .ok bytes := by
  obtain ⟨location, leads, free, rfl⟩ := exists_of_write written
  refine read_eq_ok (locate_put free leads) ?_
  rw [node?_put (not_prefix_of_free free), if_pos rfl]

theorem readText_of_writeText {text : String} (written : tree.writeText path text = .ok after) :
    after.readText path = .ok text := by
  simp only [readText, read_of_write written, bind, Except.bind, Text.Utf8.decode?_bytes]

theorem walk_append {start goal : Location} {front rest : List String}
    (leads : tree.walk start (front ++ rest) = .ok goal) :
    ∃ middle, tree.walk middle rest = .ok goal := by
  induction front generalizing start with
  | nil => exact ⟨start, leads⟩
  | cons piece front ih =>
    exact ih (walk_cons_eq_ok.mp leads).2

/-- Pieces that say nothing lead nowhere else. -/
theorem walk_mute {start goal : Location} {pieces : List String}
    (mute : ∀ piece ∈ pieces, Path.isMute piece = true)
    (leads : tree.walk start pieces = .ok goal) : goal = start := by
  induction pieces with
  | nil =>
    cases leads
    rfl
  | cons piece rest ih =>
    obtain ⟨-, further⟩ := walk_cons_eq_ok.mp leads
    rw [step_of_mute (mute piece List.mem_cons_self)] at further
    exact ih (fun other member => mute other (List.mem_cons_of_mem piece member)) further

/-- A path that ends with a name leads to a location of that name. -/
theorem getLast?_of_locate {name : String} {goal : Location} (ends : path.EndsIn name)
    (leads : tree.locate path = .ok goal) : goal.getLast? = some name := by
  obtain ⟨isName, front, mute, pieces, mutes⟩ := ends
  obtain ⟨-, walks⟩ := exists_of_locate leads
  rw [pieces] at walks
  obtain ⟨middle, further⟩ := walk_append walks
  obtain ⟨-, further⟩ := walk_cons_eq_ok.mp further
  rw [walk_mute mutes further, step_of_isName isName, List.getLast?_concat]

/-- A file is still read back after a file of another name was written. -/
theorem read_of_write_of_write {middle : FileTree} {other : Path} {more : List UInt8}
    {name otherName : String} (first : tree.write path bytes = .ok middle)
    (second : middle.write other more = .ok after) (ends : path.EndsIn name)
    (otherEnds : other.EndsIn otherName) (apart : name ≠ otherName) :
    after.read path = .ok bytes := by
  obtain ⟨location, leads, free, rfl⟩ := exists_of_write first
  obtain ⟨there, otherLeads, otherFree, rfl⟩ := exists_of_write second
  have differ : location ≠ there := by
    rintro rfl
    have last := getLast?_of_locate ends leads
    rw [getLast?_of_locate otherEnds otherLeads] at last
    exact apart (Option.some.inj last).symm
  refine read_eq_ok (locate_put otherFree (locate_put free leads)) ?_
  rw [node?_put (not_prefix_of_free otherFree), if_neg differ, node?_put (not_prefix_of_free free),
    if_pos rfl]

end SourceTrace.FileTree
