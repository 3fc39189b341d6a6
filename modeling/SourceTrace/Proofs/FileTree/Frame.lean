import SourceTrace.Proofs.FileTree.Directories

/-!
# Changes below one directory

A path that goes on from a directory leads below it in every tree in which the directory is where it
was. So whatever is written or created under such paths leaves the rest of the tree as it is, and as
long as the rest stays as it is the directory stays where it was.

A directory that was not there before takes no part in this: no walk can have passed through it.
-/
namespace SourceTrace.FileTree

open SourceTrace.Path (Named Continues LeadsDown IsName isMute)

variable {tree after : FileTree} {path dir : Path} {location goal : Location}

/-- A step leads out of what lies outside of a location to the location itself at most. -/
theorem step_outside {start : Location} {piece : String} (outside : ¬ location <+: start)
    (inside : location <+: step start piece) : step start piece = location := by
  unfold step at inside ⊢
  split
  · next mute =>
    rw [if_pos mute] at inside
    exact absurd inside outside
  · next loud =>
    rw [if_neg loud] at inside
    split
    · next up =>
      rw [if_pos up] at inside
      exact absurd (inside.trans (List.dropLast_prefix start)) outside
    · next down =>
      rw [if_neg down] at inside
      rcases List.prefix_concat_iff.mp inside with same | above
      · exact same.symm
      · exact absurd above outside

/-- A tree that differs from another one at and below a location only. -/
structure Elsewhere (base : FileTree) (location : Location) (tree : FileTree) : Prop where
  current : tree.current = base.current
  outside : ∀ other, ¬ location <+: other → tree.node? other = base.node? other

/-- Walks stay as they are when nothing changes outside of a location that was not there. -/
theorem Elsewhere.walk (elsewhere : Elsewhere tree location after)
    (missing : tree.node? location = none) {start : Location} (outside : ¬ location <+: start)
    {pieces : List String} (leads : tree.walk start pieces = .ok goal) :
    after.walk start pieces = .ok goal := by
  induction pieces generalizing start with
  | nil => exact leads
  | cons piece rest ih =>
    obtain ⟨directory, further⟩ := walk_cons_eq_ok.mp leads
    rw [walk_cons ((elsewhere.outside start outside).trans directory)]
    by_cases inside : location <+: step start piece
    · rw [step_outside outside inside] at further ⊢
      cases rest with
      | nil => exact further
      | cons piece rest =>
        obtain ⟨impossible, -⟩ := walk_cons_eq_ok.mp further
        rw [missing] at impossible
        cases impossible
    · exact ih inside further

/-- No walk starts at or below what is missing. -/
theorem not_prefix_start (missing : tree.node? location = none) (path : Path) :
    ¬ location <+: tree.start path := by
  unfold start
  split
  · exact fun top => ne_nil_of_missing missing (List.prefix_nil.mp top)
  · exact not_prefix_of_missing missing

theorem Elsewhere.locate (elsewhere : Elsewhere tree location after)
    (missing : tree.node? location = none) (leads : tree.locate path = .ok goal) :
    after.locate path = .ok goal := by
  obtain ⟨filled, walks⟩ := exists_of_locate leads
  rw [locate_eq_walk filled, start_eq elsewhere.current]
  exact elsewhere.walk missing (not_prefix_start missing path) walks

/-- A place where a directory can be made: the path leads there, and nothing is there. -/
structure Vacant (base : FileTree) (dir : Path) (location : Location) : Prop where
  named : Named dir.pieces
  leads : base.locate dir = .ok location
  missing : base.node? location = none

/-- A tree that has a directory at a location and differs from another one at and below it only. -/
structure Opened (base : FileTree) (location : Location) (tree : FileTree) : Prop extends
    Elsewhere base location tree where
  directory : tree.node? location = some .directory

section Opened

variable {base : FileTree}

/-- Making a directory. -/
theorem Opened.of_missing (missing : base.node? location = none) :
    Opened base location (base.put location .directory) := by
  have outside := not_prefix_of_missing missing
  refine ⟨⟨rfl, fun other elsewhere => ?_⟩, ?_⟩
  · have apart : other ≠ location := by
      rintro rfl
      exact elsewhere List.prefix_rfl
    rw [node?_put outside, if_neg apart]
  · rw [node?_put outside, if_pos rfl]

/-- A node that is put below the directory, in place of none or of a file. -/
theorem Opened.put (opened : Opened base location tree) (below : location <+: goal)
    (free : tree.node? goal ≠ some .directory) (node : Node) :
    Opened base location (tree.put goal node) := by
  refine ⟨⟨opened.current, fun other elsewhere => ?_⟩, directory_put free opened.directory⟩
  have differ : other ≠ goal := by
    rintro rfl
    exact elsewhere below
  rw [node?_put (not_prefix_of_free free), if_neg differ, opened.outside other elsewhere]

variable (vacant : Vacant base dir location) (opened : Opened base location tree)

include vacant opened

/-- The directory stays where it is. -/
theorem Opened.locate : tree.locate dir = .ok location :=
  opened.toElsewhere.locate vacant.missing vacant.leads

theorem Opened.not_prefix_current : ¬ location <+: tree.current := by
  rw [opened.current]
  exact not_prefix_of_missing vacant.missing

theorem Opened.locate_div {name : String} (isName : IsName name) :
    tree.locate (dir / name) = .ok (location ++ [name]) :=
  locate_div_name (opened.locate vacant) opened.directory isName

/-- What goes on from the directory is looked up from there. -/
theorem Opened.locate_eq {rest : List String} (pieces : path.pieces = dir.pieces ++ rest)
    (down : ".." ∉ rest) : tree.locate path = tree.walk location rest := by
  obtain ⟨-, walks⟩ := exists_of_locate (opened.locate vacant)
  have sameStart : tree.start path = tree.start dir := by
    rw [start, start, Path.Continues.isAbsolute_eq vacant.named ⟨rest, pieces, down⟩]
  rw [locate_eq_walk (vacant.named.text_ne pieces), sameStart, pieces, walk_append_of_ok walks]

/-- A path that goes on from the directory leads below it. -/
theorem Opened.prefix_of_locate (continues : Continues dir.pieces path)
    (leads : tree.locate path = .ok goal) : location <+: goal := by
  obtain ⟨rest, pieces, down⟩ := continues
  rw [opened.locate_eq vacant pieces down] at leads
  exact prefix_of_walk down leads

theorem Opened.write {bytes : List UInt8} (continues : Continues dir.pieces path)
    (written : tree.write path bytes = .ok after) : Opened base location after := by
  obtain ⟨goal, leads, free, rfl⟩ := exists_of_write written
  exact opened.put (opened.prefix_of_locate vacant continues leads) free _

theorem Opened.makes (continues : Continues dir.pieces path) (made : Makes tree path after) :
    Opened base location after := by
  rcases made with created | ⟨rfl, -⟩
  · obtain ⟨goal, leads, missing, rfl⟩ := exists_of_createDirectory created
    have below := opened.prefix_of_locate vacant (continues.withoutEndSlashes vacant.named) leads
    exact opened.put below (by simp [missing]) _
  · exact opened

/-- Only a path that goes further down than the directory can be missing. -/
theorem Opened.exists_loud {rest : List String} (pieces : path.pieces = dir.pieces ++ rest)
    (down : ".." ∉ rest) (missing : tree.createDirectory path = .error .notFound) :
    ∃ piece ∈ rest, isMute piece = false := by
  by_contra silent
  simp only [not_exists, not_and, Bool.not_eq_false] at silent
  have leads : tree.locate path = .ok location := by
    rw [opened.locate_eq vacant pieces down, walk_of_mute opened.directory silent]
  rw [createDirectory_of_taken (locate_withoutEndSlashes leads) opened.directory] at missing
  cases missing

omit opened in
/-- Making directories goes up to the directory at most. -/
theorem Opened.createAllFrom {fuel : Nat} (opened : Opened base location tree)
    (continues : Continues dir.pieces path)
    (created : tree.createAllFrom fuel path = .ok after) : Opened base location after := by
  induction fuel generalizing path after with
  | zero => cases created
  | succ fuel ih =>
    obtain ⟨rest, pieces, down⟩ := continues
    rcases createAllFrom_cases (vacant.named.text_ne pieces) created with
      makes | ⟨parent, middle, missing, above, before, makes⟩
    · exact opened.makes vacant ⟨rest, pieces, down⟩ makes
    · have loud := opened.exists_loud vacant pieces down missing
      have between := ih (.of_parent? vacant.named pieces down loud above) before
      exact between.makes vacant ⟨rest, pieces, down⟩ makes

end Opened

/-- Whatever is at a location is among the nodes. -/
theorem mem_nodes (there : tree.node? location ≠ none) : location ∈ tree.nodes.map Prod.fst := by
  rw [nodes, List.map_append, List.map_map]
  by_cases above : location <+: tree.current
  · refine List.mem_append_left _ (List.mem_map.mpr ⟨location.length, ?_, ?_⟩)
    · exact List.mem_range.mpr (Nat.lt_succ_of_le above.length_le)
    · exact (List.prefix_iff_eq_take.mp above).symm
  · rw [node?_eq_lookup above, ← Option.isSome_iff_ne_none, List.lookup_isSome_iff] at there
    obtain ⟨entry, listed, same⟩ := there
    exact List.mem_append_right _ (List.mem_map.mpr ⟨entry, listed, (beq_iff_eq.mp same).symm⟩)

theorem lookup_filter_outside (location other : Location) (entries : List (Location × Node)) :
    List.lookup other (entries.filter fun (known, _) => !location.isPrefixOf known) =
      if location <+: other then none else List.lookup other entries := by
  induction entries with
  | nil => simp
  | cons entry rest ih =>
    obtain ⟨known, node⟩ := entry
    have kept : ¬ location <+: known → location.isPrefixOf known = false := fun outside =>
      Bool.eq_false_iff.mpr fun inside => outside (List.isPrefixOf_iff_prefix.mp inside)
    by_cases same : other = known
    · subst same
      by_cases inside : location <+: other
      · rw [List.filter_cons_of_neg (by simpa using inside), ih, if_pos inside, if_pos inside]
      · rw [List.filter_cons_of_pos (by simp [kept inside])]
        simp [inside]
    · have differs : (other == known) = false := beq_eq_false_iff_ne.mpr same
      by_cases inside : location <+: known
      · rw [List.filter_cons_of_neg (by simpa using inside), ih]
        simp [List.lookup_cons, differs]
      · rw [List.filter_cons_of_pos (by simp [kept inside])]
        simp only [List.lookup_cons, differs, ih]

/-- A directory that is there can be removed, and nothing else is removed with it. -/
theorem exists_removeAll (leads : tree.locate path = .ok location)
    (directory : tree.node? location = some .directory) (outside : ¬ location <+: tree.current) :
    ∃ after, tree.removeAll path = .ok after ∧ after.current = tree.current ∧
      ∀ other, after.node? other = if location <+: other then none else tree.node? other := by
  refine ⟨{ tree with entries := tree.entries.filter fun (known, _) =>
    !location.isPrefixOf known }, ?_, rfl, fun other => ?_⟩
  · simp only [removeAll, leads, expectDirectory_eq_ok.mpr directory, bind, Except.bind]
  · unfold node?
    dsimp only
    split
    · next above =>
      have apart : ¬ location <+: other := fun below =>
        outside (below.trans (List.isPrefixOf_iff_prefix.mp above))
      rw [if_neg apart]
    · exact lookup_filter_outside location other tree.entries

end SourceTrace.FileTree
