import SourceTrace.FileTree
import SourceTrace.Proofs.Path.Parent

/-!
# Paths below a directory

The pieces of a path that was put onto a directory go on from the pieces of the directory. If there
are no two dots among them the path leads below the directory, and so do its parents until the
directory itself is reached.
-/
namespace SourceTrace.Path

/-- A text that leads down from the directory it is put onto: it does not start at the root, and it
never goes up. -/
structure LeadsDown (name : String) : Prop where
  not_root : .root ∉ (Path.mk name).components
  not_up : .up ∉ (Path.mk name).components

instance (name : String) : Decidable (LeadsDown name) :=
  decidable_of_iff (.root ∉ (Path.mk name).components ∧ .up ∉ (Path.mk name).components)
    ⟨fun both => ⟨both.1, both.2⟩, fun down => ⟨down.not_root, down.not_up⟩⟩

instance (name : String) : Decidable (IsName name) :=
  decidable_of_iff (name ≠ "" ∧ name ≠ "." ∧ '/' ∉ name.toList ∧ name ≠ "..")
    ⟨fun all => ⟨⟨all.1, all.2.1, all.2.2.1⟩, all.2.2.2⟩,
      fun isName => ⟨isName.ne_empty, isName.ne_dot, isName.no_slash, isName.ne_up⟩⟩

theorem LeadsDown.relative {name : String} (down : LeadsDown name) :
    (Path.mk name).isAbsolute = false := by
  by_contra absolute
  rw [Bool.not_eq_false] at absolute
  exact down.not_root (by simp [components_of_absolute absolute])

theorem LeadsDown.not_mem {name : String} (down : LeadsDown name) :
    ".." ∉ (Path.mk name).pieces := by
  intro member
  obtain ⟨first, rest, pieces⟩ := List.exists_cons_of_ne_nil (Path.mk name).pieces_ne_nil
  refine down.not_up ?_
  simp only [components, pieces, down.relative, Bool.false_eq_true, ↓reduceIte]
  rw [pieces] at member
  rcases List.mem_cons.mp member with rfl | further
  · exact List.mem_append_left _ (by decide)
  · exact List.mem_append_right _ (List.mem_filterMap.mpr ⟨"..", further, by decide⟩)

theorem IsName.leadsDown {name : String} (isName : IsName name) : LeadsDown name := by
  have pieces := pieces_of_isMove isName.toIsMove
  have relative := isAbsolute_of_isMove isName.toIsMove
  have components_eq : (Path.mk name).components = [.name name] := by
    simp [components, pieces, relative, inner?, isName.ne_empty, isName.ne_dot, isName.ne_up]
  constructor <;> simp [components_eq]

/-- A text without slashes that does not start with a dot is a name. -/
theorem isName_of_head {name : String} (filled : name ≠ "")
    (plain : name.toList.head? ≠ some '.') (noSlash : '/' ∉ name.toList) : IsName name := by
  refine ⟨⟨filled, ?_, noSlash⟩, ?_⟩
  · rintro rfl
    exact plain rfl
  · rintro rfl
    exact plain rfl

theorem noSlash_digits (number : Nat) : '/' ∉ Nat.toDigits 10 number := fun slash =>
  absurd (Nat.isDigit_of_mem_toDigits (by decide) (by decide) slash) (by decide)

/-- A relative text put onto a directory: its pieces stand behind those of the directory, where a
slash at the end of the directory counts once. -/
theorem pieces_div_cases {dir : Path} (filled : dir.text ≠ "") {next : String}
    (relative : (Path.mk next).isAbsolute = false) :
    (dir / next).pieces = dir.pieces ++ (Path.mk next).pieces ∨
      ∃ above, dir.pieces = above ++ [""] ∧
        (dir / next).pieces = above ++ (Path.mk next).pieces := by
  change (dir.join ⟨next⟩).pieces = _ ∨ ∃ above, _ ∧ (dir.join ⟨next⟩).pieces = _
  simp only [join, relative, Bool.false_eq_true, ↓reduceIte, Bool.or_eq_true, beq_iff_eq, filled,
    false_or]
  split
  · next ends =>
    obtain ⟨front, text⟩ := List.getLast?_eq_some_iff.mp ends
    have slash : dir.text = String.ofList front ++ "/" := by
      rw [← String.toList_inj, text]
      simp
    refine .inr ⟨(Path.mk (String.ofList front)).pieces, ?_, by rw [slash, pieces_slash]⟩
    have behind := pieces_slash (String.ofList front) ""
    rwa [String.append_empty, ← slash] at behind
  · exact .inl (pieces_slash dir.text next)

theorem isAbsolute_div {dir : Path} (filled : dir.text ≠ "") {next : String}
    (relative : (Path.mk next).isAbsolute = false) :
    (dir / next).isAbsolute = dir.isAbsolute ∧ (dir / next).text ≠ "" := by
  obtain ⟨more, same⟩ : ∃ more, (dir / next).text = dir.text ++ more := by
    change ∃ more, (dir.join ⟨next⟩).text = dir.text ++ more
    simp only [join, relative, Bool.false_eq_true, ↓reduceIte]
    split
    · exact ⟨_, rfl⟩
    · exact ⟨"/" ++ next, String.append_assoc⟩
  refine ⟨isAbsolute_join_eq dir relative, ?_⟩
  rw [same]
  intro none
  exact filled (String.append_eq_empty_iff.mp none).1

/-- Only slashes are taken off the end of a path. -/
theorem exists_toList_withoutEndSlashes (path : Path) : ∃ count, path.text.toList =
    (FileTree.withoutEndSlashes path).text.toList ++ List.replicate count '/' := by
  have split : path.text.toList =
      path.text.toList.rdropWhile (· == '/') ++ path.text.toList.rtakeWhile (· == '/') := by
    rw [List.rdropWhile, List.rtakeWhile, ← List.reverse_append, List.takeWhile_append_dropWhile,
      List.reverse_reverse]
  have slashes : path.text.toList.rtakeWhile (· == '/') =
      List.replicate (path.text.toList.rtakeWhile (· == '/')).length '/' :=
    List.eq_replicate_iff.mpr ⟨rfl, fun c member => by simpa using List.mem_rtakeWhile_imp member⟩
  unfold FileTree.withoutEndSlashes
  dsimp only
  split
  · next whole =>
    simp only [Bool.and_eq_true, List.isEmpty_iff] at whole
    obtain ⟨none, absolute⟩ := whole
    change path.text.toList.rdropWhile (· == '/') = [] at none
    rw [none, List.nil_append] at split
    rw [← split] at slashes
    cases length : path.text.toList.length with
    | zero =>
      rw [List.length_eq_zero_iff] at length
      simp [isAbsolute, length] at absolute
    | succ count =>
      rw [length, List.replicate_succ] at slashes
      exact ⟨count, slashes⟩
  · exact ⟨_, by rw [String.toList_ofList, ← slashes]; exact split⟩

theorem withoutEndSlashes_ne {path : Path} (filled : path.text ≠ "") :
    (FileTree.withoutEndSlashes path).text ≠ "" := by
  intro empty
  obtain ⟨count, text⟩ := exists_toList_withoutEndSlashes path
  rw [empty, String.toList_empty, List.nil_append] at text
  cases count with
  | zero => exact filled (String.toList_eq_nil_iff.mp text)
  | succ count =>
    have absolute : path.isAbsolute = true := by simp [isAbsolute, text, List.replicate_succ]
    have none : (path.text.toList.reverse.dropWhile (· == '/')).reverse = [] := by simp [text]
    simp [FileTree.withoutEndSlashes, absolute, none] at empty

theorem isAbsolute_withoutEndSlashes {path : Path} (filled : path.text ≠ "") :
    (FileTree.withoutEndSlashes path).isAbsolute = path.isAbsolute := by
  obtain ⟨count, text⟩ := exists_toList_withoutEndSlashes path
  obtain ⟨first, others, kept⟩ := List.exists_cons_of_ne_nil
    (show (FileTree.withoutEndSlashes path).text.toList ≠ [] from
      fun none => withoutEndSlashes_ne filled (String.toList_eq_nil_iff.mp none))
  simp [isAbsolute, text, kept]

/-- The slashes at the end of a path are empty pieces. -/
theorem exists_pieces_withoutEndSlashes (path : Path) : ∃ count,
    path.pieces = (FileTree.withoutEndSlashes path).pieces ++ List.replicate count "" := by
  have padded : ∀ (count : Nat) (text : List Char),
      Text.split (· == '/') (text ++ List.replicate count '/') =
        Text.split (· == '/') text ++ List.replicate count [] := by
    intro count
    induction count with
    | zero => simp
    | succ count ih =>
      intro text
      rw [List.replicate_succ', ← List.append_assoc, Text.split_append_cons (by decide), ih,
        List.append_assoc, List.replicate_succ']
      rfl
  obtain ⟨count, text⟩ := exists_toList_withoutEndSlashes path
  refine ⟨count, ?_⟩
  rw [pieces, pieces, text, padded, List.map_append, List.map_replicate]

/-- The pieces of a path that ends with a name. -/
def Named (front : List String) : Prop := ∃ above name, IsName name ∧ front = above ++ [name]

/-- A path whose pieces go on from the given ones and never up. -/
def Continues (front : List String) (path : Path) : Prop :=
  ∃ rest, path.pieces = front ++ rest ∧ ".." ∉ rest

variable {front : List String} {path dir : Path}

theorem Named.ne_nil (named : Named front) : front ≠ [] := by
  obtain ⟨above, name, -, rfl⟩ := named
  simp

/-- No name is the piece in front of the first slash of an absolute path. -/
theorem Named.ne_root (named : Named front) : front ≠ [""] := by
  obtain ⟨above, name, isName, rfl⟩ := named
  intro same
  rcases List.append_eq_singleton_iff.mp same with ⟨-, root⟩ | ⟨-, none⟩
  · exact isName.ne_empty (List.singleton_inj.mp root)
  · cases none

/-- A path that goes on from a name is not empty. -/
theorem Named.text_ne (named : Named front) {rest : List String}
    (pieces : path.pieces = front ++ rest) : path.text ≠ "" := by
  intro empty
  have same : path = ⟨""⟩ := by rw [← empty]
  rw [same, pieces_empty] at pieces
  rcases List.append_eq_singleton_iff.mp pieces.symm with ⟨none, -⟩ | ⟨root, -⟩
  · exact named.ne_nil none
  · exact named.ne_root root

/-- Where a path starts can be told from its pieces up to a name. -/
theorem Named.isAbsolute_iff (named : Named front) {rest : List String}
    (pieces : path.pieces = front ++ rest) : path.isAbsolute = true ↔ front.head? = some "" := by
  obtain ⟨first, tail, rfl⟩ := List.exists_cons_of_ne_nil named.ne_nil
  rw [Path.isAbsolute_iff, pieces]
  constructor
  · rintro ⟨others, -, same⟩
    rw [(List.cons.inj same).1]
    rfl
  · intro starts
    obtain rfl : first = "" := Option.some.inj starts
    have further : tail ≠ [] := fun none => named.ne_root (by rw [none])
    exact ⟨tail ++ rest, by simp [further], rfl⟩

theorem Continues.isAbsolute_eq (named : Named dir.pieces)
    (continues : Continues dir.pieces path) : path.isAbsolute = dir.isAbsolute := by
  obtain ⟨rest, pieces, -⟩ := continues
  rw [Bool.eq_iff_iff, named.isAbsolute_iff pieces,
    named.isAbsolute_iff (List.append_nil dir.pieces).symm]

/-- What stands in front of empty pieces at the end still goes on from a name. -/
theorem Named.exists_of_append (named : Named front) {rest shorter : List String} {count : Nat}
    (same : front ++ rest = shorter ++ List.replicate count "") :
    ∃ kept, shorter = front ++ kept ∧ rest = kept ++ List.replicate count "" := by
  rcases List.append_eq_append_iff.mp same with ⟨kept, rfl, rfl⟩ | ⟨lost, rfl, empties⟩
  · exact ⟨kept, rfl, rfl⟩
  · -- the name at the end is no empty piece
    obtain ⟨above, name, isName, split⟩ := named
    cases lost using List.reverseRecOn with
    | nil => exact ⟨[], by simp, by simpa using empties.symm⟩
    | append_singleton others last =>
      rw [← List.append_assoc] at split
      obtain ⟨-, rfl⟩ := List.append_inj' split rfl |>.imp_right (List.singleton_inj.mp ·)
      have listed : last ∈ List.replicate count "" := by simp [empties]
      exact absurd (List.eq_of_mem_replicate listed) isName.ne_empty

theorem Continues.withoutEndSlashes (named : Named front) (continues : Continues front path) :
    Continues front (FileTree.withoutEndSlashes path) := by
  obtain ⟨rest, pieces, down⟩ := continues
  obtain ⟨count, padded⟩ := exists_pieces_withoutEndSlashes path
  obtain ⟨kept, same, rfl⟩ := named.exists_of_append (pieces.symm.trans padded)
  exact ⟨kept, same, fun member => down (List.mem_append_left _ member)⟩

/-- A text that leads down, put onto a path that goes on from a name. -/
theorem Continues.div (named : Named front) (continues : Continues front path) {name : String}
    (leads : LeadsDown name) : Continues front (path / name) := by
  obtain ⟨rest, pieces, down⟩ := continues
  rcases pieces_div_cases (named.text_ne pieces) leads.relative with joined | ⟨above, ends, joined⟩
  · refine ⟨rest ++ (Path.mk name).pieces, by rw [joined, pieces, List.append_assoc], ?_⟩
    simp [down, leads.not_mem]
  · have same : front ++ rest = above ++ List.replicate 1 "" := pieces.symm.trans ends
    obtain ⟨kept, rfl, rfl⟩ := named.exists_of_append same
    refine ⟨kept ++ (Path.mk name).pieces, by rw [joined, List.append_assoc], ?_⟩
    have downKept : ".." ∉ kept := fun member => down (List.mem_append_left _ member)
    simp [downKept, leads.not_mem]

theorem trimPieces_append {left : List String} (trimmed : trimPieces left = left)
    (right : List String) : trimPieces (left ++ right) = left ++ trimPieces right := by
  simp only [trimPieces, List.reverse_append, List.dropWhile_append] at trimmed ⊢
  split
  · next none => simp_all
  · simp

theorem Named.trimPieces_tail {first : String} {tail : List String}
    (named : Named (first :: tail)) : trimPieces tail = tail := by
  obtain ⟨above, name, isName, split⟩ := named
  cases above with
  | nil =>
    obtain ⟨-, rfl⟩ := List.cons.inj split
    rfl
  | cons head above =>
    obtain ⟨-, rfl⟩ := List.cons.inj split
    exact trimPieces_concat above isName.toIsMove

/-- The parent of a path that goes on from a name by more than dots and slashes goes on from the
name as well. -/
theorem Continues.of_parent? (named : Named front) {rest : List String}
    (pieces : path.pieces = front ++ rest) (down : ".." ∉ rest)
    (loud : ∃ piece ∈ rest, isMute piece = false) {parent : Path}
    (above : path.parent? = some parent) : Continues front parent := by
  obtain ⟨first, tail, rfl⟩ := List.exists_cons_of_ne_nil named.ne_nil
  have trimmed := named.trimPieces_tail
  have some_kept : trimPieces rest ≠ [] := by
    intro none
    obtain ⟨piece, member, heard⟩ := loud
    have mute : isMute piece = true := List.rdropWhile_eq_nil_iff.mp none piece member
    rw [mute] at heard
    cases heard
  have parted : path.pieces = first :: (tail ++ rest) := pieces
  -- of an absolute path there is a name left behind the root
  have filled : ¬ (path.isAbsolute = true ∧ tail = [] ∧
      trimPieces (trimPieces rest).dropLast = []) := by
    rintro ⟨absolute, rfl, -⟩
    have starts := (named.isAbsolute_iff pieces).mp absolute
    exact named.ne_root (by rw [Option.some.inj starts])
  simp only [parent?, parted, trimPieces_append trimmed, List.isEmpty_iff,
    List.append_eq_nil_iff, some_kept, and_false, ↓reduceIte, List.dropLast_append_of_ne_nil,
    ne_eq, not_false_eq_true, Bool.and_eq_true, filled, Option.some.injEq] at above
  have within : ∀ piece ∈ trimPieces (trimPieces rest).dropLast, piece ∈ rest := fun piece listed =>
    trimPieces_subset (List.dropLast_subset _ (trimPieces_subset listed))
  refine ⟨trimPieces (trimPieces rest).dropLast, ?_, fun member => down (within _ member)⟩
  rw [← above, pieces_join_of_noSlash (by simp)]
  · rfl
  · intro piece member
    suffices listed : piece ∈ path.pieces from noSlash_of_mem_pieces listed
    rw [parted]
    rcases List.mem_cons.mp member with rfl | further
    · exact List.mem_cons_self
    · refine List.mem_cons_of_mem first ?_
      rcases List.mem_append.mp further with early | late
      · exact List.mem_append_left _ early
      · exact List.mem_append_right _ (within piece late)

theorem fileName?_of_endsIn {name : String} (ends : path.EndsIn name) :
    path.fileName? = some name := by
  obtain ⟨isName, front, mute, pieces, mutes⟩ := ends
  have named : inner? name = some (.name name) := by
    simp [inner?, isName.ne_empty, isName.ne_dot, isName.ne_up]
  have silent : mute.filterMap inner? = [] :=
    List.filterMap_eq_nil_iff.mpr fun piece member => inner?_eq_none_iff.mpr (mutes piece member)
  suffices last : path.components.getLast? = some (.name name) by
    rw [fileName?, last]
  cases front with
  | nil =>
    have relative : path.isAbsolute = false := by
      by_contra absolute
      rw [Bool.not_eq_false, isAbsolute_iff] at absolute
      obtain ⟨others, -, same⟩ := absolute
      rw [pieces] at same
      exact isName.ne_empty (List.cons.inj same).1
    simp [components, pieces, relative, isName.ne_dot, named, silent]
  | cons first front =>
    simp only [components, pieces, List.cons_append, List.filterMap_append, List.filterMap_cons,
      named, silent]
    simp

/-- A name put onto a directory. -/
theorem named_div {name : String} (isName : IsName name) : Named (dir / name).pieces := by
  have alone := pieces_of_isMove isName.toIsMove
  by_cases empty : dir.text = ""
  · have same : dir / name = ⟨name⟩ := by
      change dir.join ⟨name⟩ = _
      simp [join, isName.leadsDown.relative, empty]
    exact ⟨[], name, isName, by rw [same, alone, List.nil_append]⟩
  · rcases pieces_div_cases empty isName.leadsDown.relative with joined | ⟨above, -, joined⟩
    · exact ⟨_, name, isName, by rw [joined, alone]⟩
    · exact ⟨_, name, isName, by rw [joined, alone]⟩

theorem Named.pieces_div (named : Named dir.pieces) {name : String} (isName : IsName name) :
    (dir / name).pieces = dir.pieces ++ [name] := by
  have filled := named.text_ne (List.append_nil _).symm
  rcases pieces_div_cases filled isName.leadsDown.relative with joined | ⟨above, ends, -⟩
  · rw [joined, pieces_of_isMove isName.toIsMove]
  · obtain ⟨before, last, lastName, split⟩ := named
    rw [ends] at split
    exact absurd (List.singleton_inj.mp (List.append_inj_right' split rfl)).symm lastName.ne_empty

theorem Named.div (named : Named dir.pieces) {name : String} (isName : IsName name) :
    Named (dir / name).pieces := by
  exact ⟨dir.pieces, name, isName, named.pieces_div isName⟩

/-- A directory goes on from itself. -/
theorem Continues.refl (path : Path) : Continues path.pieces path :=
  ⟨[], (List.append_nil _).symm, by simp⟩

/-- What goes on from a directory in another one goes on from the other one. -/
theorem Continues.of_div (named : Named dir.pieces) {name : String} (isName : IsName name)
    (continues : Continues (dir / name).pieces path) : Continues dir.pieces path := by
  obtain ⟨rest, pieces, down⟩ := continues
  rw [named.pieces_div isName, List.append_assoc] at pieces
  exact ⟨[name] ++ rest, pieces, by simp [down, isName.ne_up.symm]⟩

/-- The parent of what goes on from a directory in another one. -/
theorem Continues.parent?_of_div (named : Named dir.pieces) {name : String} (isName : IsName name)
    (continues : Continues (dir / name).pieces path) {parent : Path}
    (above : path.parent? = some parent) : Continues dir.pieces parent := by
  obtain ⟨rest, pieces, down⟩ := continues
  rw [named.pieces_div isName, List.append_assoc] at pieces
  refine .of_parent? named pieces (by simp [down, isName.ne_up.symm]) ?_ above
  exact ⟨name, by simp, by simp [isMute, isName.ne_empty, isName.ne_dot]⟩

end SourceTrace.Path
