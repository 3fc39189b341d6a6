import SourceTrace.Proofs.Path.Normal

/-!
# The directory and the name of a file

A path with a file name makes one last move into that name; behind it stand only pieces that say
nothing. It has a parent, and another name put onto that parent has the same parent again.
-/
namespace SourceTrace.Path

/-- A piece that says nothing. -/
def isMute (piece : String) : Bool := piece == "" || piece == "."

/-- A name that a file can have. -/
structure IsName (piece : String) : Prop extends IsMove piece where
  ne_up : piece ≠ ".."

theorem noSlash_of_mem_pieces {path : Path} {piece : String} (member : piece ∈ path.pieces) :
    '/' ∉ piece.toList := by
  obtain ⟨characters, inside, rfl⟩ := List.mem_map.mp member
  intro slash
  rw [String.toList_ofList] at slash
  simpa using (Text.mem_split inside slash).1

theorem pieces_ne_nil (path : Path) : path.pieces ≠ [] := by
  simp [pieces, Text.split_ne_nil]

/-- Pieces without slashes come back, whatever they say. -/
theorem pieces_join_of_noSlash {pieces : List String} (some : pieces ≠ [])
    (noSlash : ∀ piece ∈ pieces, '/' ∉ piece.toList) :
    (Path.mk (Text.join "/" pieces)).pieces = pieces := by
  rw [Path.pieces, Text.join, String.toList_intercalate]
  change (Text.split (· == '/') (['/'].intercalate (pieces.map String.toList))).map _ = _
  rw [Text.split_intercalate (by simpa using some)]
  · simp
  · simpa using noSlash

theorem inner?_eq_none_iff {piece : String} : inner? piece = none ↔ isMute piece = true := by
  unfold inner? isMute
  split
  · simp_all
  · split <;> simp_all

/-- A piece that stands for a name is one. -/
theorem isName_of_inner? {path : Path} {piece name : String} (member : piece ∈ path.pieces)
    (same : inner? piece = some (.name name)) : piece = name ∧ IsName name := by
  unfold inner? at same
  split at same
  · cases same
  · split at same
    · cases same
    · next loud other =>
      cases same
      simp only [Bool.or_eq_true, beq_iff_eq, not_or] at loud other
      exact ⟨rfl, ⟨loud.1, loud.2, noSlash_of_mem_pieces member⟩, other⟩

theorem isMute_of_filterMap {pieces : List String} (none : pieces.filterMap inner? = []) :
    ∀ piece ∈ pieces, isMute piece = true := by
  intro piece member
  exact inner?_eq_none_iff.mp (List.filterMap_eq_nil_iff.mp none piece member)

/-- The last of the components that pieces stand for. -/
theorem exists_of_getLast?_filterMap {pieces : List String} {last : Component}
    (found : (pieces.filterMap inner?).getLast? = some last) :
    ∃ front piece mute, pieces = front ++ piece :: mute ∧ inner? piece = some last ∧
      ∀ other ∈ mute, isMute other = true := by
  induction pieces using List.reverseRecOn with
  | nil => cases found
  | append_singleton before piece ih =>
    rw [List.filterMap_append, List.filterMap_cons, List.filterMap_nil] at found
    split at found
    · next mutePiece =>
      rw [List.append_nil] at found
      obtain ⟨front, known, mute, rfl, same, mutes⟩ := ih found
      refine ⟨front, known, mute ++ [piece], by simp, same, ?_⟩
      intro other member
      rcases List.mem_append.mp member with earlier | final
      · exact mutes other earlier
      · rw [List.mem_singleton.mp final]
        exact inner?_eq_none_iff.mp mutePiece
    · next component same =>
      rw [List.getLast?_concat] at found
      cases found
      exact ⟨before, piece, [], rfl, same, by simp⟩

/-- A path whose last piece that says something is a name. -/
def EndsIn (path : Path) (name : String) : Prop :=
  IsName name ∧ ∃ front mute, path.pieces = front ++ name :: mute ∧
    ∀ piece ∈ mute, isMute piece = true

theorem endsIn_of_fileName? {path : Path} {name : String} (named : path.fileName? = some name) :
    path.EndsIn name := by
  have last : path.components.getLast? = some (.name name) := by
    unfold fileName? at named
    split at named
    · next text found =>
      cases named
      exact found
    · cases named
  obtain ⟨first, rest, pieces⟩ := List.exists_cons_of_ne_nil path.pieces_ne_nil
  have found : ∃ front piece mute, path.pieces = front ++ piece :: mute ∧
      inner? piece = some (.name name) ∧ ∀ other ∈ mute, isMute other = true := by
    simp only [components, pieces] at last
    by_cases none : rest.filterMap inner? = []
    · refine ⟨[], first, rest, pieces, ?_, isMute_of_filterMap none⟩
      rw [none, List.append_nil] at last
      split at last
      · cases last
      · split at last
        · cases last
        · cases stands : inner? first with
          | none => simp [stands] at last
          | some component => simpa [stands] using last
    · rw [List.getLast?_append_of_ne_nil _ none] at last
      obtain ⟨front, piece, mute, same, stands, mutes⟩ := exists_of_getLast?_filterMap last
      exact ⟨first :: front, piece, mute, by rw [pieces, same, List.cons_append], stands, mutes⟩
  obtain ⟨front, piece, mute, same, stands, mutes⟩ := found
  have member : piece ∈ path.pieces := by simp [same]
  obtain ⟨rfl, isName⟩ := isName_of_inner? member stands
  exact ⟨isName, front, mute, same, mutes⟩

/-- An absolute path starts with an empty piece that is not the only one. -/
theorem isAbsolute_iff {path : Path} :
    path.isAbsolute = true ↔ ∃ rest, rest ≠ [] ∧ path.pieces = "" :: rest := by
  constructor
  · intro absolute
    obtain ⟨rest, text⟩ := exists_slash absolute
    refine ⟨(Path.mk rest).pieces, pieces_ne_nil _, ?_⟩
    have behind := pieces_slash "" rest
    rw [String.empty_append, ← text] at behind
    exact behind
  · rintro ⟨rest, some, pieces⟩
    cases text : path.text.toList with
    | nil =>
      simp only [Path.pieces, text, Text.split, List.map_cons, List.map_nil,
        List.cons.injEq] at pieces
      exact absurd pieces.2.symm some
    | cons c others =>
      by_cases slash : c = '/'
      · simp [isAbsolute, text, slash]
      · simp only [Path.pieces, text, Text.split, beq_iff_eq, slash, ↓reduceIte] at pieces
        split at pieces
        · simp at pieces
        · simp at pieces

/-- A path with a file name has a parent. -/
theorem exists_parent? {path : Path} {name : String} (named : path.fileName? = some name) :
    ∃ dir, path.parent? = some dir := by
  obtain ⟨isName, front, mute, pieces, -⟩ := endsIn_of_fileName? named
  rw [← Option.isSome_iff_exists]
  cases front with
  | nil =>
    have relative : path.isAbsolute = false := by
      by_contra absolute
      obtain ⟨rest, -, starts⟩ := isAbsolute_iff.mp (by simpa using absolute)
      rw [pieces] at starts
      exact isName.ne_empty (List.cons.inj starts).1
    rw [parent?, pieces]
    simp only [List.nil_append, relative, beq_iff_eq, isName.ne_empty, Bool.false_or]
    split <;> rfl
  | cons first front =>
    have loud : trimPieces (front ++ name :: mute) ≠ [] := by
      intro none
      have all := List.rdropWhile_eq_nil_iff.mp none name (by simp)
      simp [isName.ne_empty, isName.ne_dot] at all
    rw [parent?, pieces]
    simp only [List.cons_append, List.isEmpty_iff, loud, ↓reduceIte]
    split <;> rfl

theorem trimPieces_concat (pieces : List String) {next : String} (isMove : IsMove next) :
    trimPieces (pieces ++ [next]) = pieces ++ [next] :=
  List.rdropWhile_concat_neg _ pieces next (by simp [isMove.ne_empty, isMove.ne_dot])

theorem trimPieces_trimPieces (pieces : List String) :
    trimPieces (trimPieces pieces) = trimPieces pieces :=
  List.rdropWhile_idempotent _ pieces

theorem trimPieces_subset {pieces : List String} {piece : String}
    (member : piece ∈ trimPieces pieces) : piece ∈ pieces :=
  (List.rdropWhile_prefix _ pieces).subset member

/-- The last of trimmed pieces says something. -/
theorem isMute_of_trimPieces {pieces front : List String} {last : String}
    (trimmed : trimPieces pieces = front ++ [last]) : isMute last = false := by
  have some : trimPieces pieces ≠ [] := by simp [trimmed]
  have loud := List.rdropWhile_last_not _ pieces some
  have same : (trimPieces pieces).getLast some = last := by simp [trimmed]
  simp only [trimPieces] at same
  simpa [List.rdropWhile, same, isMute] using loud

/-- Pieces that stand for a directory. -/
structure IsDirectory (first : String) (above : List String) : Prop where
  noSlash : ∀ piece ∈ first :: above, '/' ∉ piece.toList
  trimmed : trimPieces above = above
  not_root : first = "" → above ≠ []

/-- The forms that a parent can have. -/
theorem parent?_cases {path dir : Path} (parent : path.parent? = some dir) :
    dir = ⟨""⟩ ∨ dir = ⟨"/"⟩ ∨
      ∃ first above, IsDirectory first above ∧ dir = ⟨Text.join "/" (first :: above)⟩ := by
  obtain ⟨first, rest, pieces⟩ := List.exists_cons_of_ne_nil path.pieces_ne_nil
  simp only [parent?, pieces] at parent
  split at parent
  · split at parent
    · cases parent
    · cases parent
      exact .inl rfl
  · next kept =>
    split at parent
    · cases parent
      exact .inr (.inl rfl)
    · next inside =>
      cases parent
      refine .inr (.inr ⟨first, _, ⟨?_, trimPieces_trimPieces _, ?_⟩, rfl⟩)
      · intro piece member
        have listed : piece ∈ path.pieces := by
          rw [pieces]
          rcases List.mem_cons.mp member with rfl | further
          · exact List.mem_cons_self
          · exact List.mem_cons_of_mem _
              (trimPieces_subset (List.dropLast_subset _ (trimPieces_subset further)))
        exact noSlash_of_mem_pieces listed
      · rintro rfl
        have some : rest ≠ [] := by
          rintro rfl
          exact kept rfl
        have absolute : path.isAbsolute := isAbsolute_iff.mpr ⟨rest, some, pieces⟩
        simpa [absolute] using inside

/-- A parent starts where the path starts, and its pieces are the first ones of the path unless none
of them says anything. -/
theorem pieces_parent? {path dir : Path} (parent : path.parent? = some dir) :
    dir.isAbsolute = path.isAbsolute ∧
      (dir.pieces <+: path.pieces ∨ ∀ piece ∈ dir.pieces, isMute piece = true) := by
  obtain ⟨first, rest, pieces⟩ := List.exists_cons_of_ne_nil path.pieces_ne_nil
  simp only [parent?, pieces] at parent
  split at parent
  · split at parent
    · cases parent
    · next inside =>
      cases parent
      simp only [Bool.or_eq_true, beq_iff_eq, not_or, Bool.not_eq_true] at inside
      exact ⟨inside.1.symm, .inr (by decide)⟩
  · next kept =>
    split at parent
    · next top =>
      cases parent
      rw [Bool.and_eq_true] at top
      exact ⟨top.1.symm, .inr (by decide)⟩
    · next inside =>
      cases parent
      have some : rest ≠ [] := by
        rintro rfl
        exact kept rfl
      have further : trimPieces (trimPieces rest).dropLast <+: rest :=
        (List.rdropWhile_prefix _ _).trans
          ((List.dropLast_prefix _).trans (List.rdropWhile_prefix _ _))
      have first_pieces : first :: trimPieces (trimPieces rest).dropLast <+: path.pieces := by
        rw [pieces]
        exact (List.prefix_cons_inj first).mpr further
      have joined :
          (Path.mk (Text.join "/" (first :: trimPieces (trimPieces rest).dropLast))).pieces
            = first :: trimPieces (trimPieces rest).dropLast :=
        pieces_join_of_noSlash (by simp) fun piece member =>
          noSlash_of_mem_pieces (first_pieces.subset member)
      refine ⟨?_, .inl (by rw [joined]; exact first_pieces)⟩
      rw [Bool.eq_iff_iff, isAbsolute_iff, isAbsolute_iff, joined, pieces]
      constructor
      · rintro ⟨others, -, same⟩
        exact ⟨rest, some, by rw [(List.cons.inj same).1]⟩
      · rintro ⟨others, filled, same⟩
        have absolute : path.isAbsolute := isAbsolute_iff.mpr ⟨others, filled, pieces.trans same⟩
        refine ⟨trimPieces (trimPieces rest).dropLast, ?_, by rw [(List.cons.inj same).1]⟩
        simpa [absolute] using inside

variable {first : String} {above : List String}

theorem IsDirectory.pieces_eq (directory : IsDirectory first above) :
    (Path.mk (Text.join "/" (first :: above))).pieces = first :: above :=
  pieces_join_of_noSlash (by simp) directory.noSlash

theorem pieces_empty : (Path.mk "").pieces = [""] := rfl

/-- A directory is neither the empty path nor does it end with a slash. -/
theorem IsDirectory.div_eq (directory : IsDirectory first above) {next : String}
    (isMove : IsMove next) :
    Path.mk (Text.join "/" (first :: above)) / next =
      ⟨Text.join "/" (first :: (above ++ [next]))⟩ := by
  have pieces := directory.pieces_eq
  have filled : Text.join "/" (first :: above) ≠ "" := by
    intro empty
    rw [empty, pieces_empty] at pieces
    obtain ⟨alone, none⟩ := List.cons.inj pieces
    exact directory.not_root alone.symm none.symm
  have noSlashEnd : (Text.join "/" (first :: above)).toList.getLast? ≠ some '/' := by
    intro ends
    obtain ⟨front, text⟩ := List.getLast?_eq_some_iff.mp ends
    have slash : Text.join "/" (first :: above) = String.ofList front ++ "/" ++ "" := by
      rw [← String.toList_inj, text]
      simp
    rw [slash, pieces_slash, pieces_empty] at pieces
    -- the empty piece behind the slash is the last one above
    obtain ⟨head, rest, split⟩ :=
      List.exists_cons_of_ne_nil (Path.mk (String.ofList front)).pieces_ne_nil
    rw [split, List.cons_append] at pieces
    have last := directory.trimmed.trans (List.cons.inj pieces).2.symm
    exact absurd (isMute_of_trimPieces last) (by decide)
  have relative := isAbsolute_of_isMove isMove
  change (Path.mk (Text.join "/" (first :: above))).join ⟨next⟩ = _
  have joined : Text.join "/" (first :: (above ++ [next])) =
      Text.join "/" (first :: above) ++ "/" ++ next := by
    have parts := String.intercalate_append_of_ne_nil (s := "/") (List.cons_ne_nil first above)
      (List.cons_ne_nil next [])
    simpa [Text.join] using parts
  simp only [join, relative, Bool.false_eq_true, ↓reduceIte, Bool.or_eq_true, beq_iff_eq, filled,
    noSlashEnd, or_self, joined]

theorem pieces_of_isMove {next : String} (isMove : IsMove next) :
    (Path.mk next).pieces = [next] := by
  have join := pieces_join_of_noSlash (List.cons_ne_nil next []) (by simpa using isMove.no_slash)
  simpa [Text.join] using join

/-- Whatever a name is put onto, it is the last piece. -/
theorem endsIn_div (dir : Path) {next : String} (isName : IsName next) :
    (dir / next).EndsIn next := by
  have relative := isAbsolute_of_isMove isName.toIsMove
  have pieces := pieces_of_isMove isName.toIsMove
  obtain ⟨front, last⟩ : ∃ front, (dir.join ⟨next⟩).pieces = front ++ [next] := by
    unfold join
    simp only [relative, Bool.false_eq_true, ↓reduceIte]
    split
    · next bare =>
      simp only [Bool.or_eq_true, beq_iff_eq] at bare
      rcases bare with empty | ends
      · exact ⟨[], by rw [empty, String.empty_append, pieces]; rfl⟩
      · obtain ⟨front, text⟩ := List.getLast?_eq_some_iff.mp ends
        have slash : dir.text = String.ofList front ++ "/" := by
          rw [← String.toList_inj, text]
          simp
        exact ⟨_, by rw [slash, pieces_slash, pieces]⟩
    · exact ⟨_, by rw [pieces_slash, pieces]⟩
  exact ⟨isName, front, [], last, by simp⟩

/-- A name put onto the parent of a path. -/
theorem parent?_div {path dir : Path} (parent : path.parent? = some dir) {next : String}
    (isMove : IsMove next) : (dir / next).parent? = some dir := by
  have relative := isAbsolute_of_isMove isMove
  rcases parent?_cases parent with rfl | rfl | ⟨first, above, directory, rfl⟩
  · have joined : Path.mk "" / next = ⟨next⟩ := by
      change (Path.mk "").join ⟨next⟩ = _
      simp [join, relative]
    simp [joined, parent?, pieces_of_isMove isMove, trimPieces, relative, isMove.ne_empty]
  · have joined : Path.mk "/" / next = ⟨"/" ++ next⟩ := by
      change (Path.mk "/").join ⟨next⟩ = _
      simp [join, relative]
    have pieces := pieces_slash "" next
    rw [String.empty_append, pieces_of_isMove isMove, pieces_empty] at pieces
    have absolute : (Path.mk ("/" ++ next)).isAbsolute := isAbsolute_iff.mpr ⟨_, by simp, pieces⟩
    have kept := trimPieces_concat [] isMove
    rw [List.nil_append] at kept
    simp only [joined, parent?, pieces, List.singleton_append, kept, absolute]
    rfl
  · have inside : ∀ piece ∈ first :: (above ++ [next]), '/' ∉ piece.toList := by
      intro piece member
      rcases List.mem_append.mp (List.cons_append ▸ member) with known | last
      · exact directory.noSlash piece known
      · rw [List.mem_singleton.mp last]
        exact isMove.no_slash
    have pieces := pieces_join_of_noSlash (List.cons_ne_nil _ _) inside
    have below : ((Path.mk (Text.join "/" (first :: (above ++ [next])))).isAbsolute &&
        above.isEmpty) = false := by
      by_contra both
      simp only [Bool.not_eq_false, Bool.and_eq_true, List.isEmpty_iff] at both
      obtain ⟨rest, _, starts⟩ := isAbsolute_iff.mp both.1
      rw [pieces] at starts
      exact directory.not_root (List.cons.inj starts).1 both.2
    rw [directory.div_eq isMove]
    simp only [parent?, pieces, trimPieces_concat above isMove, List.dropLast_concat,
      directory.trimmed, below]
    simp

end SourceTrace.Path
