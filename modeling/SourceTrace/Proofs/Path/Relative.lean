import SourceTrace.Proofs.Path.Normal

/-!
# Where relative paths lead

A relative path leads up, out of so many directories, and then down through names. Normalizing
carries its moves out like those of an absolute path, and there two dots take back whatever move
came last. This may be another pair of dots, so that of the directories a path leads out of only an
odd one is left: a path that leads out of two of them has the normal form of one that leads out of
none. Apart from that a normal form says where its path leads, and it is all that matters of a path
that something is joined to.
-/
namespace SourceTrace.Path

/-- The relative path that makes the given moves. -/
def along (moves : List String) : Path := ⟨Text.join "/" moves⟩

theorem isAbsolute_along {moves : List String} (isMove : ∀ next ∈ moves, IsMove next) :
    (along moves).isAbsolute = false := by
  cases moves with
  | nil => decide
  | cons first rest =>
    refine Bool.eq_false_iff.mpr ?_
    intro absolute
    obtain ⟨behind, text⟩ := exists_slash absolute
    have pieces := pieces_slash "" behind
    rw [String.empty_append, ← text, along, pieces_join (List.cons_ne_nil first rest) isMove]
      at pieces
    exact (isMove first List.mem_cons_self).ne_empty (List.head_eq_of_cons_eq pieces)

theorem parent?_along {moves : List String} (isMove : ∀ next ∈ moves, IsMove next)
    (some : moves ≠ []) : (along moves).parent? = .some (along moves.dropLast) := by
  obtain ⟨first, rest, rfl⟩ := List.exists_cons_of_ne_nil some
  have restMove : ∀ next ∈ rest, IsMove next := fun next listed =>
    isMove next (List.mem_cons_of_mem first listed)
  have above : ∀ next ∈ rest.dropLast, IsMove next := fun next listed =>
    restMove next (List.dropLast_subset rest listed)
  have pieces : (along (first :: rest)).pieces = first :: rest := pieces_join some isMove
  simp only [parent?, pieces, trimPieces_eq_self restMove, trimPieces_eq_self above,
    isAbsolute_along isMove, Bool.false_or, Bool.false_and, Bool.false_eq_true, ↓reduceIte,
    List.isEmpty_iff, beq_iff_eq, (isMove first List.mem_cons_self).ne_empty]
  split
  · next alone => rw [alone]; rfl
  · next further => rw [List.dropLast_cons_of_ne_nil further]; rfl

/-- A name at the end is one move more. -/
theorem along_div {moves : List String} (isMove : ∀ next ∈ moves, IsMove next) {next : String}
    (nextMove : IsMove next) : along moves / next = along (moves ++ [next]) := by
  have relative := isAbsolute_of_isMove nextMove
  change (along moves).join ⟨next⟩ = _
  by_cases none : moves = []
  · simp [none, join, relative, along, Text.join]
  · have ends := getLast?_ofMoves isMove none
    have text : (ofMoves moves).text.toList = '/' :: (along moves).text.toList :=
      String.toList_append
    rw [text] at ends
    have filled : (along moves).text ≠ "" := by
      intro empty
      simp [empty] at ends
    have slash : (along moves).text.toList.getLast? ≠ some '/' := by
      rwa [List.getLast?_cons_of_ne_nil (by simpa using filled)] at ends
    have joined : Text.join "/" (moves ++ [next]) = Text.join "/" moves ++ "/" ++ next := by
      simp [Text.join, String.intercalate_append_of_ne_nil none, String.append_assoc]
    simp only [join, relative, Bool.false_eq_true, ↓reduceIte, Bool.or_eq_true, beq_iff_eq, filled,
      slash, or_self]
    exact congrArg Path.mk joined.symm

theorem advance_along {moves : List String} (isMove : ∀ next ∈ moves, IsMove next) {next : String}
    (nextMove : IsMove next) :
    (along moves).advance (component next) = along (move moves next) := by
  by_cases up : next = ".."
  · subst up
    by_cases none : moves = []
    · subst none
      decide
    · simp [component, advance, parent?_along isMove none, move, none]
  · simp only [component, up, ↓reduceIte, advance, Component.text, move, false_and]
    exact along_div isMove nextMove

/-- Only a dot at the very start of a relative path is no move. -/
theorem components_of_relative {path : Path} (relative : path.isAbsolute = false) :
    path.components =
      (if path.pieces.head? = some "." then [.here] else []) ++ path.moves.map component := by
  unfold components moves
  cases path.pieces with
  | nil => rfl
  | cons first rest =>
    have whole := filterMap_inner? (first :: rest)
    by_cases dot : first = "."
    · simp [relative, dot, filterMap_inner?]
    · rw [← whole, List.filterMap_cons]
      cases said : inner? first <;> simp [relative, dot, said]

/-- Normalizing a relative path carries its moves out. -/
theorem normalize_of_relative {path : Path} (relative : path.isAbsolute = false) :
    path.normalize = along (path.moves.foldl move []) := by
  have start : ∀ lead : Bool,
      (if lead then [Component.here] else []).foldl advance ⟨""⟩ = along [] := by
    decide
  rw [normalize, components_of_relative relative, List.foldl_append]
  have lead := start (decide (path.pieces.head? = some "."))
  simp only [decide_eq_true_eq] at lead
  rw [lead]
  exact foldl_advance advance_along (fun _ member => isMove_of_mem_moves member) normal_nil.isMove

/-- The path that makes the given moves, from the root or from wherever it is put. -/
def withMoves (rooted : Bool) (moves : List String) : Path :=
  if rooted then ofMoves moves else along moves

/-- The same moves from the root and from elsewhere differ in the slash in front. -/
theorem text_withMoves (moves : List String) :
    (withMoves true moves).text = "/" ++ (withMoves false moves).text := rfl

theorem isAbsolute_withMoves {moves : List String} (isMove : ∀ next ∈ moves, IsMove next)
    (rooted : Bool) : (withMoves rooted moves).isAbsolute = rooted := by
  cases rooted with
  | true => exact isAbsolute_ofMoves moves
  | false => exact isAbsolute_along isMove

theorem moves_withMoves {moves : List String} (isMove : ∀ next ∈ moves, IsMove next)
    (rooted : Bool) : (withMoves rooted moves).moves = moves := by
  cases rooted with
  | true => exact moves_ofMoves isMove
  | false => exact moves_join_moves isMove

theorem mem_withMoves {moves : List String} {rooted : Bool} {c : Char} (other : c ≠ '/') :
    c ∈ (withMoves rooted moves).text.toList ↔ ∃ next ∈ moves, c ∈ next.toList := by
  cases rooted with
  | true => exact mem_ofMoves other
  | false => exact mem_join other

theorem withMoves_div {moves : List String} (isMove : ∀ next ∈ moves, IsMove next) {next : String}
    (nextMove : IsMove next) (rooted : Bool) :
    withMoves rooted moves / next = withMoves rooted (moves ++ [next]) := by
  cases rooted with
  | true => exact ofMoves_div isMove nextMove
  | false => exact along_div isMove nextMove

theorem normalize_eq_withMoves (path : Path) :
    path.normalize = withMoves path.isAbsolute (path.moves.foldl move []) := by
  cases kind : path.isAbsolute with
  | true => exact normalize_eq kind
  | false => exact normalize_of_relative kind

theorem normal_foldl_moves (path : Path) : Normal (path.moves.foldl move []) :=
  normal_foldl (fun _ member => isMove_of_mem_moves member) normal_nil

@[simp] theorem isAbsolute_normalize (path : Path) :
    path.normalize.isAbsolute = path.isAbsolute := by
  rw [normalize_eq_withMoves, isAbsolute_withMoves path.normal_foldl_moves.isMove]

@[simp] theorem moves_normalize (path : Path) :
    path.normalize.moves = path.moves.foldl move [] := by
  rw [normalize_eq_withMoves, moves_withMoves path.normal_foldl_moves.isMove]

/-- A normal form is its own normal form. -/
theorem normalize_normalize (path : Path) : path.normalize.normalize = path.normalize := by
  rw [normalize_eq_withMoves path.normalize, isAbsolute_normalize, moves_normalize,
    path.normal_foldl_moves.foldl_self, ← normalize_eq_withMoves]

/-- A path in normal form has normal moves and makes nothing else. -/
theorem normal_of_normalize_eq {path : Path} (normal : path.normalize = path) :
    Normal path.moves ∧ withMoves path.isAbsolute path.moves = path := by
  have carried := path.moves_normalize
  rw [normal] at carried
  refine ⟨carried ▸ path.normal_foldl_moves, ?_⟩
  rw [carried, ← normalize_eq_withMoves, normal]

/-- Paths have one normal form if they start alike and the same moves are left of them. -/
theorem normalize_eq_iff {path other : Path} : path.normalize = other.normalize ↔
    path.isAbsolute = other.isAbsolute ∧
      path.moves.foldl move [] = other.moves.foldl move [] := by
  constructor
  · intro same
    constructor
    · simpa using congrArg isAbsolute same
    · simpa using congrArg moves same
  · rintro ⟨start, left⟩
    rw [normalize_eq_withMoves, normalize_eq_withMoves, start, left]

/-- Of a path that another one is joined to only the normal form matters. -/
theorem normalize_join_congr {dir other : Path} (same : dir.normalize = other.normalize)
    (next : Path) : (dir.join next).normalize = (other.join next).normalize := by
  cases kind : next.isAbsolute with
  | true => simp [join, kind]
  | false =>
    obtain ⟨start, left⟩ := normalize_eq_iff.mp same
    rw [normalize_eq_iff, isAbsolute_join_eq dir kind, isAbsolute_join_eq other kind,
      moves_join dir kind, moves_join other kind, List.foldl_append, List.foldl_append, left]
    exact ⟨start, rfl⟩

theorem components_along {moves : List String} (isMove : ∀ next ∈ moves, IsMove next) :
    (along moves).components = moves.map component := by
  have noDot : (along moves).pieces.head? ≠ some "." := by
    by_cases none : moves = []
    · rw [none]
      decide
    · rw [along, pieces_join none isMove]
      exact fun dot => (isMove "." (List.mem_of_mem_head? dot)).ne_dot rfl
  rw [components_of_relative (isAbsolute_along isMove), if_neg noDot, List.nil_append]
  exact congrArg _ (moves_join_moves isMove)

/-- Where a relative path leads: up, out of so many directories, and then down through names. -/
structure Descent where
  ups : Nat
  names : List String
  deriving DecidableEq, Repr

namespace Descent

/-- One component further: a name leads down, and two dots lead back out of the last name, or up if
there is none. -/
def step (descent : Descent) : Component → Descent
  | .up =>
    if descent.names = [] then { descent with ups := descent.ups + 1 }
    else { descent with names := descent.names.dropLast }
  | .name text => { descent with names := descent.names ++ [text] }
  | .root | .here => descent

/-- The components that lead there straight. -/
def components (descent : Descent) : List Component :=
  List.replicate descent.ups .up ++ descent.names.map .name

/-- The moves that lead there straight. -/
def moves (descent : Descent) : List String :=
  List.replicate descent.ups ".." ++ descent.names

/-- What normalizing makes of it: two directories that it leads out of make up for each other. -/
def paired (descent : Descent) : Descent := { descent with ups := descent.ups % 2 }

theorem map_component_moves {descent : Descent} (down : ".." ∉ descent.names) :
    descent.moves.map component = descent.components := by
  have names : descent.names.map component = descent.names.map .name := by
    refine List.map_congr_left fun name listed => ?_
    exact if_neg fun up : name = ".." => down (up ▸ listed)
  rw [moves, components, List.map_append, names, List.map_replicate]
  rfl

/-- A move says as much to the moves that are left as its component says to the descent. -/
theorem move_moves_paired (descent : Descent) (next : String) :
    move descent.paired.moves next = (descent.step (component next)).paired.moves := by
  by_cases up : next = ".."
  · subst up
    by_cases none : descent.names = []
    · -- here two dots meet two dots, or nothing
      rcases Nat.mod_two_eq_zero_or_one descent.ups with even | odd
      · have further : (descent.ups + 1) % 2 = 1 := by omega
        simp [move, moves, paired, step, component, none, even, further]
      · have further : (descent.ups + 1) % 2 = 0 := by omega
        simp [move, moves, paired, step, component, none, odd, further]
    · simp [move, moves, paired, step, component, none, List.dropLast_append_of_ne_nil]
  · simp [move, moves, paired, step, component, up]

theorem foldl_move_paired (todo : List String) (descent : Descent) :
    todo.foldl move descent.paired.moves =
      ((todo.map component).foldl step descent).paired.moves := by
  induction todo generalizing descent with
  | nil => rfl
  | cons next rest ih => rw [List.foldl_cons, move_moves_paired, ih]; rfl

theorem names_step {descent : Descent} (down : ".." ∉ descent.names) (next : String) :
    ".." ∉ (descent.step (component next)).names := by
  by_cases up : next = ".."
  · simp only [component, up, ↓reduceIte, step]
    split
    · exact down
    · exact fun member => down (List.dropLast_subset _ member)
  · simp [component, up, step, down, Ne.symm up]

theorem names_foldl_step (todo : List String) {descent : Descent} (down : ".." ∉ descent.names) :
    ".." ∉ ((todo.map component).foldl step descent).names := by
  induction todo generalizing descent with
  | nil => exact down
  | cons next rest ih => exact ih (names_step down next)

theorem moves_inj {left right : Descent} (leftDown : ".." ∉ left.names)
    (rightDown : ".." ∉ right.names) : left.moves = right.moves ↔ left = right := by
  constructor
  · intro same
    have ups : left.ups = right.ups := by
      have counted := congrArg (List.count "..") same
      simpa [moves, List.count_append, List.count_eq_zero.mpr leftDown,
        List.count_eq_zero.mpr rightDown] using counted
    have names : left.names = right.names := by
      rw [moves, moves, ups] at same
      exact List.append_cancel_left same
    obtain ⟨_, _⟩ := left
    obtain ⟨_, _⟩ := right
    exact (mk.injEq ..).mpr ⟨ups, names⟩
  · exact congrArg moves

end Descent

/-- Where a relative path leads. -/
def descent (path : Path) : Descent := path.components.foldl Descent.step ⟨0, []⟩

theorem descent_eq {path : Path} (relative : path.isAbsolute = false) :
    path.descent = (path.moves.map component).foldl Descent.step ⟨0, []⟩ := by
  rw [descent, components_of_relative relative, List.foldl_append]
  split <;> rfl

theorem foldl_moves_eq {path : Path} (relative : path.isAbsolute = false) :
    path.moves.foldl move [] = path.descent.paired.moves := by
  rw [descent_eq relative]
  exact Descent.foldl_move_paired path.moves ⟨0, []⟩

theorem descent_down {path : Path} (relative : path.isAbsolute = false) :
    ".." ∉ path.descent.names := by
  rw [descent_eq relative]
  exact Descent.names_foldl_step path.moves (by simp)

theorem components_normalize {path : Path} (relative : path.isAbsolute = false) :
    path.normalize.components = path.descent.paired.components := by
  have isMove := path.normal_foldl_moves.isMove
  have down : ".." ∉ path.descent.paired.names := descent_down relative
  rw [normalize_of_relative relative, components_along isMove, foldl_moves_eq relative,
    Descent.map_component_moves down]

/-- The normal form of a relative path leads where the path leads, but for the directories it leads
out of: an odd number of them becomes one, and an even number none. So it says where the path leads
exactly if there is no more than one of them, and two paths have one normal form exactly if they
lead down through the same names and out of numbers of directories that are both odd or both even.
Normalizing twice is normalizing once, and of a directory that a path is joined to only the normal
form matters. -/
theorem normalize_relative {path : Path} (relative : path.isAbsolute = false) :
    path.normalize.components =
      List.replicate (path.descent.ups % 2) .up ++ path.descent.names.map .name ∧
    (path.normalize.components =
      List.replicate path.descent.ups .up ++ path.descent.names.map .name ↔
        path.descent.ups ≤ 1) ∧
    path.normalize.normalize = path.normalize ∧
    (∀ other : Path, other.isAbsolute = false →
      (path.normalize = other.normalize ↔ path.descent.names = other.descent.names ∧
        path.descent.ups % 2 = other.descent.ups % 2)) ∧
    ∀ dir other : Path, dir.normalize = other.normalize →
      (dir.join path).normalize = (other.join path).normalize := by
  have components := components_normalize relative
  refine ⟨components, ?_, normalize_normalize path, ?_, fun dir other same =>
    normalize_join_congr same path⟩
  · rw [components]
    constructor
    · intro same
      have lengths := congrArg List.length (List.append_cancel_right same)
      rw [List.length_replicate, List.length_replicate] at lengths
      change path.descent.ups % 2 = path.descent.ups at lengths
      omega
    · intro few
      have ups : path.descent.ups % 2 = path.descent.ups := by omega
      rw [Descent.components, Descent.paired, ups]
  · intro other otherRelative
    have down : ".." ∉ path.descent.paired.names := descent_down relative
    have otherDown : ".." ∉ other.descent.paired.names := descent_down otherRelative
    rw [normalize_eq_iff, relative, otherRelative, foldl_moves_eq relative,
      foldl_moves_eq otherRelative, Descent.moves_inj down otherDown]
    simp [Descent.paired, and_comm]

/-- A path that climbs out of two directories and then goes down. -/
theorem normalize_relative_climbing :
    (Path.mk "a/../../../x/./y").descent = ⟨2, ["x", "y"]⟩ ∧
    (Path.mk "a/../../../x/./y").normalize.components = [.name "x", .name "y"] ∧
    (Path.mk "a/../../../x/./y").normalize = (Path.mk "x/y").normalize ∧
    ((Path.mk "b/..").join ⟨"a/../../../x/./y"⟩).normalize =
      ((Path.mk ".").join ⟨"a/../../../x/./y"⟩).normalize := by
  have leads : (Path.mk "a/../../../x/./y").descent = ⟨2, ["x", "y"]⟩ := by decide
  have relative : (Path.mk "a/../../../x/./y").isAbsolute = false := by decide
  obtain ⟨components, -, -, same, joined⟩ := normalize_relative relative
  rw [leads] at components same
  exact ⟨leads, components, (same ⟨"x/y"⟩ (by decide)).mpr (by decide),
    joined ⟨"b/.."⟩ ⟨"."⟩ (by decide)⟩

/-- A path that leads out of two directories has the normal form of the empty path, which leads out
of none. -/
theorem normalize_two_directories_up :
    (Path.mk "../..").isAbsolute = false ∧ (Path.mk "../..").descent = ⟨2, []⟩ ∧
    (Path.mk "../..").normalize.components ≠ List.replicate 2 .up ∧
    (Path.mk "").descent = ⟨0, []⟩ ∧ (Path.mk "../..").normalize = (Path.mk "").normalize := by
  decide

end SourceTrace.Path
