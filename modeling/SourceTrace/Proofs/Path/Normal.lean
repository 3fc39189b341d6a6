import Mathlib.Data.List.DropRight
import SourceTrace.Path
import SourceTrace.Proofs.Text.Split

/-!
# Absolute paths as lists of moves

An absolute path makes moves from the root: down into a name, or up with two dots. Its moves are its
pieces without the empty ones and the single dots. Normalizing carries them out one after another,
so it is a fold over the moves, and its results are the paths whose moves leave nothing to carry
out.
-/
namespace SourceTrace.Path

/-- A piece that says something. -/
structure IsMove (piece : String) : Prop where
  ne_empty : piece ≠ ""
  ne_dot : piece ≠ "."
  no_slash : '/' ∉ piece.toList

/-- The pieces of a path that say something. -/
def moves (path : Path) : List String :=
  path.pieces.filter fun piece => piece != "" && piece != "."

/-- The absolute path that makes the given moves. -/
def ofMoves (moves : List String) : Path := ⟨"/" ++ Text.join "/" moves⟩

/-- The component that a move stands for. -/
def component (move : String) : Component := if move = ".." then .up else .name move

/-- The moves that are left when one more is made. Two dots take the last move back; at the root
there is none to take back, and they stay. -/
def move (moves : List String) (next : String) : List String :=
  if next = ".." ∧ moves ≠ [] then moves.dropLast else moves ++ [next]

/-- Moves of which none takes another one back. -/
structure Normal (moves : List String) : Prop where
  isMove : ∀ next ∈ moves, IsMove next
  up_first : ".." ∉ moves.tail

theorem normal_nil : Normal [] := ⟨fun _ member => by simp at member, by simp⟩

theorem isMove_of_mem_moves {path : Path} {piece : String} (member : piece ∈ path.moves) :
    IsMove piece := by
  obtain ⟨listed, loud⟩ := List.mem_filter.mp member
  obtain ⟨characters, inside, rfl⟩ := List.mem_map.mp listed
  simp only [Bool.and_eq_true, bne_iff_ne, ne_eq] at loud
  refine ⟨loud.1, loud.2, ?_⟩
  intro slash
  rw [String.toList_ofList] at slash
  simpa using (Text.mem_split inside slash).1

theorem toList_ofMoves (moves : List String) :
    (ofMoves moves).text.toList = '/' :: ['/'].intercalate (moves.map String.toList) := by
  simp [ofMoves, Text.join, String.toList_append, String.toList_intercalate]

theorem isAbsolute_ofMoves (moves : List String) : (ofMoves moves).isAbsolute = true := by
  simp [isAbsolute, toList_ofMoves]

/-- A slash divides the pieces of a path. -/
theorem pieces_slash (left right : String) :
    (Path.mk (left ++ "/" ++ right)).pieces = (Path.mk left).pieces ++ (Path.mk right).pieces := by
  have text : (left ++ "/" ++ right).toList = left.toList ++ '/' :: right.toList := by simp
  rw [pieces, text, Text.split_append_cons rfl, List.map_append]
  rfl

theorem moves_slash (left right : String) :
    (Path.mk (left ++ "/" ++ right)).moves = (Path.mk left).moves ++ (Path.mk right).moves := by
  rw [moves, pieces_slash, List.filter_append]
  rfl

theorem pieces_join {moves : List String} (some : moves ≠ [])
    (isMove : ∀ next ∈ moves, IsMove next) : (Path.mk (Text.join "/" moves)).pieces = moves := by
  rw [pieces, Text.join, String.toList_intercalate]
  change (Text.split (· == '/') (['/'].intercalate (moves.map String.toList))).map _ = _
  rw [Text.split_intercalate (by simpa using some)]
  · simp
  · intro piece member
    obtain ⟨next, listed, rfl⟩ := List.mem_map.mp member
    exact (isMove next listed).no_slash

theorem pieces_ofMoves {moves : List String} (some : moves ≠ [])
    (isMove : ∀ next ∈ moves, IsMove next) : (ofMoves moves).pieces = "" :: moves := by
  have behind := pieces_slash "" (Text.join "/" moves)
  rw [String.empty_append, pieces_join some isMove] at behind
  exact behind

theorem moves_join_moves {moves : List String} (isMove : ∀ next ∈ moves, IsMove next) :
    (Path.mk (Text.join "/" moves)).moves = moves := by
  by_cases none : moves = []
  · rw [none]
    decide
  · rw [Path.moves, pieces_join none isMove, List.filter_eq_self]
    intro next listed
    simp [(isMove next listed).ne_empty, (isMove next listed).ne_dot]

theorem moves_ofMoves {moves : List String} (isMove : ∀ next ∈ moves, IsMove next) :
    (ofMoves moves).moves = moves := by
  have behind := moves_slash "" (Text.join "/" moves)
  rw [String.empty_append, moves_join_moves isMove] at behind
  exact behind

/-- The characters of a joined path are those of its moves, and slashes. -/
theorem mem_join {moves : List String} {c : Char} (other : c ≠ '/') :
    c ∈ (Text.join "/" moves).toList ↔ ∃ next ∈ moves, c ∈ next.toList := by
  induction moves with
  | nil => simp [Text.join]
  | cons first rest ih =>
    cases rest with
    | nil => simp [Text.join]
    | cons second rest =>
      rw [Text.join] at ih ⊢
      rw [String.intercalate_cons_cons, String.toList_append, String.toList_append]
      rw [List.mem_append, List.mem_append, ih, List.exists_mem_cons_iff _ first]
      simp [other]

theorem mem_ofMoves {moves : List String} {c : Char} (other : c ≠ '/') :
    c ∈ (ofMoves moves).text.toList ↔ ∃ next ∈ moves, c ∈ next.toList := by
  rw [← mem_join other, ofMoves, String.toList_append]
  simp [other]

/-- An absolute path has a slash in front. -/
theorem exists_slash {path : Path} (absolute : path.isAbsolute) :
    ∃ rest, path.text = "/" ++ rest := by
  obtain ⟨rest, text⟩ : ∃ rest, path.text.toList = '/' :: rest := by
    simpa [isAbsolute, List.head?_eq_some_iff] using absolute
  refine ⟨String.ofList rest, ?_⟩
  rw [← String.toList_inj, text]
  simp

theorem filterMap_inner? (pieces : List String) :
    pieces.filterMap inner? =
      (pieces.filter fun piece => piece != "" && piece != ".").map component := by
  induction pieces with
  | nil => rfl
  | cons piece rest ih =>
    by_cases silent : piece = "" ∨ piece = "."
    · rcases silent with rfl | rfl <;> simpa [inner?] using ih
    · obtain ⟨notEmpty, notDot⟩ := not_or.mp silent
      by_cases up : piece = ".."
      · simp [inner?, component, up, ih]
      · simp [inner?, component, up, notEmpty, notDot, ih]

theorem components_of_absolute {path : Path} (absolute : path.isAbsolute) :
    path.components = .root :: path.moves.map component := by
  obtain ⟨rest, text⟩ := exists_slash absolute
  have behind := pieces_slash "" rest
  rw [String.empty_append, ← text] at behind
  have pieces : path.pieces = "" :: (Path.mk rest).pieces := behind
  rw [components, moves, pieces]
  simp only [absolute, ↓reduceIte, List.singleton_append, filterMap_inner?]
  rw [List.filter_cons_of_neg (by decide)]

theorem trimPieces_eq_self {pieces : List String} (isMove : ∀ next ∈ pieces, IsMove next) :
    trimPieces pieces = pieces := by
  refine List.rdropWhile_eq_self_iff.mpr ?_
  intro some
  have last := isMove _ (List.getLast_mem some)
  simp [last.ne_empty, last.ne_dot]

theorem parent?_ofMoves {moves : List String} (isMove : ∀ next ∈ moves, IsMove next)
    (some : moves ≠ []) : (ofMoves moves).parent? = .some (ofMoves moves.dropLast) := by
  have above : ∀ next ∈ moves.dropLast, IsMove next := fun next listed =>
    isMove next (List.dropLast_subset moves listed)
  simp only [parent?, pieces_ofMoves some isMove, trimPieces_eq_self isMove,
    trimPieces_eq_self above, isAbsolute_ofMoves, List.isEmpty_iff, some, Bool.true_and, ↓reduceIte]
  split
  · next top => rw [top]; rfl
  · next below =>
    rw [Text.join, String.intercalate_cons_of_ne_nil below]
    rfl

theorem ofMoves_append_singleton {moves : List String} (some : moves ≠ []) (next : String) :
    (ofMoves (moves ++ [next])).text = (ofMoves moves).text ++ "/" ++ next := by
  simp [ofMoves, Text.join, String.intercalate_append_of_ne_nil some, String.append_assoc]

theorem getLast?_ofMoves {moves : List String} (isMove : ∀ next ∈ moves, IsMove next)
    (some : moves ≠ []) : (ofMoves moves).text.toList.getLast? ≠ .some '/' := by
  obtain ⟨before, last, rfl⟩ := List.eq_nil_or_concat moves |>.resolve_left some
  have lastMove := isMove last (by simp)
  obtain ⟨lead, ends⟩ : ∃ lead, (ofMoves (before ++ [last])).text = lead ++ last := by
    by_cases single : before = []
    · exact ⟨"/", by simp [single, ofMoves, Text.join]⟩
    · exact ⟨_, ofMoves_append_singleton single last⟩
  rw [List.concat_eq_append, ends, String.toList_append, List.getLast?_append_of_ne_nil]
  · intro slash
    exact lastMove.no_slash (List.mem_of_getLast? slash)
  · simpa using lastMove.ne_empty

/-- What is joined to a path stands behind a slash. -/
theorem join_ofMoves {moves : List String} (isMove : ∀ next ∈ moves, IsMove next) {next : Path}
    (relative : next.isAbsolute = false) :
    (ofMoves moves).join next = if moves = [] then ⟨"/" ++ next.text⟩ else
      ⟨(ofMoves moves).text ++ "/" ++ next.text⟩ := by
  split
  · next top => simp [top, join, relative, ofMoves, Text.join]
  · next some =>
    have text : (ofMoves moves).text ≠ "" := by
      intro empty
      have starts := toList_ofMoves moves
      rw [empty] at starts
      cases starts
    simp [join, relative, text, getLast?_ofMoves isMove some]

theorem isAbsolute_of_isMove {next : String} (nextMove : IsMove next) :
    (Path.mk next).isAbsolute = false := by
  simp only [isAbsolute, beq_eq_false_iff_ne, ne_eq]
  intro starts
  exact nextMove.no_slash (List.mem_of_head? starts)

/-- A name at the end is one move more. -/
theorem ofMoves_div {moves : List String} (isMove : ∀ next ∈ moves, IsMove next) {next : String}
    (nextMove : IsMove next) : ofMoves moves / next = ofMoves (moves ++ [next]) := by
  change (ofMoves moves).join ⟨next⟩ = _
  rw [join_ofMoves isMove (isAbsolute_of_isMove nextMove)]
  split
  · next top => simp [top, ofMoves, Text.join]
  · next some => rw [← ofMoves_append_singleton some next]

theorem advance_ofMoves {moves : List String} (isMove : ∀ next ∈ moves, IsMove next) {next : String}
    (nextMove : IsMove next) :
    (ofMoves moves).advance (component next) = ofMoves (move moves next) := by
  by_cases up : next = ".."
  · subst up
    by_cases top : moves = []
    · subst top
      decide
    · simp [component, advance, parent?_ofMoves isMove top, move, top]
  · simp only [component, up, ↓reduceIte, advance, Component.text, move, false_and]
    exact ofMoves_div isMove nextMove

theorem isMove_move {moves : List String} (isMove : ∀ next ∈ moves, IsMove next) {next : String}
    (nextMove : IsMove next) : ∀ kept ∈ move moves next, IsMove kept := by
  intro kept member
  unfold move at member
  split at member
  · exact isMove kept (List.dropLast_subset moves member)
  · rcases List.mem_append.mp member with earlier | last
    · exact isMove kept earlier
    · exact List.mem_singleton.mp last ▸ nextMove

/-- Components that are carried out one after another carry their moves out, on any kind of path
that a single one does. -/
theorem foldl_advance {make : List String → Path}
    (advance_make : ∀ {moves : List String}, (∀ next ∈ moves, IsMove next) → ∀ {next : String},
      IsMove next → (make moves).advance (component next) = make (move moves next))
    {todo : List String} (todoMove : ∀ next ∈ todo, IsMove next)
    {moves : List String} (isMove : ∀ next ∈ moves, IsMove next) :
    (todo.map component).foldl advance (make moves) = make (todo.foldl move moves) := by
  induction todo generalizing moves with
  | nil => rfl
  | cons next rest ih =>
    have nextMove := todoMove next List.mem_cons_self
    simp only [List.map_cons, List.foldl_cons, advance_make isMove nextMove]
    exact ih (fun later member => todoMove later (List.mem_cons_of_mem next member))
      (isMove_move isMove nextMove)

/-- Normalizing an absolute path carries its moves out. -/
theorem normalize_eq {path : Path} (absolute : path.isAbsolute) :
    path.normalize = ofMoves (path.moves.foldl move []) := by
  rw [normalize, components_of_absolute absolute]
  exact foldl_advance advance_ofMoves (fun _ member => isMove_of_mem_moves member) normal_nil.isMove

theorem Normal.move {moves : List String} (normal : Normal moves) {next : String}
    (nextMove : IsMove next) : Normal (move moves next) := by
  refine ⟨isMove_move normal.isMove nextMove, ?_⟩
  unfold Path.move
  split
  · intro up
    exact normal.up_first ((List.dropLast_sublist moves).tail.subset up)
  · next kept =>
    cases moves with
    | nil => simp
    | cons first rest =>
      have down : next ≠ ".." := by simpa using kept
      have upFirst := normal.up_first
      simp only [List.tail_cons] at upFirst
      simp [upFirst, down.symm]

theorem normal_foldl {todo : List String} (todoMove : ∀ next ∈ todo, IsMove next)
    {moves : List String} (normal : Normal moves) : Normal (todo.foldl move moves) := by
  induction todo generalizing moves with
  | nil => exact normal
  | cons next rest ih =>
    exact ih (fun later member => todoMove later (List.mem_cons_of_mem next member))
      (normal.move (todoMove next List.mem_cons_self))

/-- Normal moves leave nothing to carry out. -/
theorem Normal.foldl_eq {start todo : List String} (normal : Normal (start ++ todo)) :
    todo.foldl Path.move start = start ++ todo := by
  induction todo generalizing start with
  | nil => simp
  | cons next rest ih =>
    have step : Path.move start next = start ++ [next] := by
      refine if_neg ?_
      rintro ⟨rfl, some⟩
      obtain ⟨first, others, rfl⟩ := List.exists_cons_of_ne_nil some
      exact normal.up_first (by simp)
    rw [List.foldl_cons, step, ih (by simpa using normal)]
    simp

theorem Normal.foldl_self {moves : List String} (normal : Normal moves) :
    moves.foldl Path.move [] = moves := by
  have whole : Normal ([] ++ moves) := normal
  exact whole.foldl_eq

/-- Two dots take back as many moves as there are of them. -/
theorem foldl_up (moves : List String) (count : Nat) (few : count ≤ moves.length) :
    (List.replicate count "..").foldl move moves = moves.take (moves.length - count) := by
  induction count generalizing moves with
  | zero => simp
  | succ count ih =>
    have some : moves ≠ [] := by
      rintro rfl
      simp at few
    have back : move moves ".." = moves.dropLast := if_pos ⟨rfl, some⟩
    rw [List.replicate_succ, List.foldl_cons, back, ih _ (by rw [List.length_dropLast]; omega)]
    rw [List.dropLast_eq_take, List.take_take, List.length_take]
    congr 1
    omega

/-- A relative path that is joined to another one adds its moves. -/
theorem moves_join (path : Path) {next : Path} (relative : next.isAbsolute = false) :
    (path.join next).moves = path.moves ++ next.moves := by
  by_cases empty : path.text = ""
  · have joined : path.join next = next := by simp [join, relative, empty]
    have none : path.moves = [] := by
      rw [moves, pieces, empty]
      decide
    rw [joined, none, List.nil_append]
  · by_cases slash : path.text.toList.getLast? = some '/'
    · obtain ⟨before, characters⟩ := List.getLast?_eq_some_iff.mp slash
      have text : path.text = String.ofList before ++ "/" := by
        rw [← String.toList_inj, characters]
        simp
      have joined : path.join next = ⟨String.ofList before ++ "/" ++ next.text⟩ := by
        simp [join, relative, text]
      have ending := moves_slash (String.ofList before) ""
      rw [String.append_empty, ← text] at ending
      rw [joined, moves_slash, ending]
      simp [moves, pieces, Text.split]
    · have joined : path.join next = ⟨path.text ++ "/" ++ next.text⟩ := by
        simp [join, relative, slash, empty]
      rw [joined, moves_slash]

/-- A relative path that is joined to another one does not change where it starts. -/
theorem isAbsolute_join_eq (path : Path) {next : Path} (relative : next.isAbsolute = false) :
    (path.join next).isAbsolute = path.isAbsolute := by
  by_cases empty : path.text = ""
  · have joined : path.join next = next := by simp [join, relative, empty]
    rw [joined, relative]
    simp [isAbsolute, empty]
  · obtain ⟨first, others, text⟩ :=
      List.exists_cons_of_ne_nil (show path.text.toList ≠ [] by simpa using empty)
    unfold join
    simp only [relative, Bool.false_eq_true, ↓reduceIte]
    split <;> simp [isAbsolute, text, String.toList_append]

end SourceTrace.Path
