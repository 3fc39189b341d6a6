import SourceTrace.Proofs.Path.Relative
import SourceTrace.Source

/-!
# Renaming a source keeps the file it names

A source that is renamed for a map in another directory is written as a path from that directory.
Between absolute directories in normal form the new text names the same file as the old one, unless
a colon or a backslash in a path makes the text mean something else.
-/
namespace SourceTrace

namespace Url

/-- The text of a file URL's target starts with a slash: the first byte is no escape and makes a
character of its own. -/
theorem FilePath.target_isAbsolute (path : FilePath) : path.target.isAbsolute := by
  have slash : ∀ text, Text.Utf8.encode ('/' :: text) = 0x2f :: Text.Utf8.encode text := by
    intro text
    rfl
  have kept : ∀ bytes, Percent.decode (0x2f :: bytes) = 0x2f :: Percent.decode bytes := by
    intro bytes
    rfl
  have first : ∀ bytes, Text.Utf8.decodeLossy (0x2f :: bytes) =
      String.ofList ('/' :: Text.Utf8.lossyFrom 0 bytes) := by
    intro bytes
    rfl
  simp [FilePath.target, slash, kept, first, Path.isAbsolute]

theorem isAbsolute_of_readHosted {text : List Char} {path : Path}
    (file : readHosted text = .file path) : path.isAbsolute := by
  simp only [readHosted] at file
  split at file
  · exact Reading.file.inj file ▸ FilePath.target_isAbsolute _
  · split at file
    · exact Reading.file.inj file ▸ FilePath.target_isAbsolute _
    · split at file
      · cases file
      · exact Reading.file.inj file ▸ FilePath.target_isAbsolute _
      · split at file
        · exact Reading.file.inj file ▸ FilePath.target_isAbsolute _
        · cases file

theorem isAbsolute_of_readFile {text : List Char} {path : Path}
    (file : readFile text = .file path) : path.isAbsolute := by
  unfold readFile at file
  split at file
  · exact Reading.file.inj file ▸ FilePath.target_isAbsolute _
  · split at file
    · exact Reading.file.inj file ▸ FilePath.target_isAbsolute _
    · exact isAbsolute_of_readHosted file

/-- A file URL names an absolute path. -/
theorem isAbsolute_of_read {text : String} {path : Path} (file : read text = .file path) :
    path.isAbsolute := by
  unfold read at file
  split at file
  · cases file
  · split at file
    · cases file
    · split at file
      · exact isAbsolute_of_readFile file
      · simp only at file
        split at file
        · split at file <;> cases file
        · split at file
          · split at file <;> cases file
          · cases file

theorem schemeFrom_eq_none {text : List Char} (free : ':' ∉ text) (read : List Char) :
    schemeFrom read text = none := by
  induction text generalizing read with
  | nil => rfl
  | cons c rest ih =>
    obtain ⟨notColon, restFree⟩ := not_or.mp (fun member => free (List.mem_cons.mpr member))
    have other : (c == ':') = false := beq_eq_false_iff_ne.mpr (Ne.symm notColon)
    simp [schemeFrom, other, ih restFree]

/-- A text without a colon is no URL. -/
theorem read_eq_plain {text : String} (free : ':' ∉ text.toList) : read text = .plain := by
  have trimmed : ':' ∉ trim text.toList := by
    intro member
    have inner := (List.dropWhile_suffix _).subset (List.mem_reverse.mp member)
    exact free ((List.dropWhile_suffix _).subset (List.mem_reverse.mp inner))
  rw [read, scheme?, schemeFrom_eq_none trimmed]

end Url

namespace Source

open SourceTrace.Path (IsMove Normal withMoves)

/-- A path without the characters that the text of a source gives another meaning. -/
structure Plain (path : Path) : Prop where
  no_colon : ':' ∉ path.text.toList
  no_backslash : '\\' ∉ path.text.toList

/-- Without backslashes the steps are the pieces that are not empty. -/
theorem steps_eq {path : Path} (free : '\\' ∉ path.text.toList) :
    steps path.text = path.pieces.filter fun piece => piece != "" := by
  have slashes : Text.split (fun c => c == '/' || c == '\\') path.text.toList =
      Text.split (· == '/') path.text.toList := by
    refine Text.split_congr ?_
    intro c member
    have other : c ≠ '\\' := fun same => free (same ▸ member)
    simp [other]
  have nonempty : (fun piece : List Char => !piece.isEmpty) =
      (fun piece => piece != "") ∘ String.ofList := by
    funext piece
    cases piece with
    | nil => rfl
    | cons c rest => simp [bne, String.ofList_eq_empty_iff]
  rw [steps, slashes, Path.pieces, List.filter_map, nonempty]

/-- The steps of a path are its moves. Whether it starts at the root does not show in them. -/
theorem steps_withMoves {moves : List String} (isMove : ∀ next ∈ moves, IsMove next)
    (rooted : Bool) (free : '\\' ∉ (withMoves rooted moves).text.toList) :
    steps (withMoves rooted moves).text = moves := by
  have filled : (moves.filter fun piece => piece != "") = moves :=
    List.filter_eq_self.mpr fun next listed => by simpa using (isMove next listed).ne_empty
  rw [steps_eq free]
  by_cases none : moves = []
  · subst none
    cases rooted <;> decide
  · cases rooted with
    | true =>
      have pieces : (withMoves true moves).pieces = "" :: moves := Path.pieces_ofMoves none isMove
      rw [pieces, List.filter_cons_of_neg (by decide), filled]
    | false =>
      have pieces : (withMoves false moves).pieces = moves := Path.pieces_join none isMove
      rw [pieces, filled]

theorem take_sharedLength (left right : List String) :
    left.take (sharedLength left right) = right.take (sharedLength left right) := by
  fun_induction sharedLength left right with
  | case1 a left right ih => simp [ih]
  | case2 => rfl
  | case3 => rfl

theorem sharedLength_le (left right : List String) : sharedLength left right ≤ right.length := by
  fun_induction sharedLength left right with
  | case1 a left right ih => simpa using ih
  | case2 => exact Nat.zero_le _
  | case3 => exact Nat.zero_le _

theorem moves_ups (count : Nat) (text : String) :
    (Path.mk (String.join (List.replicate count "../") ++ text)).moves =
      List.replicate count ".." ++ (Path.mk text).moves := by
  induction count with
  | zero => simp
  | succ count ih =>
    have up : (Path.mk "..").moves = [".."] := by decide
    have first := Path.moves_slash ".." (String.join (List.replicate count "../") ++ text)
    rw [up, ih] at first
    rw [List.replicate_succ, String.join_cons, String.append_assoc]
    exact first

/-- A text for the path from one directory to a file: up to what both share, then down. -/
structure Leads (start goal : List String) (text : String) : Prop where
  moves_eq : (Path.mk text).moves = List.replicate (start.length - sharedLength goal start) ".." ++
    goal.drop (sharedLength goal start)
  ne_empty : text ≠ ""
  relative : (Path.mk text).isAbsolute = false
  no_colon : ':' ∉ text.toList

theorem ups_no_colon (count : Nat) :
    ':' ∉ (String.join (List.replicate count "../")).toList := by
  simp [String.toList_join]

theorem isAbsolute_ups (count : Nat) {moves : List String} (isMove : ∀ next ∈ moves, IsMove next) :
    (Path.mk (String.join (List.replicate count "../") ++ Text.join "/" moves)).isAbsolute =
      false := by
  cases count with
  | succ count =>
    rw [List.replicate_succ, String.join_cons, String.append_assoc]
    simp [Path.isAbsolute]
  | zero =>
    rw [List.replicate_zero, String.join_nil, String.empty_append]
    exact Path.isAbsolute_along isMove

theorem relative_leads {start goal : List String} (startMove : ∀ next ∈ start, IsMove next)
    (goalMove : ∀ next ∈ goal, IsMove next) (startRooted goalRooted : Bool)
    (startFree : '\\' ∉ (withMoves startRooted start).text.toList)
    (goalPlain : Plain (withMoves goalRooted goal)) :
    Leads start goal
      (relative (withMoves startRooted start / "_").text (withMoves goalRooted goal).text) := by
  have line : IsMove "_" := ⟨by decide, by decide, by decide⟩
  have fileMove : ∀ next ∈ start ++ ["_"], IsMove next := by
    intro next listed
    rcases List.mem_append.mp listed with earlier | last
    · exact startMove next earlier
    · exact List.mem_singleton.mp last ▸ line
  have fileFree : '\\' ∉ (withMoves startRooted (start ++ ["_"])).text.toList := by
    rw [Path.mem_withMoves (by decide)] at startFree ⊢
    rintro ⟨next, listed, backslash⟩
    rcases List.mem_append.mp listed with earlier | last
    · exact startFree ⟨next, earlier, backslash⟩
    · rw [List.mem_singleton.mp last] at backslash
      revert backslash
      decide
  have downMove : ∀ next ∈ goal.drop (sharedLength goal start), IsMove next := fun next listed =>
    goalMove next (List.mem_of_mem_drop listed)
  simp only [relative, Path.withMoves_div startMove line, steps_withMoves fileMove _ fileFree,
    steps_withMoves goalMove _ goalPlain.no_backslash, List.dropLast_concat]
  have moves := moves_ups (start.length - sharedLength goal start)
    (Text.join "/" (goal.drop (sharedLength goal start)))
  rw [Path.moves_join_moves downMove] at moves
  split
  · next empty =>
    rw [eq_of_beq empty] at moves
    exact ⟨Eq.trans (by decide) moves, by decide, by decide, by decide⟩
  · next some =>
    refine ⟨moves, by simpa using some, isAbsolute_ups _ downMove, ?_⟩
    rw [String.toList_append, List.mem_append, Path.mem_join (by decide)]
    rintro (up | ⟨next, listed, colon⟩)
    · exact ups_no_colon _ up
    · exact goalPlain.no_colon ((Path.mem_withMoves (by decide)).mpr
        ⟨next, List.mem_of_mem_drop listed, colon⟩)

/-- Going back from a directory to what it shares with a file and then down leads to the file. -/
theorem foldl_move_relative {start goal : List String} (startNormal : Normal start)
    (goalNormal : Normal goal) :
    (start ++ (List.replicate (start.length - sharedLength goal start) ".." ++
      goal.drop (sharedLength goal start))).foldl Path.move [] = goal := by
  have shared := sharedLength_le goal start
  rw [List.foldl_append, List.foldl_append, startNormal.foldl_self,
    Path.foldl_up start _ (Nat.sub_le _ _)]
  rw [Nat.sub_sub_self shared, ← take_sharedLength]
  rw [Normal.foldl_eq (by rwa [List.take_append_drop]), List.take_append_drop]

theorem isAbsolute_eq_false {text : String} (relative : (Path.mk text).isAbsolute = false)
    (free : ':' ∉ text.toList) : isAbsolute text = false := by
  unfold isAbsolute
  split
  · next same => simp [Path.isAbsolute, same] at relative
  · next same => simp [same] at free
  · rfl

/-- An absolute directory in normal form, written with slashes only. -/
structure Anchored (dir : Path) : Prop where
  absolute : dir.isAbsolute
  normal : dir.normalize = dir
  no_backslash : '\\' ∉ dir.text.toList

/-- Between a directory and a file in normal form the relative text leads the way. -/
theorem relative_leads_of_normal {dir path : Path} (dirNormal : dir.normalize = dir)
    (no_backslash : '\\' ∉ dir.text.toList) (normal : path.normalize = path) (plain : Plain path) :
    Leads dir.moves path.moves (relative (dir / "_").text path.text) := by
  obtain ⟨startNormal, dirEq⟩ := Path.normal_of_normalize_eq dirNormal
  obtain ⟨goalNormal, pathEq⟩ := Path.normal_of_normalize_eq normal
  have leads := relative_leads startNormal.isMove goalNormal.isMove dir.isAbsolute path.isAbsolute
    (dirEq.symm ▸ no_backslash) (pathEq.symm ▸ plain)
  rwa [dirEq, pathEq] at leads

/-- The text that leads from a directory to a file makes the moves of the file there. Whether the
file was absolute does not show in it. -/
theorem resolve?_relative {dir path : Path} (dirNormal : dir.normalize = dir)
    (no_backslash : '\\' ∉ dir.text.toList) (normal : path.normalize = path) (plain : Plain path) :
    resolve? (some dir) (relative (dir / "_").text path.text) =
      some (withMoves dir.isAbsolute path.moves) := by
  have leads := relative_leads_of_normal dirNormal no_backslash normal plain
  have start := (Path.normal_of_normalize_eq dirNormal).1
  have goal := (Path.normal_of_normalize_eq normal).1
  generalize relative (dir / "_").text path.text = text at leads
  have joined : (dir.join ⟨text⟩).normalize = withMoves dir.isAbsolute path.moves := by
    rw [Path.normalize_eq_withMoves, Path.isAbsolute_join_eq dir leads.relative,
      Path.moves_join dir leads.relative, leads.moves_eq, foldl_move_relative start goal]
  simp [resolve?, leads.ne_empty, Url.read_eq_plain leads.no_colon, resolvePlain?,
    isAbsolute_eq_false leads.relative leads.no_colon, joined]

/-- The text that leads from a directory to a file is never absolute. -/
theorem isAbsolute_relative {dir path : Path} (dirNormal : dir.normalize = dir)
    (no_backslash : '\\' ∉ dir.text.toList) (normal : path.normalize = path) (plain : Plain path) :
    isAbsolute (relative (dir / "_").text path.text) = false := by
  have leads := relative_leads_of_normal dirNormal no_backslash normal plain
  exact isAbsolute_eq_false leads.relative leads.no_colon

theorem path_isAbsolute_eq_false {source : String} (relative : isAbsolute source = false) :
    (Path.mk source).isAbsolute = false := by
  by_contra absolute
  rw [Bool.not_eq_false] at absolute
  obtain ⟨rest, text⟩ := Path.exists_slash absolute
  have same : source = "/" ++ rest := text
  simp [isAbsolute, same] at relative

/-- The file that a source names that is no absolute path: the one of a file URL, or one that starts
where the directory starts. It is in normal form. -/
theorem resolve?_cases {dir path : Path} {source : String} (relative : isAbsolute source = false)
    (named : resolve? (some dir) source = some path) :
    path.normalize = path ∧
      ((∃ file, Url.read source = .file file) ∧ path.isAbsolute ∨
        Url.read source = .plain ∧ path.isAbsolute = dir.isAbsolute) := by
  unfold resolve? at named
  split at named
  · cases named
  · split at named
    · next file reading =>
      cases named
      rw [Path.normalize_normalize, Path.isAbsolute_normalize]
      exact ⟨rfl, .inl ⟨⟨file, reading⟩, Url.isAbsolute_of_read reading⟩⟩
    · cases named
    · next reading =>
      have joined : (dir.join ⟨source⟩).normalize = path := by
        simpa [resolvePlain?, relative] using named
      rw [← joined, Path.normalize_normalize, Path.isAbsolute_normalize,
        Path.isAbsolute_join_eq dir (path_isAbsolute_eq_false relative)]
      exact ⟨rfl, .inr ⟨reading, rfl⟩⟩

/-- What an absolute source or one that names no file means does not depend on the directory. -/
theorem resolve?_of_absolute {source : String} (absolute : isAbsolute source)
    (left right : Option Path) : resolve? left source = resolve? right source := by
  unfold resolve?
  split
  · rfl
  · split <;> simp [resolvePlain?, absolute]

theorem resolve?_eq_none {left : Path} {source : String}
    (nothing : resolve? (some left) source = none) (right : Option Path) :
    resolve? right source = none := by
  by_cases empty : source = ""
  · simp [resolve?, empty]
  · cases reading : Url.read source with
    | foreign => simp [resolve?, reading]
    | file path => simp [resolve?, empty, reading] at nothing
    | plain =>
      by_cases absolute : isAbsolute source
      · simp [resolve?, empty, reading, resolvePlain?, absolute] at nothing
      · simp [resolve?, empty, reading, resolvePlain?, absolute] at nothing

/-- A renamed source names, from the new directory, the file that it named before, unless it was
renamed to a relative text: then it makes the moves of that file. -/
theorem resolve?_rebase_eq {origin target : Path} (normal : target.normalize = target)
    (no_backslash : '\\' ∉ target.text.toList) {source : String}
    (plain : ∀ path, resolve? (some origin) source = some path → Plain path) :
    resolve? (some target) (rebase source (some origin) (some target)) =
      (resolve? (some origin) source).map fun path =>
        if isAbsolute source then path else withMoves target.isAbsolute path.moves := by
  cases named : resolve? (some origin) source with
  | none =>
    simp only [rebase, named]
    exact resolve?_eq_none named _
  | some path =>
    simp only [rebase, named, Option.map_some]
    split
    · next absoluteSource => rw [← named, resolve?_of_absolute absoluteSource]
    · next relativeSource =>
      have pathNormal := (resolve?_cases (by simpa using relativeSource) named).1
      exact resolve?_relative normal no_backslash pathNormal (plain path named)

/-- Renaming keeps the file that a source names. -/
theorem resolve?_rebase {origin target : Path} (absolute : origin.isAbsolute)
    (anchored : Anchored target) {source : String}
    (plain : ∀ path, resolve? (some origin) source = some path → Plain path) :
    resolve? (some target) (rebase source (some origin) (some target)) =
      resolve? (some origin) source := by
  rw [resolve?_rebase_eq anchored.normal anchored.no_backslash plain]
  cases named : resolve? (some origin) source with
  | none => rfl
  | some path =>
    rw [Option.map_some]
    split
    · rfl
    · next relativeSource =>
      obtain ⟨pathNormal, starts⟩ := resolve?_cases (by simpa using relativeSource) named
      have pathAbsolute : path.isAbsolute := by
        rcases starts with ⟨-, rooted⟩ | ⟨-, alike⟩
        · exact rooted
        · rw [alike, absolute]
      have same := (Path.normal_of_normalize_eq pathNormal).2
      rw [anchored.absolute, ← pathAbsolute, same]

/-- Renaming a source for one directory and then for another is renaming it for the second. -/
theorem rebase_rebase {origin middle target : Path} (absolute : origin.isAbsolute)
    (anchored : Anchored middle) {source : String}
    (plain : ∀ path, resolve? (some origin) source = some path → Plain path) :
    rebase (rebase source (some origin) (some middle)) (some middle) (some target) =
      rebase source (some origin) (some target) := by
  have kept := resolve?_rebase absolute anchored plain
  cases named : resolve? (some origin) source with
  | none =>
    have same : rebase source (some origin) (some middle) = source := by simp [rebase, named]
    rw [same]
    simp [rebase, named, resolve?_eq_none named]
  | some path =>
    rw [named] at kept
    by_cases absoluteSource : isAbsolute source
    · have same : rebase source (some origin) (some middle) = source := by
        simp [rebase, named, absoluteSource]
      rw [same] at kept ⊢
      simp [rebase, named, absoluteSource, kept]
    · have relativeSource : isAbsolute source = false := by simpa using absoluteSource
      have pathNormal := (resolve?_cases relativeSource named).1
      have renamed : rebase source (some origin) (some middle) =
          relative (middle / "_").text path.text := by simp [rebase, named, relativeSource]
      have still := isAbsolute_relative anchored.normal anchored.no_backslash pathNormal
        (plain path named)
      rw [renamed] at kept ⊢
      simp [rebase, named, kept, relativeSource, still]

/-- A source that is renamed for another directory still names the file that it named, and renaming
it once more is renaming it for the last directory at once. -/
theorem rebase_keeps_file {origin middle : Path} (absolute : origin.isAbsolute)
    (anchored : Anchored middle) {source : String}
    (plain : ∀ path, resolve? (some origin) source = some path → Plain path) :
    resolve? (some middle) (rebase source (some origin) (some middle)) =
      resolve? (some origin) source ∧
    ∀ target : Path,
      rebase (rebase source (some origin) (some middle)) (some middle) (some target) =
        rebase source (some origin) (some target) :=
  ⟨resolve?_rebase absolute anchored plain, fun _ => rebase_rebase absolute anchored plain⟩

/-- A source that climbs past the root, which two dots at the root do not leave. -/
theorem rebase_keeps_file_past_root :
    let source := rebase "../../../src/a.js" (some ⟨"/w/out"⟩) (some ⟨"/w/chain/out"⟩)
    source = "../../../../src/a.js" ∧
      resolve? (some ⟨"/w/chain/out"⟩) source = some ⟨"/../src/a.js"⟩ ∧
      rebase source (some ⟨"/w/chain/out"⟩) (some ⟨"/w"⟩) =
        rebase "../../../src/a.js" (some ⟨"/w/out"⟩) (some ⟨"/w"⟩) := by
  intro source
  have named : resolve? (some ⟨"/w/out"⟩) "../../../src/a.js" = some ⟨"/../src/a.js"⟩ := by decide
  have anchored : Anchored ⟨"/w/chain/out"⟩ := ⟨by decide, by decide, by decide⟩
  have plain : ∀ path, resolve? (some ⟨"/w/out"⟩) "../../../src/a.js" = some path → Plain path := by
    intro path same
    rw [named, Option.some.injEq] at same
    exact same ▸ ⟨by decide, by decide⟩
  obtain ⟨kept, onward⟩ := rebase_keeps_file (by decide) anchored plain
  exact ⟨by decide, kept.trans named, onward ⟨"/w"⟩⟩

/-- Two directories between which sources can be renamed: neither is known, or both are anchored. -/
inductive Compatible : Option Path → Option Path → Prop
  | unknown : Compatible none none
  | anchored {left right : Path} (first : Anchored left) (second : Anchored right) :
      Compatible (some left) (some right)

theorem Compatible.symm {left right : Option Path} (compatible : Compatible left right) :
    Compatible right left := by
  cases compatible with
  | unknown => exact .unknown
  | anchored first second => exact .anchored second first

theorem Compatible.trans {left middle right : Option Path} (first : Compatible left middle)
    (second : Compatible middle right) : Compatible left right := by
  cases first with
  | unknown => exact second
  | anchored leftAnchored _ =>
    cases second with
    | anchored _ rightAnchored => exact .anchored leftAnchored rightAnchored

/-- Two sources, each seen from the directory of its map, that mean the same: they name one file, or
they name none and have the same text. Without directories only the text counts. -/
structure Same (left : Option Path) (source : String) (right : Option Path) (other : String) :
    Prop where
  compatible : Compatible left right
  file_eq : resolve? left source = resolve? right other
  text_eq : resolve? left source = none → source = other
  unknown_eq : left = none → source = other
  plain : left ≠ none → ∀ path, resolve? left source = some path → Plain path

theorem Same.key_eq {left right : Option Path} {source other : String}
    (same : Same left source right other) : key left source = key right other := by
  unfold key
  rw [← same.file_eq]
  cases named : resolve? left source with
  | none => exact same.text_eq named
  | some path => rfl

theorem Same.self_right {left right : Option Path} {source other : String}
    (same : Same left source right other) : Same right other right other where
  compatible := same.compatible.symm.trans same.compatible
  file_eq := rfl
  text_eq _ := rfl
  unknown_eq _ := rfl
  plain known path named := by
    refine same.plain ?_ path (same.file_eq.trans named)
    rintro rfl
    cases same.compatible
    exact known rfl

/-- A renamed source means what it meant before. -/
theorem Same.rebase {origin target right : Option Path} {source other : String}
    (same : Same origin source right other) (compatible : Compatible origin target) :
    Same target (Source.rebase source origin target) right other := by
  cases compatible with
  | unknown => exact same
  | @anchored originDir targetDir first second =>
    have plain := same.plain (by simp)
    have kept := resolve?_rebase first.absolute second plain
    refine ⟨(Compatible.anchored second first).trans same.compatible, kept.trans same.file_eq, ?_,
      by simp, ?_⟩
    · intro nothing
      rw [kept] at nothing
      rw [Source.rebase, nothing]
      exact same.text_eq nothing
    · intro _ path named
      exact plain path (kept ▸ named)

end Source

end SourceTrace
