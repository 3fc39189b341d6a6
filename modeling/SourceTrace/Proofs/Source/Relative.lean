import SourceTrace.Proofs.Source.Rebase

/-!
# Renaming between relative directories

A map may lie in a relative directory, as when its artifact was given by a relative path. Relative
sources are renamed between such directories as between absolute ones, and absolute sources stay as
they are. The file of a `file:` URL is absolute although its source is not spelled as an absolute
path. The source is renamed, and the text that leads from a relative directory to an absolute file
names another file: the relative one with the same names.
-/
namespace SourceTrace

namespace Url

theorem rdropWhile_cons {α : Type} {p : α → Bool} {a : α} (stays : ¬ p a) (rest : List α) :
    (a :: rest).rdropWhile p = a :: rest.rdropWhile p := by
  simp only [List.rdropWhile, List.reverse_cons, List.dropWhile_append]
  split
  · next none =>
    rw [List.isEmpty_iff] at none
    simp [none, stays]
  · simp

/-- A character that is trimmed off a URL. -/
def isPadding (c : Char) : Bool := c.toNat ≤ 0x20

/-- What starts with something else is trimmed at its end only. -/
theorem trim_cons {c : Char} (bare : ¬ isPadding c) (rest : List Char) :
    trim (c :: rest) = c :: rest.rdropWhile isPadding := by
  change ((c :: rest).dropWhile isPadding).rdropWhile isPadding = _
  rw [List.dropWhile_cons_of_neg bare, rdropWhile_cons bare]

/-- A letter in front of a colon is a scheme of its own. -/
theorem schemeFrom_letter {letter : Char} (alpha : letter.isAlpha) (rest : List Char) :
    schemeFrom [] (letter :: ':' :: rest) = some (String.ofList [letter.toLower], rest) := by
  have seen : isIgnored letter = false := by
    by_contra ignored
    rw [Bool.not_eq_false] at ignored
    simp only [isIgnored, Bool.or_eq_true, beq_iff_eq] at ignored
    rcases ignored with (rfl | rfl) | rfl <;> revert alpha <;> decide
  have other : (letter == ':') = false := by
    rw [beq_eq_false_iff_ne]
    rintro rfl
    revert alpha
    decide
  have colon : isIgnored ':' = false := by decide
  simp [schemeFrom, seen, other, alpha, colon]

theorem not_isPadding_of_le {first letter : Char} (visible : 0x20 < first.toNat)
    (behind : first.val ≤ letter.val) : ¬ isPadding letter := by
  rw [isPadding, decide_eq_true_eq, Nat.not_le]
  exact Nat.lt_of_lt_of_le visible (UInt32.le_iff_toNat_le.mp behind)

theorem not_isPadding_of_isAlpha {letter : Char} (alpha : letter.isAlpha) :
    ¬ isPadding letter := by
  rcases Bool.or_eq_true_iff.mp alpha with upper | lower
  · have range := of_decide_eq_true upper
    exact not_isPadding_of_le (show 0x20 < 'A'.toNat by decide) range.1
  · have behind := of_decide_eq_true (Bool.and_eq_true_iff.mp lower).1
    exact not_isPadding_of_le (show 0x20 < 'a'.toNat by decide) behind

/-- An absolute path is no URL: a slash starts no scheme, and a drive letter alone is none. -/
theorem read_of_absolute {source : String} (absolute : Source.isAbsolute source) :
    read source = .plain := by
  unfold Source.isAbsolute at absolute
  split at absolute
  · next rest text =>
    have none : schemeFrom [] ('/' :: rest.rdropWhile isPadding) = none := rfl
    rw [read, text, trim_cons (by decide), scheme?, none]
  · next letter slash second rest _ text =>
    rw [Bool.and_eq_true] at absolute
    have colon : (':' :: slash :: second :: rest).rdropWhile isPadding = _ :=
      rdropWhile_cons (by decide) _
    rw [read, text, trim_cons (not_isPadding_of_isAlpha absolute.1), colon, scheme?,
      schemeFrom_letter absolute.1]
    simp
  · cases absolute

end Url

namespace Source

open SourceTrace.Path (withMoves)

/-- A relative directory in normal form, written with slashes only. -/
structure Floating (dir : Path) : Prop where
  relative : dir.isAbsolute = false
  normal : dir.normalize = dir
  no_backslash : '\\' ∉ dir.text.toList

/-- The file of a file URL is the same from every directory, and the URL is not spelled as an
absolute path. -/
theorem resolve?_of_file {source : String} {file : Path} (reading : Url.read source = .file file)
    (base : Option Path) :
    resolve? base source = some file.normalize ∧ isAbsolute source = false := by
  constructor
  · have filled : source ≠ "" := by
      rintro rfl
      have none : Url.read "" = .plain := by decide
      rw [none] at reading
      cases reading
    simp [resolve?, filled, reading]
  · by_contra absolute
    rw [Bool.not_eq_false] at absolute
    rw [Url.read_of_absolute absolute] at reading
    cases reading

/-- Between relative directories a source keeps the file it names exactly if it is no `file:` URL of
a file. From the new directory the text of such a URL names the relative path that the file becomes
without the slash at its start. -/
theorem resolve?_rebase_relative_iff {origin target : Path}
    (originRelative : origin.isAbsolute = false) (floating : Floating target) {source : String}
    (plain : ∀ path, resolve? (some origin) source = some path → Plain path) :
    (resolve? (some target) (rebase source (some origin) (some target)) =
      resolve? (some origin) source ↔ ∀ file, Url.read source ≠ .file file) ∧
    ∀ file, Url.read source = .file file → ∃ other : Path,
      file.normalize.text = "/" ++ other.text ∧
      resolve? (some target) (rebase source (some origin) (some target)) = some other := by
  rw [resolve?_rebase_eq floating.normal floating.no_backslash plain, floating.relative]
  by_cases ofFile : ∃ file, Url.read source = .file file
  · obtain ⟨file, reading⟩ := ofFile
    obtain ⟨named, spelled⟩ := resolve?_of_file reading (some origin)
    obtain ⟨normal, rooted⟩ := Path.normal_of_normalize_eq file.normalize_normalize
    have absolute : file.normalize.isAbsolute := by
      rw [Path.isAbsolute_normalize]
      exact Url.isAbsolute_of_read reading
    have relative := Path.isAbsolute_withMoves normal.isMove false
    rw [absolute] at rooted
    -- The file starts at the root. The renamed source makes its moves, but not from there.
    simp only [named, spelled, Option.map_some, Bool.false_eq_true, ↓reduceIte, Option.some.injEq]
    refine ⟨⟨?_, fun noFile => absurd reading (noFile file)⟩, ?_⟩
    · intro same
      rw [same, absolute] at relative
      cases relative
    · rintro other again
      rw [reading, Url.Reading.file.injEq] at again
      subst again
      have text := Path.text_withMoves file.normalize.moves
      rw [rooted] at text
      exact ⟨_, text, rfl⟩
  · have noFile : ∀ file, Url.read source ≠ .file file := fun file reading =>
      ofFile ⟨file, reading⟩
    refine ⟨iff_of_true ?_ noFile, fun file reading => absurd reading (noFile file)⟩
    cases named : resolve? (some origin) source with
    | none => rfl
    | some path =>
      rw [Option.map_some]
      split
      · rfl
      · next relativeSource =>
        obtain ⟨normal, starts⟩ := resolve?_cases (by simpa using relativeSource) named
        -- A source that is renamed and comes from no URL starts where its directory does.
        have relative : path.isAbsolute = false := by
          rcases starts with ⟨rooted, -⟩ | ⟨-, alike⟩
          · exact absurd rooted ofFile
          · rw [alike, originRelative]
        rw [← relative, (Path.normal_of_normalize_eq normal).2]

/-- A source above its directory, renamed between two relative directories. -/
theorem resolve?_rebase_between_relative :
    rebase "../src/./a.js" (some ⟨"out"⟩) (some ⟨"chain/out"⟩) = "../../src/a.js" ∧
    resolve? (some ⟨"chain/out"⟩) (rebase "../src/./a.js" (some ⟨"out"⟩) (some ⟨"chain/out"⟩)) =
      some ⟨"src/a.js"⟩ := by
  have named : resolve? (some ⟨"out"⟩) "../src/./a.js" = some ⟨"src/a.js"⟩ := by decide
  have plain : ∀ path, resolve? (some ⟨"out"⟩) "../src/./a.js" = some path → Plain path := by
    intro path same
    rw [named, Option.some.injEq] at same
    exact same ▸ ⟨by decide, by decide⟩
  have floating : Floating ⟨"chain/out"⟩ := ⟨by decide, by decide, by decide⟩
  have relative : (Path.mk "out").isAbsolute = false := by decide
  have kept := (resolve?_rebase_relative_iff relative floating plain).1.mpr
  have noFile : ∀ file, Url.read "../src/./a.js" ≠ .file file := by
    have reading : Url.read "../src/./a.js" = .plain := by decide
    simp [reading]
  exact ⟨by decide, (kept noFile).trans named⟩

/-- An absolute file, given by its URL, becomes a relative one when its source is renamed between
two relative directories. -/
theorem resolve?_rebase_file_url : Floating ⟨"out"⟩ ∧ Floating ⟨"chain"⟩ ∧ Plain ⟨"/w/a.js"⟩ ∧
    resolve? (some ⟨"out"⟩) "file:///w/a.js" = some ⟨"/w/a.js"⟩ ∧
    rebase "file:///w/a.js" (some ⟨"out"⟩) (some ⟨"chain"⟩) = "../w/a.js" ∧
    resolve? (some ⟨"chain"⟩) (rebase "file:///w/a.js" (some ⟨"out"⟩) (some ⟨"chain"⟩)) =
      some ⟨"w/a.js"⟩ :=
  ⟨⟨by decide, by decide, by decide⟩, ⟨by decide, by decide, by decide⟩,
    ⟨by decide, by decide⟩, by decide, by decide, by decide⟩

end Source

end SourceTrace
