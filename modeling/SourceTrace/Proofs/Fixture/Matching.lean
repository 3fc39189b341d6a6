import Mathlib.Data.List.Nodup
import SourceTrace.Fixture.Written

/-!
# Which file of a fixture a source is

A source that leads to the place of a file is that file. Any other source goes by its name, and then
the first file whose name it is or ends with gets it. So two mistakes are possible: a file with a
shorter name can stand in front of the file that is named in full, and a source that merely goes by
the name of a file can stand in front of the one that leads there. The main statements say exactly
when neither happens.
-/
namespace SourceTrace

theorem Path.same_iff {left right : Path} :
    left.same right = true ↔ left.components = right.components := beq_iff_eq

theorem Text.isSome_before?_iff {tail text : List Char} :
    (Text.before? tail text).isSome = true ↔ tail <:+ text := by
  rw [Text.before?, Option.isSome_map, Option.isSome_iff_exists, ← List.reverse_prefix]
  constructor
  · rintro ⟨rest, found⟩
    exact ⟨rest, ((Text.after?_eq_some_iff _ _ _).mp found).symm⟩
  · rintro ⟨rest, same⟩
    exact ⟨rest, (Text.after?_eq_some_iff _ _ _).mpr same.symm⟩

/-- A search stops at an item exactly if the item is wanted and none in front of it is. -/
theorem findIdx?_append_cons {α : Type} {wanted : α → Bool} (front : List α) (item : α)
    (rest : List α) :
    (front ++ item :: rest).findIdx? wanted = some front.length ↔
      wanted item = true ∧ ∀ other ∈ front, wanted other = false := by
  induction front with
  | nil =>
    rw [List.nil_append, List.findIdx?_cons]
    cases wanted item with
    | true => simp
    | false => simp
  | cons first front ih =>
    rw [List.cons_append, List.findIdx?_cons, List.forall_mem_cons, List.length_cons]
    cases wanted first with
    | true => simp
    | false =>
      have shifted : ∀ found : Option Nat,
          found.map (· + 1) = some (front.length + 1) ↔ found = some front.length := by
        intro found
        cases found with
        | none => simp
        | some number => simp
      rw [if_neg Bool.false_ne_true, shifted, ih]
      simp only [true_and]

namespace WrittenFixture

/-- A source leads to a file if it resolves to the place where the file was written. -/
def LeadsTo (base : Option Path) (source : String) (file : FixtureFile) : Prop :=
  ∃ path, Source.resolve? base source = some path ∧ file.path.same path = true

/-- A source with every backslash turned into a slash. -/
def plainSlashes (source : String) : List Char :=
  source.toList.map fun c => if c = '\\' then '/' else c

/-- A source ends with a name if the name stands at its end behind a slash. -/
def EndsWith (source name : String) : Prop := '/' :: name.toList <:+ plainSlashes source

instance (base : Option Path) (source : String) (file : FixtureFile) :
    Decidable (LeadsTo base source file) :=
  decidable_of_iff _ (Option.any_eq_true file.path.same (Source.resolve? base source))

instance (source name : String) : Decidable (EndsWith source name) :=
  inferInstanceAs (Decidable (_ <:+ _))

/-- A source goes by a name if it is the name or ends with it. -/
def GoesBy (source name : String) : Prop :=
  plainSlashes source = name.toList ∨ EndsWith source name

/-- The first file of which something holds. -/
structure IsFirst (files : List FixtureFile) (holds : FixtureFile → Prop) (file : FixtureFile) :
    Prop where
  here : holds file
  split : ∃ before after, files = before ++ file :: after ∧ ∀ other ∈ before, ¬ holds other

/-- A source is taken for a file if it leads to no file at all and the file is the first one whose
name it goes by. -/
structure TakenFor (written : WrittenFixture) (base : Option Path) (source : String)
    (file : FixtureFile) : Prop where
  nowhere : ∀ other ∈ written.files, ¬ LeadsTo base source other
  named : IsFirst written.files (fun other => GoesBy source other.name) file

section

variable {files : List FixtureFile} {file : FixtureFile} {holds : FixtureFile → Prop}

theorem IsFirst.mem (first : IsFirst files holds file) : file ∈ files := by
  obtain ⟨before, after, rfl, -⟩ := first.split
  exact List.mem_append_right before List.mem_cons_self

/-- Searching for a file gives the first one of which the test holds. -/
theorem find?_eq_some_iff {test : FixtureFile → Bool}
    (decides : ∀ file, test file = true ↔ holds file) :
    files.find? test = some file ↔ IsFirst files holds file := by
  have fails : ∀ other, (!test other) = true ↔ ¬ holds other := by
    intro other
    rw [← decides, Bool.not_eq_true', Bool.not_eq_true]
  simp only [List.find?_eq_some_iff_append, decides, fails]
  exact ⟨fun ⟨here, split⟩ => ⟨here, split⟩, fun first => ⟨first.here, first.split⟩⟩

theorem find?_eq_none_iff {test : FixtureFile → Bool}
    (decides : ∀ file, test file = true ↔ holds file) :
    files.find? test = none ↔ ∀ file ∈ files, ¬ holds file := by
  simp only [List.find?_eq_none, decides]

variable (names : (files.map (·.name)).Nodup)
include names

/-- Files of one name are one file. -/
theorem eq_of_name {other : FixtureFile} (here : file ∈ files) (there : other ∈ files)
    (same : other.name = file.name) : other = file :=
  List.inj_on_of_nodup_map names there here same

/-- A file that stands behind some others is the first one exactly if none of those will do. -/
theorem isFirst_iff {before after : List FixtureFile} (split : files = before ++ file :: after)
    (here : holds file) : IsFirst files holds file ↔ ∀ other ∈ before, ¬ holds other := by
  constructor
  · intro first
    obtain ⟨front, behind, again, passed⟩ := first.split
    -- the file stands at one place only, so the same others are in front of it
    have once : file ∉ before ∧ file ∉ after := by
      have apart := names.of_map
      rw [split, List.nodup_middle, List.nodup_cons, List.mem_append, not_or] at apart
      exact apart.1
    have same : before = front :=
      ((List.append_cons_inj_of_notMem once.1 once.2).mp (split.symm.trans again)).1
    exact same ▸ passed
  · exact fun passed => ⟨here, before, after, split, passed⟩

end

section

variable {written : WrittenFixture} {base : Option Path} {source : String} {file : FixtureFile}

theorem endsWithName_iff (source : String) (file : FixtureFile) :
    endsWithName (plainSlashes source) file.name = true ↔ GoesBy source file.name := by
  rw [endsWithName, Bool.or_eq_true, beq_iff_eq, Text.isSome_before?_iff]
  rfl

/-- The file at the place that a source resolves to. -/
def atPlace? (written : WrittenFixture) (base : Option Path) (source : String) :
    Option FixtureFile :=
  (Source.resolve? base source).bind fun path => written.files.find? (·.path.same path)

theorem leadsTo_iff {path : Path} (resolved : Source.resolve? base source = some path)
    (file : FixtureFile) : file.path.same path = true ↔ LeadsTo base source file := by
  simp only [LeadsTo, resolved, Option.some.injEq, exists_eq_left']

theorem not_leadsTo (unresolved : Source.resolve? base source = none) (file : FixtureFile) :
    ¬ LeadsTo base source file := by
  simp only [LeadsTo, unresolved, reduceCtorEq, false_and, exists_false, not_false_iff]

theorem atPlace?_eq_some_iff :
    written.atPlace? base source = some file ↔
      IsFirst written.files (LeadsTo base source) file := by
  unfold atPlace?
  cases resolved : Source.resolve? base source with
  | none =>
    simp only [Option.bind_none, reduceCtorEq, false_iff]
    exact fun first => not_leadsTo resolved file first.here
  | some path => exact find?_eq_some_iff (leadsTo_iff resolved)

theorem atPlace?_eq_none_iff :
    written.atPlace? base source = none ↔ ∀ file ∈ written.files, ¬ LeadsTo base source file := by
  unfold atPlace?
  cases resolved : Source.resolve? base source with
  | none => simp only [Option.bind_none, not_leadsTo resolved, implies_true, not_false_iff]
  | some path => exact find?_eq_none_iff (leadsTo_iff resolved)

/-- A source is looked for at its place first and then by its name. -/
theorem match?_eq (written : WrittenFixture) (base : Option Path) (source : String) :
    written.match? base source = (written.atPlace? base source).or
      (written.files.find? fun file => endsWithName (plainSlashes source) file.name) := rfl

/-- A source is the first file that it leads to, or else the file that it is taken for. -/
theorem match?_eq_some_iff :
    written.match? base source = some file ↔
      IsFirst written.files (LeadsTo base source) file ∨ written.TakenFor base source file := by
  rw [match?_eq, Option.or_eq_some_iff, atPlace?_eq_some_iff, atPlace?_eq_none_iff,
    find?_eq_some_iff (endsWithName_iff source)]
  refine or_congr_right ?_
  exact ⟨fun ⟨nowhere, named⟩ => ⟨nowhere, named⟩, fun taken => ⟨taken.nowhere, taken.named⟩⟩

theorem mem_of_match? (found : written.match? base source = some file) : file ∈ written.files := by
  rcases match?_eq_some_iff.mp found with first | taken
  · exact first.mem
  · exact taken.named.mem

theorem match?_isSome_iff (nowhere : ∀ file ∈ written.files, ¬ LeadsTo base source file) :
    (written.match? base source).isSome = true ↔
      ∃ file ∈ written.files, GoesBy source file.name := by
  rw [match?_eq, atPlace?_eq_none_iff.mpr nowhere, Option.none_or, List.find?_isSome]
  simp only [endsWithName_iff]

/-- A source that leads to no file is the file that it names in full, exactly if it ends with the
name of no file in front of that one. If it names no file in full, it is a file exactly if it ends
with the name of one, and then it is a file of which that is so. -/
theorem match?_by_name (names : (written.files.map (·.name)).Nodup)
    (nowhere : ∀ file ∈ written.files, ¬ LeadsTo base source file) :
    (∀ before file after, written.files = before ++ file :: after →
      plainSlashes source = file.name.toList →
      (written.match? base source = some file ↔
        ∀ other ∈ before, ¬ EndsWith source other.name)) ∧
    ((∀ file ∈ written.files, plainSlashes source ≠ file.name.toList) →
      ((written.match? base source).isSome = true ↔
        ∃ file ∈ written.files, EndsWith source file.name) ∧
      ∀ file, written.match? base source = some file →
        file ∈ written.files ∧ EndsWith source file.name) := by
  have taken : ∀ file, written.match? base source = some file ↔
      IsFirst written.files (fun other => GoesBy source other.name) file := by
    intro file
    rw [match?_eq_some_iff]
    constructor
    · rintro (first | taken)
      · exact absurd first.here (nowhere file first.mem)
      · exact taken.named
    · exact fun named => .inr ⟨nowhere, named⟩
  constructor
  · intro before file after split full
    rw [taken, isFirst_iff names split (.inl full)]
    constructor
    · exact fun passed other member ends => passed other member (.inr ends)
    · rintro passed other member (again | ends)
      · have same : other.name = file.name := by rw [← String.toList_inj, ← again, full]
        rw [split, List.map_append, List.map_cons, List.nodup_middle, List.nodup_cons] at names
        exact names.1 (List.mem_append_left _ (same ▸ List.mem_map_of_mem member))
      · exact passed other member ends
  · intro none
    constructor
    · rw [match?_isSome_iff nowhere]
      refine exists_congr fun file => and_congr_right fun listed => ?_
      exact or_iff_right (none file listed)
    · intro file found
      have listed := mem_of_match? found
      exact ⟨listed, ((taken file).mp found).here.resolve_left (none file listed)⟩

/-- A fixture in which the name of one file ends the name of another one. -/
def namesakes : WrittenFixture where
  files := [⟨"a.js", ⟨"in/a.js"⟩, "a();"⟩, ⟨"lib/a.js", ⟨"in/lib/a.js"⟩, "b();"⟩,
    ⟨"lib/c.js", ⟨"in/lib/c.js"⟩, "c();"⟩]

/-- The last file is found under its name in backslashes. -/
theorem match?_by_name_backslashed :
    (∀ file ∈ namesakes.files, ¬ LeadsTo (some ⟨"out"⟩) "lib\\c.js" file) ∧
      namesakes.match? (some ⟨"out"⟩) "lib\\c.js" =
        some ⟨"lib/c.js", ⟨"in/lib/c.js"⟩, "c();"⟩ := by
  have nowhere : ∀ file ∈ namesakes.files, ¬ LeadsTo (some ⟨"out"⟩) "lib\\c.js" file := by
    decide +kernel
  have named := (match?_by_name (by decide) nowhere).1
    [⟨"a.js", ⟨"in/a.js"⟩, "a();"⟩, ⟨"lib/a.js", ⟨"in/lib/a.js"⟩, "b();"⟩] _ [] rfl (by decide)
  exact ⟨nowhere, named.mpr (by decide)⟩

/-- The second file is named in full, and the first one gets the source. -/
theorem match?_namesake :
    (∀ file ∈ namesakes.files, ¬ LeadsTo (some ⟨"out"⟩) "lib/a.js" file) ∧
      namesakes.get? "lib/a.js" = some ⟨"lib/a.js", ⟨"in/lib/a.js"⟩, "b();"⟩ ∧
      namesakes.match? (some ⟨"out"⟩) "lib/a.js" = some ⟨"a.js", ⟨"in/a.js"⟩, "a();"⟩ := by
  decide +kernel

end

/-- Among the sources of a document one leads to a file and none in front of it does. Its number is
the number of the file exactly if the file is the first one at its place and no source in front of
it is taken for the file. -/
theorem sourceId?_finds_iff {written : WrittenFixture} {doc : Document} {file : FixtureFile}
    {before after : List FixtureFile} {front rest : List String} {source : String}
    (names : (written.files.map (·.name)).Nodup)
    (split : written.files = before ++ file :: after)
    (listed : doc.sources = front ++ source :: rest)
    (leads : LeadsTo doc.baseDir source file)
    (earliest : ∀ other ∈ front, ¬ LeadsTo doc.baseDir other file) :
    written.sourceId? doc file.name = some front.length ↔
      (∀ other ∈ before, other.path.components ≠ file.path.components) ∧
      ∀ other ∈ front, ¬ written.TakenFor doc.baseDir other file := by
  have here : file ∈ written.files := split ▸ List.mem_append_right before List.mem_cons_self
  have matched : ∀ source, (written.match? doc.baseDir source).any (·.name == file.name) = true ↔
      written.match? doc.baseDir source = some file := by
    intro source
    cases found : written.match? doc.baseDir source with
    | none => simp only [Option.any_none, Bool.false_eq_true, reduceCtorEq]
    | some other =>
      rw [Option.any_some, beq_iff_eq, Option.some.injEq]
      exact ⟨eq_of_name names here (mem_of_match? found), fun same => same ▸ rfl⟩
  rw [sourceId?, listed, findIdx?_append_cons]
  simp only [← Bool.not_eq_true, matched]
  refine and_congr ?_ (forall₂_congr fun other member => not_congr ?_)
  · have led : ¬ written.TakenFor doc.baseDir source file := fun taken =>
      taken.nowhere file here leads
    obtain ⟨path, resolved, there⟩ := id leads
    rw [match?_eq_some_iff, or_iff_left led, isFirst_iff names split leads]
    refine forall₂_congr fun other member => not_congr ?_
    rw [← leadsTo_iff resolved, Path.same_iff, Path.same_iff.mp there]
  · rw [match?_eq_some_iff]
    exact or_iff_right fun first => earliest other member first.here

/-- A document with the files of that fixture whose names end alike. -/
def paired : Document :=
  (Document.ofParts none [] [] ["../in/lib/a.js", "../in/a.js"] none).setBaseDir (some ⟨"out"⟩)

/-- A source that leads to another file is not taken for the one whose name it ends with. -/
theorem sourceId?_finds_paired :
    LeadsTo paired.baseDir "../in/a.js" ⟨"a.js", ⟨"in/a.js"⟩, "a();"⟩ ∧
      ¬ LeadsTo paired.baseDir "../in/lib/a.js" ⟨"a.js", ⟨"in/a.js"⟩, "a();"⟩ ∧
      namesakes.sourceId? paired "a.js" = some 1 := by
  have split : namesakes.files = [] ++ ⟨"a.js", ⟨"in/a.js"⟩, "a();"⟩ ::
    [⟨"lib/a.js", ⟨"in/lib/a.js"⟩, "b();"⟩, ⟨"lib/c.js", ⟨"in/lib/c.js"⟩, "c();"⟩] := rfl
  have listed : paired.sources = ["../in/lib/a.js"] ++ "../in/a.js" :: [] := rfl
  have leads : LeadsTo paired.baseDir "../in/a.js" ⟨"a.js", ⟨"in/a.js"⟩, "a();"⟩ := by
    decide +kernel
  have earliest : ∀ other ∈ ["../in/lib/a.js"],
      ¬ LeadsTo paired.baseDir other ⟨"a.js", ⟨"in/a.js"⟩, "a();"⟩ := by decide +kernel
  have elsewhere : LeadsTo paired.baseDir "../in/lib/a.js"
      ⟨"lib/a.js", ⟨"in/lib/a.js"⟩, "b();"⟩ := by decide +kernel
  have found := sourceId?_finds_iff (by decide) split listed leads earliest
  refine ⟨leads, earliest _ List.mem_cons_self, found.mpr ⟨by simp, ?_⟩⟩
  simp only [List.mem_singleton, forall_eq]
  exact fun taken => taken.nowhere _ (by decide) elsewhere

/-- A document in which an unrelated file of the same name comes first. -/
def preceded : Document :=
  (Document.ofParts none [] [] ["../a.js", "../../in/a.js"] none).setBaseDir (some ⟨"chain/out"⟩)

/-- The second source leads to the file, and the first one gets it. -/
theorem sourceId?_unrelated :
    LeadsTo preceded.baseDir "../../in/a.js" ⟨"a.js", ⟨"in/a.js"⟩, "a();"⟩ ∧
      ¬ LeadsTo preceded.baseDir "../a.js" ⟨"a.js", ⟨"in/a.js"⟩, "a();"⟩ ∧
      namesakes.sourceId? preceded "a.js" = some 0 := by
  decide +kernel

end WrittenFixture

end SourceTrace
