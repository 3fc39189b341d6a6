import Mathlib.Data.List.Nodup
import Mathlib.Data.List.Perm.Subperm
import SourceTrace.Proofs.Build.Concat
import SourceTrace.Proofs.Verify.Attribution

/-!
# Runs are isolated

Every run works in a directory that was not there before, changes no file outside of it, and leaves
it behind unless the run passed and its files are not to be kept. Numbers of directories are never
given twice, not even when the directory is gone, so no two runs of a verifier share one.

One run is followed from the directory it is given to the clean-up (`runOne_isolated`); that the
work directory can be made is all it takes, and all that is needed again for the next run.
-/
namespace SourceTrace.Verifier

open FileTree (Elsewhere Vacant Opened AddsDirectories)
open SourceTrace.Path (IsName)

variable {σ : Type} {tree : FileTree} {workDir : Path} {root : Location}

/-- The name of the directory with a number. -/
def dirName (number : Nat) : String := s!"fixture-{number}"

theorem isName_dirName (number : Nat) : IsName (dirName number) := by
  change IsName ("fixture-" ++ toString number)
  refine Path.isName_of_head (by simp) (by simp) ?_
  simp [Path.noSlash_digits number]

theorem dirName_injective : Function.Injective dirName := by
  intro left right same
  change "fixture-" ++ toString left = "fixture-" ++ toString right at same
  have digits : Nat.toDigits 10 left = Nat.toDigits 10 right := by
    simpa using congrArg String.toList same
  rw [← Nat.ofDigitChars_toDigits (b := 10) (n := left) (by decide) (by decide), digits,
    Nat.ofDigitChars_toDigits (by decide) (by decide)]

/-- A work directory that is there, or the current one: every name put onto it leads into it. -/
structure Rooted (tree : FileTree) (workDir : Path) (root : Location) : Prop where
  directory : tree.node? root = some .directory
  itself : workDir.text = "" ∨ tree.locate workDir = .ok root
  leads : ∀ name, IsName name → tree.locate (workDir / name) = .ok (root ++ [name])

/-- A work directory that was made. -/
theorem exists_rooted {before : FileTree} (created : before.createAll workDir = .ok tree) :
    ∃ root, Rooted tree workDir root := by
  by_cases empty : workDir.text = ""
  · have here : tree.node? tree.current = some .directory :=
      FileTree.node?_of_above List.prefix_rfl
    refine ⟨tree.current, here, .inl empty, fun name isName => ?_⟩
    have relative := isName.leadsDown.relative
    have same : workDir / name = ⟨name⟩ := by
      change workDir.join ⟨name⟩ = _
      simp [Path.join, relative, empty]
    have starts : tree.start ⟨name⟩ = tree.current := by simp [FileTree.start, relative]
    rw [same, FileTree.locate_eq_walk isName.ne_empty, starts,
      Path.pieces_of_isMove isName.toIsMove, FileTree.walk_cons here,
      FileTree.step_of_isName isName]
    rfl
  · obtain ⟨root, leads, directory⟩ :=
      FileTree.isDirectory_iff.mp (FileTree.isDirectory_of_createAll empty created)
    exact ⟨root, directory, .inr leads, fun name isName =>
      FileTree.locate_div_name leads directory isName⟩

-- the name of an unknown number cannot be evaluated, so directories are not made by reduction
attribute [local irreducible] FileTree.createDirectory in
/-- One number of the search. -/
theorem freshDir_succ (fuel number : Nat) :
    freshDir workDir tree (fuel + 1) number =
      match tree.createDirectory (workDir / dirName number) with
      | .ok made => (.ok (workDir / dirName number, made), number + 1)
      | .error .alreadyExists => freshDir workDir tree fuel (number + 1)
      | .error cause => (.error cause, number + 1) := by
  rfl

namespace Rooted

variable (rooted : Rooted tree workDir root)

include rooted

/-- A directory of the work directory that is not there can be made. -/
theorem vacant {name : String} (isName : IsName name)
    (missing : tree.node? (root ++ [name]) = none) :
    Vacant tree (workDir / name) (root ++ [name]) :=
  ⟨Path.named_div isName, rooted.leads name isName, missing⟩

/-- The work directory can be made again when nothing has changed outside of a directory in it. -/
theorem createAll {name : String} {after : FileTree}
    (missing : tree.node? (root ++ [name]) = none)
    (elsewhere : Elsewhere tree (root ++ [name]) after) :
    ∃ again, after.createAll workDir = .ok again := by
  rcases rooted.itself with empty | leads
  · refine ⟨after, ?_⟩
    simp [FileTree.createAll, FileTree.createAllFrom, empty]
  · have outside : ¬ root ++ [name] <+: root := by
      intro inside
      have longer := inside.length_le
      simp only [List.length_append, List.length_singleton] at longer
      omega
    have there : after.isDirectory workDir = true := FileTree.isDirectory_iff.mpr
      ⟨root, elsewhere.locate missing leads,
        (elsewhere.outside root outside).trans rooted.directory⟩
    exact ⟨after, FileTree.createAll_of_isDirectory there⟩

/-- The directories that were made with the work directory. -/
theorem made_above {before : FileTree} (created : before.createAll workDir = .ok tree)
    {other : Location} (missing : before.node? other = none) (there : tree.node? other ≠ none) :
    tree.OnTheWay workDir other ∧ (".." ∉ workDir.pieces → other <+: root) := by
  have way := FileTree.onTheWay_of_createAllFrom created missing there
  refine ⟨way, fun down => ?_⟩
  rcases rooted.itself with empty | leads
  · -- the empty path asks for no directory
    simp only [FileTree.createAll, FileTree.createAllFrom, empty, beq_self_eq_true, ↓reduceIte,
      Except.ok.injEq] at created
    exact absurd (created ▸ missing) there
  · exact way.above down leads

/-- The search for a directory ends with the first one that is missing, unless none is. -/
theorem freshDir_cases (fuel number : Nat) :
    (∃ found, number ≤ found ∧ tree.node? (root ++ [dirName found]) = none ∧
      freshDir workDir tree fuel number =
        (.ok (workDir / dirName found, tree.put (root ++ [dirName found]) .directory), found + 1)) ∨
    ∀ index < fuel, tree.node? (root ++ [dirName (number + index)]) ≠ none := by
  induction fuel generalizing number with
  | zero => exact .inr fun index small => absurd small (Nat.not_lt_zero index)
  | succ fuel ih =>
    have leads := FileTree.locate_withoutEndSlashes (rooted.leads _ (isName_dirName number))
    cases here : tree.node? (root ++ [dirName number]) with
    | none =>
      refine .inl ⟨number, Nat.le_refl number, here, ?_⟩
      rw [freshDir_succ, FileTree.createDirectory_of_missing leads here]
    | some node =>
      rw [freshDir_succ, FileTree.createDirectory_of_taken leads here]
      rcases ih (number + 1) with ⟨found, above, missing, same⟩ | taken
      · exact .inl ⟨found, Nat.le_of_succ_le above, missing, same⟩
      · refine .inr fun index small => ?_
        cases index with
        | zero => simp [here]
        | succ index =>
          rw [Nat.add_succ, ← Nat.succ_add]
          exact taken index (Nat.lt_of_succ_lt_succ small)

omit rooted in
/-- More names than a tree has nodes are not all taken. -/
theorem exists_missing (tree : FileTree) (root : Location) (number : Nat) :
    ∃ index < tree.nodes.length + 1, tree.node? (root ++ [dirName (number + index)]) = none := by
  by_contra taken
  simp only [not_exists, not_and] at taken
  let candidates := (List.range (tree.nodes.length + 1)).map
    fun index => root ++ [dirName (number + index)]
  have listed : candidates ⊆ tree.nodes.map Prod.fst := by
    intro location member
    obtain ⟨index, small, rfl⟩ := List.mem_map.mp member
    exact FileTree.mem_nodes (taken index (List.mem_range.mp small))
  have distinct : candidates.Nodup := by
    refine List.Nodup.map ?_ List.nodup_range
    intro left right same
    have names := List.singleton_inj.mp (List.append_cancel_left same)
    exact Nat.add_left_cancel (dirName_injective names)
  have few := (distinct.subperm listed).length_le
  simp only [candidates, List.length_map, List.length_range] at few
  omega

theorem exists_freshDir (number : Nat) : ∃ found, number ≤ found ∧
    tree.node? (root ++ [dirName found]) = none ∧
    freshDir workDir tree (tree.nodes.length + 1) number =
      (.ok (workDir / dirName found, tree.put (root ++ [dirName found]) .directory),
        found + 1) := by
  rcases rooted.freshDir_cases (tree.nodes.length + 1) number with found | taken
  · exact found
  · obtain ⟨index, small, missing⟩ := exists_missing tree root number
    exact absurd missing (taken index small)

end Rooted

variable {tool : BuildTool σ} {options : VerifyOptions} {verifier : Verifier σ}

/-- A run is given a directory that was not there, numbered on from the directories before. -/
theorem exists_allocateDir (created : verifier.files.createAll options.workDir = .ok tree) :
    ∃ root number, Rooted tree options.workDir root ∧ verifier.nextDir ≤ number ∧
      tree.node? (root ++ [dirName number]) = none ∧
      verifier.allocateDir options = (.ok (options.workDir / dirName number),
        { verifier with
          files := tree.put (root ++ [dirName number]) .directory, nextDir := number + 1 }) := by
  obtain ⟨root, rooted⟩ := exists_rooted created
  obtain ⟨number, above, missing, found⟩ := rooted.exists_freshDir verifier.nextDir
  refine ⟨root, number, rooted, above, missing, ?_⟩
  simp only [allocateDir, created, found]

/-- What is left of the directory of a run: nothing if the run passed and its files are not kept,
and otherwise all of it. -/
theorem cleanUp_cases (options : VerifyOptions) {outcome : Outcome} {location : Location}
    (leads : tree.locate outcome.workDir = .ok location)
    (directory : tree.node? location = some .directory) (outside : ¬ location <+: tree.current) :
    (outcome.passed = true ∧ options.keepPassing = false ∧
      (cleanUp options outcome tree).1 = outcome ∧
      (cleanUp options outcome tree).2.current = tree.current ∧ ∀ other,
        (cleanUp options outcome tree).2.node? other =
          if location <+: other then none else tree.node? other) ∨
    cleanUp options outcome tree = ({ outcome with retained := true }, tree) := by
  unfold cleanUp
  split
  · next unwanted =>
    obtain ⟨after, removed, same, gone⟩ := FileTree.exists_removeAll leads directory outside
    rw [Bool.and_eq_true, Bool.not_eq_true'] at unwanted
    simp only [removed]
    exact .inl ⟨unwanted.1, unwanted.2, trivial, same, gone⟩
  · exact .inr rfl

theorem cleanUp_workDir (options : VerifyOptions) (outcome : Outcome) (files : FileTree) :
    (cleanUp options outcome files).1.workDir = outcome.workDir := by
  unfold cleanUp
  split
  · split
    · rfl
    · rfl
  · rfl

theorem elsewhere_cleanUp (options : VerifyOptions) {base : FileTree} {outcome : Outcome}
    {location : Location} (vacant : Vacant base outcome.workDir location)
    (opened : Opened base location tree) :
    Elsewhere base location (cleanUp options outcome tree).2 := by
  rcases cleanUp_cases options (opened.locate vacant) opened.directory
    (opened.not_prefix_current vacant) with ⟨-, -, -, same, gone⟩ | kept
  · refine ⟨same.trans opened.current, fun other outside => ?_⟩
    rw [gone, if_neg outside, opened.outside other outside]
  · rw [kept]
    exact opened.toElsewhere

/-- A run that worked in a directory of its own at a location: the directory was not there before,
no file outside of it has changed, and it is there now if and only if the outcome says so. It is
only missing when the run passed and its files were not to be kept. -/
structure Isolated (options : VerifyOptions) (before after : FileTree) (outcome : Outcome)
    (location : Location) : Prop where
  fresh : ¬ ∃ node, before.find outcome.workDir = .ok node
  free : before.node? location = none
  leads : after.locate outcome.workDir = .ok location
  /-- All that is new outside is directories on the way along the path of the work directory, which
  without two dots in it leads straight down to that of the run. -/
  unchanged : ∀ other, ¬ location <+: other → after.node? other = before.node? other ∨
    before.node? other = none ∧ after.node? other = some .directory ∧
      after.OnTheWay options.workDir other ∧
      (".." ∉ options.workDir.pieces → other <+: location)
  exists_iff : (∃ node, after.find outcome.workDir = .ok node) ↔ outcome.retained = true
  removed : outcome.retained = false → outcome.passed = true ∧ options.keepPassing = false

/-- What a run leaves behind, from the work directory it was given and what it had done in its own
when it was to be cleaned up. -/
theorem isolated_cleanUp {before base : FileTree} {outcome : Outcome} {name : String}
    (created : before.createAll options.workDir = .ok base)
    (rooted : Rooted base options.workDir root)
    (vacant : Vacant base outcome.workDir (root ++ [name]))
    (opened : Opened base (root ++ [name]) tree) (pending : outcome.retained = false) :
    Isolated options before (cleanUp options outcome tree).2 (cleanUp options outcome tree).1
      (root ++ [name]) := by
  have adds := AddsDirectories.of_createAllFrom created
  have elsewhere := elsewhere_cleanUp options vacant opened
  have free : before.node? (root ++ [name]) = none := by
    rcases adds.nodes (root ++ [name]) with same | ⟨missing, -⟩
    · rw [← same, vacant.missing]
    · exact missing
  have leads : (cleanUp options outcome tree).2.locate outcome.workDir = .ok (root ++ [name]) :=
    elsewhere.locate vacant.missing vacant.leads
  constructor
  case fresh =>
    rw [cleanUp_workDir]
    rintro ⟨node, there⟩
    obtain ⟨earlier, found, taken⟩ := FileTree.find_eq_ok_iff.mp there
    obtain rfl : earlier = root ++ [name] :=
      Except.ok.inj ((adds.locate found).symm.trans vacant.leads)
    rw [free] at taken
    cases taken
  case free => exact free
  case leads => rw [cleanUp_workDir, leads]
  case unchanged =>
    intro other outside
    rw [elsewhere.outside other outside]
    rcases adds.nodes other with same | ⟨missing, new⟩
    · exact .inl same
    · obtain ⟨⟨front, first, walks⟩, above⟩ :=
        rooted.made_above created missing (by simp [new])
      have still := elsewhere.walk vacant.missing
        (FileTree.not_prefix_start vacant.missing options.workDir) walks
      rw [← FileTree.start_eq elsewhere.current] at still
      exact .inr ⟨missing, new, ⟨front, first, still⟩, fun down =>
        (above down).trans (List.prefix_append root [name])⟩
  case exists_iff =>
    simp only [cleanUp_workDir, FileTree.find_eq_ok_iff, leads, Except.ok.injEq]
    rcases cleanUp_cases options (opened.locate vacant) opened.directory
      (opened.not_prefix_current vacant) with ⟨-, -, same, -, gone⟩ | kept
    · simp [same, gone, pending]
    · simp [kept, opened.directory]
  case removed =>
    rcases cleanUp_cases options (opened.locate vacant) opened.directory
      (opened.not_prefix_current vacant) with ⟨passed, unwanted, same, -, -⟩ | kept
    · rw [same]
      exact fun _ => ⟨passed, unwanted⟩
    · rw [kept]
      exact nofun

/-- A run that starts from a verifier is given a directory that was made for it. -/
def Obtains (options : VerifyOptions) (verifier : Verifier σ) (dir : Path) : Prop :=
  ∃ placed, verifier.allocateDir options = (.ok dir, placed) ∧ placed.files.isDirectory dir = true

/-- A run that is given a directory ends with the clean-up, whether its steps end or fail. -/
theorem exists_runOne_eq {dir : Path} {placed : Verifier σ}
    (allocated : verifier.allocateDir options = (.ok dir, placed)) (tool : BuildTool σ)
    (fixture : Fixture) (flags : BuildFlags) :
    let finish := ((Verify.verify tool fixture flags dir).run.run ⟨placed.tool, placed.files, []⟩).2
    ∃ outcome : Outcome, outcome.workDir = dir ∧ outcome.retained = false ∧
      verifier.runOne tool options fixture flags =
        ((cleanUp options outcome finish.files).1, { placed with
          tool := finish.tool, files := (cleanUp options outcome finish.files).2 }) := by
  intro finish
  let started := { Outcome.start fixture.name fixture.kindText flags dir with
    failures := finish.failures }
  rcases ended : (Verify.verify tool fixture flags dir).run.run ⟨placed.tool, placed.files, []⟩
    with ⟨cause | done, state⟩
  · refine ⟨started.abort cause, rfl, rfl, ?_⟩
    simp [runOne, allocated, ended, started, finish]
  · refine ⟨started, rfl, rfl, ?_⟩
    simp [runOne, allocated, ended, started, finish]

/-- One run. It works in a directory with a number that no run before was given, and the work
directory can be made again for the next one. -/
theorem runOne_isolated (confined : tool.Confined)
    (created : verifier.files.createAll options.workDir = .ok tree) {fixture : Fixture}
    (leads : fixture.LeadsDown) (flags : BuildFlags) :
    let call := verifier.runOne tool options fixture flags
    (∃ number, verifier.nextDir ≤ number ∧ call.2.nextDir = number + 1 ∧
      call.1.workDir = options.workDir / dirName number) ∧
    verifier.Obtains options call.1.workDir ∧
    (∃ again, call.2.files.createAll options.workDir = .ok again) ∧
    ∃ location, Isolated options verifier.files call.2.files call.1 location := by
  intro call
  obtain ⟨root, number, rooted, above, missing, allocated⟩ := exists_allocateDir created
  obtain ⟨outcome, workDir_eq, pending, ends⟩ := exists_runOne_eq allocated tool fixture flags
  have vacant := rooted.vacant (isName_dirName number) missing
  have made := Opened.of_missing missing
  have remains : Verify.Remains tree (root ++ [dirName number])
      (Verify.verify tool fixture flags (options.workDir / dirName number)) :=
    Verify.carries_verify vacant confined leads
  have stands := remains.either (fun _ => id) ⟨verifier.tool, _, []⟩ ⟨made, by simp⟩
  have opened := stands.opened
  have there : (tree.put (root ++ [dirName number]) .directory).isDirectory
      (options.workDir / dirName number) = true :=
    FileTree.isDirectory_iff.mpr ⟨_, made.locate vacant, made.directory⟩
  rw [← workDir_eq] at vacant
  simp only [call, ends, cleanUp_workDir, workDir_eq]
  refine ⟨⟨number, above, rfl, rfl⟩, ⟨_, allocated, there⟩, ?_, root ++ [dirName number], ?_⟩
  · exact rooted.createAll missing (elsewhere_cleanUp options vacant opened)
  · exact isolated_cleanUp created rooted vacant opened pending

/-- Different numbers give different directories. -/
theorem eq_of_components_eq {left right : Nat}
    (same : (workDir / dirName left).components = (workDir / dirName right).components) :
    left = right := by
  have named : ∀ number, (workDir / dirName number).fileName? = some (dirName number) :=
    fun number => Path.fileName?_of_endsIn (Path.endsIn_div workDir (isName_dirName number))
  have names : (workDir / dirName left).fileName? = (workDir / dirName right).fileName? := by
    rw [Path.fileName?, same, Path.fileName?]
  rw [named, named, Option.some_inj] at names
  exact dirName_injective names

theorem runAll_cons (fixture : Fixture) (flags : BuildFlags) (jobs : List (Fixture × BuildFlags))
    (verifier : Verifier σ) :
    runAll tool options ((fixture, flags) :: jobs) verifier =
      let call := verifier.runOne tool options fixture flags
      (call.1 :: (runAll tool options jobs call.2).1, (runAll tool options jobs call.2).2) := rfl

theorem runAll_append (earlier later : List (Fixture × BuildFlags)) (verifier : Verifier σ) :
    runAll tool options (earlier ++ later) verifier =
      ((runAll tool options earlier verifier).1 ++
          (runAll tool options later (runAll tool options earlier verifier).2).1,
        (runAll tool options later (runAll tool options earlier verifier).2).2) := by
  induction earlier generalizing verifier with
  | nil => rfl
  | cons job earlier ih =>
    obtain ⟨fixture, flags⟩ := job
    simp only [List.cons_append, runAll_cons, ih]

theorem length_runAll (jobs : List (Fixture × BuildFlags)) (verifier : Verifier σ) :
    (runAll tool options jobs verifier).1.length = jobs.length := by
  induction jobs generalizing verifier with
  | nil => rfl
  | cons job jobs ih =>
    obtain ⟨fixture, flags⟩ := job
    simp only [runAll_cons, List.length_cons, ih]

/-- A sequence of runs: they are given the directories of different numbers, counted on from where
the verifier stood, and the work directory can still be made when they are through. -/
theorem runAll_numbers (confined : tool.Confined)
    (created : verifier.files.createAll options.workDir = .ok tree)
    {jobs : List (Fixture × BuildFlags)} (leads : ∀ job ∈ jobs, job.1.LeadsDown) :
    (∀ outcome ∈ (runAll tool options jobs verifier).1, ∃ number, verifier.nextDir ≤ number ∧
      outcome.workDir = options.workDir / dirName number) ∧
    ((runAll tool options jobs verifier).1.map (·.workDir.components)).Nodup ∧
    ∃ again, (runAll tool options jobs verifier).2.files.createAll options.workDir = .ok again := by
  induction jobs generalizing verifier tree with
  | nil =>
    refine ⟨?_, ?_, tree, created⟩
    · simp [runAll]
    · simp [runAll]
  | cons job jobs ih =>
    obtain ⟨fixture, flags⟩ := job
    have leadsFirst : fixture.LeadsDown := leads (fixture, flags) List.mem_cons_self
    obtain ⟨⟨number, above, counted, given⟩, -, ⟨again, createdAgain⟩, -⟩ :=
      runOne_isolated confined created leadsFirst flags
    obtain ⟨numbers, distinct, still⟩ :=
      ih createdAgain fun job listed => leads job (List.mem_cons_of_mem _ listed)
    rw [counted] at numbers
    rw [runAll_cons]
    refine ⟨?_, ?_, still⟩
    · intro outcome listed
      rcases List.mem_cons.mp listed with rfl | later
      · exact ⟨number, above, given⟩
      · obtain ⟨next, further, workDir_eq⟩ := numbers outcome later
        exact ⟨next, by omega, workDir_eq⟩
    · refine List.nodup_cons.mpr ⟨?_, distinct⟩
      intro listed
      obtain ⟨outcome, later, same⟩ := List.mem_map.mp listed
      obtain ⟨next, further, workDir_eq⟩ := numbers outcome later
      simp only [workDir_eq, given] at same
      have equal := eq_of_components_eq same
      omega

/-- In any sequence of runs, every run is given a directory that no other run has or had, and
that was not there when the run began. It changes nothing outside of it, and keeps it unless it
passed and its files are not to be kept. -/
theorem runAll_isolated (confined : tool.Confined)
    (creatable : verifier.files.createAll options.workDir = .ok tree)
    {jobs : List (Fixture × BuildFlags)} (leads : ∀ job ∈ jobs, job.1.LeadsDown) :
    ((runAll tool options jobs verifier).1.map (·.workDir.components)).Nodup ∧
    ∀ earlier fixture flags later, jobs = earlier ++ (fixture, flags) :: later →
      let before := (runAll tool options earlier verifier).2
      let call := before.runOne tool options fixture flags
      (runAll tool options jobs verifier).1[earlier.length]? = some call.1 ∧
      before.Obtains options call.1.workDir ∧
      ∃ location, Isolated options before.files call.2.files call.1 location := by
  constructor
  · obtain ⟨-, distinct, -⟩ := runAll_numbers confined creatable leads
    exact distinct
  · rintro earlier fixture flags later rfl
    have leadsEarlier : ∀ job ∈ earlier, job.1.LeadsDown :=
      fun job listed => leads job (List.mem_append_left _ listed)
    obtain ⟨-, -, again, createdAgain⟩ := runAll_numbers confined creatable leadsEarlier
    obtain ⟨-, obtained, -, isolated⟩ := runOne_isolated confined createdAgain
      (leads (fixture, flags) (by simp)) flags
    refine ⟨?_, obtained, isolated⟩
    rw [runAll_append, List.getElem?_append_right (by simp [length_runAll])]
    simp [length_runAll, runAll]

/-- A verifier that starts anew where an earlier one left a run behind. -/
def leftover : Verifier Unit :=
  ⟨(), ⟨["home"], [(["w"], .directory), (["w", "fixture-0"], .directory)]⟩, 0⟩

/-- Runs work far from the current directory and leave their files there only when they fail. -/
def clearing : VerifyOptions := ⟨⟨"/w"⟩, false⟩

/-- A fixture of one file. -/
def plainFixture : Fixture :=
  { single with files := [("a.js", "f\n")], entries := ["a.js"], markers := [], chain := none }

/-- A fixture that lacks its entry. -/
def missingFixture : Fixture := { plainFixture with entries := ["b.js"] }

def twoRuns : List (Fixture × BuildFlags) :=
  [(plainFixture, bundling), (missingFixture, bundling)]

/-- The directory left behind is passed over, and only the second run leaves its own. -/
theorem twoRuns_outcomes : (runAll (Concat.tool .exact) clearing twoRuns leftover).1.map
    (fun outcome => (outcome.workDir.text, outcome.passed, outcome.retained)) =
      [("/w/fixture-1", true, false), ("/w/fixture-2", false, true)] := by
  decide +kernel

theorem twoRuns_isolated :
    (runAll (Concat.tool .exact) clearing twoRuns leftover).1.map
        (fun outcome => (outcome.workDir.text, outcome.passed, outcome.retained)) =
      [("/w/fixture-1", true, false), ("/w/fixture-2", false, true)] ∧
    let before := (runAll (Concat.tool .exact) clearing [(plainFixture, bundling)] leftover).2
    let call := before.runOne (Concat.tool .exact) clearing missingFixture bundling
    before.Obtains clearing call.1.workDir ∧
    ∃ location, Isolated clearing before.files call.2.files call.1 location := by
  have creatable : leftover.files.createAll clearing.workDir = .ok leftover.files := by
    decide +kernel
  have leads : ∀ job ∈ twoRuns, job.1.LeadsDown := by
    have down : Path.LeadsDown "a.js" := by decide
    have plain : plainFixture.LeadsDown := ⟨by simp [plainFixture, down], nofun⟩
    have missing : missingFixture.LeadsDown := ⟨plain.files, nofun⟩
    simp [twoRuns, plain, missing]
  obtain ⟨-, each⟩ := runAll_isolated (Concat.tool_confined .exact) creatable leads
  obtain ⟨-, isolated⟩ := each [(plainFixture, bundling)] missingFixture bundling [] rfl
  exact ⟨twoRuns_outcomes, isolated⟩

end SourceTrace.Verifier
