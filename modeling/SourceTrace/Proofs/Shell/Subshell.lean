import SourceTrace.Proofs.FileTree.Writing
import SourceTrace.Proofs.Verify.Steps
import SourceTrace.Shell.Run

/-!
# Parts that run apart

Subshells, substituted commands, the sides of a pipe and nested shells run on a machine of their
own. Whatever they do, the script around them keeps its variables, its directory, its named
commands, its channels and its options, and what ends them ends no loop, no named command and not
the script itself.
-/
namespace SourceTrace.Shell

/-- The second machine is the first one but for the files, the time, what the last command has left
and what has been read and printed. -/
def Apart (before after : Machine) : Prop :=
  { before with
    files := after.files, elapsed := after.elapsed, status := after.status
    captured := after.captured, input := after.input, kept := after.kept
    runnable := after.runnable } = after

theorem Apart.refl (machine : Machine) : Apart machine machine := rfl

theorem Apart.trans {before middle after : Machine} (first : Apart before middle)
    (second : Apart middle after) : Apart before after := by
  unfold Apart at *
  rw [← second, ← first]

theorem Apart.pending_eq {before after : Machine} (apart : Apart before after) :
    after.pending = before.pending := (congrArg Machine.pending apart).symm

theorem Apart.bind {α β : Type} {action : Running α} {next : α → Running β} {machine : Machine}
    (first : Apart machine (action.run.run machine).2)
    (second : ∀ value middle, Apart machine middle →
      Apart middle ((next value).run.run middle).2) :
    Apart machine ((action >>= next).run.run machine).2 := by
  simp only [ExceptT.run_bind, StateT.run_bind]
  cases ran : action.run.run machine with
  | mk result middle =>
    rw [ran] at first
    cases result with
    | ok value => exact first.trans (second value middle first)
    | error halt => exact first

/-- A step that changes nothing but what a part apart may change. -/
def KeepsApart {α : Type} (action : Running α) : Prop :=
  ∀ machine, Apart machine (action.run.run machine).2

namespace KeepsApart

variable {α β : Type} {action : Running α} {next : α → Running β}

theorem pure (value : α) : KeepsApart (Pure.pure value : Running α) := Apart.refl

theorem throw (halt : Halt) : KeepsApart (MonadExcept.throw halt : Running α) := Apart.refl

theorem get : KeepsApart (MonadState.get : Running Machine) := Apart.refl

theorem modifying {change : Machine → Machine} (apart : ∀ machine, Apart machine (change machine)) :
    KeepsApart (modify change : Running PUnit) := apart

theorem bind (first : KeepsApart action) (second : ∀ value, KeepsApart (next value)) :
    KeepsApart (action >>= next) :=
  fun machine => .bind (first machine) fun value middle _ => second value middle

end KeepsApart

theorem setStatus_keepsApart (status : Nat) : KeepsApart (Running.setStatus status) :=
  .modifying fun _ => rfl

theorem checkStatus_keepsApart (isChecked : Bool) : KeepsApart (checkStatus isChecked) := by
  refine .bind .get fun machine => ?_
  split
  · exact .throw _
  · exact .pure _

/-- When what is over is a part alone, or the whole run: no loop and no named command around it, and
an exit is one from the part. -/
def Over {α : Type} (result : Except Halt α) : Prop :=
  ∀ halt, result = .error halt → ∃ ending, halt = .ended ending ∧ ∀ status, ending ≠ .exit status

theorem over_ok {α : Type} (value : α) : Over (.ok value : Except Halt α) :=
  fun _ impossible => nomatch impossible

theorem over_ended {α : Type} {ending : Ending} (other : ∀ status, ending = .exit status → False) :
    Over (.error (.ended ending) : Except Halt α) := by
  rintro halt ⟨⟩
  exact ⟨ending, rfl, other⟩

section Subshell

variable {runner : Runner} {change : Machine → Machine} {action : Running Unit}

theorem finishing_over (machine : Machine) :
    Over ((finishing runner action).run.run machine).1 := by
  rw [finishing]
  simp only [ExceptT.run, ExceptT.mk, StateT.run]
  split
  case h_2 ending after other ran => exact over_ended other
  -- What the part has asked to run at its end can end the run as well.
  all_goals
    split
    · exact over_ok ()
    · split
      case h_2 ending last other ran => exact over_ended other
      all_goals exact over_ok ()

/-- Whatever a part does to its own machine, the machine around it is restored. -/
theorem inSubshell_keepsApart : KeepsApart (inSubshell runner change action) := fun _ => rfl

/-- An exit, a break or a return in a part reaches nothing around the part. -/
theorem inSubshell_over (machine : Machine) :
    Over ((inSubshell runner change action).run.run machine).1 := finishing_over _

end Subshell

section Capture

variable {runner : Runner}

theorem collecting_keepsApart {action : (Machine → Machine) → Running Unit}
    (apart : ∀ change, KeepsApart (action change)) : KeepsApart (collecting action) :=
  .bind .get fun _ => .bind (apart _) fun _ =>
    .bind .get fun _ => .bind (.modifying fun _ => rfl) fun _ => .pure _

theorem collecting_kept {action : (Machine → Machine) → Running Unit} {machine after : Machine}
    {printed : List UInt8}
    (ran : (collecting action).run.run machine = (.ok printed, after)) :
    after.kept = machine.kept := by
  obtain ⟨start, _, got, ran⟩ := run_bind_eq_ok_iff.mp ran
  cases got
  obtain ⟨_, middle, -, ran⟩ := run_bind_eq_ok_iff.mp ran
  obtain ⟨_, _, got, ran⟩ := run_bind_eq_ok_iff.mp ran
  cases got
  cases ran
  rfl

/-- A command that takes the place of its output changes nothing around it. -/
theorem captureOf_keepsApart (script : List Char) : KeepsApart (captureOf runner script) :=
  .bind .get fun _ => .bind (collecting_keepsApart fun _ => inSubshell_keepsApart) fun _ =>
    .bind (.modifying fun _ => rfl) fun _ => .pure _

/-- What the command prints is taken out of the output around it, and its status does not become
that of the last command. -/
theorem captureOf_restores {script : List Char} {machine after : Machine} {text : String}
    (ran : (captureOf runner script).run.run machine = (.ok text, after)) :
    after.status = machine.status ∧ after.kept = machine.kept := by
  obtain ⟨start, _, got, ran⟩ := run_bind_eq_ok_iff.mp ran
  cases got
  obtain ⟨printed, middle, collected, ran⟩ := run_bind_eq_ok_iff.mp ran
  have kept := collecting_kept collected
  cases ran
  exact ⟨rfl, kept⟩

end Capture

section Commands

variable {fuel : Nat} {isChecked : Bool}

/-- Neither side of a pipe changes the script around it. -/
theorem runCommand_pipe_keepsApart (first second : Command) :
    KeepsApart (runCommand (fuel + 1) isChecked (.pipe first second)) := by
  rw [runCommand]
  refine .bind (collecting_keepsApart fun _ => inSubshell_keepsApart) fun printed => ?_
  exact .bind (fun machine => rfl) fun _ => checkStatus_keepsApart isChecked

theorem run_get_bind {α : Type} (next : Machine → Running α) (machine : Machine) :
    ((get : Running Machine) >>= next).run.run machine = (next machine).run.run machine := rfl

theorem runPending_of_quiet (runner : Runner) (fuel : Nat) {machine : Machine}
    (quiet : machine.pending = []) :
    (runPending runner fuel).run.run machine = (.ok (), machine) := by
  cases fuel with
  | zero => rfl
  | succ fuel =>
    rw [runPending]
    refine (run_get_bind _ machine).trans ?_
    simp only [quiet]
    rfl

/-- A subshell changes nothing of the script around it, unless signals have arrived whose actions
the script runs behind it. -/
theorem runCommand_subshell_apart (body : Command) {machine : Machine}
    (quiet : machine.pending = []) :
    Apart machine ((runCommand (fuel + 1) isChecked (.subshell body)).run.run machine).2 := by
  rw [runCommand]
  refine .bind (inSubshell_keepsApart machine) fun _ middle apart => ?_
  refine .bind ?_ fun _ last _ => checkStatus_keepsApart isChecked last
  rw [runPending_of_quiet _ _ (apart.pending_eq.trans quiet)]
  exact .refl middle

/-- A shell that is run as a program changes nothing of the script that runs it. -/
theorem runShell_keepsApart (runner : Runner) (program : String) (arguments : List String) :
    KeepsApart (runShell runner program arguments) := by
  rw [runShell]
  generalize startOf [] false arguments = given
  obtain ⟨start, options⟩ := given
  cases start with
  | refused => exact setStatus_keepsApart 2
  | input arguments =>
    have taken : KeepsApart Running.takeInput := fun _ => rfl
    exact .bind taken fun _ => inSubshell_keepsApart
  | text script name arguments => exact inSubshell_keepsApart
  | file path arguments =>
    refine .bind ?_ fun found => ?_
    · exact .bind (.bind .get fun _ => .pure _) fun _ => .bind .get fun _ => .pure _
    · cases found with
      | error cause => exact setStatus_keepsApart 2
      | ok bytes => exact inSubshell_keepsApart

end Commands

section Hosting

/-- A program is started if its directory is there and its name is that of a program. -/
theorem expectStart_eq_ok_iff {invocation : Invocation} {files : FileTree} :
    expectStart invocation files = .ok () ↔
      (∃ location, files.locate invocation.directory = .ok location
        ∧ files.node? location = some .directory)
      ∧ (Program.named? invocation.program.text).isSome := by
  rw [expectStart]
  simp only [bind, Except.bind]
  cases files.locate invocation.directory with
  | error cause => simp
  | ok location =>
    simp only [Except.ok.injEq, exists_eq_left', ← FileTree.expectDirectory_eq_ok]
    cases files.expectDirectory location with
    | error cause => simp
    | ok =>
      by_cases known : (Program.named? invocation.program.text).isSome
      · simp [known]
      · dsimp only
        rw [if_neg known]
        repeat' split
        all_goals simp [known]

/-- A program that cannot be started leaves the files as they are. -/
theorem host_unchanged {invocation : Invocation} {files : FileTree} {cause : FileError}
    (refused : (host.run invocation files).1 = .error cause) :
    (host.run invocation files).2 = files := by
  unfold host at refused ⊢
  dsimp only at refused ⊢
  split at refused
  next => rfl
  next =>
    split at refused <;> exact absurd refused (by simp)

end Hosting

end SourceTrace.Shell
