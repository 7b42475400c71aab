import Mathlib.Data.List.Basic
import NetAdmin.Proofs.Command.Dialogue
import NetAdmin.Proofs.Text.Lines
import NetAdmin.Route.Change
/-!
What runs of changes leave behind. Each change runs one command and ends by what came of it
(`Change.Ends`). A sink that several changes share holds, in their order, the command lines of
those that were applied, and nothing else is written to it (`performEach_recorded`).
-/

namespace NetAdmin

inductive Recording
  | absent
  | taken
  | refused (cause : Fault)
  deriving DecidableEq

def Recording.sink (content : Text) : Recording → Option Sink
  | absent => none
  | taken => some (.growing content)
  | refused cause => some (.refusing cause)

structure Change where
  kind : ChangeKind
  arguments : List Text
  recording : Recording

structure ChangeStep where
  change : Change
  answer : Except Error Output
  outcome : Except Error ChangeStatus

variable {σ : Type} (host : Host σ)

namespace Host

/-- Makes a change with a sink of the given content, and gives the content of the sink
afterwards. A sink that refuses what is written keeps its content. -/
def perform (change : Change) (content : Text) (before : Session σ) :
    Except Error ChangeStatus × Text × Session σ :=
  match host.changeRecorded change.kind change.arguments (change.recording.sink content) before with
  | (.error error, after) => (.error error, content, after)
  | (.ok (status, some (.growing grown)), after) => (.ok status, grown, after)
  | (.ok (status, _), after) => (.ok status, content, after)

def performEach : List Change → Text → Session σ →
    List (Except Error ChangeStatus) × Text × Session σ
  | [], content, session => ([], content, session)
  | change :: changes, content, session =>
      match host.perform change content session with
      | (outcome, grown, middle) =>
          match performEach changes grown middle with
          | (outcomes, final, after) => (outcome :: outcomes, final, after)

example : ((⟨.standard, .scripted []⟩ : Host Unit).performEach
    [⟨.addRule, ["from".toList, "10.0.0.2".toList], .taken⟩,
      ⟨.addFirewallRule, ["-F".toList], .absent⟩] "#\n".toList ⟨(), []⟩).2.1 =
    "#\n/usr/sbin/ip rule add from 10.0.0.2\n".toList := by decide

end Host

/-! ## What a change has to do -/

def ChangeKind.start : ChangeKind → CommandLine
  | .addRoute => [host.settings.ip, "route".toList, "add".toList]
  | .addRule => [host.settings.ip, "rule".toList, "add".toList]
  | .addFirewallRule | .removeFirewallRule => [host.settings.iptables]

inductive Change.Ends (change : Change) : Except Error Output → Except Error ChangeStatus → Prop
  /-- The command cannot be run. -/
  | unstarted (error : Error) : Ends change (.error error) (.error error)
  | failed {output : Output} {status : ChangeStatus}
      (loud : ¬ (output.status = some 0 ∧ Text.isAllBlank (output.stdout ++ output.stderr) = true))
      (code : status.code = 1) (said : Text.isAllBlank status.message = false)
      (captured : Text.isAllBlank (output.stdout ++ output.stderr) = false →
        status.message = output.stdout ++ output.stderr) :
      Ends change (.ok output) (.ok status)
  | applied {output : Output} {status : ChangeStatus} (zero : output.status = some 0)
      (silent : Text.isAllBlank (output.stdout ++ output.stderr) = true)
      (code : status.code = 0)
      (writable : change.kind ≠ .removeFirewallRule →
        ∀ cause, change.recording ≠ .refused cause) :
      Ends change (.ok output) (.ok status)
  /-- The sink of an addition refuses the record. -/
  | unrecorded {output : Output} {cause : Fault} (zero : output.status = some 0)
      (silent : Text.isAllBlank (output.stdout ++ output.stderr) = true)
      (adds : change.kind ≠ .removeFirewallRule) (refused : change.recording = .refused cause) :
      Ends change (.ok output) (.error (.io cause))

namespace ChangeStep

def line (step : ChangeStep) : CommandLine :=
  step.change.kind.start host ++ step.change.arguments

def exchange (step : ChangeStep) : Exchange :=
  ⟨step.line host, step.answer⟩

/-- The words of the command with spaces between them on a line of its own, for an addition
that has a sink and gives zero. -/
def record (step : ChangeStep) : Text :=
  match step.change.recording, step.outcome with
  | .taken, .ok status =>
      if step.change.kind ≠ .removeFirewallRule ∧ status.code = 0 then
        [' '].intercalate (step.line host) ++ ['\n']
      else []
  | _, _ => []

theorem record_eq_nil {step : ChangeStep} (unrecorded : step.change.kind = .removeFirewallRule ∨
    ∀ status, step.outcome = .ok status → status.code ≠ 0) : step.record host = [] := by
  unfold record
  split
  · next status recording ended =>
      rw [if_neg]
      rintro ⟨adds, zero⟩
      rcases unrecorded with removes | fails
      · exact adds removes
      · exact fails status ended zero
  · rfl

end ChangeStep

/-! ## Changes -/

theorem Text.glue_eq_intercalate (mark : Char) (parts : List Text) :
    Text.glue mark parts = [mark].intercalate parts := by
  induction parts with
  | nil => rfl
  | cons part parts induction =>
      cases parts with
      | nil => simp [Text.glue, List.intercalate]
      | cons next parts =>
          have step : Text.glue mark (part :: next :: parts) =
              part ++ mark :: Text.glue mark (next :: parts) := rfl
          rw [step, induction, List.intercalate_cons_cons, List.append_assoc,
            List.singleton_append]

theorem Output.isAllBlank_failureMessage {output : Output}
    (silent : Text.isAllBlank output.combined = true) :
    Text.isAllBlank output.failureMessage = false := by
  rw [Output.failureMessage, Text.trim_of_isAllBlank silent]
  cases output.status with
  | none => rfl
  | some status => rfl

theorem ChangeStatus.ofOutput_of_worked {output : Output} (zero : output.status = some 0)
    (silent : Text.isAllBlank (output.stdout ++ output.stderr) = true) :
    ChangeStatus.ofOutput output = .applied := by
  have worked : output.silentSuccess = true := by
    simp [Output.silentSuccess, Output.success, Output.combined, zero, silent]
  rw [ChangeStatus.ofOutput, if_pos worked]

theorem ChangeStatus.ofOutput_of_failed {output : Output}
    (loud : ¬ (output.status = some 0 ∧ Text.isAllBlank (output.stdout ++ output.stderr) = true)) :
    ∃ message, ChangeStatus.ofOutput output = .failed message ∧
      Text.isAllBlank message = false ∧
      (Text.isAllBlank (output.stdout ++ output.stderr) = false →
        message = output.stdout ++ output.stderr) := by
  have failed : ¬ output.silentSuccess = true := by
    simpa [Output.silentSuccess, Output.success, Output.combined] using loud
  rw [ChangeStatus.ofOutput, if_neg failed]
  cases silent : Text.isAllBlank output.combined with
  | true =>
      refine ⟨output.failureMessage, if_pos rfl, output.isAllBlank_failureMessage silent, ?_⟩
      intro captured
      rw [← Output.combined, silent] at captured
      cases captured
  | false => exact ⟨output.combined, if_neg Bool.false_ne_true, silent, fun _ => rfl⟩

namespace Host

theorem changeLine_eq (kind : ChangeKind) (arguments : List Text) :
    host.changeLine kind arguments = kind.start host ++ arguments := by
  cases kind <;> rfl

def settle (kind : ChangeKind) (arguments : List Text) (status : ChangeStatus) :
    Option Sink → Except Error (ChangeStatus × Option Sink)
  | none => .ok (status, none)
  | some sink =>
      if kind.isRecorded && status = .applied then
        match sink.append ((host.changeLine kind arguments).display ++ ['\n']) with
        | .ok grown => .ok (status, some grown)
        | .error cause => .error (.io cause)
      else .ok (status, some sink)

variable {host}

theorem changeRecorded_eq {kind : ChangeKind} {arguments : List Text} {before after : Session σ}
    {answer : Except Error Output}
    (ran : host.run (host.changeLine kind arguments) before = (answer, after))
    (sink : Option Sink) :
    host.changeRecorded kind arguments sink before =
      (answer.bind fun output => host.settle kind arguments (.ofOutput output) sink, after) := by
  rw [changeRecorded, Computation.bind_apply, change, Computation.bind_apply, ran]
  cases answer with
  | error error => rfl
  | ok output =>
      simp only [Computation.pure_apply, Except.bind]
      cases sink with
      | none => rfl
      | some sink =>
          simp only [settle]
          split
          · cases sink.append _ <;> rfl
          · rfl

theorem settle_unrecorded {kind : ChangeKind} {status : ChangeStatus}
    (unrecorded : kind = .removeFirewallRule ∨ status ≠ .applied) (arguments : List Text)
    (sink : Option Sink) : host.settle kind arguments status sink = .ok (status, sink) := by
  cases sink with
  | none => rfl
  | some sink =>
      have skipped : (kind.isRecorded && status = .applied) = false := by
        rcases unrecorded with rfl | failed
        · rfl
        · simp [failed]
      simp [settle, skipped]

theorem settle_applied {kind : ChangeKind} (adds : kind ≠ .removeFirewallRule)
    (arguments : List Text) (sink : Sink) :
    host.settle kind arguments .applied (some sink) =
      match sink.append ([' '].intercalate (kind.start host ++ arguments) ++ ['\n']) with
      | .ok grown => .ok (.applied, some grown)
      | .error cause => .error (.io cause) := by
  have recorded : kind.isRecorded = true := by
    cases kind with
    | removeFirewallRule => exact absurd rfl adds
    | addRoute | addRule | addFirewallRule => rfl
  rw [settle, recorded, changeLine_eq, CommandLine.display, Text.glue_eq_intercalate]
  rfl

section Ran

variable {change : Change} {before after : Session σ} {output : Output}
variable (ran : host.run (host.changeLine change.kind change.arguments) before =
  (.ok output, after))

include ran

theorem perform_unrecorded (content : Text)
    (unrecorded : change.kind = .removeFirewallRule ∨ ChangeStatus.ofOutput output ≠ .applied) :
    host.perform change content before = (.ok (.ofOutput output), content, after) := by
  have done := changeRecorded_eq ran (change.recording.sink content)
  rw [Except.bind, settle_unrecorded unrecorded] at done
  rw [perform, done]
  cases change.recording <;> rfl

theorem perform_applied (content : Text) (adds : change.kind ≠ .removeFirewallRule)
    (applied : ChangeStatus.ofOutput output = .applied) :
    host.perform change content before =
      match change.recording with
      | .absent => (.ok .applied, content, after)
      | .taken => (.ok .applied, content ++
          ([' '].intercalate (change.kind.start host ++ change.arguments) ++ ['\n']), after)
      | .refused cause => (.error (.io cause), content, after) := by
  have done := changeRecorded_eq ran (change.recording.sink content)
  rw [Except.bind, applied] at done
  rw [perform, done]
  rcases change with ⟨kind, arguments, recording⟩
  cases recording with
  | absent => rfl
  | taken => rw [Recording.sink, settle_applied adds]; rfl
  | refused cause => rw [Recording.sink, settle_applied adds]; rfl

end Ran

variable (host)

structure Makes (change : Change) (content : Text) (before : Session σ) (step : ChangeStep)
    (after : Session σ) : Prop where
  same : step.change = change
  performs : host.perform change content before =
    (step.outcome, content ++ step.record host, after)
  dialogue : Dialogue host before [step.exchange host] after
  ends : change.Ends step.answer step.outcome

variable {host}

section Dialogues

variable {change : Change} {before after : Session σ} {output : Output}
variable (runs : Runs host (host.run (host.changeLine change.kind change.arguments)) before
  [⟨change.kind.start host ++ change.arguments, .ok output⟩] (.ok output) after)

include runs

theorem makes_failed (content : Text) (loud : ¬ (output.status = some 0 ∧
      Text.isAllBlank (output.stdout ++ output.stderr) = true)) :
    ∃ step, host.Makes change content before step after := by
  rcases ChangeStatus.ofOutput_of_failed loud with ⟨message, failed, said, captured⟩
  refine ⟨⟨change, .ok output, .ok (.failed message)⟩, rfl, ?_, runs.dialogue,
    .failed loud rfl said captured⟩
  rw [perform_unrecorded runs.ends content (.inr (by simp [failed])), failed,
    ChangeStep.record_eq_nil host, List.append_nil]
  right
  rintro status ⟨⟩
  exact Nat.one_ne_zero

variable (zero : output.status = some 0)
variable (silent : Text.isAllBlank (output.stdout ++ output.stderr) = true)

include zero silent

theorem makes_removed (content : Text) (removes : change.kind = .removeFirewallRule) :
    ∃ step, host.Makes change content before step after := by
  refine ⟨⟨change, .ok output, .ok .applied⟩, rfl, ?_, runs.dialogue,
    .applied zero silent rfl fun adds => absurd removes adds⟩
  rw [perform_unrecorded runs.ends content (.inl removes),
    ChangeStatus.ofOutput_of_worked zero silent, ChangeStep.record_eq_nil host (.inl removes),
    List.append_nil]

theorem makes_added (content : Text) (adds : change.kind ≠ .removeFirewallRule) :
    ∃ step, host.Makes change content before step after := by
  have performs := perform_applied runs.ends content adds
    (ChangeStatus.ofOutput_of_worked zero silent)
  cases recording : change.recording with
  | absent =>
      rw [recording] at performs
      refine ⟨⟨change, .ok output, .ok .applied⟩, rfl, ?_, runs.dialogue,
        .applied zero silent rfl (by simp [recording])⟩
      rw [performs]
      simp [ChangeStep.record, recording]
  | taken =>
      rw [recording] at performs
      refine ⟨⟨change, .ok output, .ok .applied⟩, rfl, ?_, runs.dialogue,
        .applied zero silent rfl (by simp [recording])⟩
      rw [performs]
      simp [ChangeStep.record, ChangeStep.line, recording, adds, ChangeStatus.code]
  | refused cause =>
      rw [recording] at performs
      refine ⟨⟨change, .ok output, .error (.io cause)⟩, rfl, ?_, runs.dialogue,
        .unrecorded zero silent adds recording⟩
      rw [performs]
      simp [ChangeStep.record, recording]

end Dialogues

variable (host)

theorem exists_makes (change : Change) (content : Text) (before : Session σ) :
    ∃ step after, host.Makes change content before step after := by
  rcases host.runs_run (host.changeLine change.kind change.arguments) before with
    ⟨answer, after, runs⟩
  have dialogue := runs.dialogue
  rw [changeLine_eq] at dialogue
  rcases answer with error | output
  · refine ⟨⟨change, .error error, .error error⟩, after, rfl, ?_, dialogue, .unstarted error⟩
    rw [perform, changeRecorded_eq runs.ends]
    simp [Except.bind, ChangeStep.record]
  · have ran : Runs host (host.run (host.changeLine change.kind change.arguments)) before
        [⟨change.kind.start host ++ change.arguments, .ok output⟩] (.ok output) after :=
      ⟨runs.ends, dialogue⟩
    by_cases worked : output.status = some 0 ∧
        Text.isAllBlank (output.stdout ++ output.stderr) = true
    · by_cases removes : change.kind = .removeFirewallRule
      · rcases makes_removed ran worked.1 worked.2 content removes with ⟨step, made⟩
        exact ⟨step, after, made⟩
      · rcases makes_added ran worked.1 worked.2 content removes with ⟨step, made⟩
        exact ⟨step, after, made⟩
    · rcases makes_failed ran content worked with ⟨step, made⟩
      exact ⟨step, after, made⟩

theorem exists_steps (changes : List Change) (content : Text) (before : Session σ) :
    ∃ (steps : List ChangeStep) (after : Session σ), steps.map (·.change) = changes ∧
      host.performEach changes content before =
        (steps.map (·.outcome), content ++ steps.flatMap (ChangeStep.record host), after) ∧
      Dialogue host before (steps.map (ChangeStep.exchange host)) after ∧
      ∀ step ∈ steps, step.change.Ends step.answer step.outcome := by
  -- Over all contents and sessions, as the first change leaves others to those behind it.
  induction changes generalizing content before with
  | nil => exact ⟨[], before, rfl, by simp [performEach], .silent before, by simp⟩
  | cons change changes induction =>
      rcases host.exists_makes change content before with ⟨step, middle, made⟩
      rcases induction (content ++ step.record host) middle with
        ⟨steps, after, same, performs, dialogue, ends⟩
      refine ⟨step :: steps, after, by rw [List.map_cons, made.same, same], ?_,
        made.dialogue.append dialogue, List.forall_mem_cons.mpr ⟨made.same ▸ made.ends, ends⟩⟩
      rw [performEach, made.performs]
      dsimp only
      rw [performs, List.append_assoc, List.map_cons, List.flatMap_cons]

end Host

/-- Whatever its runner answers, a run of changes runs one command for each of them, the
program of the change with its arguments behind it, and each change ends by what came of its
command. The shared sink ends with the records of the changes behind what it held. -/
theorem performEach_recorded (changes : List Change) (content : Text) (before : Session σ) :
    ∃ (steps : List ChangeStep) (after : Session σ), steps.map (·.change) = changes ∧
      host.performEach changes content before =
        (steps.map (·.outcome), content ++ steps.flatMap (ChangeStep.record host), after) ∧
      host.Dialogue before (steps.map (ChangeStep.exchange host)) after ∧
      after.calls = before.calls ++ steps.map (ChangeStep.line host) ∧
      ∀ step ∈ steps, step.change.Ends step.answer step.outcome := by
  rcases host.exists_steps changes content before with
    ⟨steps, after, same, performs, dialogue, ends⟩
  have calls := dialogue.calls
  rw [List.map_map] at calls
  exact ⟨steps, after, same, performs, dialogue, calls, ends⟩

end NetAdmin
