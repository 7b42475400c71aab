import NetAdmin.Command.Scripted
import NetAdmin.Proofs.Computation
/-!
What computations say to a runner and hear from it. A `Dialogue` leads from one session to
another by commands and their results, and `Runs` says of a computation which dialogue it
has and how it ends. Computations that follow one another have their dialogues one after
the other (`Runs.bind`), so what a program asks is read off its parts. A runner may answer
as it likes; one that answers by a fixed function gives the results of that function
(`Dialogue.result_eq`).
-/

namespace NetAdmin

structure Exchange where
  line : CommandLine
  result : Except Error Output

def CommandLine.report (line : CommandLine) : Except Error Output → Except Error Text
  | .ok output =>
      if output.success then .ok output.stdout
      else .error (.commandFailed line.display output.failureMessage)
  | .error error => .error error

namespace Host

variable {σ α β : Type} {host : Host σ}

/-! ## Dialogues -/

inductive Dialogue (host : Host σ) : Session σ → List Exchange → Session σ → Prop
  | silent (session : Session σ) : Dialogue host session [] session
  | ask {before middle after : Session σ} {line : CommandLine} {result : Except Error Output}
      {exchanges : List Exchange} (answered : host.run line before = (result, middle))
      (rest : Dialogue host middle exchanges after) :
      Dialogue host before (⟨line, result⟩ :: exchanges) after

theorem Dialogue.append {before middle after : Session σ} {exchanges others : List Exchange}
    (first : Dialogue host before exchanges middle) (second : Dialogue host middle others after) :
    Dialogue host before (exchanges ++ others) after := by
  induction first with
  | silent => exact second
  | ask answered _ induction => exact .ask answered (induction second)

theorem Dialogue.calls {before after : Session σ} {exchanges : List Exchange}
    (dialogue : Dialogue host before exchanges after) :
    after.calls = before.calls ++ exchanges.map Exchange.line := by
  induction dialogue with
  | silent => simp
  | ask answered _ induction =>
      have noted := congrArg (fun done => done.2.calls) answered
      rw [induction, ← noted]
      simp [run]

end Host

/-- The runner answers each command line by a fixed function of it, whatever was run
before. -/
def Runner.Fixed {σ : Type} (runner : Runner σ) (answers : CommandLine → Except Error Output) :
    Prop :=
  ∀ line state, (runner.answer line state).1 = answers line

theorem Runner.fixed_ofFunction (answers : CommandLine → Except Error Output) :
    (Runner.ofFunction answers).Fixed answers :=
  fun _ _ => rfl

namespace Host

variable {σ α β : Type} {host : Host σ}

theorem Dialogue.result_eq {answers : CommandLine → Except Error Output}
    (fixed : host.runner.Fixed answers) {before after : Session σ} {exchanges : List Exchange}
    (dialogue : Dialogue host before exchanges after) :
    ∀ exchange ∈ exchanges, exchange.result = answers exchange.line := by
  induction dialogue with
  | silent => simp
  | @ask before middle after line result exchanges answered _ induction =>
      have given := congrArg Prod.fst answered
      rw [List.forall_mem_cons]
      exact ⟨given.symm.trans (fixed line before.state), induction⟩

/-! ## Computations -/

/-- A computation has the given dialogue, ends with the result and leaves a session. -/
structure Runs (host : Host σ) (computation : CommandM σ α) (before : Session σ)
    (exchanges : List Exchange) (result : Except Error α) (after : Session σ) : Prop where
  ends : computation before = (result, after)
  dialogue : Dialogue host before exchanges after

theorem Runs.pure (value : α) (session : Session σ) :
    Runs host (pure value) session [] (.ok value) session :=
  ⟨rfl, .silent session⟩

theorem Runs.ofExcept (result : Except Error α) (session : Session σ) :
    Runs host (MonadExcept.ofExcept result) session [] result session :=
  ⟨Computation.ofExcept_apply result session, .silent session⟩

theorem Runs.bind {first : CommandM σ α} {next : α → CommandM σ β}
    {before middle after : Session σ} {exchanges others : List Exchange} {value : α}
    {result : Except Error β} (runs : Runs host first before exchanges (.ok value) middle)
    (rest : Runs host (next value) middle others result after) :
    Runs host (first >>= next) before (exchanges ++ others) result after where
  ends := by
    rw [Computation.bind_apply, runs.ends]
    exact rest.ends
  dialogue := runs.dialogue.append rest.dialogue

theorem Runs.bind_error {first : CommandM σ α} {next : α → CommandM σ β}
    {before after : Session σ} {exchanges : List Exchange} {error : Error}
    (fails : Runs host first before exchanges (.error error) after) :
    Runs host (first >>= next) before exchanges (.error error) after where
  ends := by rw [Computation.bind_apply, fails.ends]
  dialogue := fails.dialogue

theorem Runs.map {first : CommandM σ α} {before after : Session σ} {exchanges : List Exchange}
    {result : Except Error α} (runs : Runs host first before exchanges result after)
    (transform : α → β) :
    Runs host (first >>= fun value => Pure.pure (transform value)) before exchanges
      (result.map transform) after where
  ends := by
    rw [Computation.bind_apply, runs.ends]
    cases result <;> rfl
  dialogue := runs.dialogue

variable (host)

theorem runs_run (line : CommandLine) (before : Session σ) :
    ∃ result after, Runs host (host.run line) before [⟨line, result⟩] result after :=
  ⟨_, _, rfl, .ask rfl (.silent _)⟩

theorem runs_checkedRun (line : CommandLine) (before : Session σ) :
    ∃ result after,
      Runs host (host.checkedRun line) before [⟨line, result⟩] (line.report result) after := by
  rcases host.runs_run line before with ⟨result, after, runs⟩
  refine ⟨result, after, ?_, runs.dialogue⟩
  rw [checkedRun, Computation.bind_apply, runs.ends]
  cases result with
  | error error => rfl
  | ok output =>
      simp only [CommandLine.report]
      split <;> rfl

variable {host} in
theorem succeeds_checkedRun_of_fixed {answers : CommandLine → Except Error Output}
    (fixed : host.runner.Fixed answers) {line : CommandLine} {before : Session σ}
    (succeeds : Computation.Succeeds (host.checkedRun line) before) (start : Session σ) :
    Computation.Succeeds (host.checkedRun line) start := by
  rcases succeeds with ⟨text, after, done⟩
  rcases host.runs_checkedRun line before with ⟨result, left, runs⟩
  rcases host.runs_checkedRun line start with ⟨other, final, reruns⟩
  have given : result = answers line := runs.dialogue.result_eq fixed _ List.mem_cons_self
  have same : other = answers line := reruns.dialogue.result_eq fixed _ List.mem_cons_self
  rw [runs.ends, given, Prod.mk.injEq] at done
  exact ⟨text, final, by rw [reruns.ends, same, done.1]⟩

variable {host} in
theorem exists_output_of_checkedRun {line : CommandLine} {before after : Session σ} {text : Text}
    (done : host.checkedRun line before = (.ok text, after)) :
    ∃ output : Output, output.success = true ∧ output.stdout = text ∧
      Dialogue host before [⟨line, .ok output⟩] after := by
  rcases host.runs_checkedRun line before with ⟨result, left, runs⟩
  rw [runs.ends, Prod.mk.injEq] at done
  rcases done with ⟨report, rfl⟩
  rcases result with error | output
  · cases report
  · rw [CommandLine.report] at report
    split at report
    · next success =>
      cases report
      exact ⟨output, success, rfl, runs.dialogue⟩
    · cases report

theorem runs_query (line : CommandLine) (read : Text → Except Error α) (before : Session σ) :
    ∃ result after,
      Runs host (host.checkedRun line >>= fun text => MonadExcept.ofExcept (read text)) before
        [⟨line, result⟩] ((line.report result).bind read) after := by
  rcases host.runs_checkedRun line before with ⟨result, after, runs⟩
  refine ⟨result, after, ?_⟩
  cases report : line.report result with
  | error error =>
      rw [report] at runs
      exact runs.bind_error
  | ok text =>
      rw [report] at runs
      exact runs.bind (.ofExcept (read text) after)

end Host
end NetAdmin
