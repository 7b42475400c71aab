import NetAdmin.Proofs.Files.Replacement
import NetAdmin.Registry.Edit
/-!
Runs of calls on a registry. A call reads the text of the registry, plans its answer
and perhaps a new text, and replaces the content of the file by the new text
(`answer_eq`). `Performed` says all that a call can do to the files of a lawful
store (`performed`); in a reliable one it does what was planned (`answer_planned`).
-/

namespace NetAdmin

def Error.concernsEdit : Error → Bool
  | .backupFailed .. | .commitFailed .. | .restoreFailed .. => true
  | _ => false

theorem Error.concernsEdit_ofFault (cause : Fault) (operation : Text) :
    (Error.ofFault cause operation).concernsEdit = false := by
  unfold Error.ofFault
  split <;> rfl

theorem TableEntry.concernsEdit_of_ofRegistry {text : Text} {error : Error}
    (unreadable : TableEntry.ofRegistry text = .error error) : error.concernsEdit = false := by
  unfold TableEntry.ofRegistry at unreadable
  generalize ((Text.lines text).map Text.trim).filter TableEntry.isEntryLine = lines at unreadable
  -- Reading stops at the first line that is no entry, with the failure of that line.
  induction lines with
  | nil => cases unreadable
  | cons line lines induction =>
      rw [List.mapM_cons] at unreadable
      rcases first : TableEntry.ofLine line with cause | entry
      · rw [first] at unreadable
        cases unreadable
        simp only [TableEntry.ofLine] at first
        split at first
        · cases first
        · cases first
          rfl
      · rcases others : lines.mapM TableEntry.ofLine with cause | entries
        · rw [first, others] at unreadable
          cases unreadable
          exact induction others
        · rw [first, others] at unreadable
          cases unreadable

namespace Registry

/-! ## Calls and runs -/

inductive Call
  | add (name : Text)
  | delete (name : Text)
  | find (name : Text)
  | entries
  deriving DecidableEq, Repr

inductive Answer
  | added (entry : TableEntry)
  | deleted (count : Nat)
  | found (entry : Option TableEntry)
  | listed (entries : List TableEntry)
  deriving DecidableEq, Repr

structure Step (σ : Type) where
  call : Call
  before : σ
  result : Except Error Answer
  after : σ

section Definitions

variable {σ : Type} (files : FileStore σ) (registry : Registry)

def answer : Call → StoreM σ Answer
  | .add name => .added <$> registry.add files name
  | .delete name => .deleted <$> registry.delete files name
  | .find name => .found <$> registry.find files name
  | .entries => .listed <$> registry.entries files

def run : List Call → σ → List (Step σ)
  | [], _ => []
  | call :: calls, state =>
      let done := registry.answer files call state
      ⟨call, state, done.1, done.2⟩ :: run calls done.2

def stateAfter : List Call → σ → σ
  | [], state => state
  | call :: calls, state => stateAfter calls (registry.answer files call state).2

/-- What a call answers on the text of a registry, and the text that it writes if it
edits. -/
def plan : Call → Text → Except Error (Answer × Option Text)
  | .add name, text => do
      let entries ← TableEntry.ofRegistry text
      match TableEntry.firstFree entries with
      | none => throw (.noFreeNumber registry.path)
      | some number => return (.added ⟨number, name⟩, some (withEntry text ⟨number, name⟩))
  | .delete name, text => .ok (.deleted (countName text name), some (withoutName text name))
  | .find name, text => do
      let entries ← TableEntry.ofRegistry text
      return (.found (entries.find? (·.name == name)), none)
  | .entries, text => do
      let entries ← TableEntry.ofRegistry text
      return (.listed entries, none)

end Definitions

def Call.edits : Call → Bool
  | .add _ | .delete _ => true
  | .find _ | .entries => false

inductive Edits : Call → Answer → (old new : Text) → Prop
  | add {name old : Text} {entries : List TableEntry} {number : Nat}
      (registered : TableEntry.ofRegistry old = .ok entries)
      (free : TableEntry.firstFree entries = some number) :
      Edits (.add name) (.added ⟨number, name⟩) old (withEntry old ⟨number, name⟩)
  | delete {name old : Text} :
      Edits (.delete name) (.deleted (countName old name)) old (withoutName old name)

/-! ## One call -/

def paths (registry : Registry) : List Path :=
  [registry.path, registry.backup]

theorem path_mem_paths (registry : Registry) : registry.path ∈ registry.paths :=
  List.mem_cons_self

theorem ofPath_apart (path : Path) : (ofPath path).path ≠ (ofPath path).backup := by
  intro equal
  have lengths := congrArg List.length equal
  simp [ofPath, Settings.backupOf] at lengths

variable {σ : Type} {files : FileStore σ} {registry : Registry}

theorem plan_add {text : Text} {entries : List TableEntry}
    (registered : TableEntry.ofRegistry text = .ok entries) (name : Text) :
    registry.plan (.add name) text =
      match TableEntry.firstFree entries with
      | none => .error (.noFreeNumber registry.path)
      | some number => .ok (.added ⟨number, name⟩, some (withEntry text ⟨number, name⟩)) := by
  rw [plan, registered]
  cases free : TableEntry.firstFree entries <;> simp only [bind, Except.bind, free] <;> rfl

/-- A plan has a new text exactly if the call is an edit, and fails early. -/
def Planned (call : Call) (text : Text) : Except Error (Answer × Option Text) → Prop
  | .error error => error.concernsEdit = false
  | .ok (_, none) => call.edits = false
  | .ok (answer, some new) => call.edits = true ∧ Edits call answer text new

theorem plan_cases {call : Call} {text : Text} {result : Except Error (Answer × Option Text)}
    (planned : registry.plan call text = result) : Planned call text result := by
  subst planned
  rcases registered : TableEntry.ofRegistry text with cause | entries
  · have unreadable := TableEntry.concernsEdit_of_ofRegistry registered
    cases call with
    | add name =>
        rw [plan, registered]
        exact unreadable
    | delete name => exact ⟨rfl, .delete⟩
    | find name =>
        rw [plan, registered]
        exact unreadable
    | entries =>
        rw [plan, registered]
        exact unreadable
  · cases call with
    | add name =>
        rw [plan_add registered]
        cases free : TableEntry.firstFree entries with
        | none => rfl
        | some number => exact ⟨rfl, .add registered free⟩
    | delete name => exact ⟨rfl, .delete⟩
    | find name =>
        rw [plan, registered]
        rfl
    | entries =>
        rw [plan, registered]
        rfl

theorem answer_eq (call : Call) (state : σ) :
    registry.answer files call state =
      match registry.readText files state with
      | (.error error, after) => (.error error, after)
      | (.ok text, read) =>
          match registry.plan call text with
          | .error error => (.error error, read)
          | .ok (answer, none) => (.ok answer, read)
          | .ok (answer, some new) =>
              match registry.commit files new read with
              | (.ok _, after) => (.ok answer, after)
              | (.error error, after) => (.error error, after) := by
  cases call with
  | add name =>
      simp only [answer, add, Computation.map_apply, Computation.bind_apply,
        Computation.ofExcept_apply]
      rcases registry.readText files state with ⟨_ | text, read⟩
      · rfl
      dsimp only
      rcases registered : TableEntry.ofRegistry text with error | entries
      · rw [plan, registered]
        rfl
      rw [plan_add registered]
      dsimp only
      cases TableEntry.firstFree entries with
      | none => rfl
      | some number =>
          simp only [Computation.bind_apply, Computation.pure_apply]
          rcases registry.commit files (withEntry text ⟨number, name⟩) read with
            ⟨_ | _, after⟩ <;> rfl
  | delete name =>
      simp only [answer, delete, plan, Computation.map_apply, Computation.bind_apply,
        Computation.pure_apply]
      rcases registry.readText files state with ⟨_ | text, read⟩
      · rfl
      dsimp only
      rcases registry.commit files (withoutName text name) read with ⟨_ | _, after⟩ <;> rfl
  | find name =>
      simp only [answer, find, entries, plan, Computation.map_apply, Computation.bind_apply,
        Computation.ofExcept_apply, Computation.pure_apply]
      rcases registry.readText files state with ⟨_ | text, read⟩
      · rfl
      dsimp only
      rcases TableEntry.ofRegistry text with _ | entries <;> rfl
  | entries =>
      simp only [answer, entries, plan, Computation.map_apply, Computation.bind_apply,
        Computation.ofExcept_apply]
      rcases registry.readText files state with ⟨_ | text, read⟩
      · rfl
      dsimp only
      rcases TableEntry.ofRegistry text with _ | entries <;> rfl

theorem exists_plan_of_answer {call : Call} {answer : Answer} {state after : σ}
    (done : registry.answer files call state = (.ok answer, after)) :
    ∃ text new, registry.plan call text = .ok (answer, new) := by
  rw [answer_eq] at done
  rcases read : registry.readText files state with ⟨error | text, left⟩
  · rw [read] at done
    cases done
  rcases planned : registry.plan call text with error | ⟨told, _ | new⟩
  · simp only [read, planned] at done
    cases done
  · simp only [read, planned] at done
    cases done
    exact ⟨text, none, planned⟩
  · simp only [read, planned] at done
    rcases committed : registry.commit files new left with ⟨_ | _, final⟩
    · simp only [committed] at done
      cases done
    · simp only [committed] at done
      cases done
      exact ⟨text, some new, planned⟩

theorem exists_added {name : Text} {answer : Answer} {state after : σ}
    (done : registry.answer files (.add name) state = (.ok answer, after)) :
    ∃ number, answer = .added ⟨number, name⟩ := by
  rcases exists_plan_of_answer done with ⟨text, _ | new, planned⟩
  · cases plan_cases planned
  · rcases plan_cases planned with ⟨-, edits⟩
    cases edits with
    | add registered free => exact ⟨_, rfl⟩

theorem registered_of_entries {state : σ} {entries : List TableEntry}
    (listed : (registry.entries files state).1 = .ok entries) :
    ∃ text, TableEntry.ofRegistry text = .ok entries := by
  rw [Registry.entries, Computation.bind_apply] at listed
  rcases read : registry.readText files state with ⟨error | text, after⟩
  · simp [read] at listed
  · simp only [read, Computation.ofExcept_apply] at listed
    exact ⟨text, listed⟩

/-! ## Runs -/

theorem mem_run {calls : List Call} {state : σ} {step : Step σ}
    (member : step ∈ registry.run files calls state) :
    registry.answer files step.call step.before = (step.result, step.after) := by
  induction calls generalizing state with
  | nil => cases member
  | cons call calls induction =>
      rcases List.mem_cons.mp member with rfl | later
      · rfl
      · exact induction later

theorem call_mem_of_mem_run {calls : List Call} {state : σ} {step : Step σ}
    (member : step ∈ registry.run files calls state) : step.call ∈ calls := by
  induction calls generalizing state with
  | nil => cases member
  | cons call calls induction =>
      rcases List.mem_cons.mp member with rfl | later
      · exact List.mem_cons_self
      · exact List.mem_cons_of_mem _ (induction later)

theorem run_append (first second : List Call) (state : σ) :
    registry.run files (first ++ second) state =
      registry.run files first state ++
        registry.run files second (registry.stateAfter files first state) := by
  induction first generalizing state with
  | nil => rfl
  | cons call first induction =>
      rw [List.cons_append, run, induction, run, stateAfter, List.cons_append]

theorem mem_run_append_cons (first : List Call) (call : Call) (second : List Call) (state : σ) :
    let before := registry.stateAfter files first state
    let done := registry.answer files call before
    ⟨call, before, done.1, done.2⟩ ∈ registry.run files (first ++ call :: second) state := by
  rw [run_append]
  exact List.mem_append_right _ List.mem_cons_self

theorem exists_calls_of_run {calls : List Call} {state : σ} {earlier later : List (Step σ)}
    {step : Step σ} (steps : registry.run files calls state = earlier ++ step :: later) :
    ∃ before after, calls = before ++ step.call :: after ∧
      registry.stateAfter files before state = step.before ∧
      registry.answer files step.call step.before = (step.result, step.after) ∧
      registry.run files after step.after = later := by
  induction earlier generalizing calls state with
  | nil =>
      cases calls with
      | nil => cases steps
      | cons call calls =>
          cases steps
          exact ⟨[], calls, rfl, rfl, rfl, rfl⟩
  | cons first earlier induction =>
      cases calls with
      | nil => cases steps
      | cons call calls =>
          rw [run, List.cons_append, List.cons.injEq] at steps
          rcases induction steps.2 with ⟨before, after, rfl, reached, done, rest⟩
          exact ⟨call :: before, after, rfl, reached, done, rest⟩

/-! ## Stores with faults -/

/-- What a call may have done to the files of a lawful store: the result, and what
the files hold afterwards. -/
inductive Performed (registry : Registry) (call : Call) (before : Contents) :
    Except Error Answer → Contents → Prop
  | refused (error : Error) (early : error.concernsEdit = false) :
      Performed registry call before (.error error) before
  | looked (text : Text) (answer : Answer)
      (stood : before registry.path = some (Utf8.encode text))
      (planned : registry.plan call text = .ok (answer, none)) :
      Performed registry call before (.ok answer) before
  | edited (text : Text) (answer : Answer) (new : Text) (result : Except Error Unit)
      (after : Contents) (stood : before registry.path = some (Utf8.encode text))
      (planned : registry.plan call text = .ok (answer, some new))
      (replaced : FileStore.Replaced registry.path registry.backup new before result after) :
      Performed registry call before (result.map fun _ => answer) after

variable {content : σ → Contents} {fit : σ → Prop}

theorem readText_cases (lawful : files.Lawful registry.paths content fit) {state after : σ}
    {result : Except Error Text} (fits : fit state)
    (done : registry.readText files state = (result, after)) :
    fit after ∧ content after = content state ∧
      match result with
      | .ok text => content state registry.path = some (Utf8.encode text)
      | .error error => error.concernsEdit = false := by
  have inside := registry.path_mem_paths
  simp only [readText, FileStore.lift] at done
  rcases read : files.read registry.path state with ⟨cause | text, left⟩
  · simp only [read] at done
    cases done
    exact ⟨lawful.read_fit inside fits read, lawful.read_keeps inside fits read,
      Error.concernsEdit_ofFault cause _⟩
  · simp only [read] at done
    cases done
    exact ⟨lawful.read_fit inside fits read, lawful.read_keeps inside fits read,
      lawful.read_ok inside fits read⟩

theorem performed (lawful : files.Lawful registry.paths content fit)
    (apart : registry.path ≠ registry.backup) {call : Call} {state after : σ} {result : Except Error Answer} (fits : fit state)
    (done : registry.answer files call state = (result, after)) :
    fit after ∧ Performed registry call (content state) result (content after) := by
  rw [answer_eq] at done
  rcases read : registry.readText files state with ⟨error | text, left⟩
  · rcases readText_cases lawful fits read with ⟨fitsLeft, kept, early⟩
    rw [read] at done
    cases done
    rw [kept]
    exact ⟨fitsLeft, .refused error early⟩
  rcases readText_cases lawful fits read with ⟨fitsLeft, kept, stood⟩
  rcases planned : registry.plan call text with error | ⟨answer, _ | new⟩
  · simp only [read, planned] at done
    cases done
    rw [kept]
    exact ⟨fitsLeft, .refused error (plan_cases planned)⟩
  · simp only [read, planned] at done
    cases done
    rw [kept]
    exact ⟨fitsLeft, .looked text answer stood planned⟩
  · simp only [read, planned] at done
    rcases committed : registry.commit files new left with ⟨outcome, final⟩
    rcases lawful.replaced apart fitsLeft committed with ⟨fitsFinal, replaced⟩
    rw [kept] at replaced
    have edited := Performed.edited text answer new outcome _ stood planned replaced
    rw [committed] at done
    cases outcome <;> cases done <;> exact ⟨fitsFinal, edited⟩

theorem stateAfter_fit (lawful : files.Lawful registry.paths content fit)
    (apart : registry.path ≠ registry.backup) (calls : List Call) {state : σ} (fits : fit state) :
    fit (registry.stateAfter files calls state) := by
  induction calls generalizing state with
  | nil => exact fits
  | cons call calls induction => exact induction (performed lawful apart fits rfl).1

/-! ## Stores without faults -/

def textAfter (registry : Registry) (call : Call) (text : Text) : Text :=
  match registry.plan call text with
  | .ok (_, some new) => new
  | _ => text

/-- In a reliable store a call answers what is planned, and leaves the text that is
planned. If it fails it leaves everything as it was. -/
theorem answer_planned (reliable : files.Reliable registry.paths content fit)
    (apart : registry.path ≠ registry.backup) (call : Call) {state : σ} {text : Text}
    (fits : fit state) (stood : content state registry.path = some (Utf8.encode text)) :
    ∃ after, registry.answer files call state = ((registry.plan call text).map Prod.fst, after) ∧
      fit after ∧
      content after registry.path = some (Utf8.encode (registry.textAfter call text)) ∧
      ∀ error, registry.plan call text = .error error → content after = content state := by
  have inside := registry.path_mem_paths
  have reads := reliable.read_succeeds inside fits stood
  rcases read : files.read registry.path state with ⟨result, left⟩
  rw [read] at reads
  cases reads
  have fitsLeft := reliable.read_fit inside fits read
  have kept := reliable.read_keeps inside fits read
  have readText : registry.readText files state = (.ok text, left) := by
    simp only [Registry.readText, FileStore.lift, read]
  rcases planned : registry.plan call text with error | ⟨answer, _ | new⟩
  · refine ⟨left, ?_, fitsLeft, ?_, ?_⟩
    · simp only [answer_eq, readText, planned]
      rfl
    · simp only [textAfter, planned, kept, stood]
    · intro other failed
      exact kept
  · refine ⟨left, ?_, fitsLeft, ?_, ?_⟩
    · simp only [answer_eq, readText, planned]
      rfl
    · simp only [textAfter, planned, kept, stood]
    · intro other failed
      exact kept
  · have commits := reliable.commitWithBackup_ok apart new fitsLeft
      ((congrFun kept registry.path).trans stood)
    rcases committed : registry.commit files new left with ⟨outcome, after⟩
    rw [commit] at committed
    rw [committed] at commits
    cases commits
    rcases reliable.replaced apart fitsLeft committed with ⟨fitsAfter, replaced⟩
    refine ⟨after, ?_, fitsAfter, ?_, ?_⟩
    · simp only [answer_eq, readText, planned, commit, committed]
      rfl
    · simp only [textAfter, planned]
      exact replaced.inPlace apart
    · intro other failed
      cases failed

end Registry
end NetAdmin
