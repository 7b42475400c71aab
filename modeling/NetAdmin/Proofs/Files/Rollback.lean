import NetAdmin.Files.Snapshot
import NetAdmin.Proofs.Files.Laws
/-!
When a snapshot puts its copy back. A store that records all attempts shows what is tried
(`recorded`). Dropping a snapshot tries one copy and nothing else (`dropped`), a commit tries
one only if it could not write (`committed`), and a snapshot that is dropped after its commit
tries nothing. If the copy succeeds, the live file is what it was when the snapshot was taken,
whatever was written to it since (`restores_once`).
-/

namespace NetAdmin

/-! ## Recorded attempts -/

inductive FileRequest
  | read (path : Path)
  | copy (source target : Path)
  | write (path : Path) (text : Text)
  | remove (path : Path)
  | ensureDirectory (path : Path)
  deriving DecidableEq, Repr

structure Attempt where
  request : FileRequest
  succeeded : Bool
  deriving DecidableEq, Repr

structure Recorded (σ : Type) where
  state : σ
  attempts : List Attempt

namespace FileStore

variable {σ α : Type} (files : FileStore σ)

def attempt (request : FileRequest) (operation : σ → Except Fault α × σ) (before : Recorded σ) :
    Except Fault α × Recorded σ :=
  let done := operation before.state
  (done.1, ⟨done.2, before.attempts ++ [⟨request, done.1.isOk⟩]⟩)

/-- The store that works as the given one does and records all attempts. -/
def recorded : FileStore (Recorded σ) where
  read := fun path => attempt (.read path) (files.read path)
  copy := fun source target => attempt (.copy source target) (files.copy source target)
  write := fun path text => attempt (.write path text) (files.write path text)
  remove := fun path => attempt (.remove path) (files.remove path)
  ensureDirectory := fun path => attempt (.ensureDirectory path) (files.ensureDirectory path)

theorem attempt_eq {request : FileRequest} {operation : σ → Except Fault α × σ}
    {before after : Recorded σ} {result : Except Fault α}
    (done : attempt request operation before = (result, after)) :
    operation before.state = (result, after.state) ∧
      after.attempts = before.attempts ++ [⟨request, result.isOk⟩] := by
  cases done
  exact ⟨rfl, rfl⟩

variable {files} {known : List Path} {content : σ → Contents} {fit : σ → Prop}

theorem Lawful.recorded (lawful : files.Lawful known content fit) :
    files.recorded.Lawful known (fun before => content before.state)
      (fun before => fit before.state) where
  read_fit inside fits done := lawful.read_fit inside fits (attempt_eq done).1
  copy_fit source target apart fits done :=
    lawful.copy_fit source target apart fits (attempt_eq done).1
  write_fit inside fits done := lawful.write_fit inside fits (attempt_eq done).1
  remove_fit inside fits done := lawful.remove_fit inside fits (attempt_eq done).1
  read_keeps inside fits done := lawful.read_keeps inside fits (attempt_eq done).1
  read_ok inside fits done := lawful.read_ok inside fits (attempt_eq done).1
  copy_ok source target apart fits done :=
    lawful.copy_ok source target apart fits (attempt_eq done).1
  copy_error source target apart fits done :=
    lawful.copy_error source target apart fits (attempt_eq done).1
  write_ok inside fits done := lawful.write_ok inside fits (attempt_eq done).1
  write_error inside fits done := lawful.write_error inside fits (attempt_eq done).1
  remove_ok inside fits done := lawful.remove_ok inside fits (attempt_eq done).1
  remove_error inside fits done := lawful.remove_error inside fits (attempt_eq done).1

variable (files) in
def overwrite (path : Path) (texts : List Text) (state : σ) : σ :=
  texts.foldl (fun state text => (files.write path text state).2) state

theorem Lawful.overwrite (lawful : files.Lawful known content fit) {path : Path}
    (inside : path ∈ known) (texts : List Text) {state : σ} (fits : fit state) :
    fit (files.overwrite path texts state) ∧
      ∀ other, other ≠ path →
        content (files.overwrite path texts state) other = content state other := by
  induction texts generalizing state with
  | nil => exact ⟨fits, fun _ _ => rfl⟩
  | cons text texts induction =>
      rcases written : files.write path text state with ⟨result, after⟩
      rcases lawful.write_cases inside fits written with ⟨left, changed⟩
      rcases induction (lawful.write_fit inside fits written) with ⟨fitsRest, kept⟩
      rw [FileStore.overwrite, List.foldl_cons, written]
      refine ⟨fitsRest, ?_⟩
      intro other apart
      exact (kept other apart).trans (by rw [changed, Function.update_of_ne apart])

theorem requests_overwrite (path : Path) (texts : List Text) (before : Recorded σ) :
    (files.recorded.overwrite path texts before).attempts.map (·.request) =
      before.attempts.map (·.request) ++ texts.map (.write path) := by
  induction texts generalizing before with
  | nil => simp [overwrite]
  | cons text texts induction =>
      have rest := induction (files.recorded.write path text before).2
      rw [overwrite, List.foldl_cons]
      refine rest.trans ?_
      simp [FileStore.recorded, attempt]

end FileStore

namespace Snapshot

variable {σ : Type} {files : FileStore σ} {content : σ → Contents} {fit : σ → Prop}
variable {live backup : Path}

/-! ## Taking a snapshot -/

theorem take_eq (live backup : Path) (state : σ) :
    take files live backup state =
      match files.copy live backup state with
      | (.ok _, after) => (.ok ⟨live, backup, false⟩, after)
      | (.error cause, after) => (.error (.backupFailed live cause), after) := by
  rw [take, Computation.bind_apply, FileStore.lift]
  rcases files.copy live backup state with ⟨_ | _, after⟩ <;> rfl

theorem take_error (lawful : files.Lawful [live, backup] content fit) (apart : live ≠ backup)
    {before after : Recorded σ} {error : Error} (fits : fit before.state)
    (failed : take files.recorded live backup before = (.error error, after)) :
    content after.state live = content before.state live ∧
      after.attempts = before.attempts ++ [⟨.copy live backup, false⟩] := by
  have inLive := FileStore.live_mem live backup
  have inBackup := FileStore.backup_mem live backup
  rw [take_eq] at failed
  rcases copied : files.recorded.copy live backup before with ⟨cause | _, left⟩
  · rw [copied] at failed
    cases failed
    rcases lawful.recorded.copy_error inLive inBackup apart fits copied with ⟨torn, changed⟩
    refine ⟨?_, (FileStore.attempt_eq copied).2⟩
    rw [changed, Function.update_of_ne apart]
  · rw [copied] at failed
    cases failed

theorem take_ok (lawful : files.Lawful [live, backup] content fit) (apart : live ≠ backup)
    {before after : Recorded σ} {snapshot : Snapshot} (fits : fit before.state)
    (taken : take files.recorded live backup before = (.ok snapshot, after)) :
    snapshot = ⟨live, backup, false⟩ ∧ fit after.state ∧
      content after.state backup = content before.state live ∧
      after.attempts = before.attempts ++ [⟨.copy live backup, true⟩] := by
  have inLive := FileStore.live_mem live backup
  have inBackup := FileStore.backup_mem live backup
  rw [take_eq] at taken
  rcases copied : files.recorded.copy live backup before with ⟨cause | _, left⟩
  · rw [copied] at taken
    cases taken
  · rw [copied] at taken
    cases taken
    have fitsLeft := lawful.recorded.copy_fit inLive inBackup apart fits copied
    rcases lawful.recorded.copy_ok inLive inBackup apart fits copied with ⟨bytes, stood, changed⟩
    refine ⟨rfl, fitsLeft, ?_, (FileStore.attempt_eq copied).2⟩
    rw [changed, Function.update_self, stood]

/-! ## The end of a snapshot -/

/-- The copy is tried to be put back once, and only the live file changes. If it works, the
file holds the original again. -/
structure Dropped (content : σ → Contents) (live backup : Path) (original : Option Utf8.Bytes)
    (before after : Recorded σ) : Prop where
  attempted : ∃ restored, after.attempts = before.attempts ++ [⟨.copy backup live, restored⟩] ∧
    (restored = true → content after.state live = original)
  elsewhere : ∀ path, path ≠ live → content after.state path = content before.state path

/-- What a commit has tried and left, by its result, and that dropping the snapshot then
does nothing. -/
structure Committed (files : FileStore σ) (content : σ → Contents) (live backup : Path)
    (contents : Text) (original : Option Utf8.Bytes) (before : Recorded σ)
    (result : Except Error Unit) (left : Snapshot) (after : Recorded σ) : Prop where
  written : result = .ok () → content after.state live = some (Utf8.encode contents) ∧
    ∃ removed, after.attempts =
      before.attempts ++ [⟨.write live contents, true⟩, ⟨.remove backup, removed⟩]
  failed : ∀ error, result = .error error → ∃ restored cause,
    error = (if restored then .commitFailed live cause else .restoreFailed live backup cause) ∧
    after.attempts =
      before.attempts ++ [⟨.write live contents, false⟩, ⟨.copy backup live, restored⟩] ∧
    (restored = true → content after.state live = original)
  dropped : drop files.recorded left after = after

theorem drop_of_released (files : FileStore σ) {snapshot : Snapshot}
    (released : snapshot.released = true) (state : σ) : drop files snapshot state = state := by
  rw [drop, if_pos released]

theorem restore_eq {snapshot left : Snapshot} {before after : Recorded σ} {restored : Bool}
    (done : restore files.recorded snapshot before = (restored, left, after)) :
    ∃ result, result.isOk = restored ∧ left = { snapshot with released := true } ∧
      files.recorded.copy snapshot.backup snapshot.live before = (result, after) := by
  rw [restore] at done
  rcases copied : files.recorded.copy snapshot.backup snapshot.live before with ⟨_ | _, final⟩
  · rw [copied] at done
    cases done
    exact ⟨_, rfl, rfl, rfl⟩
  · rw [copied] at done
    cases done
    exact ⟨_, rfl, rfl, rfl⟩

theorem restored_of_copy (lawful : files.Lawful [live, backup] content fit) (apart : live ≠ backup)
    {before after : Recorded σ} {result : Except Fault Unit} (fits : fit before.state)
    (copied : files.recorded.copy backup live before = (result, after)) :
    (∀ path, path ≠ live → content after.state path = content before.state path) ∧
      (result.isOk = true → content after.state live = content before.state backup) := by
  have inLive := FileStore.live_mem live backup
  have inBackup := FileStore.backup_mem live backup
  cases result with
  | error cause =>
      rcases lawful.recorded.copy_error inBackup inLive apart.symm fits copied with
        ⟨torn, changed⟩
      refine ⟨?_, fun impossible => nomatch impossible⟩
      intro path other
      rw [changed, Function.update_of_ne other]
  | ok _ =>
      rcases lawful.recorded.copy_ok inBackup inLive apart.symm fits copied with
        ⟨bytes, held, changed⟩
      constructor
      · intro path other
        rw [changed, Function.update_of_ne other]
      · intro _
        rw [changed, Function.update_self, held]

theorem dropped (lawful : files.Lawful [live, backup] content fit) (apart : live ≠ backup)
    {before : Recorded σ} (fits : fit before.state) :
    Dropped content live backup (content before.state backup) before
      (drop files.recorded ⟨live, backup, false⟩ before) := by
  rw [drop, if_neg Bool.false_ne_true]
  rcases done : restore files.recorded ⟨live, backup, false⟩ before with ⟨restored, left, after⟩
  rcases restore_eq done with ⟨result, succeeded, -, copied⟩
  rcases restored_of_copy lawful apart fits copied with ⟨elsewhere, original⟩
  subst succeeded
  exact ⟨⟨_, (FileStore.attempt_eq copied).2, original⟩, elsewhere⟩

theorem committed (lawful : files.Lawful [live, backup] content fit) (apart : live ≠ backup)
    (contents : Text) {before after : Recorded σ} {result : Except Error Unit} {left : Snapshot}
    (fits : fit before.state)
    (done : commit files.recorded ⟨live, backup, false⟩ contents before = (result, left, after)) :
    Committed files content live backup contents (content before.state backup) before result left
      after := by
  have inLive := FileStore.live_mem live backup
  have inBackup := FileStore.backup_mem live backup
  rw [commit] at done
  rcases written : files.recorded.write live contents before with ⟨wrote, torn⟩
  have fitsTorn : fit torn.state := lawful.recorded.write_fit inLive fits written
  rcases wrote with cause | _
  · rcases lawful.recorded.write_error inLive fits written with ⟨remains, changed⟩
    have kept : content torn.state backup = content before.state backup := by
      rw [changed, Function.update_of_ne apart.symm]
    rcases restoring : restore files.recorded ⟨live, backup, false⟩ torn with
      ⟨restored, left, final⟩
    rcases restore_eq restoring with ⟨copy, succeeded, rfl, copied⟩
    rcases restored_of_copy lawful apart fitsTorn copied with ⟨-, original⟩
    have attempts : final.attempts = before.attempts ++
        [⟨.write live contents, false⟩, ⟨.copy backup live, restored⟩] := by
      rw [(FileStore.attempt_eq copied).2, (FileStore.attempt_eq written).2, succeeded]
      simp [Except.isOk, Except.toBool]
    rw [kept, succeeded] at original
    simp only [written, restoring] at done
    cases restored with
    | true =>
        cases done
        refine ⟨nofun, ?_, drop_of_released _ rfl _⟩
        rintro _ ⟨⟩
        exact ⟨true, cause, rfl, attempts, original⟩
    | false =>
        cases done
        refine ⟨nofun, ?_, drop_of_released _ rfl _⟩
        rintro _ ⟨⟩
        exact ⟨false, cause, rfl, attempts, original⟩
  · simp only [written] at done
    rcases removed : files.recorded.remove backup torn with ⟨removal, final⟩
    rw [removed] at done
    cases done
    rcases lawful.recorded.remove_cases inBackup fitsTorn removed with ⟨remains, changed⟩
    refine ⟨?_, nofun, drop_of_released _ rfl _⟩
    intro _
    constructor
    · rw [changed, Function.update_of_ne apart, lawful.recorded.write_ok inLive fits written,
        Function.update_self]
    · refine ⟨removal.isOk, ?_⟩
      rw [(FileStore.attempt_eq removed).2, (FileStore.attempt_eq written).2]
      simp [Except.isOk, Except.toBool]

/-! ## Whole lives -/

/-- Under all faults: a snapshot that cannot be taken has left the live file alone, and an edit
goes no further, so nothing is put back. One that is taken, while the live file is written to,
tries to put the copy back once if it is dropped, or if it is committed and cannot write, and
never otherwise. The live file then holds what it held when the snapshot was taken, and after a
commit that succeeds it holds the new content. -/
theorem restores_once (lawful : files.Lawful [live, backup] content fit) (apart : live ≠ backup)
    {start : Recorded σ} (fits : fit start.state) :
    (∀ error after, take files.recorded live backup start = (.error error, after) →
      content after.state live = content start.state live ∧
      after.attempts = start.attempts ++ [⟨.copy live backup, false⟩] ∧
      ∀ contents, files.recorded.commitWithBackup live backup contents start =
        (.error error, after)) ∧
    ∀ snapshot taken, take files.recorded live backup start = (.ok snapshot, taken) → ∀ texts,
      let before := files.recorded.overwrite live texts taken
      before.attempts.map (·.request) =
        start.attempts.map (·.request) ++ .copy live backup :: texts.map (.write live) ∧
      Dropped content live backup (content start.state live) before
        (drop files.recorded snapshot before) ∧
      ∀ contents result left after,
        commit files.recorded snapshot contents before = (result, left, after) →
        Committed files content live backup contents (content start.state live) before result left
          after := by
  constructor
  · intro error after failed
    rcases take_error lawful apart fits failed with ⟨kept, attempts⟩
    refine ⟨kept, attempts, ?_⟩
    intro contents
    rw [FileStore.commitWithBackup, Computation.bind_apply, failed]
  · intro snapshot taken took texts before
    rcases take_ok lawful apart fits took with ⟨rfl, fitsTaken, copied, attempts⟩
    rcases lawful.recorded.overwrite (FileStore.live_mem live backup) texts fitsTaken with
      ⟨fitsBefore, elsewhere⟩
    have original : content before.state backup = content start.state live :=
      (elsewhere backup apart.symm).trans copied
    refine ⟨?_, ?_, ?_⟩
    · refine (FileStore.requests_overwrite live texts taken).trans ?_
      rw [attempts]
      simp
    · rw [← original]
      exact dropped lawful apart fitsBefore
    · intro contents result left after done
      rw [← original]
      exact committed lawful apart contents fitsBefore done

theorem restores_once_torn :
    let full : Fault := ⟨.other, "disk full".toList⟩
    let start : Recorded MemoryStore :=
      ⟨.start [("t".toList, "old".toList)] [⟨.write, some 2, full, some "ne".toList⟩], []⟩
    let store := FileStore.memory.recorded
    let snapshot : Snapshot := ⟨"t".toList, "t.bck".toList, false⟩
    let taken := (take store "t".toList "t.bck".toList start).2
    let before := store.overwrite "t".toList ["half".toList] taken
    let done := commit store snapshot "new".toList before
    start.state.ReadsKeep ∧
      take store "t".toList "t.bck".toList start = (.ok snapshot, taken) ∧
      before.state.content "t".toList = some (Utf8.encode "half".toList) ∧
      done.1 = .error (.commitFailed "t".toList full) ∧
      Committed FileStore.memory MemoryStore.content "t".toList "t.bck".toList "new".toList
        (start.state.content "t".toList) before done.1 done.2.1 done.2.2 := by
  intro full start store snapshot taken before done
  have keeps : start.state.ReadsKeep := by decide
  have apart : "t".toList ≠ "t.bck".toList := by decide
  have lives := restores_once (MemoryStore.memory_lawful _) apart keeps
  have ends := lives.2 snapshot taken rfl ["half".toList]
  exact ⟨keeps, rfl, by decide, rfl, ends.2.2 "new".toList _ _ _ rfl⟩

end Snapshot
end NetAdmin
