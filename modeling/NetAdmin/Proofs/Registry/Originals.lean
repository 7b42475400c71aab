import NetAdmin.Proofs.Registry.Atomicity
/-!
What becomes of an original that could not be put back. An edit that fails to restore
the file says that the copy still holds the original. The next edit starts by
copying the torn file over that copy. So originals are safe while no later step gets
as far as copying (`original_kept`), and over all faults that is to say: as long as
there is no second edit (`keepsOriginals_iff`).
-/

namespace NetAdmin
namespace Registry

variable {σ : Type} {files : FileStore σ} {registry : Registry}
variable {content : σ → Contents} {fit : σ → Prop}

/-- An original that a step of a run could not put back is in the file or in the copy
after every later step. -/
def KeepsOriginals (registry : Registry) (content : σ → Contents) (steps : List (Step σ)) : Prop :=
  ∀ earlier failed later, steps = earlier ++ failed :: later →
    (∃ path backup cause, failed.result = .error (.restoreFailed path backup cause)) →
    ∀ step ∈ later,
      content step.after registry.path = content failed.before registry.path ∨
        content step.after registry.backup = content failed.before registry.path

theorem KeepsOriginals.of_failed {before rest : List Call} {call : Call} {state torn : σ}
    {path backup : Path} {cause : Fault}
    (keeps : KeepsOriginals registry content
      (registry.run files (before ++ call :: rest) state))
    (failed : registry.answer files call (registry.stateAfter files before state) =
      (.error (.restoreFailed path backup cause), torn)) :
    ∀ step ∈ registry.run files rest torn,
      let original := content (registry.stateAfter files before state) registry.path
      content step.after registry.path = original ∨
        content step.after registry.backup = original := by
  have steps : registry.run files (before ++ call :: rest) state =
      registry.run files before state ++
        ⟨call, registry.stateAfter files before state,
          .error (.restoreFailed path backup cause), torn⟩ :: registry.run files rest torn := by
    rw [run_append, run, failed]
  exact keeps _ _ _ steps ⟨path, backup, cause, rfl⟩

/-- A step that does not edit, or fails before it copies. -/
def Step.Untouched (step : Step σ) : Prop :=
  step.call.edits = false ∨ ∃ error, step.result = .error error ∧ error.concernsEdit = false

theorem AllOrNothing.untouched {step : Step σ} {before after : Contents}
    (whole : AllOrNothing registry step.call step.result before after)
    (untouched : step.Untouched) : after = before := by
  rcases untouched with looking | ⟨error, reported, early⟩
  · exact whole.looked looking
  · exact whole.refused reported early

theorem content_of_untouched (lawful : files.Lawful registry.paths content fit)
    (apart : registry.path ≠ registry.backup) {calls : List Call} {state : σ} (fits : fit state)
    (untouched : ∀ step ∈ registry.run files calls state, step.Untouched) :
    ∀ step ∈ registry.run files calls state, content step.after = content state := by
  induction calls generalizing state with
  | nil => simp [run]
  | cons call calls induction =>
      rcases performed lawful apart fits (Prod.eta (registry.answer files call state)).symm with
        ⟨fitsAfter, done⟩
      have first := untouched _ List.mem_cons_self
      have same := (done.allOrNothing apart).untouched first
      have rest := induction fitsAfter
        fun step member => untouched step (List.mem_cons_of_mem _ member)
      intro step member
      rcases List.mem_cons.mp member with rfl | later
      · exact same
      · exact (rest step later).trans same

theorem Performed.edits_of_error {call : Call} {error : Error} {before after : Contents}
    (done : Performed registry call before (.error error) after)
    (concerns : error.concernsEdit = true) : call.edits = true := by
  generalize failed : (Except.error error : Except Error Answer) = result at done
  cases done with
  | refused cause early =>
      cases failed
      rw [early] at concerns
      cases concerns
  | looked text answer stood planned => cases failed
  | edited text answer new outcome after stood planned replaced => exact (plan_cases planned).1

/-- An original that could not be put back stays in the copy while the later steps
leave the files untouched. -/
theorem original_kept (lawful : files.Lawful registry.paths content fit)
    (apart : registry.path ≠ registry.backup) {calls : List Call} {state : σ} (fits : fit state)
    {earlier later : List (Step σ)} {failed : Step σ}
    (steps : registry.run files calls state = earlier ++ failed :: later)
    {path backup : Path} {cause : Fault}
    (reported : failed.result = .error (.restoreFailed path backup cause))
    (untouched : ∀ step ∈ later, step.Untouched) :
    ∀ step ∈ later, content step.after registry.backup = content failed.before registry.path := by
  rcases exists_calls_of_run steps with ⟨before, after, -, reached, done, rfl⟩
  have fitsBefore := stateAfter_fit lawful apart before fits
  rw [reached] at fitsBefore
  rcases performed lawful apart fitsBefore done with ⟨fitsAfter, performed⟩
  rcases (performed.allOrNothing apart).notRestored reported with ⟨-, -, old, stood, kept⟩
  intro step member
  rw [content_of_untouched lawful apart fitsAfter untouched step member, kept, stood]

theorem keepsOriginals_of_le_one (lawful : files.Lawful registry.paths content fit)
    (apart : registry.path ≠ registry.backup) {calls : List Call} {state : σ} (fits : fit state)
    (single : (calls.filter Call.edits).length ≤ 1) :
    KeepsOriginals registry content (registry.run files calls state) := by
  rintro earlier failed later steps ⟨path, backup, cause, reported⟩ step member
  right
  refine original_kept lawful apart fits steps reported ?_ step member
  -- The step that failed is the only edit, so all later calls look things up.
  rcases exists_calls_of_run steps with ⟨before, after, rfl, reached, done, rfl⟩
  have fitsBefore := stateAfter_fit lawful apart before fits
  rw [reached] at fitsBefore
  rcases performed lawful apart fitsBefore done with ⟨-, performed⟩
  rw [reported] at performed
  have editing : failed.call.edits = true := performed.edits_of_error rfl
  have others : after.filter Call.edits = [] := by
    rw [List.filter_append, List.filter_cons_of_pos editing] at single
    apply List.length_eq_zero_iff.mp
    simp only [List.length_append, List.length_cons] at single
    omega
  intro other inRest
  left
  have asked := call_mem_of_mem_run inRest
  simpa using List.filter_eq_nil_iff.mp others _ asked

end Registry

/-! ## A full disk -/

namespace MemoryStore

def noSpace : Fault :=
  ⟨.other, "no space left on device".toList⟩

/-- Every write leaves nothing but a line end and fails, and the second copy fails. -/
def fullDisk : List StoreFault :=
  [⟨.write, none, noSpace, some "\n".toList⟩, ⟨.copy, some 2, noSpace, none⟩]

theorem keeps_fullDisk : ∀ fault ∈ fullDisk, fault.call = .read → fault.torn = none := by
  decide

structure OnFullDisk (files : FileTable) (copies : Nat) (store : MemoryStore) : Prop where
  full : store.faults = fullDisk
  held : store.files = files
  copied : store.calls.count .copy = copies

variable {files : FileTable} {copies : Nat} {store : MemoryStore} {text : Text}

theorem OnFullDisk.read (onDisk : OnFullDisk files copies store) {path : Path}
    (stood : files.lookup path = some text) :
    ∃ after, store.read path = (.ok text, after) ∧ OnFullDisk files copies after := by
  rcases onDisk with ⟨full, rfl, rfl⟩
  refine ⟨store.noted .read ("read ".toList ++ path), ?_, full, rfl, by simp [noted]⟩
  simp [MemoryStore.read, perform, fault?, noted, full, fullDisk, stood]

theorem OnFullDisk.write (onDisk : OnFullDisk files copies store) (path : Path) (text : Text) :
    ∃ after, store.write path text = (.error noSpace, after) ∧
      OnFullDisk (files.insert path "\n".toList) copies after := by
  rcases onDisk with ⟨full, rfl, rfl⟩
  refine ⟨{ store.noted .write ("write ".toList ++ path) with
    files := store.files.insert path "\n".toList }, ?_, full, rfl, by simp [noted]⟩
  simp [MemoryStore.write, perform, fault?, noted, full, fullDisk, tear]

theorem OnFullDisk.copy (onDisk : OnFullDisk files copies store) {source : Path} (target : Path)
    (stood : files.lookup source = some text) (other : copies ≠ 1) :
    ∃ after, store.copy source target = (.ok (), after) ∧
      OnFullDisk (files.insert target text) (copies + 1) after := by
  rcases onDisk with ⟨full, rfl, rfl⟩
  refine ⟨{ store.noted .copy ("copy ".toList ++ source ++ ' ' :: target) with
    files := store.files.insert target text }, ?_, full, rfl, by simp [noted]⟩
  simp [MemoryStore.copy, perform, fault?, noted, full, fullDisk, stood, other]

theorem OnFullDisk.copy_second (onDisk : OnFullDisk files 1 store) (source target : Path) :
    ∃ after, store.copy source target = (.error noSpace, after) ∧ OnFullDisk files 2 after := by
  rcases onDisk with ⟨full, rfl, copied⟩
  refine ⟨store.noted .copy ("copy ".toList ++ source ++ ' ' :: target), ?_, full, rfl, ?_⟩
  · simp [MemoryStore.copy, perform, fault?, noted, full, fullDisk, tear, copied]
  · simp [noted, copied]

end MemoryStore

namespace Registry

open MemoryStore

variable {table : FileTable} {copies : Nat} {store : MemoryStore} {path : Path} {text : Text}

theorem readText_fullDisk (onDisk : OnFullDisk table copies store)
    (stood : table.lookup path = some text) :
    ∃ after, readText FileStore.memory (ofPath path) store = (.ok text, after) ∧
      OnFullDisk table copies after := by
  rcases onDisk.read stood with ⟨after, read, onDiskAfter⟩
  refine ⟨after, ?_, onDiskAfter⟩
  simp only [readText, FileStore.lift, FileStore.memory, ofPath, read]

theorem looks_fullDisk (onDisk : OnFullDisk table copies store)
    (stood : table.lookup path = some text) {calls : List Call}
    (looking : ∀ call ∈ calls, call.edits = false) :
    OnFullDisk table copies ((ofPath path).stateAfter FileStore.memory calls store) := by
  induction calls generalizing store with
  | nil => exact onDisk
  | cons call calls induction =>
      have first := looking call List.mem_cons_self
      have others := fun other member => looking other (List.mem_cons_of_mem call member)
      rcases readText_fullDisk onDisk stood with ⟨after, read, onDiskAfter⟩
      apply induction ?_ others
      rcases planned : (ofPath path).plan call text with error | ⟨answer, _ | new⟩
      · simpa only [answer_eq, read, planned] using onDiskAfter
      · simpa only [answer_eq, read, planned] using onDiskAfter
      · have editing := (plan_cases planned).1
        rw [first] at editing
        cases editing

theorem plan_of_no_entries (registry : Registry) {call : Call}
    (registered : TableEntry.ofRegistry text = .ok []) (editing : call.edits = true) :
    ∃ answer new, registry.plan call text = .ok (answer, some new) := by
  cases call with
  | add name => exact ⟨_, _, plan_add registered name⟩
  | delete name => exact ⟨_, _, rfl⟩
  | find name => cases editing
  | entries => cases editing

theorem first_edit_fullDisk (onDisk : OnFullDisk table 0 store)
    (stood : table.lookup path = some text) (registered : TableEntry.ofRegistry text = .ok [])
    {call : Call} (editing : call.edits = true) :
    ∃ torn, (ofPath path).answer FileStore.memory call store =
        (.error (.restoreFailed path (Settings.backupOf path) noSpace), torn) ∧
      OnFullDisk ((table.insert (Settings.backupOf path) text).insert path "\n".toList) 2
        torn := by
  rcases plan_of_no_entries (ofPath path) registered editing with ⟨answer, new, planned⟩
  rcases readText_fullDisk onDisk stood with ⟨left, read, onDiskLeft⟩
  rcases onDiskLeft.copy (Settings.backupOf path) stood (by decide) with
    ⟨aside, copied, onDiskAside⟩
  rcases onDiskAside.write path new with ⟨torn, written, onDiskTorn⟩
  rcases onDiskTorn.copy_second (Settings.backupOf path) path with
    ⟨after, restored, onDiskAfter⟩
  have committed : commit FileStore.memory (ofPath path) new left =
      (.error (.restoreFailed path (Settings.backupOf path) noSpace), after) := by
    simp only [commit, FileStore.commitWithBackup_eq, Snapshot.finish_eq, FileStore.memory, ofPath,
      copied, written, restored]
  refine ⟨after, ?_, onDiskAfter⟩
  simp only [answer_eq, read, planned, committed]

theorem second_edit_fullDisk (onDisk : OnFullDisk table 2 store)
    (stood : table.lookup path = some text) (registered : TableEntry.ofRegistry text = .ok [])
    {call : Call} (editing : call.edits = true) :
    let after := ((ofPath path).answer FileStore.memory call store).2
    after.files.lookup path = some text ∧
      after.files.lookup (Settings.backupOf path) = some text := by
  have apart : path ≠ Settings.backupOf path := ofPath_apart path
  rcases plan_of_no_entries (ofPath path) registered editing with ⟨answer, new, planned⟩
  rcases readText_fullDisk onDisk stood with ⟨left, read, onDiskLeft⟩
  rcases onDiskLeft.copy (Settings.backupOf path) stood (by decide) with
    ⟨aside, copied, onDiskAside⟩
  rcases onDiskAside.write path new with ⟨torn, written, onDiskTorn⟩
  have inCopy : ((table.insert (Settings.backupOf path) text).insert path "\n".toList).lookup
      (Settings.backupOf path) = some text := by
    rw [FileTable.lookup_insert_of_ne apart.symm, FileTable.lookup_insert_self]
  rcases onDiskTorn.copy path inCopy (by decide) with ⟨after, restored, onDiskAfter⟩
  have committed : commit FileStore.memory (ofPath path) new left =
      (.error (.commitFailed path noSpace), after) := by
    simp only [commit, FileStore.commitWithBackup_eq, Snapshot.finish_eq, FileStore.memory, ofPath,
      copied, written, restored]
  simp only [answer_eq, read, planned, committed, onDiskAfter.held]
  constructor
  · rw [FileTable.lookup_insert_self]
  · rw [FileTable.lookup_insert_of_ne apart.symm, inCopy]

theorem exists_two_edits {calls : List Call} (several : 2 ≤ (calls.filter Call.edits).length) :
    ∃ before first between second last,
      calls = before ++ first :: (between ++ second :: last) ∧
      (∀ call ∈ before, call.edits = false) ∧ first.edits = true ∧
      (∀ call ∈ between, call.edits = false) ∧ second.edits = true := by
  rcases edits : calls.filter Call.edits with _ | ⟨first, _ | ⟨second, more⟩⟩
  · simp [edits] at several
  · simp [edits] at several
  rcases List.filter_eq_cons_iff.mp edits with ⟨before, rest, rfl, lookBefore, editFirst, others⟩
  rcases List.filter_eq_cons_iff.mp others with ⟨between, last, rfl, lookBetween, editSecond, -⟩
  exact ⟨before, first, between, second, last, rfl, by simpa using lookBefore, editFirst,
    by simpa using lookBetween, editSecond⟩

theorem not_keepsOriginals_of_two_le (path : Path) {calls : List Call}
    (several : 2 ≤ (calls.filter Call.edits).length) :
    let store := MemoryStore.start [(path, [])] fullDisk
    ¬ KeepsOriginals (ofPath path) MemoryStore.content
      ((ofPath path).run FileStore.memory calls store) := by
  intro store keeps
  rcases exists_two_edits several with
    ⟨before, first, between, second, last, rfl, lookBefore, editFirst, lookBetween, editSecond⟩
  have onDisk : OnFullDisk [(path, [])] 0 store := ⟨rfl, rfl, rfl⟩
  have stood : List.lookup path [(path, ([] : Text))] = some [] := by simp
  -- The first edit tears the file, and what it held stays in the copy.
  have onDiskBefore := looks_fullDisk onDisk stood lookBefore
  rcases first_edit_fullDisk onDiskBefore stood rfl editFirst with ⟨torn, failed, onDiskTorn⟩
  have stoodTorn := FileTable.lookup_insert_self
    (FileTable.insert [(path, ([] : Text))] (Settings.backupOf path) []) path "\n".toList
  -- The second one copies the torn file.
  have onDiskBetween := looks_fullDisk onDiskTorn stoodTorn lookBetween
  rcases second_edit_fullDisk onDiskBetween stoodTorn rfl editSecond with ⟨inFile, inCopy⟩
  have original := content_of_lookup (onDiskBefore.held ▸ stood)
  have different : some (Utf8.encode "\n".toList) ≠ some (Utf8.encode []) := by decide
  apply different
  rcases keeps.of_failed failed _ (mem_run_append_cons between second last torn) with kept | kept
  · exact (content_of_lookup inFile).symm.trans (kept.trans original)
  · exact (content_of_lookup inCopy).symm.trans (kept.trans original)

/-- Over all faults a sequence of calls loses no original exactly if there is at most
one edit in it. -/
theorem keepsOriginals_iff (path : Path) (calls : List Call) :
    (∀ (σ : Type) (files : FileStore σ) (content : σ → Contents) (fit : σ → Prop),
      files.Lawful (ofPath path).paths content fit → ∀ state, fit state →
        KeepsOriginals (ofPath path) content ((ofPath path).run files calls state)) ↔
      (calls.filter Call.edits).length ≤ 1 := by
  constructor
  · intro keeps
    by_contra several
    have keeping : ReadsKeep (MemoryStore.start [(path, [])] fullDisk) := keeps_fullDisk
    exact not_keepsOriginals_of_two_le path (by omega)
      (keeps _ _ _ _ (memory_lawful _) _ keeping)
  · intro single σ files content fit lawful state fits
    exact keepsOriginals_of_le_one lawful (ofPath_apart path) fits single

/-- A torn registry that is edited again, and nothing is left of what it was. -/
theorem not_keepsOriginals_torn :
    let store := MemoryStore.start [("t".toList, "0\tunspec\n255\tlocal\n".toList)]
      [⟨.write, some 1, noSpace, some "0\tun".toList⟩, ⟨.copy, some 2, noSpace, none⟩]
    let steps := (ofPath "t".toList).run FileStore.memory
      [.delete "unspec".toList, .delete "x".toList] store
    store.ReadsKeep ∧ ¬ KeepsOriginals (ofPath "t".toList) MemoryStore.content steps := by
  intro store steps
  refine ⟨by decide, ?_⟩
  intro keeps
  rcases keeps [] _ _ rfl ⟨_, _, _, rfl⟩ _ List.mem_cons_self with inFile | inCopy
  · exact absurd inFile (by decide)
  · exact absurd inCopy (by decide)

end Registry
end NetAdmin
