import Mathlib.Logic.Function.Basic
import NetAdmin.Files.Memory
import NetAdmin.Proofs.Computation
import NetAdmin.Proofs.Text.Utf8
/-!
What file operations may be relied on for, on the paths that somebody works with. A store is
looked at through the contents of its files. It is lawful if a call that succeeds does what it
says, and a call that fails changes nothing but its target, where it may leave anything. It is
reliable in its steady states if calls moreover succeed there. The store in memory is lawful under
every list of faults (`memory_lawful`), and reliable as long as it has none (`memory_reliable`).
-/

namespace NetAdmin

abbrev Contents := Path → Option Utf8.Bytes

namespace FileStore

variable {σ : Type}

/-- From a fit state the calls of a store on known paths keep to their target, do what they say
if they succeed, and lead to a fit state again. A copy of a file onto itself is not spoken of. -/
structure Lawful (files : FileStore σ) (known : List Path) (content : σ → Contents)
    (fit : σ → Prop) : Prop where
  read_fit : ∀ {path state result after}, path ∈ known → fit state →
    files.read path state = (result, after) → fit after
  copy_fit : ∀ {source target state result after}, source ∈ known → target ∈ known →
    source ≠ target → fit state → files.copy source target state = (result, after) → fit after
  write_fit : ∀ {path text state result after}, path ∈ known → fit state →
    files.write path text state = (result, after) → fit after
  remove_fit : ∀ {path state result after}, path ∈ known → fit state →
    files.remove path state = (result, after) → fit after
  read_keeps : ∀ {path state result after}, path ∈ known → fit state →
    files.read path state = (result, after) → content after = content state
  read_ok : ∀ {path state text after}, path ∈ known → fit state →
    files.read path state = (.ok text, after) → content state path = some (Utf8.encode text)
  copy_ok : ∀ {source target state after}, source ∈ known → target ∈ known →
    source ≠ target → fit state → files.copy source target state = (.ok (), after) →
    ∃ bytes, content state source = some bytes ∧
      content after = Function.update (content state) target (some bytes)
  copy_error : ∀ {source target state cause after}, source ∈ known → target ∈ known →
    source ≠ target → fit state → files.copy source target state = (.error cause, after) →
    ∃ torn, content after = Function.update (content state) target torn
  write_ok : ∀ {path text state after}, path ∈ known → fit state →
    files.write path text state = (.ok (), after) →
    content after = Function.update (content state) path (some (Utf8.encode text))
  write_error : ∀ {path text state cause after}, path ∈ known → fit state →
    files.write path text state = (.error cause, after) →
    ∃ torn, content after = Function.update (content state) path torn
  remove_ok : ∀ {path state after}, path ∈ known → fit state →
    files.remove path state = (.ok (), after) →
    content after = Function.update (content state) path none
  remove_error : ∀ {path state cause after}, path ∈ known → fit state →
    files.remove path state = (.error cause, after) →
    ∃ torn, content after = Function.update (content state) path torn

/-- In a steady state reading a text, copying a file and writing moreover succeed.
Nothing is said about whether removing succeeds. -/
structure Reliable (files : FileStore σ) (known : List Path) (content : σ → Contents)
    (steady : σ → Prop) : Prop extends Lawful files known content steady where
  read_succeeds : ∀ {path state text}, path ∈ known → steady state →
    content state path = some (Utf8.encode text) → (files.read path state).1 = .ok text
  copy_succeeds : ∀ {source target state bytes}, source ∈ known → target ∈ known →
    source ≠ target → steady state → content state source = some bytes →
    (files.copy source target state).1 = .ok ()
  write_succeeds : ∀ {path text state}, path ∈ known → steady state →
    (files.write path text state).1 = .ok ()

theorem live_mem (live backup : Path) : live ∈ [live, backup] :=
  List.mem_cons_self

theorem backup_mem (live backup : Path) : backup ∈ [live, backup] :=
  List.mem_cons_of_mem live List.mem_cons_self

section Cases

variable {files : FileStore σ} {known : List Path} {content : σ → Contents} {fit : σ → Prop}
  {path : Path} {state after : σ} {result : Except Fault Unit}

theorem Lawful.write_cases (lawful : files.Lawful known content fit) (inside : path ∈ known)
    {text : Text} (fits : fit state) (done : files.write path text state = (result, after)) :
    ∃ left, content after = Function.update (content state) path left := by
  cases result with
  | error cause => exact lawful.write_error inside fits done
  | ok _ => exact ⟨_, lawful.write_ok inside fits done⟩

theorem Lawful.remove_cases (lawful : files.Lawful known content fit) (inside : path ∈ known)
    (fits : fit state) (done : files.remove path state = (result, after)) :
    ∃ left, content after = Function.update (content state) path left := by
  cases result with
  | error cause => exact lawful.remove_error inside fits done
  | ok _ => exact ⟨none, lawful.remove_ok inside fits done⟩

end Cases

end FileStore

/-! ## The store in memory -/

namespace MemoryStore

def content (store : MemoryStore) : Contents :=
  fun path => (store.files.lookup path).map Utf8.encode

/-- No fault of a read leaves content behind. -/
def ReadsKeep (store : MemoryStore) : Prop :=
  ∀ fault ∈ store.faults, fault.call = .read → fault.torn = none

instance (store : MemoryStore) : Decidable store.ReadsKeep :=
  inferInstanceAs (Decidable (∀ fault ∈ store.faults, _ → _))

def Faultless (store : MemoryStore) : Prop :=
  store.faults = []

instance (store : MemoryStore) : Decidable store.Faultless :=
  inferInstanceAs (Decidable (store.faults = []))

theorem content_insert (store : MemoryStore) (path : Path) (text : Text) :
    content { store with files := store.files.insert path text } =
      Function.update store.content path (some (Utf8.encode text)) := by
  funext other
  by_cases equal : other = path
  · subst equal
    simp [content]
  · simp [content, equal, FileTable.lookup_insert_of_ne equal]

theorem content_erase (store : MemoryStore) (path : Path) :
    content { store with files := store.files.erase path } =
      Function.update store.content path none := by
  funext other
  by_cases equal : other = path
  · subst equal
    simp [content, FileTable.lookup_erase_self]
  · simp [content, equal, FileTable.lookup_erase_of_ne equal]

theorem content_of_lookup {store : MemoryStore} {path : Path} {text : Text}
    (found : store.files.lookup path = some text) :
    store.content path = some (Utf8.encode text) := by
  rw [content, found]
  rfl

theorem content_of_files {store other : MemoryStore} (same : other.files = store.files) :
    other.content = store.content := by
  funext path
  rw [content, content, same]

theorem content_tear (fault : StoreFault) (target : Path) (store : MemoryStore) :
    ∃ torn, (store.tear fault target).content = Function.update store.content target torn := by
  unfold tear
  cases fault.torn with
  | none => exact ⟨store.content target, (Function.update_eq_self target store.content).symm⟩
  | some text => exact ⟨some (Utf8.encode text), content_insert store target text⟩

theorem faults_tear (fault : StoreFault) (target : Path) (store : MemoryStore) :
    (store.tear fault target).faults = store.faults := by
  unfold tear
  cases fault.torn <;> rfl

theorem perform_cases {α : Type} (call : FileCall) (entry : Text) (target : Path)
    (operation : MemoryStore → Except Fault α × MemoryStore) (store : MemoryStore) :
    ∃ noted : MemoryStore, noted.files = store.files ∧ noted.faults = store.faults ∧
      ((∃ fault ∈ store.faults, fault.call = call ∧
        perform call entry target operation store =
          (.error fault.cause, noted.tear fault target)) ∨
      perform call entry target operation store = operation noted) := by
  refine ⟨store.noted call entry, rfl, rfl, ?_⟩
  simp only [perform]
  cases found : (store.noted call entry).fault? call with
  | none => exact .inr rfl
  | some fault =>
      have member : fault ∈ store.faults := List.mem_of_find?_eq_some found
      have kind := List.find?_some found
      simp only [Bool.and_eq_true, decide_eq_true_eq] at kind
      exact .inl ⟨fault, member, kind.1, rfl⟩

theorem perform_ok {α : Type} {call : FileCall} {entry : Text} {target : Path}
    {operation : MemoryStore → Except Fault α × MemoryStore} {store after : MemoryStore}
    {value : α} (performed : perform call entry target operation store = (.ok value, after)) :
    ∃ noted : MemoryStore, noted.content = store.content ∧
      operation noted = (.ok value, after) := by
  rcases perform_cases call entry target operation store with
    ⟨noted, files, -, ⟨fault, -, -, failed⟩ | carried⟩
  · rw [failed] at performed
    simp at performed
  · exact ⟨noted, content_of_files files, carried.symm.trans performed⟩

theorem perform_error {α : Type} {call : FileCall} {entry : Text} {target : Path}
    {operation : MemoryStore → Except Fault α × MemoryStore} {store after : MemoryStore}
    {cause : Fault} (failed : perform call entry target operation store = (.error cause, after))
    (refused : ∀ {store cause after}, operation store = (.error cause, after) → after = store) :
    ∃ torn, after.content = Function.update store.content target torn := by
  rcases perform_cases call entry target operation store with
    ⟨noted, files, -, ⟨fault, -, -, tears⟩ | carried⟩
  · rw [tears, Prod.mk.injEq] at failed
    rw [← failed.2, ← content_of_files files]
    exact content_tear fault target noted
  · rw [refused (carried.symm.trans failed), content_of_files files]
    exact ⟨store.content target, (Function.update_eq_self target store.content).symm⟩

theorem perform_of_faultless {α : Type} {store : MemoryStore} (faultless : store.Faultless)
    (call : FileCall) (entry : Text) (target : Path)
    (operation : MemoryStore → Except Fault α × MemoryStore) :
    ∃ noted : MemoryStore, noted.files = store.files ∧
      perform call entry target operation store = operation noted := by
  rcases perform_cases call entry target operation store with
    ⟨noted, files, -, ⟨fault, member, -, -⟩ | carried⟩
  · rw [faultless] at member
    cases member
  · exact ⟨noted, files, carried⟩

theorem faults_perform {α : Type} {call : FileCall} {entry : Text} {target : Path}
    {operation : MemoryStore → Except Fault α × MemoryStore} {store after : MemoryStore}
    {result : Except Fault α}
    (performed : perform call entry target operation store = (result, after))
    (keeps : ∀ store, (operation store).2.faults = store.faults) :
    after.faults = store.faults := by
  rcases perform_cases call entry target operation store with
    ⟨noted, -, faults, ⟨fault, -, -, failed⟩ | carried⟩
  · rw [failed, Prod.mk.injEq] at performed
    rw [← performed.2, faults_tear, faults]
  · have kept := keeps noted
    rw [← carried, performed] at kept
    exact kept.trans faults

theorem faults_read {path : Path} {store after : MemoryStore} {result : Except Fault Text}
    (done : read path store = (result, after)) : after.faults = store.faults := by
  apply faults_perform done
  intro store
  cases store.files.lookup path <;> rfl

theorem faults_copy {source target : Path} {store after : MemoryStore}
    {result : Except Fault Unit} (done : copy source target store = (result, after)) :
    after.faults = store.faults := by
  apply faults_perform done
  intro store
  cases store.files.lookup source <;> rfl

theorem faults_write {path : Path} {text : Text} {store after : MemoryStore}
    {result : Except Fault Unit} (done : write path text store = (result, after)) :
    after.faults = store.faults := by
  apply faults_perform done
  intro store
  rfl

theorem faults_remove {path : Path} {store after : MemoryStore} {result : Except Fault Unit}
    (done : remove path store = (result, after)) : after.faults = store.faults := by
  apply faults_perform done
  intro store
  cases store.files.lookup path <;> rfl

theorem ReadsKeep.of_faults {store after : MemoryStore} (same : after.faults = store.faults)
    (keeps : store.ReadsKeep) : after.ReadsKeep := by
  unfold ReadsKeep at *
  rw [same]
  exact keeps

theorem read_ok {path : Path} {store after : MemoryStore} {text : Text}
    (done : read path store = (.ok text, after)) :
    store.content path = some (Utf8.encode text) ∧ after.content = store.content := by
  rcases perform_ok done with ⟨noted, same, carried⟩
  rw [← same]
  cases found : noted.files.lookup path with
  | none => simp [found] at carried
  | some stored =>
      simp only [found, Prod.mk.injEq, Except.ok.injEq] at carried
      rcases carried with ⟨rfl, rfl⟩
      exact ⟨content_of_lookup found, rfl⟩

theorem read_error {path : Path} {store after : MemoryStore} {cause : Fault}
    (keeps : store.ReadsKeep) (failed : read path store = (.error cause, after)) :
    after.content = store.content := by
  rcases perform_cases .read ("read ".toList ++ path) path _ store with
    ⟨noted, files, -, ⟨fault, member, kind, tears⟩ | carried⟩
  · rw [read, tears, Prod.mk.injEq] at failed
    rw [← failed.2, tear, keeps fault member kind]
    exact content_of_files files
  · rw [read, carried] at failed
    cases found : noted.files.lookup path with
    | none =>
        simp only [found, Prod.mk.injEq] at failed
        rw [← failed.2]
        exact content_of_files files
    | some stored => simp [found] at failed

theorem copy_ok {source target : Path} {store after : MemoryStore}
    (done : copy source target store = (.ok (), after)) :
    ∃ bytes, store.content source = some bytes ∧
      after.content = Function.update store.content target (some bytes) := by
  rcases perform_ok done with ⟨noted, same, carried⟩
  rw [← same]
  cases found : noted.files.lookup source with
  | none => simp [found] at carried
  | some stored =>
      simp only [found, Prod.mk.injEq] at carried
      refine ⟨Utf8.encode stored, content_of_lookup found, ?_⟩
      rw [← carried.2, content_insert]

theorem copy_error {source target : Path} {store after : MemoryStore} {cause : Fault}
    (failed : copy source target store = (.error cause, after)) :
    ∃ torn, after.content = Function.update store.content target torn := by
  apply perform_error failed
  intro store cause after refused
  cases found : store.files.lookup source <;> simp_all

theorem write_ok {path : Path} {text : Text} {store after : MemoryStore}
    (done : write path text store = (.ok (), after)) :
    after.content = Function.update store.content path (some (Utf8.encode text)) := by
  rcases perform_ok done with ⟨noted, same, carried⟩
  rw [Prod.mk.injEq] at carried
  rw [← carried.2, content_insert, same]

theorem write_error {path : Path} {text : Text} {store after : MemoryStore} {cause : Fault}
    (failed : write path text store = (.error cause, after)) :
    ∃ torn, after.content = Function.update store.content path torn := by
  apply perform_error failed
  intro store cause after refused
  simp at refused

theorem remove_ok {path : Path} {store after : MemoryStore}
    (done : remove path store = (.ok (), after)) :
    after.content = Function.update store.content path none := by
  rcases perform_ok done with ⟨noted, same, carried⟩
  cases found : noted.files.lookup path with
  | none => simp [found] at carried
  | some stored =>
      simp only [found, Prod.mk.injEq] at carried
      rw [← carried.2, content_erase, same]

theorem remove_error {path : Path} {store after : MemoryStore} {cause : Fault}
    (failed : remove path store = (.error cause, after)) :
    ∃ torn, after.content = Function.update store.content path torn := by
  apply perform_error failed
  intro store cause after refused
  cases found : store.files.lookup path <;> simp_all

/-- The laws hold of all paths under all faults, provided that failing reads leave nothing. -/
theorem memory_lawful (known : List Path) :
    FileStore.memory.Lawful known content ReadsKeep where
  read_fit _ keeps done := keeps.of_faults (faults_read done)
  copy_fit _ _ _ keeps done := keeps.of_faults (faults_copy done)
  write_fit _ keeps done := keeps.of_faults (faults_write done)
  remove_fit _ keeps done := keeps.of_faults (faults_remove done)
  read_keeps {_ _ result _} _ keeps read := by
    cases result with
    | ok text => exact (read_ok read).2
    | error cause => exact read_error keeps read
  read_ok _ _ read := (read_ok read).1
  copy_ok _ _ _ _ copied := copy_ok copied
  copy_error _ _ _ _ failed := copy_error failed
  write_ok _ _ written := write_ok written
  write_error _ _ failed := write_error failed
  remove_ok _ _ removed := remove_ok removed
  remove_error _ _ failed := remove_error failed

theorem Faultless.of_faults {store after : MemoryStore} (same : after.faults = store.faults)
    (faultless : store.Faultless) : after.Faultless :=
  same.trans faultless

theorem Faultless.readsKeep {store : MemoryStore} (faultless : store.Faultless) :
    store.ReadsKeep := by
  intro fault member
  rw [faultless] at member
  cases member

theorem memory_reliable (known : List Path) :
    FileStore.memory.Reliable known content Faultless where
  read_fit _ faultless done := faultless.of_faults (faults_read done)
  copy_fit _ _ _ faultless done := faultless.of_faults (faults_copy done)
  write_fit _ faultless done := faultless.of_faults (faults_write done)
  remove_fit _ faultless done := faultless.of_faults (faults_remove done)
  read_keeps inside faultless := (memory_lawful known).read_keeps inside faultless.readsKeep
  read_ok inside faultless := (memory_lawful known).read_ok inside faultless.readsKeep
  copy_ok _ _ _ _ copied := copy_ok copied
  copy_error _ _ _ _ failed := copy_error failed
  write_ok _ _ written := write_ok written
  write_error _ _ failed := write_error failed
  remove_ok _ _ removed := remove_ok removed
  remove_error _ _ failed := remove_error failed
  read_succeeds {path store text} _ faultless holds := by
    rcases perform_of_faultless faultless .read ("read ".toList ++ path) path _ with
      ⟨noted, files, carried⟩
    change (read path store).1 = _
    rw [content, ← files] at holds
    rcases Option.map_eq_some_iff.mp holds with ⟨stored, found, encoded⟩
    rw [read, carried, found, Utf8.encode_injective encoded]
  copy_succeeds {source target store bytes} _ _ _ faultless holds := by
    rcases perform_of_faultless faultless .copy ("copy ".toList ++ source ++ ' ' :: target)
      target _ with ⟨noted, files, carried⟩
    change (copy source target store).1 = _
    rw [content, ← files] at holds
    rcases Option.map_eq_some_iff.mp holds with ⟨stored, found, -⟩
    rw [copy, carried, found]
  write_succeeds {path text store} _ faultless := by
    rcases perform_of_faultless faultless .write ("write ".toList ++ path) path _ with
      ⟨noted, -, carried⟩
    change (write path text store).1 = _
    rw [write, carried]

end MemoryStore
end NetAdmin
