import NetAdmin.Files.Store
/-!
A file store in memory whose operations fail on demand. Files are texts by the
exact text of their path, and there are no directories. Every call is logged and
counted by its kind; a fault names a kind and perhaps the number of a call, and
makes that call fail, after it has perhaps left other content at its target.
-/

namespace NetAdmin

inductive FileCall
  | read
  | copy
  | write
  | remove
  deriving DecidableEq, Repr

structure StoreFault where
  call : FileCall
  /-- The number of the call among those of its kind, or every call. -/
  number : Option Nat
  cause : Fault
  torn : Option Text
  deriving DecidableEq, Repr

abbrev FileTable := List (Path × Text)

namespace FileTable

def erase (files : FileTable) (path : Path) : FileTable :=
  files.filter fun file => file.1 != path

def insert (files : FileTable) (path : Path) (content : Text) : FileTable :=
  (path, content) :: files.erase path

theorem erase_cons_self (file : Path × Text) (files : FileTable) :
    erase (file :: files) file.1 = files.erase file.1 := by
  simp [erase]

theorem erase_cons_of_ne {file : Path × Text} {path : Path} (different : file.1 ≠ path)
    (files : FileTable) : erase (file :: files) path = file :: files.erase path := by
  simp [erase, different]

theorem lookup_erase_self (files : FileTable) (path : Path) :
    (files.erase path).lookup path = none := by
  induction files with
  | nil => rfl
  | cons file files induction =>
      by_cases equal : file.1 = path
      · subst equal
        rw [erase_cons_self, induction]
      · have apart : path ≠ file.1 := fun same => equal same.symm
        rw [erase_cons_of_ne equal, List.lookup_cons, beq_false_of_ne apart, induction]

theorem lookup_erase_of_ne {path other : Path} (different : other ≠ path) (files : FileTable) :
    (files.erase path).lookup other = files.lookup other := by
  induction files with
  | nil => rfl
  | cons file files induction =>
      by_cases equal : file.1 = path
      · subst equal
        rw [erase_cons_self, List.lookup_cons, beq_false_of_ne different, induction]
      · rw [erase_cons_of_ne equal, List.lookup_cons, List.lookup_cons, induction]

@[simp] theorem lookup_insert_self (files : FileTable) (path : Path) (content : Text) :
    (files.insert path content).lookup path = some content := by
  simp [insert]

theorem lookup_insert_of_ne {path other : Path} (different : other ≠ path) (files : FileTable)
    (content : Text) : (files.insert path content).lookup other = files.lookup other := by
  rw [insert, List.lookup_cons, beq_false_of_ne different]
  exact lookup_erase_of_ne different files

end FileTable

structure MemoryStore where
  files : FileTable
  faults : List StoreFault
  calls : List FileCall
  log : List Text
  deriving DecidableEq, Repr

namespace MemoryStore

def start (files : FileTable) (faults : List StoreFault) : MemoryStore where
  files := files
  faults := faults
  calls := []
  log := []

def absent : Fault :=
  ⟨.notFound, "no such file".toList⟩

def noted (call : FileCall) (entry : Text) (store : MemoryStore) : MemoryStore :=
  { store with calls := call :: store.calls, log := store.log ++ [entry] }

def fault? (call : FileCall) (store : MemoryStore) : Option StoreFault :=
  store.faults.find? fun fault =>
    fault.call = call && (fault.number.map (· == store.calls.count call)).getD true

def tear (fault : StoreFault) (target : Path) (store : MemoryStore) : MemoryStore :=
  match fault.torn with
  | some content => { store with files := store.files.insert target content }
  | none => store

/-- Notes a call and carries it out, unless it has a fault. -/
def perform {α : Type} (call : FileCall) (entry : Text) (target : Path)
    (operation : MemoryStore → Except Fault α × MemoryStore) (store : MemoryStore) :
    Except Fault α × MemoryStore :=
  let store := store.noted call entry
  match store.fault? call with
  | some fault => (.error fault.cause, store.tear fault target)
  | none => operation store

def read (path : Path) : MemoryStore → Except Fault Text × MemoryStore :=
  perform .read ("read ".toList ++ path) path fun store =>
    match store.files.lookup path with
    | some content => (.ok content, store)
    | none => (.error absent, store)

def copy (source target : Path) : MemoryStore → Except Fault Unit × MemoryStore :=
  perform .copy ("copy ".toList ++ source ++ ' ' :: target) target fun store =>
    match store.files.lookup source with
    | some content => (.ok (), { store with files := store.files.insert target content })
    | none => (.error absent, store)

def write (path : Path) (content : Text) : MemoryStore → Except Fault Unit × MemoryStore :=
  perform .write ("write ".toList ++ path) path fun store =>
    (.ok (), { store with files := store.files.insert path content })

def remove (path : Path) : MemoryStore → Except Fault Unit × MemoryStore :=
  perform .remove ("remove ".toList ++ path) path fun store =>
    match store.files.lookup path with
    | some _ => (.ok (), { store with files := store.files.erase path })
    | none => (.error absent, store)

end MemoryStore

namespace FileStore

def memory : FileStore MemoryStore where
  read := MemoryStore.read
  copy := MemoryStore.copy
  write := MemoryStore.write
  remove := MemoryStore.remove
  ensureDirectory := fun _ store => (.ok (), store)

end FileStore
end NetAdmin
