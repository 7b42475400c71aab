import NetAdmin.Files.Store
/-!
Editing a file with a way back. Taking a snapshot copies the live file aside.
The snapshot then ends in one of two ways: a commit writes new content and
gives the copy up, or the snapshot is dropped. A commit that cannot write, and
a drop without a commit, put the copy back, once.
-/

namespace NetAdmin

/-- A live file and the copy that was taken of it. A released snapshot puts
nothing back any more. -/
structure Snapshot where
  live : Path
  backup : Path
  released : Bool
  deriving DecidableEq, Repr

namespace Snapshot

variable {σ : Type} (files : FileStore σ)

def take (live backup : Path) : StoreM σ Snapshot := do
  FileStore.lift (.backupFailed live) (files.copy live backup)
  return { live, backup, released := false }

/-- Tries to put the copy back, and says whether that worked. The snapshot is
released either way. -/
def restore (snapshot : Snapshot) (state : σ) : Bool × Snapshot × σ :=
  match files.copy snapshot.backup snapshot.live state with
  | (.ok _, state) => (true, { snapshot with released := true }, state)
  | (.error _, state) => (false, { snapshot with released := true }, state)

/-- Writes new content to the live file and removes the copy. Failing to remove
it is no failure. The result holds the snapshot as the commit leaves it. -/
def commit (snapshot : Snapshot) (contents : Text) (state : σ) :
    Except Error Unit × Snapshot × σ :=
  match files.write snapshot.live contents state with
  | (.ok _, state) =>
      (.ok (), { snapshot with released := true }, (files.remove snapshot.backup state).2)
  | (.error cause, state) =>
      match restore files snapshot state with
      | (true, snapshot, state) => (.error (.commitFailed snapshot.live cause), snapshot, state)
      | (false, snapshot, state) =>
          (.error (.restoreFailed snapshot.live snapshot.backup cause), snapshot, state)

def drop (snapshot : Snapshot) (state : σ) : σ :=
  if snapshot.released then state else (restore files snapshot state).2.2

def finish (snapshot : Snapshot) (contents : Text) : StoreM σ Unit := fun state =>
  match commit files snapshot contents state with
  | (result, snapshot, state) => (result, drop files snapshot state)

end Snapshot

namespace FileStore

variable {σ : Type} (files : FileStore σ)

def commitWithBackup (live backup : Path) (contents : Text) : StoreM σ Unit := do
  let snapshot ← Snapshot.take files live backup
  Snapshot.finish files snapshot contents

end FileStore
end NetAdmin
