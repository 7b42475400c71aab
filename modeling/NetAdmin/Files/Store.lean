import NetAdmin.Error
import NetAdmin.Settings
/-!
File operations as an interface. A `FileStore` says what reading, copying,
writing, removing and creating a directory do to a state; nothing says that they
succeed, or that a failed one left its target alone. `StoreM` is a computation
over such a state that may fail, and what was done before the failure stays done.
-/

namespace NetAdmin

structure FileStore (σ : Type) where
  read : Path → σ → Except Fault Text × σ
  copy : (source target : Path) → σ → Except Fault Unit × σ
  write : Path → Text → σ → Except Fault Unit × σ
  remove : Path → σ → Except Fault Unit × σ
  /-- Creates a directory and the missing ones above it. -/
  ensureDirectory : Path → σ → Except Fault Unit × σ

abbrev StoreM (σ α : Type) := ExceptT Error (StateM σ) α

namespace FileStore

variable {σ α : Type}

def lift (wrap : Fault → Error) (operation : σ → Except Fault α × σ) : StoreM σ α := fun state =>
  match operation state with
  | (.ok value, state) => (.ok value, state)
  | (.error cause, state) => (.error (wrap cause), state)

end FileStore
end NetAdmin
