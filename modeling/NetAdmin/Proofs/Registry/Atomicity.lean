import NetAdmin.Proofs.Registry.Run
/-!
All or nothing: whatever its file operations do when they fail, an edit of a
registry has put the whole new text in place, or left the old one, or left the old
one in the copy and said so. Looking at a registry changes nothing.
-/

namespace NetAdmin
namespace Registry

/-- The contents of the files before and after a call fit its result. -/
structure AllOrNothing (registry : Registry) (call : Call) (result : Except Error Answer)
    (before after : Contents) : Prop where
  looked : call.edits = false → after = before
  edited : ∀ {answer}, call.edits = true → result = .ok answer →
    ∃ old new, Edits call answer old new ∧ before registry.path = some (Utf8.encode old) ∧
      after registry.path = some (Utf8.encode new)
  /-- A failure that does not concern the edit came before it. -/
  refused : ∀ {error}, result = .error error → error.concernsEdit = false → after = before
  notCopied : ∀ {path cause}, result = .error (.backupFailed path cause) →
    path = registry.path ∧ ∃ old, before registry.path = some (Utf8.encode old) ∧
      after registry.path = some (Utf8.encode old)
  restored : ∀ {path cause}, result = .error (.commitFailed path cause) →
    path = registry.path ∧ ∃ old, before registry.path = some (Utf8.encode old) ∧
      after registry.path = some (Utf8.encode old)
  notRestored : ∀ {path backup cause}, result = .error (.restoreFailed path backup cause) →
    path = registry.path ∧ backup = registry.backup ∧
      ∃ old, before registry.path = some (Utf8.encode old) ∧
        after registry.backup = some (Utf8.encode old)
  elsewhere : ∀ {path}, path ≠ registry.path → path ≠ registry.backup → after path = before path

variable {registry : Registry}

theorem AllOrNothing.unchanged {call : Call} {result : Except Error Answer} {files : Contents}
    (failed : ∀ {answer}, result = .ok answer → call.edits = false)
    (early : ∀ {error}, result = .error error → error.concernsEdit = false) :
    AllOrNothing registry call result files files where
  looked _ := rfl
  edited editing done := by
    rw [failed done] at editing
    cases editing
  refused _ _ := rfl
  notCopied reported := nomatch early reported
  restored reported := nomatch early reported
  notRestored reported := nomatch early reported
  elsewhere _ _ := rfl

theorem AllOrNothing.ofReplaced {call : Call} {answer : Answer} {old new : Text}
    {outcome : Except Error Unit} {before after : Contents}
    (apart : registry.path ≠ registry.backup) (editing : call.edits = true)
    (edits : Edits call answer old new)
    (stood : before registry.path = some (Utf8.encode old))
    (replaced : FileStore.Replaced registry.path registry.backup new before outcome after) :
    AllOrNothing registry call (outcome.map fun _ => answer) before after where
  looked looking := by
    rw [editing] at looking
    cases looking
  edited _ done := by
    cases replaced <;> cases done
    exact ⟨old, new, edits, stood, by rw [Function.update_of_ne apart, Function.update_self]⟩
  refused reported early := by
    cases replaced <;> cases reported <;> cases early
  notCopied reported := by
    cases replaced <;> cases reported
    exact ⟨rfl, old, stood, by rw [Function.update_of_ne apart, stood]⟩
  restored reported := by
    cases replaced <;> cases reported
    exact ⟨rfl, old, stood, by rw [Function.update_of_ne apart, stood]⟩
  notRestored reported := by
    cases replaced <;> cases reported
    exact ⟨rfl, rfl, old, stood, by
      rw [Function.update_of_ne apart.symm, Function.update_self, stood]⟩
  elsewhere atLive atBackup := by
    cases replaced <;> simp [atLive, atBackup]

theorem Performed.allOrNothing {call : Call} {result : Except Error Answer}
    {before after : Contents} (apart : registry.path ≠ registry.backup)
    (performed : Performed registry call before result after) :
    AllOrNothing registry call result before after := by
  cases performed with
  | refused error early =>
      apply AllOrNothing.unchanged
      · intro answer done
        cases done
      · intro error reported
        cases reported
        exact early
  | looked text answer stood planned =>
      apply AllOrNothing.unchanged
      · intro answer done
        exact plan_cases planned
      · intro error reported
        cases reported
  | edited text answer new outcome after stood planned replaced =>
      rcases plan_cases planned with ⟨editing, edits⟩
      exact AllOrNothing.ofReplaced apart editing edits stood replaced

variable {σ : Type} {files : FileStore σ} {content : σ → Contents} {fit : σ → Prop}

theorem answer_of_remove (remove : Path → σ → Except Fault Unit × σ) (call : Call) (state : σ) :
    (registry.answer { files with remove } call state).1 =
      (registry.answer files call state).1 := by
  have sameRead : registry.readText { files with remove } state = registry.readText files state :=
    rfl
  rw [answer_eq, answer_eq, sameRead]
  rcases registry.readText files state with ⟨_ | text, read⟩
  · rfl
  dsimp only
  rcases registry.plan call text with error | ⟨answer, _ | new⟩
  · rfl
  · rfl
  have sameCommit : (registry.commit { files with remove } new read).1 =
      (registry.commit files new read).1 :=
    FileStore.commitWithBackup_of_remove files remove registry.path registry.backup new read
  rcases changed : registry.commit { files with remove } new read with ⟨result, left⟩
  rcases committed : registry.commit files new read with ⟨result', right⟩
  rw [changed, committed] at sameCommit
  cases sameCommit
  simp only [changed, committed]
  cases result <;> rfl

/-- Under all faults of the file operations a call is all or nothing, and no result
turns on whether the copy can be removed. -/
theorem answer_allOrNothing (path : Path) (lawful : files.Lawful (ofPath path).paths content fit)
    (call : Call) {state : σ} (fits : fit state) :
    AllOrNothing (ofPath path) call ((ofPath path).answer files call state).1 (content state)
        (content ((ofPath path).answer files call state).2) ∧
      ∀ remove, ((ofPath path).answer { files with remove } call state).1 =
        ((ofPath path).answer files call state).1 := by
  constructor
  · have apart := ofPath_apart path
    exact (performed lawful apart fits rfl).2.allOrNothing apart
  · intro remove
    exact answer_of_remove remove call state

theorem answer_allOrNothing_torn :
    let store := MemoryStore.start [("t".toList, "0\ta\n1\tb\n".toList)]
      [⟨.write, none, ⟨.other, "disk full".toList⟩, some "0\t".toList⟩]
    let done := (ofPath "t".toList).answer FileStore.memory (.delete "a".toList) store
    store.ReadsKeep ∧
      done.1 = .error (.commitFailed "t".toList ⟨.other, "disk full".toList⟩) ∧
      AllOrNothing (ofPath "t".toList) (.delete "a".toList) done.1 store.content done.2.content ∧
      done.2.content "t".toList = some (Utf8.encode "0\ta\n1\tb\n".toList) := by
  intro store done
  have keeps : store.ReadsKeep := by decide
  have whole := answer_allOrNothing "t".toList (MemoryStore.memory_lawful _) (.delete "a".toList)
    keeps
  exact ⟨keeps, rfl, whole.1, by decide⟩

end Registry
end NetAdmin
