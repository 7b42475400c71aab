import NetAdmin.Files.Snapshot
import NetAdmin.Proofs.Files.Laws
/-!
What comes of replacing the content of a file. `Replaced` lists the four ends that
an edit with a copy kept aside can have, each with all that it leaves in the
files; no lawful store has another one (`Lawful.replaced`), and in a reliable store
the edit succeeds (`Reliable.commitWithBackup_ok`).
-/

namespace NetAdmin

namespace Snapshot

variable {σ : Type} (files : FileStore σ)

/-- A commit releases its snapshot, so dropping it afterwards puts nothing back: the
copy is put back once if the write failed, and not at all otherwise. -/
theorem finish_eq (snapshot : Snapshot) (contents : Text) (state : σ) :
    finish files snapshot contents state =
      match files.write snapshot.live contents state with
      | (.ok _, after) => (.ok (), (files.remove snapshot.backup after).2)
      | (.error cause, torn) =>
          match files.copy snapshot.backup snapshot.live torn with
          | (.ok _, after) => (.error (.commitFailed snapshot.live cause), after)
          | (.error _, after) =>
              (.error (.restoreFailed snapshot.live snapshot.backup cause), after) := by
  simp only [finish, commit, restore]
  rcases written : files.write snapshot.live contents state with ⟨cause | _, torn⟩
  · rcases copied : files.copy snapshot.backup snapshot.live torn with ⟨_ | _, after⟩ <;>
      simp [copied, drop]
  · rfl

end Snapshot

namespace FileStore

variable {σ : Type} (files : FileStore σ)

theorem commitWithBackup_eq (live backup : Path) (contents : Text) (state : σ) :
    files.commitWithBackup live backup contents state =
      match files.copy live backup state with
      | (.ok _, after) => Snapshot.finish files ⟨live, backup, false⟩ contents after
      | (.error cause, after) => (.error (.backupFailed live cause), after) := by
  simp only [commitWithBackup, Snapshot.take, Computation.bind_apply, lift]
  rcases files.copy live backup state with ⟨_ | _, after⟩ <;> rfl

theorem commitWithBackup_of_remove (remove : Path → σ → Except Fault Unit × σ)
    (live backup : Path) (contents : Text) (state : σ) :
    (commitWithBackup { files with remove } live backup contents state).1 =
      (files.commitWithBackup live backup contents state).1 := by
  simp only [commitWithBackup_eq, Snapshot.finish_eq]
  rcases files.copy live backup state with ⟨_ | _, aside⟩
  · rfl
  · rcases written : files.write live contents aside with ⟨_ | _, torn⟩
    · simp only [written]
    · simp only [written]

/-- The ends of replacing the content of the live file, by the result and the files
afterwards. What a failing call leaves behind is arbitrary, and after a failed write the
copy stays. -/
inductive Replaced (live backup : Path) (contents : Text) (before : Contents) :
    Except Error Unit → Contents → Prop
  | notCopied (cause : Fault) (torn : Option Utf8.Bytes) :
      Replaced live backup contents before (.error (.backupFailed live cause))
        (Function.update before backup torn)
  | written (left : Option Utf8.Bytes) :
      Replaced live backup contents before (.ok ())
        (Function.update (Function.update before live (some (Utf8.encode contents))) backup left)
  | restored (cause : Fault) :
      Replaced live backup contents before (.error (.commitFailed live cause))
        (Function.update before backup (before live))
  | notRestored (cause : Fault) (torn : Option Utf8.Bytes) :
      Replaced live backup contents before (.error (.restoreFailed live backup cause))
        (Function.update (Function.update before backup (before live)) live torn)

theorem Replaced.inPlace {live backup : Path} {contents : Text} {before after : Contents}
    (apart : live ≠ backup) (replaced : Replaced live backup contents before (.ok ()) after) :
    after live = some (Utf8.encode contents) := by
  generalize outcome : (Except.ok () : Except Error Unit) = result at replaced
  cases replaced with
  | written left => rw [Function.update_of_ne apart, Function.update_self]
  | _ => cases outcome

variable {files} {content : σ → Contents} {fit : σ → Prop} {live backup : Path}

theorem Lawful.replaced (lawful : files.Lawful [live, backup] content fit)
    (apart : live ≠ backup) {contents : Text} {state after : σ} {result : Except Error Unit}
    (fits : fit state)
    (done : files.commitWithBackup live backup contents state = (result, after)) :
    fit after ∧ Replaced live backup contents (content state) result (content after) := by
  have inLive := live_mem live backup
  have inBackup := backup_mem live backup
  rw [commitWithBackup_eq] at done
  rcases copied : files.copy live backup state with ⟨result, aside⟩
  have fitsAside : fit aside := lawful.copy_fit inLive inBackup apart fits copied
  rcases result with cause | _
  · rw [copied] at done
    cases done
    rcases lawful.copy_error inLive inBackup apart fits copied with ⟨torn, left⟩
    rw [left]
    exact ⟨fitsAside, .notCopied cause torn⟩
  rcases lawful.copy_ok inLive inBackup apart fits copied with ⟨bytes, stood, left⟩
  rw [← stood] at left
  simp only [copied, Snapshot.finish_eq] at done
  rcases written : files.write live contents aside with ⟨result, torn⟩
  have fitsTorn : fit torn := lawful.write_fit inLive fitsAside written
  rcases result with cause | _
  · -- The write tore the live file, but not the copy that is put back now.
    rcases lawful.write_error inLive fitsAside written with ⟨remains, tears⟩
    rcases restored : files.copy backup live torn with ⟨result, final⟩
    have fitsFinal : fit final := lawful.copy_fit inBackup inLive apart.symm fitsTorn restored
    rcases result with _ | _
    · simp only [written, restored] at done
      cases done
      rcases lawful.copy_error inBackup inLive apart.symm fitsTorn restored with
        ⟨again, tornAgain⟩
      rw [tornAgain, tears, left, Function.update_idem]
      exact ⟨fitsFinal, .notRestored cause again⟩
    · simp only [written, restored] at done
      cases done
      rcases lawful.copy_ok inBackup inLive apart.symm fitsTorn restored with ⟨kept, held, back⟩
      rw [tears, left, Function.update_of_ne apart.symm, Function.update_self] at held
      have whole : Function.update (content state) live (some kept) = content state := by
        rw [← held, Function.update_eq_self]
      rw [back, tears, left, Function.update_idem, Function.update_comm apart.symm, whole]
      exact ⟨fitsFinal, .restored cause⟩
  · simp only [written] at done
    cases done
    rcases removed : files.remove backup torn with ⟨removal, final⟩
    rcases lawful.remove_cases inBackup fitsTorn removed with ⟨remains, gone⟩
    rw [gone, lawful.write_ok inLive fitsAside written, left, Function.update_comm apart.symm,
      Function.update_idem]
    exact ⟨lawful.remove_fit inBackup fitsTorn removed, .written remains⟩

theorem Reliable.commitWithBackup_ok (reliable : files.Reliable [live, backup] content fit)
    (apart : live ≠ backup) (contents : Text) {state : σ} {bytes : Utf8.Bytes}
    (steady : fit state) (stood : content state live = some bytes) :
    (files.commitWithBackup live backup contents state).1 = .ok () := by
  have inLive := live_mem live backup
  have inBackup := backup_mem live backup
  have copies : (files.copy live backup state).1 = .ok () :=
    reliable.copy_succeeds inLive inBackup apart steady stood
  rw [commitWithBackup_eq]
  rcases copied : files.copy live backup state with ⟨result, aside⟩
  rw [copied] at copies
  cases copies
  have writes : (files.write live contents aside).1 = .ok () :=
    reliable.write_succeeds inLive (reliable.copy_fit inLive inBackup apart steady copied)
  simp only [Snapshot.finish_eq]
  rcases written : files.write live contents aside with ⟨result, after⟩
  rw [written] at writes
  cases writes
  rfl

end FileStore
end NetAdmin
