import Mathlib.Data.Nat.Find
import NetAdmin.Proofs.Registry.Lines
import NetAdmin.Proofs.Registry.Run
/-!
The registry as a list of entries. Calls whose names are words do to the text of the
registry what a machine that only has the list of entries does to the list, result by
result (`run_refines`). The machine is written down without the text, and without the
way in which the registry looks for free numbers (`leastUnused_eq_firstFree`).
-/

namespace NetAdmin

/-! ## The list machine -/

namespace TableList

def Unused (entries : List TableEntry) (number : Nat) : Prop :=
  ∀ entry ∈ entries, entry.number ≠ number

instance (entries : List TableEntry) : DecidablePred (Unused entries) :=
  fun number => inferInstanceAs (Decidable (∀ entry ∈ entries, entry.number ≠ number))

/-- The least number up to 254 that no entry of the list has. -/
def leastUnused (entries : List TableEntry) : Option Nat :=
  if free : ∃ number, number ∈ List.range 255 ∧ Unused entries number then some (Nat.find free)
  else none

/-- What a call answers on a list of entries, and the list that it leaves. -/
def perform (path : Path) : Registry.Call → List TableEntry →
    Except Error Registry.Answer × List TableEntry
  | .add name, entries =>
      match leastUnused entries with
      | none => (.error (.noFreeNumber path), entries)
      | some number => (.ok (.added ⟨number, name⟩), entries ++ [⟨number, name⟩])
  | .delete name, entries =>
      (.ok (.deleted (entries.countP fun entry => entry.name == name)),
        entries.filter fun entry => entry.name != name)
  | .find name, entries => (.ok (.found (entries.find? fun entry => entry.name == name)), entries)
  | .entries, entries => (.ok (.listed entries), entries)

def run (path : Path) : List Registry.Call → List TableEntry →
    List (Except Error Registry.Answer × List TableEntry)
  | [], _ => []
  | call :: calls, entries =>
      let done := perform path call entries
      done :: run path calls done.2

theorem leastUnused_eq_firstFree (entries : List TableEntry) :
    leastUnused entries = TableEntry.firstFree entries := by
  have used_of_not {number : Nat} (used : ¬ Unused entries number) :
      ∃ entry ∈ entries, entry.number = number := by simpa [Unused] using used
  unfold leastUnused
  split
  · next free =>
      symm
      rw [TableEntry.firstFree_eq_some]
      have found := Nat.find_spec free
      have small : Nat.find free < 255 := List.mem_range.mp found.1
      refine ⟨small, found.2, ?_⟩
      intro smaller less
      apply used_of_not
      intro unused
      exact Nat.find_min free less ⟨List.mem_range.mpr (Nat.lt_trans less small), unused⟩
  · next full =>
      symm
      rw [TableEntry.firstFree_eq_none]
      intro number small
      apply used_of_not
      intro unused
      exact full ⟨number, List.mem_range.mpr small, unused⟩

end TableList

namespace Registry

/-! ## Texts and lists -/

/-- A call that adds a name which is one word, or empty, or deletes one which is not
empty. Calls with words as names are plain. -/
def Call.Plain : Call → Prop
  | .add name => ∀ c ∈ name, Text.isBlank c = false
  | .delete name => name ≠ []
  | .find _ | .entries => True

instance (call : Call) : Decidable call.Plain :=
  match call with
  | .add name => List.decidableBAll (fun c => Text.isBlank c = false) name
  | .delete name => inferInstanceAs (Decidable (name ≠ []))
  | .find _ | .entries => inferInstanceAs (Decidable True)

variable {σ : Type} {files : FileStore σ} {registry : Registry}
variable {content : σ → Contents} {steady : σ → Prop}

variable (registry) in
theorem plan_refines {call : Call} {text : Text} {entries : List TableEntry}
    (registered : TableEntry.ofRegistry text = .ok entries) (plain : call.Plain) :
    (registry.plan call text).map Prod.fst = (TableList.perform registry.path call entries).1 ∧
      TableEntry.ofRegistry (registry.textAfter call text) =
        .ok (TableList.perform registry.path call entries).2 := by
  cases call with
  | add name =>
      rw [textAfter, plan_add registered, TableList.perform, TableList.leastUnused_eq_firstFree]
      cases free : TableEntry.firstFree entries with
      | none => exact ⟨rfl, registered⟩
      | some number =>
          have small : number < Decimal.wordBound :=
            Nat.lt_trans (TableEntry.firstFree_eq_some.mp free).1 (by decide)
          exact ⟨rfl, ofRegistry_withEntry registered small plain⟩
  | delete name =>
      have count := countName_of_ofRegistry registered plain
      have kept := ofRegistry_withoutName registered plain
      rw [TableList.perform, ← count]
      exact ⟨rfl, kept⟩
  | find name =>
      rw [textAfter, plan, registered]
      exact ⟨rfl, registered⟩
  | entries =>
      rw [textAfter, plan, registered]
      exact ⟨rfl, registered⟩

def Stands (content : σ → Contents) (registry : Registry) (entries : List TableEntry)
    (state : σ) : Prop :=
  ∃ text, content state registry.path = some (Utf8.encode text) ∧
    TableEntry.ofRegistry text = .ok entries

theorem Stands.entries (reliable : files.Reliable registry.paths content steady)
    {state : σ} {entries : List TableEntry} (fits : steady state)
    (stands : Stands content registry entries state) :
    (registry.entries files state).1 = .ok entries := by
  rcases stands with ⟨text, stood, registered⟩
  have reads := reliable.read_succeeds registry.path_mem_paths fits stood
  rcases read : files.read registry.path state with ⟨result, after⟩
  rw [read] at reads
  cases reads
  simp only [Registry.entries, Computation.bind_apply, readText, FileStore.lift, read,
    Computation.ofExcept_apply, registered]

theorem answer_refines (reliable : files.Reliable registry.paths content steady)
    (apart : registry.path ≠ registry.backup) {call : Call} (plain : call.Plain)
    {state : σ} {entries : List TableEntry} (fits : steady state)
    (stands : Stands content registry entries state) :
    ∃ after, registry.answer files call state =
        ((TableList.perform registry.path call entries).1, after) ∧
      steady after ∧
      Stands content registry (TableList.perform registry.path call entries).2 after ∧
      ∀ error, (TableList.perform registry.path call entries).1 = .error error →
        content after = content state := by
  rcases stands with ⟨text, stood, registered⟩
  rcases answer_planned reliable apart call fits stood with
    ⟨after, answered, fitsAfter, stoodAfter, unchanged⟩
  rcases plan_refines registry registered plain with ⟨sameResult, sameEntries⟩
  rw [sameResult] at answered
  refine ⟨after, answered, fitsAfter, ⟨_, stoodAfter, sameEntries⟩, ?_⟩
  intro error failed
  rw [failed] at sameResult
  cases planned : registry.plan call text with
  | error cause => exact unchanged cause planned
  | ok told =>
      rw [planned] at sameResult
      cases sameResult

/-- Runs of plain calls on a file whose operations succeed cannot be told from runs of
the list machine: every result and the entries listed after every step are the
same, and a step that fails leaves all files as they were. -/
theorem run_refines (path : Path) (reliable : files.Reliable (ofPath path).paths content steady)
    (calls : List Call) (plain : ∀ call ∈ calls, call.Plain) {state : σ} {text : Text}
    {entries : List TableEntry} (fits : steady state) (stood : content state path = some (Utf8.encode text))
    (registered : TableEntry.ofRegistry text = .ok entries) :
    (((ofPath path).run files calls state).map fun step =>
        (step.result, ((ofPath path).entries files step.after).1)) =
      ((TableList.run path calls entries).map fun step => (step.1, .ok step.2)) ∧
    ∀ step ∈ (ofPath path).run files calls state, ∀ error,
      step.result = .error error → content step.after = content step.before := by
  have stands : Stands content (ofPath path) entries state := ⟨text, stood, registered⟩
  clear stood registered
  -- The text changes from step to step, so the induction only knows that one stands there.
  induction calls generalizing state entries with
  | nil => simp [run, TableList.run]
  | cons call calls induction =>
      rcases answer_refines reliable (ofPath_apart path) (plain call List.mem_cons_self) fits
        stands with ⟨after, answered, fitsAfter, standsAfter, unchanged⟩
      have listed := standsAfter.entries reliable fitsAfter
      rcases induction (fun other member => plain other (List.mem_cons_of_mem _ member)) fitsAfter
        standsAfter with ⟨sameRest, unchangedRest⟩
      rw [run, TableList.run, answered]
      constructor
      · rw [List.map_cons, List.map_cons, sameRest, listed]
        rfl
      · intro step member
        rcases List.mem_cons.mp member with rfl | later
        · exact unchanged
        · exact unchangedRest step later

theorem run_refines_mixed :
    let text := "# tables\r\n 0\tunspec\r\n\n255 local x".toList
    let store := MemoryStore.start [("t".toList, text)] []
    let calls := [.add "a".toList, .delete "local".toList, .find "local".toList, .entries]
    let steps := (ofPath "t".toList).run FileStore.memory calls store
    store.Faultless ∧ (∀ call ∈ calls, call.Plain) ∧
      (steps.map fun step =>
          (step.result, ((ofPath "t".toList).entries FileStore.memory step.after).1)) =
        ((TableList.run "t".toList calls [⟨0, "unspec".toList⟩, ⟨255, "local".toList⟩]).map
          fun step => (step.1, .ok step.2)) ∧
      steps.map (·.result) =
        [.ok (.added ⟨1, "a".toList⟩), .ok (.deleted 1), .ok (.found none),
          .ok (.listed [⟨0, "unspec".toList⟩, ⟨1, "a".toList⟩])] := by
  intro text store calls steps
  have faultless : store.Faultless := rfl
  have plain : ∀ call ∈ calls, call.Plain := by decide
  have stood : store.content "t".toList = some (Utf8.encode text) := by decide
  have registered : TableEntry.ofRegistry text =
      .ok [⟨0, "unspec".toList⟩, ⟨255, "local".toList⟩] := rfl
  have refines := run_refines "t".toList (MemoryStore.memory_reliable _) calls plain faultless
    stood registered
  exact ⟨faultless, plain, refines.1, rfl⟩

end Registry
end NetAdmin
