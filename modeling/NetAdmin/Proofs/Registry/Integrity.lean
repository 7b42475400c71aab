import NetAdmin.Proofs.Registry.Refinement
/-!
What keeps a registry intact: readable, with distinct numbers, and with every entry
that was said to be added. A name goes into its line as it is, so a name that is not
one word registers something else than what is answered. Runs keep the registry
intact exactly if all names they add are words (`intact_iff`).
-/

namespace NetAdmin
namespace TableList

variable {entries : List TableEntry}

theorem perform_distinct (path : Path) (call : Registry.Call)
    (distinct : (entries.map TableEntry.number).Nodup) :
    ((perform path call entries).2.map TableEntry.number).Nodup := by
  cases call with
  | add name =>
      rw [perform, leastUnused_eq_firstFree]
      cases free : TableEntry.firstFree entries with
      | none => exact distinct
      | some number =>
          have unused := (TableEntry.firstFree_eq_some.mp free).2.1
          rw [List.map_append, List.nodup_append]
          refine ⟨distinct, by simp, ?_⟩
          intro used member added single
          rcases List.mem_map.mp member with ⟨entry, inside, rfl⟩
          rw [List.mem_singleton.mp single]
          exact unused entry inside
  | delete name =>
      have kept : (entries.filter fun entry => entry.name != name).Sublist entries :=
        List.filter_sublist
      exact distinct.sublist (kept.map _)
  | find name => exact distinct
  | entries => exact distinct

theorem mem_of_perform_added {path : Path} {call : Registry.Call} {entry : TableEntry}
    (added : (perform path call entries).1 = .ok (.added entry)) :
    entry ∈ (perform path call entries).2 := by
  cases call with
  | add name =>
      rw [perform] at *
      cases free : leastUnused entries with
      | none =>
          rw [free] at added
          cases added
      | some number =>
          rw [free] at added
          cases added
          simp
  | delete name => cases added
  | find name => cases added
  | entries => cases added

end TableList

namespace Registry

variable {σ : Type} {files : FileStore σ} {registry : Registry}
variable {content : σ → Contents} {steady : σ → Prop}

/-- After a step the registry is readable, no two entries have the same number, and an
entry that was said to be added is there. -/
def Intact (files : FileStore σ) (registry : Registry) (step : Step σ) : Prop :=
  ∃ entries, (registry.entries files step.after).1 = .ok entries ∧
    (entries.map TableEntry.number).Nodup ∧
    ∀ entry, step.result = .ok (.added entry) → entry ∈ entries

/-- A name that a step adds, if it adds one, holds no blank. -/
def Step.AddsWord (step : Step σ) : Prop :=
  match step.call, step.result with
  | .add name, .ok _ => ∀ c ∈ name, Text.isBlank c = false
  | _, _ => True

instance (step : Step σ) : Decidable step.AddsWord :=
  match step with
  | ⟨.add name, _, .ok _, _⟩ => List.decidableBAll (fun c => Text.isBlank c = false) name
  | ⟨.add _, _, .error _, _⟩ | ⟨.delete _, _, _, _⟩ | ⟨.find _, _, _, _⟩ | ⟨.entries, _, _, _⟩ =>
      isTrue trivial

theorem Intact.addsWord {step : Step σ}
    (done : registry.answer files step.call step.before = (step.result, step.after))
    (intact : Intact files registry step) : step.AddsWord := by
  unfold Step.AddsWord
  split
  · next name answer asked added =>
      rw [asked, added] at done
      rcases exists_added done with ⟨number, rfl⟩
      rcases intact with ⟨entries, listed, -, there⟩
      rcases registered_of_entries listed with ⟨text, registered⟩
      exact TableEntry.free_of_ofRegistry registered (there _ added)
  · trivial

theorem textAfter_of_not_plain {call : Call} {text : Text} {state after : σ}
    {entries : List TableEntry} (registered : TableEntry.ofRegistry text = .ok entries)
    (odd : ¬ call.Plain)
    (word : Step.AddsWord ⟨call, state, (registry.plan call text).map Prod.fst, after⟩) :
    registry.textAfter call text = text ∧
      ∀ entry, (registry.plan call text).map Prod.fst ≠ .ok (.added entry) := by
  cases call with
  | add name =>
      rw [plan_add registered] at word ⊢
      rw [textAfter, plan_add registered]
      cases free : TableEntry.firstFree entries with
      | none =>
          refine ⟨rfl, ?_⟩
          intro entry added
          cases added
      | some number =>
          rw [free] at word
          exact absurd word odd
  | delete name =>
      have empty : name = [] := not_not.mp odd
      rw [empty]
      refine ⟨withoutName_empty text, ?_⟩
      intro entry added
      cases added
  | find name => exact absurd trivial odd
  | entries => exact absurd trivial odd

theorem answer_keeps (reliable : files.Reliable registry.paths content steady)
    (apart : registry.path ≠ registry.backup) (call : Call) {state : σ}
    {entries : List TableEntry} (fits : steady state)
    (stands : Stands content registry entries state)
    (distinct : (entries.map TableEntry.number).Nodup) :
    let done := registry.answer files call state
    Step.AddsWord ⟨call, state, done.1, done.2⟩ →
    steady done.2 ∧ ∃ left, Stands content registry left done.2 ∧
      (left.map TableEntry.number).Nodup ∧ ∀ entry, done.1 = .ok (.added entry) → entry ∈ left := by
  intro done word
  -- A plain call does what the list machine does, and any other one leaves the text alone.
  by_cases plain : call.Plain
  · rcases answer_refines reliable apart plain fits stands with
      ⟨after, answered, fitsAfter, standsAfter, -⟩
    rw [show done = _ from answered]
    exact ⟨fitsAfter, _, standsAfter, TableList.perform_distinct _ call distinct,
      fun entry added => TableList.mem_of_perform_added added⟩
  · rcases stands with ⟨text, stood, registered⟩
    rcases answer_planned reliable apart call fits stood with
      ⟨after, answered, fitsAfter, stoodAfter, -⟩
    have told : done = ((registry.plan call text).map Prod.fst, after) := answered
    rw [told] at word ⊢
    rcases textAfter_of_not_plain registered plain word with ⟨same, never⟩
    rw [same] at stoodAfter
    refine ⟨fitsAfter, entries, ⟨text, stoodAfter, registered⟩, distinct, ?_⟩
    intro entry added
    exact absurd added (never entry)

/-- A run on a readable registry with distinct numbers keeps it intact at every step
exactly if every name that it adds is free of blanks. -/
theorem intact_iff (path : Path) (reliable : files.Reliable (ofPath path).paths content steady)
    (calls : List Call) {state : σ} {text : Text} {entries : List TableEntry} (fits : steady state)
    (stood : content state path = some (Utf8.encode text))
    (registered : TableEntry.ofRegistry text = .ok entries)
    (distinct : (entries.map TableEntry.number).Nodup) :
    (∀ step ∈ (ofPath path).run files calls state, Intact files (ofPath path) step) ↔
      ∀ step ∈ (ofPath path).run files calls state, step.AddsWord := by
  constructor
  · intro intact step member
    exact (intact step member).addsWord (mem_run member)
  · intro words
    have stands : Stands content (ofPath path) entries state := ⟨text, stood, registered⟩
    clear stood registered
    induction calls generalizing state entries with
    | nil => simp [run]
    | cons call calls induction =>
        have first := words _ List.mem_cons_self
        rcases answer_keeps reliable (ofPath_apart path) call fits stands distinct first with
          ⟨fitsAfter, left, standsAfter, distinctAfter, there⟩
        have rest := induction fitsAfter distinctAfter
          (fun step member => words step (List.mem_cons_of_mem _ member)) standsAfter
        intro step member
        rcases List.mem_cons.mp member with rfl | later
        · exact ⟨left, standsAfter.entries reliable fitsAfter, distinctAfter, there⟩
        · exact rest step later

theorem intact_iff_deleted :
    let store := MemoryStore.start [("t".toList, "0\ta\n".toList)] []
    let steps := (ofPath "t".toList).run FileStore.memory
      [.add "b".toList, .delete "a b".toList, .delete "a".toList, .add "c".toList] store
    store.Faultless ∧ (∀ step ∈ steps, step.AddsWord) ∧
      ∀ step ∈ steps, Intact FileStore.memory (ofPath "t".toList) step := by
  intro store steps
  have faultless : store.Faultless := rfl
  have stood : store.content "t".toList = some (Utf8.encode "0\ta\n".toList) := by decide
  have registered : TableEntry.ofRegistry "0\ta\n".toList = .ok [⟨0, "a".toList⟩] := rfl
  have words : ∀ step ∈ steps, step.AddsWord := by decide
  exact ⟨faultless, words, (intact_iff "t".toList (MemoryStore.memory_reliable _) _ faultless stood
    registered (by decide)).mpr words⟩

/-- A name with a newline registers a number twice, and not the entry that is
answered. -/
theorem not_intact_newline :
    let store := MemoryStore.start [("t".toList, "0\ta\n".toList)] []
    let steps := (ofPath "t".toList).run FileStore.memory [.add "x\n0 y".toList] store
    TableEntry.ofRegistry "0\ta\n".toList = .ok [⟨0, "a".toList⟩] ∧
      steps.map (·.result) = [.ok (.added ⟨1, "x\n0 y".toList⟩)] ∧
      ¬ ∀ step ∈ steps, Intact FileStore.memory (ofPath "t".toList) step := by
  intro store steps
  refine ⟨rfl, rfl, ?_⟩
  intro intact
  rcases intact _ List.mem_cons_self with ⟨entries, listed, distinct, -⟩
  have twice : .ok [⟨0, "a".toList⟩, ⟨1, "x".toList⟩, ⟨0, "y".toList⟩] =
      (Except.ok entries : Except Error _) := listed
  cases twice
  exact absurd distinct (by decide)

end Registry
end NetAdmin
