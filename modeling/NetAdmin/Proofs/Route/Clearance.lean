import Mathlib.Data.List.Perm.Subperm
import NetAdmin.Proofs.Route.Deletion
/-!
Flushes of a table that the listed programs keep. A listing shows entries of the table, and
a deletion takes out the first entry with some key (`Host.Lists`, `Host.Deletes`). So a
flush that deletes the selected entries by their keys takes out, for each of the keys, the
first entry that has it (`Flush.runs_withoutFirsts`). Those are the selected entries exactly
if among entries with the same key the selected ones stand first (`Flush.takesOut_iff`).
-/

namespace NetAdmin

/-! ## Deletion by key -/

section Keys

variable {α κ : Type} [DecidableEq κ] (key : α → κ)

/-- What is left of a table when, for one key after the other, the first entry with that
key is taken out. -/
def withoutFirsts (keys : List κ) (entries : List α) : List α :=
  keys.foldl (fun left wanted => left.eraseP fun entry => key entry = wanted) entries

example : withoutFirsts Prod.fst [1, 2] [(1, 'a'), (1, 'b'), (2, 'c')] = [(1, 'b')] := rfl

theorem withoutFirsts_sublist (keys : List κ) (entries : List α) :
    (withoutFirsts key keys entries).Sublist entries := by
  induction keys generalizing entries with
  | nil => exact List.Sublist.refl entries
  | cons wanted keys induction => exact (induction _).trans List.eraseP_sublist

theorem map_eraseP (wanted : κ) (entries : List α) :
    (entries.eraseP fun entry => key entry = wanted).map key =
      (entries.map key).erase wanted := by
  rw [List.erase_eq_eraseP', List.eraseP_map]
  rfl

variable {key}

theorem withoutFirsts_cons_of_not_mem {keys : List κ} {entry : α} (free : key entry ∉ keys)
    (entries : List α) :
    withoutFirsts key keys (entry :: entries) = entry :: withoutFirsts key keys entries := by
  induction keys generalizing entries with
  | nil => rfl
  | cons wanted keys induction =>
      rw [List.mem_cons, not_or] at free
      have stays : (entry :: entries).eraseP (fun entry => key entry = wanted) =
          entry :: entries.eraseP fun entry => key entry = wanted :=
        List.eraseP_cons_of_neg (by simpa using free.1)
      rw [withoutFirsts, List.foldl_cons, stays]
      exact induction free.2 _

theorem withoutFirsts_cons_of_mem {keys : List κ} {entry : α} (member : key entry ∈ keys)
    (entries : List α) : (withoutFirsts key keys (entry :: entries)).Sublist entries := by
  induction keys generalizing entries with
  | nil => cases member
  | cons wanted keys induction =>
      rw [withoutFirsts, List.foldl_cons]
      by_cases same : key entry = wanted
      · rw [List.eraseP_cons_of_pos (by simpa using same)]
        exact withoutFirsts_sublist key keys entries
      · rw [List.eraseP_cons_of_neg (by simpa using same)]
        have later := (List.mem_cons.mp member).resolve_left same
        exact (induction later _).trans List.eraseP_sublist

theorem mem_withoutFirsts {keys : List κ} {entry : α} (free : key entry ∉ keys)
    {entries : List α} (member : entry ∈ entries) : entry ∈ withoutFirsts key keys entries := by
  induction keys generalizing entries with
  | nil => exact member
  | cons wanted keys induction =>
      rw [List.mem_cons, not_or] at free
      exact induction free.2 ((List.mem_eraseP_of_neg (by simpa using free.1)).mpr member)

/-- The entries that go are the selected ones exactly if no other entry stands in front of a
selected one with its key. -/
theorem withoutFirsts_eq_filter_iff (selected : α → Bool) (entries : List α) :
    withoutFirsts key ((entries.filter selected).map key) entries =
        entries.filter (fun entry => !selected entry) ↔
      entries.Pairwise fun earlier later =>
        key earlier = key later → selected later → selected earlier := by
  induction entries with
  | nil => simp [withoutFirsts]
  | cons entry entries induction =>
      rw [List.pairwise_cons, ← induction]
      cases kind : selected entry with
      | true =>
          rw [List.filter_cons_of_pos kind, List.filter_cons_of_neg (by simp [kind]),
            List.map_cons, withoutFirsts, List.foldl_cons, List.eraseP_cons_of_pos (by simp)]
          simp [withoutFirsts]
      | false =>
          rw [List.filter_cons_of_neg (by simp [kind]), List.filter_cons_of_pos (by simp [kind])]
          by_cases asked : key entry ∈ (entries.filter selected).map key
          · -- The entry goes in the place of a selected one, so one of the others is left.
            rcases List.mem_map.mp asked with ⟨later, inFilter, same⟩
            rcases List.mem_filter.mp inFilter with ⟨member, wanted⟩
            constructor
            · intro equal
              have shorter := withoutFirsts_cons_of_mem asked entries
              rw [equal] at shorter
              have counts : entries.countP (fun entry => !selected entry) + 1 ≤
                  entries.countP fun entry => !selected entry := by
                simpa [kind, List.countP_filter] using
                  shorter.countP_le (p := fun entry => !selected entry)
              omega
            · rintro ⟨first, -⟩
              exact absurd (first later member same.symm wanted) (by simp)
          · have first : ∀ later ∈ entries,
                key entry = key later → selected later → (false : Bool) := by
              intro later member same wanted
              refine absurd ?_ asked
              rw [same]
              exact List.mem_map_of_mem (List.mem_filter.mpr ⟨member, wanted⟩)
            rw [withoutFirsts_cons_of_not_mem asked, List.cons.injEq]
            simp only [true_and, iff_and_self]
            exact fun _ => first

end Keys

/-! ## Programs that keep a table -/

/-- A computation takes the selected entries out of a table, leaves the others in their
order, and gives the number of those that it took out. -/
def TakesOut {σ α : Type} (computation : CommandM σ Nat) (entries : σ → List α)
    (selected : α → Bool) (before : Session σ) : Prop :=
  ∃ after, computation before = (.ok ((entries before.state).countP selected), after) ∧
    entries after.state = (entries before.state).filter fun entry => !selected entry

namespace Host

variable {σ α κ : Type} (host : Host σ) (entries : σ → List α)

/-- The command is successful, shows each of the chosen entries on a line of its own, in
their order, and changes no entry. -/
def Lists (line : CommandLine) (chosen : α → Bool) (ShownAs : α → Text → Prop) : Prop :=
  ∀ state, ∃ output after, host.runner.answer line state = (.ok output, after) ∧
    entries after = entries state ∧ output.status = some 0 ∧
    List.Forall₂ ShownAs ((entries state).filter chosen) (Text.lines output.stdout)

/-- The command takes out the first of the wanted entries and prints nothing. If there is
none, it fails with a message and changes no entry. -/
def Deletes (line : CommandLine) (wanted : α → Bool) : Prop :=
  ∀ state, ∃ output after, host.runner.answer line state = (.ok output, after) ∧
    entries after = (entries state).eraseP wanted ∧
    if (entries state).any wanted then output = ⟨some 0, [], []⟩
    else output.status ≠ some 0 ∧ Text.isAllBlank output.combined = false

variable {host} {entries}

theorem Lists.listedLines {line : CommandLine} {chosen : α → Bool} {ShownAs : α → Text → Prop}
    (lists : host.Lists entries line chosen ShownAs) (before : Session σ) :
    ∃ listed after, host.listedLines line before =
        (.ok ((Text.lines listed).filter fun line => !Text.isAllBlank line), after) ∧
      entries after.state = entries before.state ∧
      List.Forall₂ ShownAs ((entries before.state).filter chosen) (Text.lines listed) := by
  rcases lists before.state with ⟨output, state, answered, same, success, shown⟩
  refine ⟨output.stdout, ⟨state, before.calls ++ [line]⟩, ?_, same, shown⟩
  have ran : host.run line before = (.ok output, ⟨state, before.calls ++ [line]⟩) := by
    rw [run, answered]
  rw [Host.listedLines, Computation.bind_apply, ran]
  simp only [Output.success, success]
  rfl

variable [DecidableEq κ] {key : α → κ} {deletion : κ → CommandLine}

theorem deleteEach_eq {keys : List κ} {before : Session σ}
    (deletes : ∀ wanted ∈ keys,
      host.Deletes entries (deletion wanted) fun entry => key entry = wanted)
    (within : keys.Subperm ((entries before.state).map key)) :
    ∃ after, host.deleteEach (keys.map deletion) before = (.ok keys.length, after) ∧
      entries after.state = withoutFirsts key keys (entries before.state) := by
  induction keys generalizing before with
  | nil => exact ⟨before, rfl, rfl⟩
  | cons wanted keys induction =>
      rcases deletes wanted List.mem_cons_self before.state with
        ⟨output, state, answered, left, silent⟩
      have present : (entries before.state).any fun entry => key entry = wanted := by
        rcases List.mem_map.mp (within.subset List.mem_cons_self) with ⟨entry, member, same⟩
        exact List.any_eq_true.mpr ⟨entry, member, by simpa using same⟩
      rw [if_pos present] at silent
      subst silent
      have ran : host.run (deletion wanted) before =
          (.ok ⟨some 0, [], []⟩, ⟨state, before.calls ++ [deletion wanted]⟩) := by
        rw [run, answered]
      -- The keys of what is left are those of the table without the one that was deleted.
      have withinLeft : keys.Subperm ((entries state).map key) := by
        have smaller := within.erase wanted
        rwa [List.erase_cons_head, ← map_eraseP, ← left] at smaller
      rcases @induction ⟨state, before.calls ++ [deletion wanted]⟩
        (fun other member => deletes other (List.mem_cons_of_mem _ member)) withinLeft with
          ⟨after, ends, remaining⟩
      refine ⟨after, ?_, ?_⟩
      · rw [List.map_cons, deleteEach, Computation.bind_apply, ran]
        simp only [Computation.bind_apply, ends]
        rfl
      · rw [remaining, left]
        rfl

end Host

/-! ## Flushes of a table -/

section Flushes

variable {σ α κ : Type} [DecidableEq κ] {host : Host σ} {entries : σ → List α}
variable {key : α → κ} {deletion : κ → CommandLine} (flush : Flush) {before : Session σ}
variable {chosen selected : α → Bool} {ShownAs : α → Text → Prop}
variable (lists : host.Lists entries (flush.listing host) chosen ShownAs)
variable (deletes : ∀ wanted ∈ ((entries before.state).filter selected).map key,
  host.Deletes entries (deletion wanted) fun entry => key entry = wanted)
variable (asks : ∀ listed,
  List.Forall₂ ShownAs ((entries before.state).filter chosen) (Text.lines listed) →
    flush.deletions host listed =
      (((entries before.state).filter selected).map key).map deletion)

include lists deletes asks

theorem Flush.exists_withoutFirsts :
    ∃ after, flush.perform host before = (.ok ((entries before.state).countP selected), after) ∧
      entries after.state =
        withoutFirsts key (((entries before.state).filter selected).map key)
          (entries before.state) := by
  rcases lists.listedLines before with ⟨listed, middle, ran, same, shown⟩
  have within : (((entries before.state).filter selected).map key).Subperm
      ((entries middle.state).map key) := by
    rw [same]
    exact (List.filter_sublist.map key).subperm
  rcases Host.deleteEach_eq deletes within with ⟨after, ends, left⟩
  refine ⟨after, ?_, ?_⟩
  · rw [flush.perform_eq, Computation.bind_apply, ran]
    dsimp only
    rw [flush.select_lines, asks listed shown, ends, List.length_map, List.countP_eq_length_filter]
  · rw [left, same]

theorem Flush.takesOut_iff :
    TakesOut (flush.perform host) entries selected before ↔
      (entries before.state).Pairwise fun earlier later =>
        key earlier = key later → selected later → selected earlier := by
  rcases flush.exists_withoutFirsts lists deletes asks with ⟨after, ends, left⟩
  rw [← withoutFirsts_eq_filter_iff, ← left]
  constructor
  · rintro ⟨other, endsOther, leftOther⟩
    rw [ends] at endsOther
    cases endsOther
    exact leftOther
  · exact fun remaining => ⟨after, ends, remaining⟩

end Flushes

/-! ## A runner that keeps a table -/

def listing {α : Type} (display : α → Text) (entries : List α) : Text :=
  (entries.map fun entry => display entry ++ ['\n']).flatten

theorem forall₂_lines_listing {α : Type} {display : α → Text} {ShownAs : α → Text → Prop}
    (plain : ∀ entry, '\n' ∉ display entry ∧ '\r' ∉ display entry)
    (shown : ∀ entry, ShownAs entry (display entry)) (entries : List α) :
    List.Forall₂ ShownAs entries (Text.lines (listing display entries)) := by
  have plainLines : ∀ line ∈ entries.map display, '\n' ∉ line ∧ line.getLast? ≠ some '\r' := by
    intro line member
    rcases List.mem_map.mp member with ⟨entry, -, rfl⟩
    exact ⟨(plain entry).1, fun last => (plain entry).2 (List.mem_of_getLast? last)⟩
  have whole : listing display entries = ((entries.map display).map (· ++ ['\n'])).flatten := by
    rw [List.map_map]
    rfl
  rw [whole, Text.lines_flatten plainLines, List.forall₂_map_right_iff]
  exact List.forall₂_same.mpr fun entry _ => shown entry

namespace Runner

variable {α : Type} {deletes : CommandLine → Option (α → Bool)}
variable {shows : CommandLine → List α → Text}

/-- Keeps a table in its state, with the entries that some commands delete. Every other
command shows a part of the table. -/
def ofTable (deletes : CommandLine → Option (α → Bool)) (shows : CommandLine → List α → Text) :
    Runner (List α) where
  answer line entries :=
    match deletes line with
    | none => (.ok ⟨some 0, shows line entries, []⟩, entries)
    | some wanted =>
        if entries.any wanted then (.ok ⟨some 0, [], []⟩, entries.eraseP wanted)
        else (.ok ⟨some 2, [], "RTNETLINK answers: No such process\n".toList⟩, entries)

theorem ofTable_lists (settings : Settings) {line : CommandLine} {chosen : α → Bool}
    {ShownAs : α → Text → Prop} (known : deletes line = none)
    (shown : ∀ entries, List.Forall₂ ShownAs (entries.filter chosen)
      (Text.lines (shows line entries))) :
    (⟨settings, ofTable deletes shows⟩ : Host (List α)).Lists id line chosen ShownAs := by
  intro entries
  refine ⟨⟨some 0, shows line entries, []⟩, entries, ?_, rfl, rfl, shown entries⟩
  simp only [ofTable, known]

theorem ofTable_deletes (settings : Settings) {line : CommandLine} {wanted : α → Bool}
    (known : deletes line = some wanted) :
    (⟨settings, ofTable deletes shows⟩ : Host (List α)).Deletes id line wanted := by
  intro entries
  by_cases present : entries.any wanted = true
  · refine ⟨⟨some 0, [], []⟩, entries.eraseP wanted, ?_, rfl, ?_⟩
    · simp only [ofTable, known, if_pos present]
    · exact (if_pos present).symm ▸ rfl
  · refine ⟨⟨some 2, [], "RTNETLINK answers: No such process\n".toList⟩, entries, ?_, ?_, ?_⟩
    · simp only [ofTable, known, if_neg present]
    · have absent : ∀ entry ∈ entries, ¬ wanted entry = true := by
        simpa [List.any_eq_true] using present
      exact (List.eraseP_of_forall_not absent).symm
    · rw [id, if_neg present]
      decide

end Runner
end NetAdmin
