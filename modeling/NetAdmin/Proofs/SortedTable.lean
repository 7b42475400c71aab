import Mathlib.Data.List.Induction
import Mathlib.Data.List.Nodup
import NetAdmin.SortedTable
/-!
What sorted tables hold. A table that is put together from entries has each of their keys
once, in ascending order, and nothing that was not put in (`ascending_ofEntries`,
`mem_keys_ofEntries`, `mem_of_mem_ofEntries`). An ascending table is known by what it holds
(`Ascending.ext`).
-/

namespace NetAdmin
namespace SortedTable

variable {κ α β : Type}

def keys (table : SortedTable κ α) : List κ :=
  table.map Prod.fst

theorem mem_keys {key : κ} {table : SortedTable κ α} :
    key ∈ table.keys ↔ ∃ value, (key, value) ∈ table := by
  simp [keys]

theorem isEmpty_eq_of_keys {left : SortedTable κ α} {right : SortedTable κ β}
    (same : ∀ key, key ∈ left.keys ↔ key ∈ right.keys) : left.isEmpty = right.isEmpty := by
  rw [Bool.eq_iff_iff, List.isEmpty_iff, List.isEmpty_iff, ← List.map_eq_nil_iff (f := Prod.fst),
    ← List.map_eq_nil_iff (f := Prod.fst) (l := right), List.eq_nil_iff_forall_not_mem,
    List.eq_nil_iff_forall_not_mem]
  exact forall_congr' fun key => not_congr (same key)

/-! ## Changed values -/

theorem keys_mapValues (change : κ → α → β) (table : SortedTable κ α) :
    (mapValues change table).keys = table.keys := by
  rw [keys, mapValues, List.map_map]
  rfl

theorem mem_mapValues {change : κ → α → β} {table : SortedTable κ α} {entry : κ × β} :
    entry ∈ mapValues change table ↔
      ∃ value, (entry.1, value) ∈ table ∧ entry.2 = change entry.1 value := by
  rw [mapValues, List.mem_map]
  constructor
  · rintro ⟨⟨key, value⟩, member, rfl⟩
    exact ⟨value, member, rfl⟩
  · rintro ⟨value, member, equal⟩
    exact ⟨(entry.1, value), member, Prod.ext rfl equal.symm⟩

/-! ## Entries -/

section Entries

variable [LT κ]

/-- The keys are in strictly ascending order, so each of them stands once. -/
def Ascending (table : SortedTable κ α) : Prop :=
  table.keys.Pairwise (· < ·)

theorem Ascending.mapValues {table : SortedTable κ α} (ascending : table.Ascending)
    (change : κ → α → β) : (mapValues change table).Ascending := by
  rw [Ascending, keys_mapValues]
  exact ascending

section Asymmetric

variable [Std.Asymm fun left right : κ => left < right]

theorem Ascending.ext {left right : SortedTable κ α} (first : left.Ascending)
    (second : right.Ascending) (same : ∀ entry, entry ∈ left ↔ entry ∈ right) : left = right := by
  have irreflexive : Std.Irrefl fun one other : κ × α => one.1 < other.1 :=
    ⟨fun entry less => Std.Asymm.asymm _ _ less less⟩
  have ordered : left.Pairwise fun one other => one.1 < other.1 := List.pairwise_map.mp first
  have ordered' : right.Pairwise fun one other => one.1 < other.1 := List.pairwise_map.mp second
  apply List.Perm.eq_of_pairwise ?_ ordered ordered'
  · exact (List.perm_ext_iff_of_nodup ordered.nodup ordered'.nodup).mpr same
  · intro one other _ _ less greater
    exact absurd greater (Std.Asymm.asymm _ _ less)

theorem Ascending.value_eq {table : SortedTable κ α} (ascending : table.Ascending) {key : κ}
    {value other : α} (first : (key, value) ∈ table) (second : (key, other) ∈ table) :
    value = other := by
  have irreflexive : Std.Irrefl fun left right : κ => left < right :=
    ⟨fun key less => Std.Asymm.asymm _ _ less less⟩
  have distinct : (table.map Prod.fst).Nodup := ascending.nodup
  exact congrArg Prod.snd (List.inj_on_of_nodup_map distinct first second rfl)

end Asymmetric

variable [DecidableEq κ] [DecidableLT κ]

theorem mem_insert_self (key : κ) (value : α) (table : SortedTable κ α) :
    (key, value) ∈ insert key value table := by
  induction table with
  | nil => exact List.mem_singleton_self _
  | cons first others induction =>
      unfold insert
      split
      · exact List.mem_cons_self
      · split
        · exact List.mem_cons_self
        · exact List.mem_cons_of_mem first induction

theorem mem_of_mem_insert {key : κ} {value : α} {table : SortedTable κ α} {entry : κ × α}
    (member : entry ∈ insert key value table) : entry = (key, value) ∨ entry ∈ table := by
  induction table with
  | nil => exact .inl (List.mem_singleton.mp member)
  | cons first others induction =>
      unfold insert at member
      split at member
      · rcases List.mem_cons.mp member with new | old
        · exact .inl new
        · exact .inr (List.mem_cons_of_mem first old)
      · split at member
        · exact List.mem_cons.mp member
        · rcases List.mem_cons.mp member with same | later
          · exact .inr (same ▸ List.mem_cons_self)
          · exact (induction later).imp_right (List.mem_cons_of_mem first)

theorem mem_keys_insert {key other : κ} {value : α} {table : SortedTable κ α} :
    other ∈ keys (insert key value table) ↔ other = key ∨ other ∈ table.keys := by
  induction table with
  | nil => simp [insert, keys]
  | cons first others induction =>
      unfold insert
      split
      · next equal => simp [keys, ← equal]
      · split
        · simp [keys]
        · rw [keys, List.map_cons, List.mem_cons, ← keys, induction, or_left_comm]
          simp [keys]

theorem ofEntries_concat (entries : List (κ × α)) (entry : κ × α) :
    ofEntries (entries ++ [entry]) = insert entry.1 entry.2 (ofEntries entries) := by
  rw [ofEntries, List.foldl_append]
  rfl

theorem mem_of_mem_ofEntries {entries : List (κ × α)} {entry : κ × α}
    (member : entry ∈ ofEntries entries) : entry ∈ entries := by
  induction entries using List.reverseRecOn with
  | nil => cases member
  | append_singleton entries last induction =>
      rw [ofEntries_concat] at member
      rw [List.mem_append, List.mem_singleton]
      exact (mem_of_mem_insert member).symm.imp_left induction

theorem mem_keys_ofEntries {key : κ} {entries : List (κ × α)} :
    key ∈ keys (ofEntries entries) ↔ key ∈ entries.map Prod.fst := by
  induction entries using List.reverseRecOn with
  | nil => rfl
  | append_singleton entries last induction =>
      rw [ofEntries_concat, mem_keys_insert, induction, List.map_append, List.mem_append]
      simp [or_comm]

variable [Trans (fun left right : κ => left < right) (fun left right => left < right)
  fun left right => left < right] [Std.Trichotomous fun left right : κ => left < right]

theorem Ascending.insert {table : SortedTable κ α} (ascending : table.Ascending) (key : κ)
    (value : α) : (insert key value table).Ascending := by
  induction table with
  | nil => exact List.pairwise_singleton _ key
  | cons first others induction =>
      rcases List.pairwise_cons.mp ascending with ⟨below, rest⟩
      unfold SortedTable.insert
      split
      · next equal =>
        subst equal
        exact ascending
      · next different =>
        split
        · next less =>
          refine List.pairwise_cons.mpr ⟨?_, ascending⟩
          intro other member
          rcases List.mem_cons.mp member with same | later
          · exact same ▸ less
          · exact Trans.trans less (below other later)
        · next notLess =>
          -- Neither equal nor below the first key, so above it.
          have above : first.1 < key :=
            Classical.byContradiction fun notAbove =>
              different (Std.Trichotomous.trichotomous key first.1 notLess notAbove)
          refine List.pairwise_cons.mpr ⟨?_, induction rest⟩
          intro other member
          rcases mem_keys_insert.mp member with same | later
          · exact same ▸ above
          · exact below other later

theorem ascending_ofEntries (entries : List (κ × α)) : (ofEntries entries).Ascending := by
  induction entries using List.reverseRecOn with
  | nil => exact List.Pairwise.nil
  | append_singleton entries last induction =>
      rw [ofEntries_concat]
      exact induction.insert last.1 last.2

end Entries

end SortedTable
end NetAdmin
