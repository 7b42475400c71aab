/-!
Tables in ascending order of their keys. Putting a value under a key keeps the
order and replaces the value that the key had, so the order of insertion does
not show, except that of two values under one key the later one stays. A look-up
finds the value that was put last (`lookup_insert_self`, `lookup_insert_of_ne`).
-/

namespace NetAdmin

abbrev SortedTable (κ α : Type) := List (κ × α)

namespace SortedTable

variable {κ α β : Type} [DecidableEq κ] [LT κ] [DecidableLT κ]

def insert (key : κ) (value : α) : SortedTable κ α → SortedTable κ α
  | [] => [(key, value)]
  | entry :: others =>
      if key = entry.1 then (key, value) :: others
      else if key < entry.1 then (key, value) :: entry :: others
      else entry :: insert key value others

def ofEntries (entries : List (κ × α)) : SortedTable κ α :=
  entries.foldl (fun table entry => insert entry.1 entry.2 table) []

def mapValues (change : κ → α → β) (table : SortedTable κ α) : SortedTable κ β :=
  table.map fun entry => (entry.1, change entry.1 entry.2)

example : ofEntries [(2, 'b'), (1, 'x'), (2, 'c')] = [(1, 'x'), (2, 'c')] := by decide

@[simp] theorem lookup_insert_self [BEq κ] [LawfulBEq κ] (key : κ) (value : α)
    (table : SortedTable κ α) : (insert key value table).lookup key = some value := by
  induction table with
  | nil => simp [insert]
  | cons entry others induction =>
      unfold insert
      split
      · simp
      · split
        · simp
        · next different _ =>
          rw [List.lookup_cons, beq_false_of_ne different]
          exact induction

theorem lookup_insert_of_ne [BEq κ] [LawfulBEq κ] {key other : κ} (different : other ≠ key)
    (value : α) (table : SortedTable κ α) :
    (insert key value table).lookup other = table.lookup other := by
  induction table with
  | nil => simp [insert, List.lookup_cons, beq_false_of_ne different]
  | cons entry others induction =>
      unfold insert
      split
      · next equal =>
        rw [List.lookup_cons, List.lookup_cons, ← equal, beq_false_of_ne different]
      · split
        · rw [List.lookup_cons, beq_false_of_ne different]
        · rw [List.lookup_cons, List.lookup_cons, induction]

end SortedTable
end NetAdmin
