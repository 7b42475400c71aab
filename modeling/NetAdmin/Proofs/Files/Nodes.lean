import NetAdmin.Files.Tree
/-!
What changes of a tree do to its nodes. Putting a node and cutting one concern its location
alone (`node?_put_of_ne`, `node?_cut_of_ne`).
-/

namespace NetAdmin
namespace Tree

variable {tree : Tree} {location other : Location} {node : Node}

theorem node?_root : tree.node? [] = some .directory :=
  rfl

theorem node?_of_ne_root (inside : location ≠ []) :
    tree.node? location = tree.nodes.lookup location := by
  rw [node?, if_neg (by simpa using inside)]

theorem ne_root_of_node? (found : tree.node? location ≠ some .directory) : location ≠ [] := by
  rintro rfl
  exact found node?_root

/-! ## Putting -/

private theorem lookup_map_replaced (nodes : List (Location × Node)) (location : Location)
    (node : Node) (other : Location) :
    (nodes.map fun entry => if entry.1 = location then (location, node) else entry).lookup other =
      if other = location then (nodes.lookup location).map fun _ => node
      else nodes.lookup other := by
  induction nodes with
  | nil => split <;> rfl
  | cons entry nodes induction =>
      rw [List.map_cons]
      by_cases here : entry.1 = location
      · rw [if_pos here, List.lookup_cons, induction, List.lookup_cons, List.lookup_cons, here]
        by_cases same : other = location
        · simp [same]
        · simp [same, beq_false_of_ne same]
      · have apart : location ≠ entry.1 := fun same => here same.symm
        rw [if_neg here, List.lookup_cons, induction, List.lookup_cons, List.lookup_cons,
          beq_false_of_ne apart]
        by_cases same : other = location
        · simp [same, beq_false_of_ne apart]
        · simp [same]

theorem node?_put_self (inside : location ≠ []) :
    (tree.put location node).node? location = some node := by
  rw [node?_of_ne_root inside, put]
  split
  · next present =>
    rw [lookup_map_replaced, if_pos rfl]
    rcases Option.isSome_iff_exists.mp present with ⟨previous, found⟩
    rw [found]
    rfl
  · next absent =>
    have missing : tree.nodes.lookup location = none := Option.not_isSome_iff_eq_none.mp absent
    rw [List.lookup_append, missing]
    simp

theorem node?_put_concat {name : Text} :
    (tree.put (location ++ [name]) node).node? (location ++ [name]) = some node :=
  node?_put_self (List.concat_ne_nil name location)

theorem node?_put_of_ne (different : other ≠ location) :
    (tree.put location node).node? other = tree.node? other := by
  unfold node?
  split
  · rfl
  · rw [put]
    split
    · rw [lookup_map_replaced, if_neg different]
    · simp [List.lookup_append, List.lookup_cons, beq_false_of_ne different]

theorem work_put : (tree.put location node).work = tree.work := by
  unfold put
  split <;> rfl

/-! ## Cutting -/

theorem node?_cut_self (inside : location ≠ []) : (tree.cut location).node? location = none := by
  rw [node?_of_ne_root inside, cut, List.lookup_eq_none_iff]
  intro entry member
  have kept : entry.1 ≠ location := by simpa using (List.mem_filter.mp member).2
  exact bne_iff_ne.mpr kept.symm

theorem node?_cut_concat {name : Text} :
    (tree.cut (location ++ [name])).node? (location ++ [name]) = none :=
  node?_cut_self (List.concat_ne_nil name location)

theorem node?_cut_of_ne (different : other ≠ location) :
    (tree.cut location).node? other = tree.node? other := by
  unfold node?
  split
  · rfl
  · rw [cut]
    induction tree.nodes with
    | nil => rfl
    | cons entry nodes induction =>
        by_cases here : entry.1 = location
        · rw [List.filter_cons_of_neg (by simp [here]), induction, List.lookup_cons, here,
            beq_false_of_ne different]
        · rw [List.filter_cons_of_pos (by simp [here]), List.lookup_cons, List.lookup_cons,
            induction]

/-! ## Changes that only add directories -/

/-- The second tree has all nodes of the first one, and otherwise only directories that the
first one did not have. -/
structure Grows (before after : Tree) : Prop where
  work : after.work = before.work
  nodes : ∀ location, after.node? location = before.node? location ∨
    before.node? location = none ∧ after.node? location = some .directory

theorem Grows.refl (tree : Tree) : tree.Grows tree :=
  ⟨rfl, fun _ => .inl rfl⟩

theorem Grows.kept {before after : Tree} (grows : before.Grows after)
    (found : before.node? location = some node) : after.node? location = some node := by
  rcases grows.nodes location with same | ⟨missing, -⟩
  · rw [same, found]
  · rw [found] at missing
    cases missing

theorem Grows.trans {first second third : Tree} (start : first.Grows second)
    (rest : second.Grows third) : first.Grows third := by
  refine ⟨rest.work.trans start.work, ?_⟩
  intro location
  rcases rest.nodes location with same | ⟨missing, added⟩
  · rw [same]
    exact start.nodes location
  · rcases start.nodes location with same | ⟨-, there⟩
    · exact .inr ⟨same ▸ missing, added⟩
    · rw [missing] at there
      cases there

theorem grows_put_directory (missing : tree.node? location = none) :
    tree.Grows (tree.put location .directory) := by
  refine ⟨work_put, ?_⟩
  intro other
  by_cases same : other = location
  · subst same
    have noDirectory : tree.node? other ≠ some .directory := by
      rw [missing]
      nofun
    exact .inr ⟨missing, node?_put_self (ne_root_of_node? noDirectory)⟩
  · exact .inl (node?_put_of_ne same)

end Tree
end NetAdmin
