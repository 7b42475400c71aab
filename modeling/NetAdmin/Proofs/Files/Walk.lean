import NetAdmin.Proofs.Files.Nodes
/-!
The walks along paths. `Reaches` describes a walk that succeeds step by step, without a function
that goes on at links; `followLinks_eq_ok_iff` says that these are the walks of `followLinks`.
A walk along two lists of names in turn is a walk to a directory and one from there
(`Reaches.split`, `Reaches.append`), and a walk to a directory survives every change that keeps
directories and links (`Reaches.kept`).
-/

namespace NetAdmin
namespace Tree

structure Admitted (aim : Aim) (name : Text) (names : List Text) : Prop where
  filled : name ≠ []
  notHere : name ≠ ['.']
  notUp : name ≠ ['.', '.']
  short : (Utf8.encode name).length ≤ nameLimit
  allowed : aim = .writing → names ≠ [] → ∃ later ∈ names, later ≠ []

theorem Admitted.toNode {aim : Aim} {name : Text} {names others : List Text}
    (admitted : Admitted aim name names) : Admitted .node name others :=
  { admitted with allowed := nofun }

/-- A walk that passes at most the given number of links and ends at a place. -/
inductive Reaches (tree : Tree) (aim : Aim) : Nat → Location → List Text → Place → Prop
  | done {links : Nat} {current : Location} :
      Reaches tree aim links current [] (.taken current .directory)
  | stay {links : Nat} {current : Location} {name : Text} {names : List Text} {place : Place}
      (here : name = [] ∨ name = ['.'])
      (walk : Reaches tree aim links current names place) :
      Reaches tree aim links current (name :: names) place
  | up {links : Nat} {current : Location} {names : List Text} {place : Place}
      (walk : Reaches tree aim links current.dropLast names place) :
      Reaches tree aim links current (['.', '.'] :: names) place
  | enter {links : Nat} {current : Location} {name : Text} {names : List Text} {place : Place}
      (admitted : Admitted aim name names)
      (found : tree.node? (current ++ [name]) = some .directory)
      (walk : Reaches tree aim links (current ++ [name]) names place) :
      Reaches tree aim links current (name :: names) place
  | free {links : Nat} {current : Location} {name : Text} (admitted : Admitted aim name [])
      (missing : tree.node? (current ++ [name]) = none) :
      Reaches tree aim links current [name] (.free (current ++ [name]))
  | file {links : Nat} {current : Location} {name : Text} {content : Utf8.Bytes}
      (admitted : Admitted aim name [])
      (found : tree.node? (current ++ [name]) = some (.file content)) :
      Reaches tree aim links current [name] (.taken (current ++ [name]) (.file content))
  | link {links : Nat} {current : Location} {name : Text} {target : Path}
      (admitted : Admitted aim name []) (entry : aim = .entry)
      (found : tree.node? (current ++ [name]) = some (.link target)) :
      Reaches tree aim links current [name] (.taken (current ++ [name]) (.link target))
  | jump {links : Nat} {current : Location} {name : Text} {names : List Text} {target : Path}
      {place : Place} (admitted : Admitted aim name names)
      (passed : aim = .entry → names ≠ [])
      (found : tree.node? (current ++ [name]) = some (.link target))
      (walk : Reaches tree aim links (start target current) (steps target ++ names) place) :
      Reaches tree aim (links + 1) current (name :: names) place

variable {tree : Tree} {aim : Aim} {links : Nat} {current location : Location} {name : Text}
  {names front rest : List Text} {place : Place}

/-! ## The walks of `followLinks` -/

private def jumpWithin (tree : Tree) (aim : Aim) :
    Nat → Location → Path → List Text → Except Refusal Place
  | 0, _, _, _ => .error .tooManyLinks
  | links + 1, current, target, names =>
      followLinks tree aim links (start target current) (steps target ++ names)

private theorem followLinks_eq (links : Nat) :
    followLinks tree aim links = follow tree aim (jumpWithin tree aim links) := by
  cases links <;> rfl

section

variable {goesOn : Location → Path → List Text → Except Refusal Place}

private theorem follow_stay (here : name = [] ∨ name = ['.']) :
    follow tree aim goesOn current (name :: names) = follow tree aim goesOn current names := by
  rw [follow, if_pos]
  rcases here with rfl | rfl <;> rfl

private theorem follow_up :
    follow tree aim goesOn current (['.', '.'] :: names) =
      follow tree aim goesOn current.dropLast names := by
  rw [follow, if_neg (by decide), if_pos rfl]

private def goTo (tree : Tree) (aim : Aim)
    (goesOn : Location → Path → List Text → Except Refusal Place) (current : Location)
    (name : Text) (names : List Text) : Option Node → Except Refusal Place
  | none => if names.isEmpty then .ok (.free (current ++ [name])) else .error .notFound
  | some .directory => follow tree aim goesOn (current ++ [name]) names
  | some (.file content) =>
      if names.isEmpty then .ok (.taken (current ++ [name]) (.file content))
      else .error .notDirectory
  | some (.link target) =>
      if names.isEmpty && aim = .entry then .ok (.taken (current ++ [name]) (.link target))
      else goesOn current target names

private theorem follow_admitted (admitted : Admitted aim name names) :
    follow tree aim goesOn current (name :: names) =
      goTo tree aim goesOn current name names (tree.node? (current ++ [name])) := by
  have stepping : ¬ (name.isEmpty || decide (name = ['.'])) = true := by
    simp [admitted.filled, admitted.notHere]
  have permitted :
      ¬ (decide (aim = .writing) && !names.isEmpty && names.all List.isEmpty) = true := by
    intro refused
    simp only [Bool.and_eq_true, decide_eq_true_eq, Bool.not_eq_true', List.isEmpty_eq_false_iff,
      List.all_eq_true, List.isEmpty_iff] at refused
    rcases refused with ⟨⟨writing, more⟩, blank⟩
    rcases admitted.allowed writing more with ⟨later, member, filled⟩
    exact filled (blank later member)
  rw [follow, if_neg stepping, if_neg admitted.notUp, if_neg permitted,
    if_neg (Nat.not_lt.mpr admitted.short)]
  dsimp only
  rcases tree.node? (current ++ [name]) with _ | _ | _ | _ <;> rfl

private theorem follow_cons_ok
    (done : follow tree aim goesOn current (name :: names) = .ok place) :
    (name = [] ∨ name = ['.']) ∨ name = ['.', '.'] ∨ Admitted aim name names := by
  by_cases here : name = [] ∨ name = ['.']
  · exact .inl here
  by_cases up : name = ['.', '.']
  · exact .inr (.inl up)
  rw [not_or] at here
  have stepping : ¬ (name.isEmpty || decide (name = ['.'])) = true := by simp [here]
  rw [follow, if_neg stepping, if_neg up] at done
  split at done
  · cases done
  · next permitted =>
    split at done
    · cases done
    · next short =>
      refine .inr (.inr ⟨here.1, here.2, up, Nat.not_lt.mp short, ?_⟩)
      intro writing more
      simp only [writing, decide_true, Bool.true_and, Bool.and_eq_true, Bool.not_eq_true',
        List.isEmpty_eq_false_iff, List.all_eq_true, List.isEmpty_iff, not_and,
        Classical.not_forall] at permitted
      rcases permitted more with ⟨later, member, filled⟩
      exact ⟨later, member, filled⟩

private theorem reaches_of_follow
    (jumps : ∀ current target names place, goesOn current target names = .ok place →
      ∃ fewer, links = fewer + 1 ∧
        Reaches tree aim fewer (start target current) (steps target ++ names) place)
    (done : follow tree aim goesOn current names = .ok place) :
    Reaches tree aim links current names place := by
  induction names generalizing current with
  | nil =>
      cases done
      exact .done
  | cons name names induction =>
      rcases follow_cons_ok done with here | rfl | admitted
      · rw [follow_stay here] at done
        exact .stay here (induction done)
      · rw [follow_up] at done
        exact .up (induction done)
      · rw [follow_admitted admitted] at done
        rcases found : tree.node? (current ++ [name]) with _ | _ | content | target
        all_goals rw [found] at done
        · rcases names with _ | _
          · cases done
            exact .free admitted found
          · cases done
        · exact .enter admitted found (induction done)
        · rcases names with _ | _
          · cases done
            exact .file admitted found
          · cases done
        · rw [goTo] at done
          split at done
          · next ending =>
            simp only [Bool.and_eq_true, List.isEmpty_iff, decide_eq_true_eq] at ending
            rcases ending with ⟨rfl, entry⟩
            cases done
            exact .link admitted entry found
          · next passing =>
            rcases jumps _ _ _ _ done with ⟨fewer, rfl, walk⟩
            refine .jump admitted ?_ found walk
            rintro entry rfl
            exact passing (by simp [entry])

end

private theorem reaches_of_followLinks
    (done : followLinks tree aim links current names = .ok place) :
    Reaches tree aim links current names place := by
  induction links generalizing current names place with
  | zero =>
      rw [followLinks_eq] at done
      refine reaches_of_follow ?_ done
      intro current target names place jumped
      cases jumped
  | succ links induction =>
      rw [followLinks_eq] at done
      exact reaches_of_follow (fun _ _ _ _ jumped => ⟨links, rfl, induction jumped⟩) done

private theorem followLinks_of_reaches (walk : Reaches tree aim links current names place) :
    followLinks tree aim links current names = .ok place := by
  induction walk with
  | done => rw [followLinks_eq]; rfl
  | stay here _ induction => rw [followLinks_eq, follow_stay here, ← followLinks_eq, induction]
  | up _ induction => rw [followLinks_eq, follow_up, ← followLinks_eq, induction]
  | enter admitted found _ induction =>
      rw [followLinks_eq, follow_admitted admitted, found, goTo, ← followLinks_eq, induction]
  | free admitted missing =>
      rw [followLinks_eq, follow_admitted admitted, missing]
      rfl
  | file admitted found =>
      rw [followLinks_eq, follow_admitted admitted, found]
      rfl
  | link admitted entry found =>
      rw [followLinks_eq, follow_admitted admitted, found, goTo, if_pos (by simp [entry])]
  | jump admitted passed found _ induction =>
      rw [followLinks_eq, follow_admitted admitted, found, goTo, if_neg, jumpWithin, induction]
      simpa [imp_not_comm] using passed

theorem followLinks_eq_ok_iff :
    followLinks tree aim links current names = .ok place ↔
      Reaches tree aim links current names place :=
  ⟨reaches_of_followLinks, followLinks_of_reaches⟩

theorem Reaches.unique {other : Place} (walk : Reaches tree aim links current names place)
    (again : Reaches tree aim links current names other) : place = other := by
  rw [← followLinks_eq_ok_iff] at walk again
  exact Except.ok.inj (walk.symm.trans again)

theorem reaches_stay_iff (here : name = [] ∨ name = ['.']) :
    Reaches tree aim links current (name :: names) place ↔
      Reaches tree aim links current names place := by
  rw [← followLinks_eq_ok_iff, ← followLinks_eq_ok_iff, followLinks_eq, follow_stay here]

/-! ## Walks in two parts -/

/-- A walk along two lists of names has come to a directory at the end of the first one, if it
goes on from there. -/
theorem Reaches.split (more : rest ≠ [])
    (walk : Reaches tree aim links current (front ++ rest) place) :
    ∃ middle fewer, Reaches tree .node links current front (.taken middle .directory) ∧
      Reaches tree aim fewer middle rest place := by
  -- A step either belongs to the first list or is where the second one starts. At a link the
  -- names of its target join the first list.
  generalize whole : front ++ rest = names at walk
  induction walk generalizing front with
  | done => exact absurd (List.append_eq_nil_iff.mp whole).2 more
  | stay here walk induction =>
      rcases List.append_eq_cons_iff.mp whole with ⟨rfl, rfl⟩ | ⟨front, rfl, rfl⟩
      · exact ⟨_, _, .done, .stay here walk⟩
      · rcases induction rfl with ⟨middle, fewer, before, after⟩
        exact ⟨middle, fewer, .stay here before, after⟩
  | up walk induction =>
      rcases List.append_eq_cons_iff.mp whole with ⟨rfl, rfl⟩ | ⟨front, rfl, rfl⟩
      · exact ⟨_, _, .done, .up walk⟩
      · rcases induction rfl with ⟨middle, fewer, before, after⟩
        exact ⟨middle, fewer, .up before, after⟩
  | enter admitted found walk induction =>
      rcases List.append_eq_cons_iff.mp whole with ⟨rfl, rfl⟩ | ⟨front, rfl, rfl⟩
      · exact ⟨_, _, .done, .enter admitted found walk⟩
      · rcases induction rfl with ⟨middle, fewer, before, after⟩
        exact ⟨middle, fewer, .enter admitted.toNode found before, after⟩
  | free admitted missing =>
      rcases List.append_eq_singleton_iff.mp whole with ⟨rfl, rfl⟩ | ⟨-, rfl⟩
      · exact ⟨_, 0, .done, .free admitted missing⟩
      · exact absurd rfl more
  | file admitted found =>
      rcases List.append_eq_singleton_iff.mp whole with ⟨rfl, rfl⟩ | ⟨-, rfl⟩
      · exact ⟨_, 0, .done, .file admitted found⟩
      · exact absurd rfl more
  | link admitted entry found =>
      rcases List.append_eq_singleton_iff.mp whole with ⟨rfl, rfl⟩ | ⟨-, rfl⟩
      · exact ⟨_, 0, .done, .link admitted entry found⟩
      · exact absurd rfl more
  | jump admitted passed found walk induction =>
      rcases List.append_eq_cons_iff.mp whole with ⟨rfl, rfl⟩ | ⟨front, rfl, rfl⟩
      · exact ⟨_, _, .done, .jump admitted passed found walk⟩
      · rcases induction (List.append_assoc ..) with ⟨middle, fewer, before, after⟩
        exact ⟨middle, fewer, .jump admitted.toNode nofun found before, after⟩

/-- A walk to a directory goes on from there. Where a file is to be written, a name must follow. -/
theorem Reaches.append {middle : Location} (more : rest ≠ [])
    (named : aim = .writing → ∃ later ∈ rest, later ≠ [])
    (walk : Reaches tree .node links current front (.taken middle .directory))
    (onward : ∀ fewer, Reaches tree aim fewer middle rest place) :
    Reaches tree aim links current (front ++ rest) place := by
  -- A file to be written is refused if only slashes follow a name, so some name has to.
  have admits {name : Text} {names : List Text} (admitted : Admitted .node name names) :
      Admitted aim name (names ++ rest) := by
    refine { admitted with allowed := ?_ }
    intro writing _
    rcases named writing with ⟨later, member, filled⟩
    exact ⟨later, List.mem_append_right _ member, filled⟩
  generalize ending : Place.taken middle .directory = place at walk
  induction walk with
  | done =>
      cases ending
      exact onward _
  | stay here _ induction => exact .stay here (induction ending)
  | up _ induction => exact .up (induction ending)
  | enter admitted found _ induction => exact .enter (admits admitted) found (induction ending)
  | free => cases ending
  | file => cases ending
  | link => cases ending
  | jump admitted passed found _ induction =>
      rw [List.append_assoc] at induction
      exact .jump (admits admitted) (fun _ => List.append_ne_nil_of_right_ne_nil _ more) found
        (induction ending)

/-! ## Walks in changed trees -/

/-- A walk to a directory passes only directories and links, so it remains in a tree that has
them too. -/
theorem Reaches.kept {before after : Tree}
    (directories : ∀ location, before.node? location = some .directory →
      after.node? location = some .directory)
    (jumps : ∀ location target, before.node? location = some (.link target) →
      after.node? location = some (.link target))
    (walk : Reaches before .node links current names (.taken location .directory)) :
    Reaches after .node links current names (.taken location .directory) := by
  generalize ending : Place.taken location .directory = place at walk
  induction walk with
  | done =>
      cases ending
      exact .done
  | stay here _ induction => exact .stay here (induction ending)
  | up _ induction => exact .up (induction ending)
  | enter admitted found _ induction =>
      exact .enter admitted (directories _ found) (induction ending)
  | free => cases ending
  | file => cases ending
  | link => cases ending
  | jump admitted passed found _ induction =>
      exact .jump admitted passed (jumps _ _ found) (induction ending)

theorem Reaches.free_node (walk : Reaches tree aim links current names (.free location)) :
    tree.node? location = none ∧ Reaches tree .node links current names (.free location) := by
  generalize ending : Place.free location = place at walk
  induction walk with
  | done => cases ending
  | stay here _ induction => exact ⟨(induction ending).1, .stay here (induction ending).2⟩
  | up _ induction => exact ⟨(induction ending).1, .up (induction ending).2⟩
  | enter admitted found _ induction =>
      exact ⟨(induction ending).1, .enter admitted.toNode found (induction ending).2⟩
  | free admitted missing =>
      cases ending
      exact ⟨missing, .free admitted.toNode missing⟩
  | file => cases ending
  | link => cases ending
  | jump admitted passed found _ induction =>
      exact ⟨(induction ending).1, .jump admitted.toNode nofun found (induction ending).2⟩

end Tree
end NetAdmin
