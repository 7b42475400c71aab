import NetAdmin.Proofs.Files.Directories
/-!
The files directly in a directory. A path names an entry of the directory that it is joined to if
it has one name besides single dots. Reading, writing and removing an entry then concern its
location in that directory alone.
-/

namespace NetAdmin
namespace Tree

variable {tree after : Tree} {aim : Aim} {links : Nat}
  {directory location other : Location} {name : Text} {path base : Path} {result : Place}
  {content : Utf8.Bytes}

def placeAt (tree : Tree) (location : Location) : Place :=
  match tree.node? location with
  | some node => .taken location node
  | none => .free location

def contentAt (tree : Tree) (location : Location) : Option Utf8.Bytes :=
  match tree.node? location with
  | some (.file content) => some content
  | _ => none

theorem placeAt_eq_free (found : tree.placeAt location = .free other) : other = location := by
  rw [placeAt] at found
  split at found <;> cases found
  rfl

theorem placeAt_eq_taken {node : Node} (found : tree.placeAt location = .taken other node) :
    other = location := by
  rw [placeAt] at found
  split at found <;> cases found
  rfl

theorem fileLocation_ok (done : tree.fileLocation path = .ok location) :
    ∃ result, tree.place .writing path = .ok result ∧
      (result = .free location ∨ ∃ content, result = .taken location (.file content)) := by
  rw [fileLocation] at done
  rcases found : tree.place .writing path with _ | ⟨_, _ | content | _⟩ | _
  all_goals
    rw [found] at done
    cases done
  · exact ⟨_, rfl, .inr ⟨content, rfl⟩⟩
  · exact ⟨_, rfl, .inl rfl⟩

/-- A relative path with one name besides single dots, and no slash behind it. -/
structure Names (path : Path) (name : Text) : Prop where
  relative : Path.isAbsolute path = false
  leading : ∃ dots, (∀ dot ∈ dots, dot = ['.']) ∧ steps path = dots ++ [name]
  filled : name ≠ []
  notHere : name ≠ ['.']
  notUp : name ≠ ['.', '.']

def Unlinked (tree : Tree) (base : Path) (name : Text) : Prop :=
  ∀ directory, tree.directoryAt base = .ok directory →
    ∀ target, tree.node? (directory ++ [name]) ≠ some (.link target)

theorem withoutSlash_eq_self (plain : path.getLast? ≠ some '/') : withoutSlash path = path := by
  have whole : Text.trimEndOf '/' path = path := by
    refine List.rdropWhile_eq_self_iff.mpr ?_
    intro filled slash
    exact plain (List.getLast?_eq_some_getLast filled ▸ by simpa using slash)
  rw [withoutSlash, whole]
  split
  · rfl
  · rfl

namespace Names

theorem path_ne_nil (names : Names path name) : path ≠ [] := by
  rintro rfl
  rcases names.leading with ⟨dots, -, whole⟩
  exact List.append_ne_nil_of_right_ne_nil _ (List.cons_ne_nil _ _) whole.symm

theorem getLast?_ne (names : Names path name) : path.getLast? ≠ some '/' := by
  intro slash
  rcases names.leading with ⟨dots, -, whole⟩
  rw [steps, if_pos slash] at whole
  have last : [[]] = [name] := List.append_inj_right' whole rfl
  exact names.filled (List.cons.inj last).1.symm

theorem admitted (names : Names path name) (short : (Utf8.encode name).length ≤ nameLimit) :
    Admitted aim name [] :=
  ⟨names.filled, names.notHere, names.notUp, short, fun _ more => absurd rfl more⟩

theorem reaches_steps_iff (names : Names path name) :
    Reaches tree aim links directory (steps path) result ↔
      Reaches tree aim links directory [name] result := by
  rcases names.leading with ⟨dots, dotted, whole⟩
  rw [whole]
  clear whole
  induction dots with
  | nil => rfl
  | cons dot dots induction =>
      rw [List.forall_mem_cons] at dotted
      rw [List.cons_append, reaches_stay_iff (.inr dotted.1)]
      exact induction dotted.2

theorem short_of_reaches (names : Names path name)
    (walk : Reaches tree aim links directory (steps path) result) :
    (Utf8.encode name).length ≤ nameLimit := by
  cases names.reaches_steps_iff.mp walk with
  | stay here => exact absurd here (not_or.mpr ⟨names.filled, names.notHere⟩)
  | up => exact absurd rfl names.notUp
  | enter admitted => exact admitted.short
  | free admitted => exact admitted.short
  | file admitted => exact admitted.short
  | link admitted => exact admitted.short
  | jump admitted => exact admitted.short

/-- A walk to an entry ends at what stands there, unless it is to go on at a link. -/
theorem reaches_iff (names : Names path name)
    (unlinked : aim = .entry ∨ ∀ target, tree.node? (directory ++ [name]) ≠ some (.link target)) :
    Reaches tree aim links directory (steps path) result ↔
      (Utf8.encode name).length ≤ nameLimit ∧ result = tree.placeAt (directory ++ [name]) := by
  rw [placeAt]
  constructor
  · intro walk
    refine ⟨names.short_of_reaches walk, ?_⟩
    cases names.reaches_steps_iff.mp walk with
    | stay here => exact absurd here (not_or.mpr ⟨names.filled, names.notHere⟩)
    | up => exact absurd rfl names.notUp
    | enter _ found walk =>
        cases walk
        rw [found]
    | free _ missing => rw [missing]
    | file _ found => rw [found]
    | link _ _ found => rw [found]
    | jump _ passed found =>
        rcases unlinked with entry | unlinked
        · exact absurd rfl (passed entry)
        · exact absurd found (unlinked _)
  · rintro ⟨short, rfl⟩
    rw [names.reaches_steps_iff]
    have admitted : Admitted aim name [] := names.admitted short
    rcases found : tree.node? (directory ++ [name]) with _ | _ | content | target
    · exact .free admitted found
    · exact .enter admitted found .done
    · exact .file admitted found
    · rcases unlinked with entry | unlinked
      · exact .link admitted entry found
      · exact absurd found (unlinked target)

theorem place_ok (names : Names path name) (unlinked : aim = .entry ∨ tree.Unlinked base name)
    (done : tree.place aim (Path.join base path) = .ok result) :
    Accepted (Path.join base path) ∧ (Utf8.encode name).length ≤ nameLimit ∧
      ∃ directory, tree.directoryAt base = .ok directory ∧
        result = tree.placeAt (directory ++ [name]) := by
  rcases reaches_of_place_join names.path_ne_nil names.relative done with
    ⟨accepted, directory, fewer, there, walk⟩
  rcases (names.reaches_iff (unlinked.imp_right (· directory there))).mp walk with ⟨short, same⟩
  exact ⟨accepted, short, directory, there, same⟩

theorem place_eq (names : Names path name)
    (unlinked : aim = .entry ∨ tree.Unlinked base name)
    (accepted : Accepted (Path.join base path)) (short : (Utf8.encode name).length ≤ nameLimit)
    (there : tree.directoryAt base = .ok directory) :
    tree.place aim (Path.join base path) = .ok (tree.placeAt (directory ++ [name])) := by
  have named : name ∈ steps path := by
    rcases names.leading with ⟨dots, -, whole⟩
    rw [whole]
    exact List.mem_append_right _ (List.mem_singleton_self name)
  refine place_join names.path_ne_nil names.relative (fun _ => ⟨name, named, names.filled⟩) accepted
    there ?_
  intro fewer
  exact (names.reaches_iff (unlinked.imp_right (· directory there))).mpr ⟨short, rfl⟩

theorem getLast?_join_ne (names : Names path name) :
    (Path.join base path).getLast? ≠ some '/' := by
  rw [getLast?_join names.path_ne_nil]
  exact names.getLast?_ne

theorem placeOfName_eq (names : Names path name) :
    tree.placeOfName (Path.join base path) = tree.place .entry (Path.join base path) := by
  rw [placeOfName, withoutSlash_eq_self names.getLast?_join_ne]

/-! ## Operations on an entry -/

theorem readBytes_of_missing (names : Names path name) (unlinked : tree.Unlinked base name)
    (missing : ∀ directory, tree.directoryAt base ≠ .ok directory) :
    (tree.readBytes (Path.join base path)).toOption = none := by
  rcases found : tree.place .node (Path.join base path) with refusal | result
  · rw [readBytes, found]
    rfl
  · rcases names.place_ok (.inr unlinked) found with ⟨-, -, directory, there, -⟩
    exact absurd there (missing directory)

theorem readBytes_eq (names : Names path name) (unlinked : tree.Unlinked base name)
    (accepted : Accepted (Path.join base path)) (short : (Utf8.encode name).length ≤ nameLimit)
    (there : tree.directoryAt base = .ok directory) :
    (tree.readBytes (Path.join base path)).toOption = tree.contentAt (directory ++ [name]) := by
  rw [readBytes, names.place_eq (.inr unlinked) accepted short there, placeAt, contentAt]
  rcases tree.node? (directory ++ [name]) with _ | _ | _ | _ <;> rfl

theorem readBytes_ok (names : Names path name) (unlinked : tree.Unlinked base name)
    (done : (tree.readBytes (Path.join base path)).toOption = some content) :
    Accepted (Path.join base path) ∧ (Utf8.encode name).length ≤ nameLimit ∧
      ∃ directory, tree.directoryAt base = .ok directory ∧
        tree.node? (directory ++ [name]) = some (.file content) := by
  rcases found : tree.place .node (Path.join base path) with refusal | result
  all_goals rw [readBytes, found] at done
  · cases done
  · rcases names.place_ok (.inr unlinked) found with ⟨accepted, short, directory, there, rfl⟩
    refine ⟨accepted, short, directory, there, ?_⟩
    rw [placeAt] at done
    rcases standing : tree.node? (directory ++ [name]) with _ | _ | _ | _
    all_goals
      rw [standing] at done
      cases done
    rfl

theorem writeBytes_ok (names : Names path name) (unlinked : tree.Unlinked base name)
    (done : tree.writeBytes (Path.join base path) content = .ok after) :
    Accepted (Path.join base path) ∧ (Utf8.encode name).length ≤ nameLimit ∧
      ∃ directory, tree.directoryAt base = .ok directory ∧
        tree.node? (directory ++ [name]) ≠ some .directory ∧
        after = tree.put (directory ++ [name]) (.file content) := by
  rcases found : tree.place .writing (Path.join base path) with refusal | result
  all_goals rw [writeBytes, fileLocation, found] at done
  · cases done
  · rcases names.place_ok (.inr unlinked) found with ⟨accepted, short, directory, there, rfl⟩
    refine ⟨accepted, short, directory, there, ?_⟩
    rw [placeAt] at done
    rcases standing : tree.node? (directory ++ [name]) with _ | _ | _ | target
    all_goals
      rw [standing] at done
      cases done
    · exact ⟨nofun, rfl⟩
    · exact ⟨nofun, rfl⟩

theorem writeBytes_eq (names : Names path name) (unlinked : tree.Unlinked base name)
    (accepted : Accepted (Path.join base path)) (short : (Utf8.encode name).length ≤ nameLimit)
    (there : tree.directoryAt base = .ok directory)
    (plain : ∀ node, tree.node? (directory ++ [name]) = some node →
      ∃ content, node = .file content) :
    tree.writeBytes (Path.join base path) content =
      .ok (tree.put (directory ++ [name]) (.file content)) := by
  rw [writeBytes, fileLocation, names.place_eq (.inr unlinked) accepted short there, placeAt]
  rcases standing : tree.node? (directory ++ [name]) with _ | node
  · rfl
  · rcases plain node standing with ⟨previous, rfl⟩
    rfl

theorem remove_ok (names : Names path name)
    (done : tree.remove (Path.join base path) = .ok after) :
    Accepted (Path.join base path) ∧ (Utf8.encode name).length ≤ nameLimit ∧
      ∃ directory node, tree.directoryAt base = .ok directory ∧
        tree.node? (directory ++ [name]) = some node ∧ node ≠ .directory ∧
        after = tree.cut (directory ++ [name]) := by
  rcases found : tree.place .entry (Path.join base path) with refusal | result
  all_goals rw [remove, names.placeOfName_eq, found] at done
  · cases done
  · rcases names.place_ok (.inl rfl) found with ⟨accepted, short, directory, there, rfl⟩
    refine ⟨accepted, short, ?_⟩
    rw [placeAt] at done
    rcases standing : tree.node? (directory ++ [name]) with _ | _ | _ | _
    all_goals rw [standing] at done
    · cases done
    · cases done
    all_goals
      cases (if_neg names.getLast?_join_ne).symm.trans done
      exact ⟨directory, _, there, standing, nofun, rfl⟩

theorem remove_eq (names : Names path name) (accepted : Accepted (Path.join base path))
    (short : (Utf8.encode name).length ≤ nameLimit)
    (there : tree.directoryAt base = .ok directory)
    (found : tree.node? (directory ++ [name]) = some (.file content)) :
    tree.remove (Path.join base path) = .ok (tree.cut (directory ++ [name])) := by
  rw [remove, names.placeOfName_eq, names.place_eq (.inl rfl) accepted short there, placeAt, found]
  exact if_neg names.getLast?_join_ne

theorem remove_of_free (names : Names path name) (accepted : Accepted (Path.join base path))
    (short : (Utf8.encode name).length ≤ nameLimit)
    (there : tree.directoryAt base = .ok directory)
    (missing : tree.node? (directory ++ [name]) = none) :
    tree.remove (Path.join base path) = .error .notFound := by
  rw [remove, names.placeOfName_eq, names.place_eq (.inl rfl) accepted short there, placeAt,
    missing]
  rfl

end Names

end Tree
end NetAdmin
