import Mathlib.Data.List.DropRight
import NetAdmin.Files.Tree
import NetAdmin.Proofs.Files.Walk
/-!
Paths into a directory. `directoryAt` says which directory a path leads to. A path that is joined
to it leads to a place there or nowhere (`reaches_of_place_join`, `place_join`). Creating a
directory with the missing ones above it adds directories and changes nothing else
(`grows_ensureDirectories`), and adds none where the path leads to one already
(`ensureDirectories_of_directoryAt`).
-/

namespace NetAdmin
namespace Tree

variable {tree : Tree} {aim : Aim} {links : Nat} {current location directory : Location}
  {name : Text} {names : List Text} {path base : Path} {result : Place}

/-! ## The names of a path -/

def namesOn (path : Path) : List Text :=
  (Text.pieces '/' path).filter (!·.isEmpty)

theorem namesOn_append_slash (left right : Path) :
    namesOn (left ++ '/' :: right) = namesOn left ++ namesOn right := by
  unfold namesOn Text.pieces
  rw [Text.split_append (by decide), List.filter_append]

theorem namesOn_slashes (slashes : ∀ c ∈ path, c = '/') : namesOn path = [] := by
  induction path with
  | nil => rfl
  | cons c path induction =>
      rw [List.forall_mem_cons] at slashes
      rw [slashes.1]
      exact (namesOn_append_slash [] path).trans (induction slashes.2)

theorem steps_eq (path : Path) :
    steps path = namesOn path ∨ steps path = namesOn path ++ [[]] := by
  rw [steps]
  split
  · exact .inr rfl
  · exact .inl rfl

theorem namesOn_ne_nil (filled : path ≠ []) (relative : Path.isAbsolute path = false) :
    namesOn path ≠ [] := by
  rcases path with _ | ⟨c, path⟩
  · exact absurd rfl filled
  · have plain : c ≠ '/' := by simpa [Path.isAbsolute] using relative
    rcases Text.pieces_cons_of_ne plain path with ⟨part, parts, -, pieces⟩
    rw [namesOn, pieces, List.filter_cons_of_pos (by simp)]
    exact List.cons_ne_nil _ _

theorem steps_ne_nil (filled : path ≠ []) (relative : Path.isAbsolute path = false) :
    steps path ≠ [] := by
  have named := namesOn_ne_nil filled relative
  rcases steps_eq path with same | same
  all_goals rw [same]
  · exact named
  · exact List.append_ne_nil_of_left_ne_nil named _

/-! ## Joined paths -/

theorem exists_join_eq (base : Path) : ∃ front, (base ≠ [] → base <+: front) ∧
    ∀ path, Path.isAbsolute path = false → Path.join base path = front ++ path := by
  by_cases blank : base = []
  · refine ⟨[], absurd blank, fun path relative => ?_⟩
    rw [Path.join, if_pos (by simp [blank])]
    rfl
  · by_cases ended : base.getLast? = some '/'
    · refine ⟨base, fun _ => List.prefix_rfl, fun path relative => ?_⟩
      rw [Path.join, if_neg (by simp [relative, blank]), if_pos ended]
    · refine ⟨base ++ ['/'], fun _ => List.prefix_append _ _, fun path relative => ?_⟩
      rw [Path.join, if_neg (by simp [relative, blank]), if_neg ended, List.append_assoc]
      rfl

theorem getLast?_join (filled : path ≠ []) :
    (Path.join base path).getLast? = path.getLast? := by
  rw [Path.join]
  split
  · rfl
  split
  · rw [List.getLast?_append_of_ne_nil _ filled]
  · rw [List.getLast?_append_of_ne_nil _ (List.cons_ne_nil _ _)]
    exact List.getLast?_cons_of_ne_nil filled

theorem namesOn_join (relative : Path.isAbsolute path = false) :
    namesOn (Path.join base path) = namesOn base ++ namesOn path := by
  rw [Path.join]
  split
  · next apart =>
    have blank : base = [] := by simpa [relative] using apart
    rw [blank]
    rfl
  split
  · next ended =>
    rcases List.getLast?_eq_some_iff.mp ended with ⟨front, rfl⟩
    rw [List.append_assoc, List.singleton_append, namesOn_append_slash, namesOn_append_slash]
    simp [namesOn]
  · exact namesOn_append_slash base path

theorem steps_join (filled : path ≠ []) (relative : Path.isAbsolute path = false) :
    steps (Path.join base path) = namesOn base ++ steps path := by
  have named : namesOn (Path.join base path) = namesOn base ++ namesOn path :=
    namesOn_join relative
  unfold namesOn at named
  simp only [steps, named, getLast?_join filled]
  split
  · rw [List.append_assoc]
    rfl
  · rfl

theorem start_join (relative : Path.isAbsolute path = false) :
    start (Path.join base path) current = start base current := by
  have same : Path.isAbsolute (Path.join base path) = Path.isAbsolute base := by
    rw [Path.join]
    split
    · next apart =>
      have blank : base = [] := by simpa [relative] using apart
      rw [blank, relative]
      rfl
    · next within =>
      have filledBase : base ≠ [] := by
        rintro rfl
        exact within (by simp)
      rcases base with _ | ⟨c, base⟩
      · exact absurd rfl filledBase
      · split <;> rfl
  rw [start, same, start]

/-! ## Places -/

/-- The location of the directory that a path leads to. The empty path leads to the working
directory. -/
def directoryAt (tree : Tree) (path : Path) : Except Refusal Location := do
  match ← followLinks tree .node linkLimit (start path tree.work) (namesOn path) with
  | .taken location .directory => .ok location
  | .taken _ _ => .error .notDirectory
  | .free _ => .error .notFound

theorem directoryAt_eq_ok_iff :
    tree.directoryAt path = .ok directory ↔
      Reaches tree .node linkLimit (start path tree.work) (namesOn path)
        (.taken directory .directory) := by
  rw [← followLinks_eq_ok_iff, directoryAt]
  rcases followLinks tree .node linkLimit (start path tree.work) (namesOn path) with
    refusal | ⟨location, _ | _ | _⟩ | location
  all_goals simp [bind, Except.bind]

theorem directoryAt_kept {before after : Tree} (work : after.work = before.work)
    (directories : ∀ location, before.node? location = some .directory →
      after.node? location = some .directory)
    (jumps : ∀ location target, before.node? location = some (.link target) →
      after.node? location = some (.link target))
    (there : before.directoryAt path = .ok directory) :
    after.directoryAt path = .ok directory := by
  rw [directoryAt_eq_ok_iff] at there ⊢
  rw [work]
  exact there.kept directories jumps

theorem Grows.directoryAt {before after : Tree} (grows : before.Grows after)
    (there : before.directoryAt path = .ok directory) :
    after.directoryAt path = .ok directory :=
  directoryAt_kept grows.work (fun _ => grows.kept) (fun _ _ => grows.kept) there

theorem directoryAt_of_file {before after : Tree} (work : after.work = before.work)
    (same : ∀ other, other ≠ location → after.node? other = before.node? other)
    (plain : ∀ node, before.node? location = some node → ∃ content, node = .file content)
    (there : before.directoryAt path = .ok directory) :
    after.directoryAt path = .ok directory := by
  have kept {other : Location} {node : Node} (found : before.node? other = some node)
      (noFile : ∀ content, node ≠ .file content) : after.node? other = some node := by
    have apart : other ≠ location := by
      rintro rfl
      rcases plain node found with ⟨content, file⟩
      exact noFile content file
    rw [same other apart, found]
  exact directoryAt_kept work (fun _ found => kept found nofun) (fun _ _ found => kept found nofun)
    there

structure Accepted (path : Path) : Prop where
  filled : path ≠ []
  noNul : '\x00' ∉ path
  short : (Utf8.encode path).length ≤ pathLimit

theorem place_eq_ok_iff :
    tree.place aim path = .ok result ↔
      Accepted path ∧
        Reaches tree aim linkLimit (start path tree.work) (steps path) result := by
  rw [← followLinks_eq_ok_iff, place]
  constructor
  · intro done
    split at done
    · cases done
    split at done
    · cases done
    split at done
    · cases done
    · next noNul filled short =>
      exact ⟨⟨by simpa using filled, by simpa using noNul, Nat.not_lt.mp short⟩, done⟩
  · rintro ⟨accepted, done⟩
    rw [if_neg (by simpa using accepted.noNul), if_neg (by simpa using accepted.filled),
      if_neg (Nat.not_lt.mpr accepted.short), done]

theorem Accepted.of_append {rest : Path} (filled : path ≠ [])
    (accepted : Accepted (path ++ rest)) : Accepted path := by
  refine ⟨filled, fun inside => accepted.noNul (List.mem_append_left _ inside), ?_⟩
  refine le_trans ?_ accepted.short
  rw [Utf8.encode, Utf8.encode, List.flatMap_append, List.length_append]
  exact Nat.le_add_right _ _

theorem Accepted.of_join (filled : base ≠ []) (relative : Path.isAbsolute path = false)
    (accepted : Accepted (Path.join base path)) : Accepted base := by
  rcases exists_join_eq base with ⟨front, starts, joined⟩
  rcases starts filled with ⟨rest, rfl⟩
  rw [joined path relative, List.append_assoc] at accepted
  exact accepted.of_append filled

theorem Accepted.join_of_length {other : Path} (filled : other ≠ []) (noNul : '\x00' ∉ other)
    (relative : Path.isAbsolute path = false) (otherRelative : Path.isAbsolute other = false)
    (size : (Utf8.encode other).length = (Utf8.encode path).length)
    (accepted : Accepted (Path.join base path)) : Accepted (Path.join base other) := by
  rcases exists_join_eq base with ⟨front, -, joined⟩
  rw [joined path relative] at accepted
  rw [joined other otherRelative]
  refine ⟨List.append_ne_nil_of_right_ne_nil _ filled, ?_, ?_⟩
  · rw [List.mem_append, not_or]
    exact ⟨fun inside => accepted.noNul (List.mem_append_left _ inside), noNul⟩
  · have short := accepted.short
    rw [Utf8.encode, List.flatMap_append, List.length_append] at short ⊢
    rw [Utf8.encode] at size
    rw [size]
    exact short

/-- What a joined path leads to is found from the directory that its first part leads to. -/
theorem reaches_of_place_join (filled : path ≠ []) (relative : Path.isAbsolute path = false)
    (done : tree.place aim (Path.join base path) = .ok result) :
    Accepted (Path.join base path) ∧ ∃ directory fewer, tree.directoryAt base = .ok directory ∧
      Reaches tree aim fewer directory (steps path) result := by
  rcases place_eq_ok_iff.mp done with ⟨accepted, walk⟩
  rw [steps_join filled relative, start_join relative] at walk
  rcases walk.split (steps_ne_nil filled relative) with ⟨directory, fewer, before, after⟩
  exact ⟨accepted, directory, fewer, directoryAt_eq_ok_iff.mpr before, after⟩

theorem place_join (filled : path ≠ []) (relative : Path.isAbsolute path = false)
    (named : aim = .writing → ∃ name ∈ steps path, name ≠ [])
    (accepted : Accepted (Path.join base path))
    (there : tree.directoryAt base = .ok directory)
    (onward : ∀ fewer, Reaches tree aim fewer directory (steps path) result) :
    tree.place aim (Path.join base path) = .ok result := by
  rw [place_eq_ok_iff, steps_join filled relative, start_join relative]
  refine ⟨accepted, ?_⟩
  exact (directoryAt_eq_ok_iff.mp there).append (steps_ne_nil filled relative) named onward

theorem isDirectory_of_directoryAt (accepted : Accepted path)
    (there : tree.directoryAt path = .ok directory) : tree.isDirectory path = true := by
  have walk := directoryAt_eq_ok_iff.mp there
  have whole : tree.place .node path = .ok (.taken directory .directory) := by
    rw [place_eq_ok_iff]
    refine ⟨accepted, ?_⟩
    rcases steps_eq path with same | same
    all_goals rw [same]
    · exact walk
    · exact walk.append (List.cons_ne_nil _ _) nofun fun _ => .stay (.inl rfl) .done
  rw [isDirectory, whole]

/-! ## Creating directories -/

private theorem exists_withoutSlash (path : Path) :
    ∃ slashes, path = withoutSlash path ++ slashes ∧ (∀ c ∈ slashes, c = '/') ∧
      (withoutSlash path = [] → slashes = []) := by
  unfold withoutSlash
  split
  · exact ⟨[], (List.append_nil path).symm, nofun, fun _ => rfl⟩
  · next trimmed filled =>
    refine ⟨path.rtakeWhile (· == '/'), ?_, ?_, fun blank => absurd blank filled⟩
    · exact List.rdropWhile_append_rtakeWhile.symm
    · exact fun c member => by simpa using List.mem_rtakeWhile_imp member

theorem namesOn_withoutSlash (path : Path) : namesOn (withoutSlash path) = namesOn path := by
  rcases exists_withoutSlash path with ⟨slashes, whole, same, -⟩
  conv_rhs => rw [whole]
  rcases slashes with _ | ⟨c, slashes⟩
  · rw [List.append_nil]
  · rw [List.forall_mem_cons] at same
    rw [same.1, namesOn_append_slash, namesOn_slashes same.2, List.append_nil]

theorem start_withoutSlash (path : Path) :
    start (withoutSlash path) current = start path current := by
  rcases exists_withoutSlash path with ⟨slashes, whole, -, blank⟩
  have same : Path.isAbsolute (withoutSlash path) = Path.isAbsolute path := by
    rcases kept : withoutSlash path with _ | ⟨c, front⟩
    · rw [whole, kept, blank kept]
      rfl
    · rw [whole, kept]
      rfl
  rw [start, same, start]

theorem free_of_placeOfName (done : tree.placeOfName path = .ok (.free location)) :
    tree.node? location = none ∧ ∀ directory, tree.directoryAt path ≠ .ok directory := by
  have walk := (place_eq_ok_iff.mp done).2
  rw [start_withoutSlash] at walk
  refine ⟨walk.free_node.1, ?_⟩
  intro directory there
  rw [directoryAt_eq_ok_iff] at there
  rcases steps_eq (withoutSlash path) with same | same
  all_goals rw [same, namesOn_withoutSlash] at walk
  · cases walk.free_node.2.unique there
  · rcases walk.split (List.cons_ne_nil _ _) with ⟨_, _, -, after⟩
    cases (reaches_stay_iff (.inl rfl)).mp after

theorem create_ok {node : Node} {after : Tree} (done : tree.create path node = .ok after) :
    ∃ location, tree.placeOfName path = .ok (.free location) ∧ after = tree.put location node := by
  rw [create] at done
  rcases found : tree.placeOfName path with refusal | _ | location
  all_goals
    rw [found] at done
    cases done
  exact ⟨location, rfl, rfl⟩

theorem grows_ensureDirectory (tree : Tree) (path : Path) :
    tree.Grows (tree.ensureDirectory path).2 := by
  rw [ensureDirectory]
  split
  · next created =>
    rcases create_ok created with ⟨location, free, rfl⟩
    exact grows_put_directory (free_of_placeOfName free).1
  · exact .refl tree

theorem grows_ensureWithin (bound : Nat) (path : Path) (tree : Tree) :
    tree.Grows (ensureWithin bound path tree).2 := by
  induction bound generalizing path tree with
  | zero => exact .refl tree
  | succ bound induction =>
      rw [ensureWithin]
      split
      · exact .refl tree
      have first := grows_ensureDirectory tree path
      rcases tried : tree.ensureDirectory path with ⟨outcome, middle⟩
      rw [tried] at first
      split
      · next same =>
        cases same
        split
        · exact first
        · next parent _ =>
          have above := first.trans (induction parent middle)
          rcases done : ensureWithin bound parent middle with ⟨_ | _, last⟩
          all_goals rw [done] at above
          · exact above
          · exact above.trans (grows_ensureDirectory last path)
      · exact first

theorem grows_ensureDirectories (tree : Tree) (path : Path) :
    tree.Grows (tree.ensureDirectories path).2 :=
  grows_ensureWithin _ path tree

theorem ensureDirectories_of_directoryAt (accepted : path ≠ [] → Accepted path)
    (there : tree.directoryAt path = .ok directory) :
    tree.ensureDirectories path = (.ok (), tree) := by
  rw [ensureDirectories, ensureWithin]
  split
  · rfl
  · next filled =>
    have direct : tree.ensureDirectory path = (.ok (), tree) := by
      rw [ensureDirectory]
      split
      · next created =>
        rcases create_ok created with ⟨location, free, -⟩
        exact absurd there ((free_of_placeOfName free).2 directory)
      · rw [if_pos (isDirectory_of_directoryAt (accepted (by simpa using filled)) there)]
    rw [direct]

end Tree
end NetAdmin
