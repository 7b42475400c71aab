import NetAdmin.Proofs.Files.Entries
import NetAdmin.Proofs.Files.Laws
/-!
The store on a tree of files. The files that somebody works with may be any names in one directory.
A tree is settled if the path to the directory leads to one and nothing but files has these names.
From a settled tree all calls on these files do what they say and lead to a settled tree, so the
store is reliable (`tree_reliable`). Nothing is said about two paths to one file.
-/

namespace NetAdmin
namespace Tree

variable {tree after : Tree} {base source target : Path} {directory : Location}
  {name other : Text} {chosen : List Text} {content : Utf8.Bytes}

structure Usable (base : Path) (name : Text) : Prop where
  filled : name ≠ []
  oneName : '/' ∉ name
  notHere : name ≠ ['.']
  notUp : name ≠ ['.', '.']
  short : (Utf8.encode name).length ≤ nameLimit
  accepted : Accepted (Path.join base name)

def pathsIn (base : Path) (chosen : List Text) : List Path :=
  chosen.map (Path.join base)

def contentsOf (known : List Path) (tree : Tree) : Contents := fun path =>
  if known.contains path then (tree.readBytes path).toOption else none

/-- The directory that the path leads to has nothing but files under the names. -/
structure SettledAt (base : Path) (chosen : List Text) (tree : Tree) (directory : Location) :
    Prop where
  there : tree.directoryAt base = .ok directory
  plain : ∀ name ∈ chosen, ∀ node, tree.node? (directory ++ [name]) = some node →
    ∃ content, node = .file content

def Settled (base : Path) (chosen : List Text) (tree : Tree) : Prop :=
  ∃ directory, SettledAt base chosen tree directory

/-! ## Paths of files -/

namespace Usable

theorem relative (usable : Usable base name) : Path.isAbsolute name = false := by
  rcases name with _ | ⟨c, rest⟩
  · rfl
  · have plain : c ≠ '/' := fun same => usable.oneName (same ▸ List.mem_cons_self)
    simpa [Path.isAbsolute] using plain

theorem steps_eq (usable : Usable base name) : steps name = [name] := by
  have unended : name.getLast? ≠ some '/' := fun last =>
    usable.oneName (List.mem_of_getLast? last)
  rw [steps, if_neg unended, Text.pieces_of_not_mem usable.oneName,
    List.filter_cons_of_pos (by simpa using usable.filled)]
  rfl

theorem names (usable : Usable base name) : Names name name where
  relative := usable.relative
  leading := ⟨[], nofun, usable.steps_eq⟩
  filled := usable.filled
  notHere := usable.notHere
  notUp := usable.notUp

theorem join_injective (usable : Usable base name) (otherUsable : Usable base other)
    (same : Path.join base name = Path.join base other) : name = other := by
  rcases exists_join_eq base with ⟨front, -, joined⟩
  rw [joined name usable.relative, joined other otherUsable.relative] at same
  exact List.append_cancel_left same

end Usable

theorem exists_of_mem_pathsIn {path : Path} (known : path ∈ pathsIn base chosen) :
    ∃ name ∈ chosen, path = Path.join base name := by
  rcases List.mem_map.mp known with ⟨name, member, same⟩
  exact ⟨name, member, same.symm⟩

/-! ## Settled trees -/

namespace SettledAt

variable (settled : SettledAt base chosen tree directory)

include settled

theorem unlinked (member : name ∈ chosen) : tree.Unlinked base name := by
  intro directory there target found
  rw [settled.there] at there
  cases there
  rcases settled.plain name member _ found with ⟨content, file⟩
  cases file

theorem contentsOf_eq (usable : Usable base name) (member : name ∈ chosen) :
    contentsOf (pathsIn base chosen) tree (Path.join base name) =
      tree.contentAt (directory ++ [name]) := by
  have known : Path.join base name ∈ pathsIn base chosen := List.mem_map_of_mem member
  rw [contentsOf, if_pos (List.contains_iff_mem.mpr known)]
  exact usable.names.readBytes_eq (settled.unlinked member) usable.accepted usable.short
    settled.there

theorem node?_eq (member : name ∈ chosen) :
    tree.node? (directory ++ [name]) = (tree.contentAt (directory ++ [name])).map .file := by
  rw [contentAt]
  rcases found : tree.node? (directory ++ [name]) with _ | node
  · rfl
  · rcases settled.plain name member node found with ⟨content, rfl⟩
    rfl

/-- If nothing changes but the file of one name, the tree is still settled. -/
theorem changed (usable : ∀ name ∈ chosen, Usable base name) (member : name ∈ chosen)
    (work : after.work = tree.work)
    (same : ∀ location, location ≠ directory ++ [name] →
      after.node? location = tree.node? location)
    (plain : ∀ node, after.node? (directory ++ [name]) = some node →
      ∃ content, node = .file content) :
    SettledAt base chosen after directory ∧
      contentsOf (pathsIn base chosen) after =
        Function.update (contentsOf (pathsIn base chosen) tree) (Path.join base name)
          (after.contentAt (directory ++ [name])) := by
  have stays : SettledAt base chosen after directory := by
    refine ⟨directoryAt_of_file work same (settled.plain name member) settled.there, ?_⟩
    intro other otherMember
    by_cases here : other = name
    · rw [here]
      exact plain
    · rw [same _ (by simpa using here)]
      exact settled.plain other otherMember
  refine ⟨stays, ?_⟩
  -- Another known path has another name, so it leads to a node that is the same as before.
  funext path
  by_cases known : path ∈ pathsIn base chosen
  · rcases exists_of_mem_pathsIn known with ⟨other, otherMember, rfl⟩
    rw [stays.contentsOf_eq (usable other otherMember) otherMember]
    by_cases here : other = name
    · rw [here, Function.update_self]
    · have apart : Path.join base other ≠ Path.join base name := fun equal =>
        here ((usable other otherMember).join_injective (usable name member) equal)
      have elsewhere : directory ++ [other] ≠ directory ++ [name] := by simpa using here
      rw [Function.update_of_ne apart, settled.contentsOf_eq (usable other otherMember) otherMember,
        contentAt, contentAt, same _ elsewhere]
  · have apart : path ≠ Path.join base name := by
      rintro rfl
      exact known (List.mem_map_of_mem member)
    have unknown : ¬ (pathsIn base chosen).contains path = true :=
      known ∘ List.contains_iff_mem.mp
    rw [Function.update_of_ne apart, contentsOf, if_neg unknown, contentsOf, if_neg unknown]

theorem put (usable : ∀ name ∈ chosen, Usable base name) (member : name ∈ chosen)
    (content : Utf8.Bytes) :
    SettledAt base chosen (tree.put (directory ++ [name]) (.file content)) directory ∧
      contentsOf (pathsIn base chosen) (tree.put (directory ++ [name]) (.file content)) =
        Function.update (contentsOf (pathsIn base chosen) tree) (Path.join base name)
          (some content) := by
  have wrote : (tree.put (directory ++ [name]) (.file content)).node? (directory ++ [name]) =
      some (.file content) := node?_put_concat
  have step := settled.changed usable member work_put (fun _ apart => node?_put_of_ne apart)
    fun _ found => ⟨content, Option.some.inj (found.symm.trans wrote)⟩
  rw [contentAt, wrote] at step
  exact step

theorem cut (usable : ∀ name ∈ chosen, Usable base name) (member : name ∈ chosen) :
    SettledAt base chosen (tree.cut (directory ++ [name])) directory ∧
      contentsOf (pathsIn base chosen) (tree.cut (directory ++ [name])) =
        Function.update (contentsOf (pathsIn base chosen) tree) (Path.join base name) none := by
  have gone : (tree.cut (directory ++ [name])).node? (directory ++ [name]) = none :=
    node?_cut_concat
  have step := settled.changed usable member (rfl : (tree.cut (directory ++ [name])).work = _)
    (fun _ apart => node?_cut_of_ne apart)
    fun node found => absurd (gone.symm.trans found).symm (Option.some_ne_none node)
  rw [contentAt, gone] at step
  exact step

end SettledAt

/-! ## Operations in a settled tree -/

namespace SettledAt

variable (settled : SettledAt base chosen tree directory)

include settled

theorem fileLocation_eq (usable : Usable base name) (member : name ∈ chosen) :
    tree.fileLocation (Path.join base name) = .ok (directory ++ [name]) := by
  rw [fileLocation, usable.names.place_eq (.inr (settled.unlinked member)) usable.accepted
    usable.short settled.there, placeAt, settled.node?_eq member]
  rcases tree.contentAt (directory ++ [name]) with _ | content <;> rfl

theorem readBytes_eq (usable : Usable base name) (member : name ∈ chosen) :
    tree.readBytes (Path.join base name) =
      match tree.contentAt (directory ++ [name]) with
      | some content => .ok content
      | none => .error .notFound := by
  rw [readBytes, usable.names.place_eq (.inr (settled.unlinked member)) usable.accepted
    usable.short settled.there, placeAt, settled.node?_eq member]
  rcases tree.contentAt (directory ++ [name]) with _ | content <;> rfl

theorem writeBytes_eq (usable : Usable base name) (member : name ∈ chosen)
    (content : Utf8.Bytes) :
    tree.writeBytes (Path.join base name) content =
      .ok (tree.put (directory ++ [name]) (.file content)) := by
  rw [writeBytes, settled.fileLocation_eq usable member]
  rfl

theorem remove_eq (usable : Usable base name) (member : name ∈ chosen) :
    tree.remove (Path.join base name) =
      match tree.contentAt (directory ++ [name]) with
      | some _ => .ok (tree.cut (directory ++ [name]))
      | none => .error .notFound := by
  have node := settled.node?_eq member
  rcases found : tree.contentAt (directory ++ [name]) with _ | content
  all_goals rw [found] at node
  · exact usable.names.remove_of_free usable.accepted usable.short settled.there node
  · exact usable.names.remove_eq usable.accepted usable.short settled.there node

theorem copy_eq (usable : ∀ name ∈ chosen, Usable base name) (member : name ∈ chosen)
    (otherMember : other ∈ chosen) (apart : name ≠ other) :
    tree.copy (Path.join base name) (Path.join base other) =
      match tree.contentAt (directory ++ [name]) with
      | some content => .ok (tree.put (directory ++ [other]) (.file content))
      | none => .error .notFound := by
  have elsewhere : directory ++ [other] ≠ directory ++ [name] := by simpa using apart.symm
  rw [copy, settled.readBytes_eq (usable name member) member,
    settled.fileLocation_eq (usable name member) member,
    settled.fileLocation_eq (usable other otherMember) otherMember]
  rcases tree.contentAt (directory ++ [name]) with _ | content
  · rfl
  · simp only [bind, Except.bind, if_neg elsewhere]

end SettledAt

end Tree

namespace FileStore

variable {tree after : Tree} {base path source target : Path} {chosen : List Text}

section Calls

variable (usable : ∀ name ∈ chosen, Tree.Usable base name) (settled : Tree.Settled base chosen tree)

include usable settled

theorem tree_read_ok_iff (known : path ∈ Tree.pathsIn base chosen) {text : Text} :
    (FileStore.tree.read path tree).1 = .ok text ↔
      Tree.contentsOf (Tree.pathsIn base chosen) tree path = some (Utf8.encode text) := by
  rcases settled with ⟨directory, settled⟩
  rcases Tree.exists_of_mem_pathsIn known with ⟨name, member, rfl⟩
  rw [settled.contentsOf_eq (usable name member) member]
  have whole := settled.readBytes_eq (usable name member) member
  rcases found : tree.contentAt (directory ++ [name]) with _ | content
  all_goals
    rw [found] at whole
    simp only [FileStore.tree, Tree.readText, whole]
  · simp [bind, Except.bind, Except.mapError]
  · rw [Option.some_inj, ← Utf8.decode?_eq_some_iff]
    simp only [bind, Except.bind]
    rcases Utf8.decode? content with _ | read <;> simp [Except.mapError]

theorem tree_copy_cases (inSource : source ∈ Tree.pathsIn base chosen)
    (inTarget : target ∈ Tree.pathsIn base chosen) (apart : source ≠ target)
    {result : Except Fault Unit}
    (done : FileStore.tree.copy source target tree = (result, after)) :
    (∃ bytes, Tree.contentsOf (Tree.pathsIn base chosen) tree source = some bytes ∧
      result = .ok () ∧ Tree.Settled base chosen after ∧
      Tree.contentsOf (Tree.pathsIn base chosen) after =
        Function.update (Tree.contentsOf (Tree.pathsIn base chosen) tree) target (some bytes)) ∨
    (Tree.contentsOf (Tree.pathsIn base chosen) tree source = none ∧
      result = .error Refusal.notFound.fault ∧ after = tree) := by
  rcases settled with ⟨directory, settled⟩
  rcases Tree.exists_of_mem_pathsIn inSource with ⟨name, member, rfl⟩
  rcases Tree.exists_of_mem_pathsIn inTarget with ⟨other, otherMember, rfl⟩
  have names : name ≠ other := by
    rintro rfl
    exact apart rfl
  have copied := settled.copy_eq usable member otherMember names
  rw [settled.contentsOf_eq (usable name member) member]
  rcases found : tree.contentAt (directory ++ [name]) with _ | content
  all_goals
    rw [found] at copied
    simp only [FileStore.tree, changing, copied] at done
    cases done
  · exact .inr ⟨rfl, rfl, rfl⟩
  · rcases settled.put usable otherMember content with ⟨stays, whole⟩
    exact .inl ⟨content, rfl, rfl, ⟨directory, stays⟩, whole⟩

theorem tree_write_ok (known : path ∈ Tree.pathsIn base chosen) {text : Text}
    {result : Except Fault Unit}
    (done : FileStore.tree.write path text tree = (result, after)) :
    result = .ok () ∧ Tree.Settled base chosen after ∧
      Tree.contentsOf (Tree.pathsIn base chosen) after =
        Function.update (Tree.contentsOf (Tree.pathsIn base chosen) tree) path
          (some (Utf8.encode text)) := by
  rcases settled with ⟨directory, settled⟩
  rcases Tree.exists_of_mem_pathsIn known with ⟨name, member, rfl⟩
  simp only [FileStore.tree, changing, settled.writeBytes_eq (usable name member) member] at done
  cases done
  rcases settled.put usable member (Utf8.encode text) with ⟨stays, whole⟩
  exact ⟨rfl, ⟨directory, stays⟩, whole⟩

theorem tree_remove_cases (known : path ∈ Tree.pathsIn base chosen) {result : Except Fault Unit}
    (done : FileStore.tree.remove path tree = (result, after)) :
    (result = .ok () ∧ Tree.Settled base chosen after ∧
      Tree.contentsOf (Tree.pathsIn base chosen) after =
        Function.update (Tree.contentsOf (Tree.pathsIn base chosen) tree) path none) ∨
    (result = .error Refusal.notFound.fault ∧ after = tree) := by
  rcases settled with ⟨directory, settled⟩
  rcases Tree.exists_of_mem_pathsIn known with ⟨name, member, rfl⟩
  have removed := settled.remove_eq (usable name member) member
  rcases found : tree.contentAt (directory ++ [name]) with _ | content
  all_goals
    rw [found] at removed
    simp only [FileStore.tree, changing, removed] at done
    cases done
  · exact .inr ⟨rfl, rfl⟩
  · rcases settled.cut usable member with ⟨stays, whole⟩
    exact .inl ⟨rfl, ⟨directory, stays⟩, whole⟩

end Calls

/-- The store on a tree is reliable for files in one directory, from every settled tree. -/
theorem tree_reliable (usable : ∀ name ∈ chosen, Tree.Usable base name) :
    FileStore.tree.Reliable (Tree.pathsIn base chosen)
      (Tree.contentsOf (Tree.pathsIn base chosen)) (Tree.Settled base chosen) where
  read_fit := by
    intro path state result after known settled done
    cases done
    exact settled
  copy_fit := by
    intro source target state result after inSource inTarget apart settled done
    rcases tree_copy_cases usable settled inSource inTarget apart done with
      ⟨-, -, -, stays, -⟩ | ⟨-, -, rfl⟩
    · exact stays
    · exact settled
  write_fit := by
    intro path text state result after known settled done
    exact (tree_write_ok usable settled known done).2.1
  remove_fit := by
    intro path state result after known settled done
    rcases tree_remove_cases usable settled known done with ⟨-, stays, -⟩ | ⟨-, rfl⟩
    · exact stays
    · exact settled
  read_keeps := by
    intro path state result after known settled done
    cases done
    rfl
  read_ok := by
    intro path state text after known settled done
    exact (tree_read_ok_iff usable settled known).mp (congrArg Prod.fst done)
  copy_ok := by
    intro source target state after inSource inTarget apart settled done
    rcases tree_copy_cases usable settled inSource inTarget apart done with
      ⟨bytes, stood, -, -, whole⟩ | ⟨-, failed, -⟩
    · exact ⟨bytes, stood, whole⟩
    · cases failed
  copy_error := by
    intro source target state cause after inSource inTarget apart settled done
    rcases tree_copy_cases usable settled inSource inTarget apart done with
      ⟨-, -, worked, -⟩ | ⟨-, -, rfl⟩
    · cases worked
    · exact ⟨_, (Function.update_eq_self target _).symm⟩
  write_ok := by
    intro path text state after known settled done
    exact (tree_write_ok usable settled known done).2.2
  write_error := by
    intro path text state cause after known settled done
    cases (tree_write_ok usable settled known done).1
  remove_ok := by
    intro path state after known settled done
    rcases tree_remove_cases usable settled known done with ⟨-, -, whole⟩ | ⟨failed, -⟩
    · exact whole
    · cases failed
  remove_error := by
    intro path state cause after known settled done
    rcases tree_remove_cases usable settled known done with ⟨worked, -⟩ | ⟨-, rfl⟩
    · cases worked
    · exact ⟨_, (Function.update_eq_self path _).symm⟩
  read_succeeds := by
    intro path state text known settled stood
    exact (tree_read_ok_iff usable settled known).mpr stood
  copy_succeeds := by
    intro source target state bytes inSource inTarget apart settled stood
    rcases tree_copy_cases usable settled inSource inTarget apart rfl with
      ⟨-, -, worked, -⟩ | ⟨missing, -⟩
    · exact worked
    · rw [stood] at missing
      cases missing
  write_succeeds := by
    intro path text state known settled
    exact (tree_write_ok usable settled known rfl).1

end FileStore
end NetAdmin
