import NetAdmin.Proofs.Files.TreeStore
import NetAdmin.Proofs.Registry.Run
/-!
Registries in a tree of files. The two files of a registry have their names in one directory, so
the store on a tree is reliable for them (`reliable_ofPath_join`), in particular where the
registry of a host is (`reliable_below`). What is proved of registries in lawful and in reliable
stores holds of these.
-/

namespace NetAdmin
namespace Registry

variable {base root : Path} {name : Text}

theorem join_backupOf (filled : name ≠ []) (relative : Path.isAbsolute name = false) :
    Path.join base (Settings.backupOf name) = Settings.backupOf (Path.join base name) := by
  have backupRelative : Path.isAbsolute (Settings.backupOf name) = false := by
    rcases name with _ | ⟨c, rest⟩
    · exact absurd rfl filled
    · exact relative
  rcases Tree.exists_join_eq base with ⟨front, -, joined⟩
  rw [joined name relative, joined _ backupRelative]
  exact (List.append_assoc front name _).symm

theorem paths_ofPath_join (usable : Tree.Usable base name) :
    (ofPath (Path.join base name)).paths = Tree.pathsIn base [name, Settings.backupOf name] := by
  rw [paths, ofPath, ← join_backupOf usable.filled usable.relative]
  rfl

/-- The store on a tree is reliable for a registry, as long as the directory of the registry is
there and neither of its files is a directory or a link. -/
theorem reliable_ofPath_join (usable : Tree.Usable base name)
    (backupUsable : Tree.Usable base (Settings.backupOf name)) :
    FileStore.tree.Reliable (ofPath (Path.join base name)).paths
      (Tree.contentsOf (ofPath (Path.join base name)).paths)
      (Tree.Settled base [name, Settings.backupOf name]) := by
  rw [paths_ofPath_join usable]
  refine FileStore.tree_reliable ?_
  rw [List.forall_mem_cons, List.forall_mem_singleton]
  exact ⟨usable, backupUsable⟩

/-! ## The registry of a host -/

def directoryBelow (root : Path) : Path :=
  Path.join root "etc/iproute2".toList

def fileName : Text :=
  "rt_tables".toList

theorem join_directoryBelow (root : Path) :
    Path.join (directoryBelow root) fileName = (Settings.below root).registry := by
  rcases Tree.exists_join_eq root with ⟨front, -, joined⟩
  have directory : directoryBelow root = front ++ "etc/iproute2".toList := joined _ rfl
  have registry : (Settings.below root).registry = front ++ "etc/iproute2/rt_tables".toList :=
    joined _ rfl
  have filled : (front ++ "etc/iproute2".toList).isEmpty = false := by simp
  have last : (front ++ "etc/iproute2".toList).getLast? = some '2' :=
    List.getLast?_append_of_ne_nil _ (by decide)
  rw [directory, registry, Path.join, filled, last, if_neg (by decide), if_neg (by decide)]
  exact List.append_assoc front _ _

theorem usable_fileName (accepted : Tree.Accepted (Path.join base fileName)) :
    Tree.Usable base fileName :=
  ⟨by decide, by decide, by decide, by decide, by decide, accepted⟩

theorem usable_backupOf_fileName
    (accepted : Tree.Accepted (Path.join base (Settings.backupOf fileName))) :
    Tree.Usable base (Settings.backupOf fileName) :=
  ⟨by decide, by decide, by decide, by decide, by decide, accepted⟩

theorem reliable_below
    (accepted : Tree.Accepted (Settings.backupOf (Settings.below root).registry)) :
    FileStore.tree.Reliable (ofPath (Settings.below root).registry).paths
      (Tree.contentsOf (ofPath (Settings.below root).registry).paths)
      (Tree.Settled (directoryBelow root) [fileName, Settings.backupOf fileName]) := by
  rw [← join_directoryBelow] at accepted ⊢
  have filled : Path.join (directoryBelow root) fileName ≠ [] := by
    rcases Tree.exists_join_eq (directoryBelow root) with ⟨front, -, joined⟩
    rw [joined _ rfl]
    exact List.append_ne_nil_of_right_ne_nil _ (by decide)
  refine reliable_ofPath_join (usable_fileName (Tree.Accepted.of_append filled accepted))
    (usable_backupOf_fileName ?_)
  rw [join_backupOf (by decide) rfl]
  exact accepted

example : Tree.Settled (directoryBelow "/".toList) [fileName, Settings.backupOf fileName]
    { nodes := [(["etc".toList], .directory), (["etc".toList, "iproute2".toList], .directory),
        (["etc".toList, "iproute2".toList, fileName], .file (Utf8.encode "254\tmain\n".toList))]
      work := [] } := by
  refine ⟨["etc".toList, "iproute2".toList], by decide, ?_⟩
  rw [List.forall_mem_cons, List.forall_mem_singleton]
  exact ⟨fun node found => ⟨_, Option.some.inj found.symm⟩, nofun⟩

end Registry
end NetAdmin
