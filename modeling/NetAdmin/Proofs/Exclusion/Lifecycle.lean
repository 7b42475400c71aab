import NetAdmin.Proofs.Computation
import NetAdmin.Proofs.Exclusion.FileName
/-!
Runs of exclusions and reinstatements. In a clear directory, which is missing or has nothing but
files under the names of exclusion files, a call concerns the one file of its address
(`keeps_of_answer`). So over a run the last call on an address decides whether its file is there
and what it says, where letter case does not count (`run_last_call`). A link under such a name
would lead an exclusion into the file of another address (`not_keeps_linked`).
-/

namespace NetAdmin
namespace Exclusions

/-! ## Calls and runs -/

inductive Call
  | exclude (mac : Text)
  | reinstate (mac : Text)
  deriving DecidableEq, Repr

def Call.mac : Call → Text
  | .exclude mac | .reinstate mac => mac

inductive Answer
  | excluded (path : Path)
  | reinstated (existed : Bool)
  deriving DecidableEq, Repr

structure Step where
  call : Call
  before : Tree
  result : Except Error Answer
  after : Tree

variable (exclusions : Exclusions)

def answer : Call → StoreM Tree Answer
  | .exclude mac => .excluded <$> exclusions.exclude FileStore.tree mac
  | .reinstate mac => .reinstated <$> exclusions.reinstate FileStore.tree mac

def run : List Call → Tree → List Step
  | [], _ => []
  | call :: calls, tree =>
      let done := exclusions.answer call tree
      ⟨call, tree, done.1, done.2⟩ :: run calls done.2

/-! ## Exclusion files -/

/-- What the exclusion file of an address says, if there is one. -/
def held (tree : Tree) (mac : Text) : Option Utf8.Bytes :=
  (tree.readBytes (exclusions.filePath mac)).toOption

/-- The keyfile that has the device of an address left alone: under its heading it names the
address as it is spelled, and nothing else. -/
def keyfile (mac : Text) : Text :=
  Text.glue '\n' ["[keyfile]".toList, "unmanaged-devices+=mac".toList ++ mac, []]

def Call.leaves : Call → Option Utf8.Bytes
  | .exclude mac => some (Utf8.encode (keyfile mac))
  | .reinstate _ => none

/-- What the file of an address says after calls: what the last call on that address left there,
or what it said at first. -/
def heldAfter (initial : Option Utf8.Bytes) (calls : List Call) (mac : Text) : Option Utf8.Bytes :=
  match (calls.filter fun call => Alike call.mac mac).getLast? with
  | some call => call.leaves
  | none => initial

def prepared (tree : Tree) : Tree :=
  (tree.ensureDirectories exclusions.directory).2

/-- The exclusion directory is missing, or the names of exclusion files in it are those of files
if they are taken. A missing directory is one in which nothing is found once it is created. -/
structure Clear (tree : Tree) : Prop where
  missing : ∀ directory,
    (exclusions.prepared tree).directoryAt exclusions.directory = .ok directory →
    tree.directoryAt exclusions.directory = .ok directory ∨
      ∀ name, tree.node? (directory ++ [name]) = none
  plain : ∀ directory,
    (exclusions.prepared tree).directoryAt exclusions.directory = .ok directory →
    ∀ mac, IsMac mac → ∀ node,
      (exclusions.prepared tree).node? (directory ++ [fileName mac]) = some node →
      ∃ content, node = .file content

/-- What a call on a well-formed address does: it answers whether there was a file, leaves its
own content for its address in any spelling, and changes nothing else, except that it may create
directories. -/
structure Keeps (step : Step) : Prop where
  answers : step.result = .ok (match step.call with
    | .exclude mac => .excluded (exclusions.filePath mac)
    | .reinstate mac => .reinstated (exclusions.held step.before mac).isSome)
  leaves : ∀ mac, IsMac mac → Alike step.call.mac mac →
    exclusions.held step.after mac = step.call.leaves
  others : ∀ mac, IsMac mac → ¬ Alike step.call.mac mac →
    exclusions.held step.after mac = exclusions.held step.before mac
  elsewhere : ∀ location, step.after.node? location ≠ step.before.node? location →
    (step.before.node? location = none ∧ step.after.node? location = some .directory) ∨
      ∃ directory, step.after.directoryAt exclusions.directory = .ok directory ∧
        location = directory ++ [fileName step.call.mac]

/-! ## One call -/

variable {exclusions} {mac other : Text} {before after tree : Tree} {directory : Location}
  {call : Call}

theorem accepted_filePath (isMac : IsMac mac) (otherMac : IsMac other)
    (accepted : Tree.Accepted (exclusions.filePath mac)) :
    Tree.Accepted (exclusions.filePath other) := by
  refine accepted.join_of_length otherMac.names.path_ne_nil otherMac.nul_not_mem
    isMac.names.relative otherMac.names.relative ?_
  rw [isMac.length_encode, otherMac.length_encode]

theorem short_fileName (isMac : IsMac mac) :
    (Utf8.encode (fileName mac)).length ≤ Tree.nameLimit := by
  rw [isMac.length_encode]
  decide

theorem Clear.unlinked_prepared (clear : exclusions.Clear tree) (isMac : IsMac mac) :
    (exclusions.prepared tree).Unlinked exclusions.directory (fileName mac) := by
  intro directory there target found
  rcases clear.plain directory there mac isMac _ found with ⟨content, file⟩
  cases file

theorem Clear.unlinked (clear : exclusions.Clear tree) (isMac : IsMac mac) :
    tree.Unlinked exclusions.directory (fileName mac) := by
  intro directory there target found
  have grows := Tree.grows_ensureDirectories tree exclusions.directory
  exact clear.unlinked_prepared isMac directory (grows.directoryAt there) target
    (grows.kept found)

theorem Clear.held_eq (clear : exclusions.Clear tree) (isMac : IsMac mac)
    (accepted : Tree.Accepted (exclusions.filePath mac))
    (there : (exclusions.prepared tree).directoryAt exclusions.directory = .ok directory) :
    exclusions.held tree mac =
      (exclusions.prepared tree).contentAt (directory ++ [fileName mac]) := by
  have grows := Tree.grows_ensureDirectories tree exclusions.directory
  have content : tree.contentAt (directory ++ [fileName mac]) =
      (exclusions.prepared tree).contentAt (directory ++ [fileName mac]) := by
    rcases grows.nodes (directory ++ [fileName mac]) with same | ⟨missing, added⟩
    · rw [Tree.contentAt, Tree.contentAt, prepared, same]
    · rw [Tree.contentAt, Tree.contentAt, prepared, missing, added]
  -- The directory is there already, or it is created and nothing was in it.
  by_cases present : tree.directoryAt exclusions.directory = .ok directory
  · rw [← content]
    exact isMac.names.readBytes_eq (clear.unlinked isMac) accepted (short_fileName isMac) present
  · have nothing : tree.node? (directory ++ [fileName mac]) = none :=
      (clear.missing directory there).resolve_left present _
    rw [← content, Tree.contentAt, nothing]
    refine isMac.names.readBytes_of_missing (clear.unlinked isMac) ?_
    intro elsewhere found
    have same := (grows.directoryAt found).symm.trans there
    cases same
    exact present found

theorem prepared_eq_self (isMac : IsMac mac) (accepted : Tree.Accepted (exclusions.filePath mac))
    (there : tree.directoryAt exclusions.directory = .ok directory) :
    exclusions.prepared tree = tree := by
  have done := Tree.ensureDirectories_of_directoryAt
    (fun filled => accepted.of_join filled isMac.names.relative) there
  rw [prepared, done]

theorem clear_of_directoryAt (same : exclusions.prepared tree = tree)
    (there : tree.directoryAt exclusions.directory = .ok directory)
    (plain : ∀ mac, IsMac mac → ∀ node, tree.node? (directory ++ [fileName mac]) = some node →
      ∃ content, node = .file content) : exclusions.Clear tree := by
  refine ⟨?_, ?_⟩
  all_goals
    intro other found
    rw [same, there] at found
    cases found
  · exact .inl there
  · rw [same]
    exact plain

/-- The tree after differs from the one before in the created exclusion directory, and there in
the file of one address, which is a file if it is there at all. -/
structure Changed (exclusions : Exclusions) (before after : Tree) (mac : Text)
    (directory : Location) : Prop where
  isMac : IsMac mac
  accepted : Tree.Accepted (exclusions.filePath mac)
  there : (exclusions.prepared before).directoryAt exclusions.directory = .ok directory
  work : after.work = (exclusions.prepared before).work
  same : ∀ location, location ≠ directory ++ [fileName mac] →
    after.node? location = (exclusions.prepared before).node? location
  plain : ∀ node, after.node? (directory ++ [fileName mac]) = some node →
    ∃ content, node = .file content

namespace Changed

theorem directoryAt (changed : exclusions.Changed before after mac directory)
    (clear : exclusions.Clear before) :
    after.directoryAt exclusions.directory = .ok directory :=
  Tree.directoryAt_of_file changed.work changed.same
    (clear.plain directory changed.there mac changed.isMac) changed.there

theorem node?_of_not_alike (changed : exclusions.Changed before after mac directory)
    (otherMac : IsMac other) (different : ¬ Alike mac other) :
    after.node? (directory ++ [fileName other]) =
      (exclusions.prepared before).node? (directory ++ [fileName other]) := by
  refine changed.same _ fun equal => different ?_
  have names : fileName other = fileName mac := by simpa using equal
  exact (fileName_eq_iff changed.isMac otherMac).mp names.symm

theorem prepared_eq (changed : exclusions.Changed before after mac directory)
    (clear : exclusions.Clear before) : exclusions.prepared after = after :=
  prepared_eq_self changed.isMac changed.accepted (changed.directoryAt clear)

theorem clear (changed : exclusions.Changed before after mac directory)
    (clear : exclusions.Clear before) : exclusions.Clear after := by
  refine clear_of_directoryAt (changed.prepared_eq clear) (changed.directoryAt clear) ?_
  intro other otherMac node found
  by_cases alike : Alike mac other
  · rw [← (fileName_eq_iff changed.isMac otherMac).mpr alike] at found
    exact changed.plain node found
  · rw [changed.node?_of_not_alike otherMac alike] at found
    exact clear.plain directory changed.there other otherMac node found

theorem held_eq (changed : exclusions.Changed before after mac directory)
    (clear : exclusions.Clear before) (otherMac : IsMac other) :
    exclusions.held after other = after.contentAt (directory ++ [fileName other]) := by
  have unchanged := changed.prepared_eq clear
  have stays : (exclusions.prepared after).directoryAt exclusions.directory = .ok directory := by
    rw [unchanged]
    exact changed.directoryAt clear
  have whole := (changed.clear clear).held_eq otherMac
    (accepted_filePath changed.isMac otherMac changed.accepted) stays
  rw [whole, unchanged]

theorem held_of_alike (changed : exclusions.Changed before after mac directory)
    (clear : exclusions.Clear before) (otherMac : IsMac other) (alike : Alike mac other) :
    exclusions.held after other = after.contentAt (directory ++ [fileName mac]) := by
  rw [changed.held_eq clear otherMac, (fileName_eq_iff changed.isMac otherMac).mpr alike]

theorem held_of_not_alike (changed : exclusions.Changed before after mac directory)
    (clear : exclusions.Clear before) (otherMac : IsMac other) (different : ¬ Alike mac other) :
    exclusions.held after other = exclusions.held before other := by
  have accepted := accepted_filePath changed.isMac otherMac changed.accepted
  rw [changed.held_eq clear otherMac, clear.held_eq otherMac accepted changed.there,
    Tree.contentAt, Tree.contentAt, changed.node?_of_not_alike otherMac different]

theorem elsewhere (changed : exclusions.Changed before after mac directory)
    (clear : exclusions.Clear before) {location : Location}
    (differs : after.node? location ≠ before.node? location) :
    (before.node? location = none ∧ after.node? location = some .directory) ∨
      ∃ directory, after.directoryAt exclusions.directory = .ok directory ∧
        location = directory ++ [fileName mac] := by
  by_cases here : location = directory ++ [fileName mac]
  · exact .inr ⟨directory, changed.directoryAt clear, here⟩
  · rw [changed.same location here] at differs ⊢
    exact .inl ((Tree.grows_ensureDirectories before exclusions.directory).nodes location
      |>.resolve_left differs)

theorem keeps (step : Step)
    (changed : exclusions.Changed step.before step.after step.call.mac directory)
    (clear : exclusions.Clear step.before)
    (answers : step.result = .ok (match step.call with
      | .exclude mac => .excluded (exclusions.filePath mac)
      | .reinstate mac => .reinstated (exclusions.held step.before mac).isSome))
    (leaves : step.after.contentAt (directory ++ [fileName step.call.mac]) = step.call.leaves) :
    exclusions.Clear step.after ∧ exclusions.Keeps step := by
  refine ⟨changed.clear clear, answers, ?_, ?_, ?_⟩
  · intro other otherMac alike
    exact (changed.held_of_alike clear otherMac alike).trans leaves
  · intro other otherMac different
    exact changed.held_of_not_alike clear otherMac different
  · intro location differs
    exact changed.elsewhere clear differs

end Changed

theorem exclude_eq (mac : Text) (before : Tree) :
    exclusions.exclude FileStore.tree mac before =
      if Text.isAllBlank mac then (.error (.blankMac mac), before)
      else
        match (before.ensureDirectories exclusions.directory).1 with
        | .error refusal =>
            (.error (.ofFault refusal.fault "create NetworkManager conf dir".toList),
              exclusions.prepared before)
        | .ok _ =>
            match (exclusions.prepared before).writeBytes (exclusions.filePath mac)
              (Utf8.encode (fileContent mac)) with
            | .error refusal =>
                (.error (.ofFault refusal.fault "write NetworkManager exclusion".toList),
                  exclusions.prepared before)
            | .ok after => (.ok (exclusions.filePath mac), after) := by
  rw [exclude, prepared]
  split
  · rfl
  · rcases made : before.ensureDirectories exclusions.directory with ⟨refusal | _, middle⟩
    · simp only [Computation.bind_apply, FileStore.lift, FileStore.tree, made, Except.mapError]
    · rcases written : middle.writeBytes (exclusions.filePath mac)
        (Utf8.encode (fileContent mac)) with refusal | after
      all_goals
        simp only [Computation.bind_apply, Computation.pure_apply, FileStore.lift, FileStore.tree,
          made, Except.mapError, FileStore.changing, written]

theorem fileContent_eq_keyfile (mac : Text) : fileContent mac = keyfile mac := by
  have heading : "[keyfile]\nunmanaged-devices+=mac".toList =
      "[keyfile]".toList ++ '\n' :: "unmanaged-devices+=mac".toList := by decide
  unfold fileContent keyfile
  rw [heading]
  simp only [Text.glue, List.append_assoc, List.cons_append]

theorem exclude_ok {result : Path}
    (done : exclusions.exclude FileStore.tree mac before = (.ok result, after)) :
    result = exclusions.filePath mac ∧
      (exclusions.prepared before).writeBytes (exclusions.filePath mac)
        (Utf8.encode (keyfile mac)) = .ok after := by
  rw [exclude_eq, fileContent_eq_keyfile] at done
  split at done
  · cases done
  split at done
  · cases done
  split at done
  · cases done
  · next written =>
    cases done
    exact ⟨rfl, written⟩

theorem reinstate_ok {existed : Bool}
    (done : exclusions.reinstate FileStore.tree mac before = (.ok existed, after)) :
    (existed = true ∧ before.remove (exclusions.filePath mac) = .ok after) ∨
      existed = false ∧ after = before ∧
        ∀ removed, before.remove (exclusions.filePath mac) ≠ .ok removed := by
  rw [reinstate] at done
  rcases removed : before.remove (exclusions.filePath mac) with refusal | rest
  all_goals simp only [FileStore.tree, FileStore.changing, removed] at done
  · split at done
    · cases done
      exact .inr ⟨rfl, rfl, nofun⟩
    · cases done
  · cases done
    exact .inl ⟨rfl, rfl⟩

theorem Clear.remove_of_held (clear : exclusions.Clear tree) (isMac : IsMac mac)
    {content : Utf8.Bytes} (holds : exclusions.held tree mac = some content) :
    ∃ removed, tree.remove (exclusions.filePath mac) = .ok removed := by
  rcases isMac.names.readBytes_ok (clear.unlinked isMac) holds with
    ⟨accepted, short, directory, there, found⟩
  exact ⟨_, isMac.names.remove_eq accepted short there found⟩

theorem held_of_alike (isMac : IsMac mac) (otherMac : IsMac other) (alike : Alike mac other) :
    exclusions.held tree other = exclusions.held tree mac := by
  rw [held, held, filePath, filePath, (fileName_eq_iff isMac otherMac).mpr alike]

theorem keeps_exclude {result : Path} (clear : exclusions.Clear before) (isMac : IsMac mac)
    (done : exclusions.exclude FileStore.tree mac before = (.ok result, after)) :
    exclusions.Clear after ∧
      exclusions.Keeps ⟨.exclude mac, before, .ok (.excluded result), after⟩ := by
  rcases exclude_ok done with ⟨rfl, written⟩
  rcases isMac.names.writeBytes_ok (clear.unlinked_prepared isMac) written with
    ⟨accepted, -, directory, there, -, rfl⟩
  have wrote : ((exclusions.prepared before).put (directory ++ [fileName mac])
      (.file (Utf8.encode (keyfile mac)))).node? (directory ++ [fileName mac]) =
        some (.file (Utf8.encode (keyfile mac))) := Tree.node?_put_concat
  have changed : exclusions.Changed before ((exclusions.prepared before).put
      (directory ++ [fileName mac]) (.file (Utf8.encode (keyfile mac)))) mac directory :=
    { isMac, accepted, there
      work := Tree.work_put
      same := fun _ different => Tree.node?_put_of_ne different
      plain := fun _ found => ⟨_, Option.some.inj (found.symm.trans wrote)⟩ }
  have content : ((exclusions.prepared before).put (directory ++ [fileName mac])
      (.file (Utf8.encode (keyfile mac)))).contentAt (directory ++ [fileName mac]) =
        some (Utf8.encode (keyfile mac)) := by
    rw [Tree.contentAt, wrote]
  exact changed.keeps ⟨.exclude mac, before, _, _⟩ clear rfl content

theorem keeps_reinstate {existed : Bool} (clear : exclusions.Clear before) (isMac : IsMac mac)
    (done : exclusions.reinstate FileStore.tree mac before = (.ok existed, after)) :
    exclusions.Clear after ∧
      exclusions.Keeps ⟨.reinstate mac, before, .ok (.reinstated existed), after⟩ := by
  rcases reinstate_ok done with ⟨rfl, removed⟩ | ⟨rfl, rfl, stuck⟩
  · rcases isMac.names.remove_ok removed with
      ⟨accepted, short, directory, node, there, found, -, rfl⟩
    have same := prepared_eq_self isMac accepted there
    have gone : (before.cut (directory ++ [fileName mac])).node? (directory ++ [fileName mac]) =
        none := Tree.node?_cut_concat
    have existed : (exclusions.held before mac).isSome = true := by
      rcases clear.plain directory (same.symm ▸ there) mac isMac node (same.symm ▸ found) with
        ⟨content, rfl⟩
      rw [clear.held_eq isMac accepted (same.symm ▸ there), same, Tree.contentAt, found]
      rfl
    have changed : exclusions.Changed before (before.cut (directory ++ [fileName mac])) mac
        directory :=
      { isMac, accepted
        there := same.symm ▸ there
        work := same.symm ▸ rfl
        same := fun _ different => same.symm ▸ Tree.node?_cut_of_ne different
        plain := fun node standing =>
          absurd (gone.symm.trans standing).symm (Option.some_ne_none node) }
    have content : (before.cut (directory ++ [fileName mac])).contentAt
        (directory ++ [fileName mac]) = none := by
      rw [Tree.contentAt, gone]
    refine changed.keeps ⟨.reinstate mac, before, _, _⟩ clear ?_ content
    simp [existed]
  · have nothing : exclusions.held after mac = none := by
      rcases holds : exclusions.held after mac with _ | content
      · rfl
      · rcases clear.remove_of_held isMac holds with ⟨removed, works⟩
        exact absurd works (stuck removed)
    refine ⟨clear, ?_, ?_, fun _ _ _ => rfl, fun _ changed => absurd rfl changed⟩
    · simp [nothing]
    · intro other otherMac alike
      exact (held_of_alike isMac otherMac alike).trans nothing

theorem keeps_of_answer {told : Answer} (clear : exclusions.Clear before) (isMac : IsMac call.mac)
    (done : exclusions.answer call before = (.ok told, after)) :
    exclusions.Clear after ∧ exclusions.Keeps ⟨call, before, .ok told, after⟩ := by
  cases call with
  | exclude mac =>
      rw [answer, Computation.map_apply] at done
      rcases excluded : exclusions.exclude FileStore.tree mac before with ⟨_ | result, rest⟩
      all_goals
        rw [excluded] at done
        cases done
      exact keeps_exclude clear isMac excluded
  | reinstate mac =>
      rw [answer, Computation.map_apply] at done
      rcases reinstated : exclusions.reinstate FileStore.tree mac before with ⟨_ | existed, rest⟩
      all_goals
        rw [reinstated] at done
        cases done
      exact keeps_reinstate clear isMac reinstated

theorem exists_answer (clear : exclusions.Clear before) (isMac : IsMac call.mac)
    (accepted : Tree.Accepted (exclusions.filePath call.mac))
    (there : before.directoryAt exclusions.directory = .ok directory) :
    ∃ told after, exclusions.answer call before = (.ok told, after) := by
  have made := Tree.ensureDirectories_of_directoryAt
    (fun filled => accepted.of_join filled isMac.names.relative) there
  have same := prepared_eq_self isMac accepted there
  have plain : ∀ node, before.node? (directory ++ [fileName call.mac]) = some node →
      ∃ content, node = .file content := by
    intro node found
    exact clear.plain directory (same.symm ▸ there) call.mac isMac node (same.symm ▸ found)
  cases call with
  | exclude mac =>
      have filled : Text.isAllBlank mac = false := isMac.not_isAllBlank
      have written : before.writeBytes (exclusions.filePath mac) (Utf8.encode (fileContent mac)) =
          .ok (before.put (directory ++ [fileName mac]) (.file (Utf8.encode (fileContent mac)))) :=
        isMac.names.writeBytes_eq (clear.unlinked isMac) accepted (short_fileName isMac) there plain
      have done : exclusions.exclude FileStore.tree mac before =
          (.ok (exclusions.filePath mac),
            before.put (directory ++ [fileName mac]) (.file (Utf8.encode (fileContent mac)))) := by
        rw [exclude_eq, filled, made, same, written]
        rfl
      exact ⟨_, _, by rw [answer, Computation.map_apply, done]⟩
  | reinstate mac =>
      rcases standing : before.node? (directory ++ [fileName mac]) with _ | node
      · have missing : before.remove (exclusions.filePath mac) = .error .notFound :=
          isMac.names.remove_of_free accepted (short_fileName isMac) there standing
        refine ⟨.reinstated false, before, ?_⟩
        rw [answer, Computation.map_apply, reinstate]
        simp only [FileStore.tree, FileStore.changing, missing]
        rfl
      · rcases plain node standing with ⟨content, rfl⟩
        have removed : before.remove (exclusions.filePath mac) =
            .ok (before.cut (directory ++ [fileName mac])) :=
          isMac.names.remove_eq accepted (short_fileName isMac) there standing
        refine ⟨.reinstated true, before.cut (directory ++ [fileName mac]), ?_⟩
        rw [answer, Computation.map_apply, reinstate]
        simp only [FileStore.tree, FileStore.changing, removed]

/-! ## Runs -/

theorem heldAfter_cons (initial : Option Utf8.Bytes) (call : Call) (calls : List Call)
    (mac : Text) :
    heldAfter initial (call :: calls) mac =
      heldAfter (if Alike call.mac mac then call.leaves else initial) calls mac := by
  unfold heldAfter
  by_cases alike : Alike call.mac mac
  · rw [List.filter_cons_of_pos (by simpa using alike), if_pos alike]
    rcases List.eq_nil_or_concat (calls.filter fun call => Alike call.mac mac) with
      nothing | ⟨others, last, whole⟩
    · rw [nothing]
      rfl
    · rw [whole, List.concat_eq_append, List.getLast?_concat, ← List.cons_append,
        List.getLast?_concat]
  · rw [List.filter_cons_of_neg (by simpa using alike), if_neg alike]

/-- Exclusions behave as a set of addresses without regard to case. Over a run of successful calls
each call answers for and changes the one file of its address, and after every call the last one
on an address decides what its file says. -/
theorem run_last_call (clear : exclusions.Clear tree) (calls : List Call)
    (macs : ∀ call ∈ calls, IsMac call.mac)
    (succeeded : ∀ step ∈ exclusions.run calls tree, ∃ told, step.result = .ok told) :
    ∀ front step back, exclusions.run calls tree = front ++ step :: back →
      exclusions.Keeps step ∧
        ∀ mac, IsMac mac →
          exclusions.held step.after mac =
            heldAfter (exclusions.held tree mac) ((front ++ [step]).map Step.call) mac := by
  induction calls generalizing tree with
  | nil =>
      intro front step back whole
      exact absurd whole.symm (List.append_ne_nil_of_right_ne_nil _ (List.cons_ne_nil _ _))
  | cons call calls induction =>
      rw [List.forall_mem_cons] at macs
      rcases done : exclusions.answer call tree with ⟨result, after⟩
      rw [run, done, List.forall_mem_cons] at succeeded
      rcases succeeded.1 with ⟨told, answered⟩
      subst answered
      rcases keeps_of_answer clear macs.1 done with ⟨clearAfter, keeps⟩
      intro front step back whole
      rw [run, done] at whole
      -- The first call leaves what the calls behind it start from.
      have first (mac : Text) (isMac : IsMac mac) : exclusions.held after mac =
          if Alike call.mac mac then call.leaves else exclusions.held tree mac := by
        split
        · next alike => exact keeps.leaves mac isMac alike
        · next different => exact keeps.others mac isMac different
      rcases front with _ | ⟨head, front⟩
      · cases whole
        refine ⟨keeps, ?_⟩
        intro mac isMac
        rw [first mac isMac]
        exact (heldAfter_cons _ call [] mac).symm
      · rcases List.cons.inj whole with ⟨rfl, later⟩
        rcases induction clearAfter macs.2 succeeded.2 front step back later with ⟨kept, held⟩
        refine ⟨kept, ?_⟩
        intro mac isMac
        rw [held mac isMac, first mac isMac]
        exact (heldAfter_cons _ call _ mac).symm

theorem run_last_call_missing :
    let exclusions : Exclusions := ⟨"d".toList⟩
    let tree : Tree := ⟨[], []⟩
    let calls := [.exclude "02:00:17:0a:bc:01".toList, .exclude "02:00:17:0A:BC:01".toList,
      .reinstate "02:00:17:0a:bC:01".toList]
    exclusions.Clear tree ∧ (∀ call ∈ calls, IsMac call.mac) ∧
      (exclusions.run calls tree).map Step.result =
        [.ok (.excluded "d/02_00_17_0A_BC_01.conf".toList),
          .ok (.excluded "d/02_00_17_0A_BC_01.conf".toList), .ok (.reinstated true)] ∧
      ((exclusions.run calls tree).map fun step =>
          exclusions.held step.after "02:00:17:0a:bc:01".toList) =
        [some (Utf8.encode "[keyfile]\nunmanaged-devices+=mac02:00:17:0a:bc:01\n".toList),
          some (Utf8.encode "[keyfile]\nunmanaged-devices+=mac02:00:17:0A:BC:01\n".toList),
          none] ∧
      ∀ front step back, exclusions.run calls tree = front ++ step :: back →
        exclusions.Keeps step ∧
          ∀ mac, IsMac mac →
            exclusions.held step.after mac =
              heldAfter (exclusions.held tree mac) ((front ++ [step]).map Step.call) mac := by
  intro exclusions tree calls
  have made : exclusions.prepared tree = ⟨[(["d".toList], .directory)], []⟩ := by decide +kernel
  have leads : (exclusions.prepared tree).directoryAt exclusions.directory =
      .ok ["d".toList] := by decide +kernel
  have clear : exclusions.Clear tree := by
    refine ⟨?_, ?_⟩
    all_goals
      intro directory there
      rw [leads] at there
      cases there
    · exact .inr fun name => rfl
    · intro mac isMac node found
      rw [made] at found
      simp [Tree.node?, List.lookup_cons] at found
  have macs : ∀ call ∈ calls, IsMac call.mac := by decide +kernel
  have results : (exclusions.run calls tree).map Step.result =
      [.ok (.excluded "d/02_00_17_0A_BC_01.conf".toList),
        .ok (.excluded "d/02_00_17_0A_BC_01.conf".toList), .ok (.reinstated true)] := by
    decide +kernel
  have succeeded : ∀ step ∈ exclusions.run calls tree, ∃ told, step.result = .ok told := by
    intro step member
    have known : step.result ∈ (exclusions.run calls tree).map Step.result :=
      List.mem_map_of_mem member
    rw [results] at known
    simp only [List.mem_cons, List.not_mem_nil, or_false] at known
    rcases known with same | same | same
    all_goals exact ⟨_, same⟩
  have contents : ((exclusions.run calls tree).map fun step =>
      exclusions.held step.after "02:00:17:0a:bc:01".toList) =
        [some (Utf8.encode "[keyfile]\nunmanaged-devices+=mac02:00:17:0a:bc:01\n".toList),
          some (Utf8.encode "[keyfile]\nunmanaged-devices+=mac02:00:17:0A:BC:01\n".toList),
          none] := by
    decide +kernel
  exact ⟨clear, macs, results, contents, run_last_call clear calls macs succeeded⟩

/-- No directory has the name of an exclusion file, but under one such name stands a link to
another. An exclusion writes through the link, and so into the file of another address. -/
theorem not_keeps_linked :
    let exclusions : Exclusions := ⟨"d".toList⟩
    let tree : Tree :=
      ⟨[(["d".toList], .directory),
        (["d".toList, "02_00_00_00_00_0B.conf".toList], .file (Utf8.encode "old".toList)),
        (["d".toList, "02_00_00_00_00_0A.conf".toList], .link "02_00_00_00_00_0B.conf".toList)],
        []⟩
    let call : Call := .exclude "02:00:00:00:00:0a".toList
    let other := "02:00:00:00:00:0b".toList
    tree.directoryAt exclusions.directory = .ok ["d".toList] ∧
      (∀ mac, tree.node? (["d".toList] ++ [fileName mac]) ≠ some .directory) ∧
      IsMac call.mac ∧ IsMac other ∧ ¬ Alike call.mac other ∧
      ∃ step, exclusions.run [call] tree = [step] ∧
        step.result = .ok (.excluded "d/02_00_00_00_00_0A.conf".toList) ∧
        exclusions.held step.before other = some (Utf8.encode "old".toList) ∧
        exclusions.held step.after other =
          some (Utf8.encode "[keyfile]\nunmanaged-devices+=mac02:00:00:00:00:0a\n".toList) ∧
        ¬ exclusions.Keeps step := by
  intro exclusions tree call other
  have isMac : IsMac call.mac := by decide +kernel
  have otherMac : IsMac other := by decide +kernel
  have different : ¬ Alike call.mac other := by decide +kernel
  have before : exclusions.held tree other = some (Utf8.encode "old".toList) := by decide +kernel
  have after : exclusions.held (exclusions.answer call tree).2 other =
      some (Utf8.encode "[keyfile]\nunmanaged-devices+=mac02:00:00:00:00:0a\n".toList) := by
    decide +kernel
  refine ⟨by decide +kernel, ?_, isMac, otherMac, different, _, rfl, by decide +kernel, before,
    after, ?_⟩
  · intro mac found
    rcases List.lookup_eq_some_iff.mp found with ⟨front, back, whole, -⟩
    have standing : ∀ entry ∈ tree.nodes, entry.1.length = 2 → entry.2 ≠ .directory := by
      decide +kernel
    exact standing (["d".toList, fileName mac], .directory) (by simp [whole]) rfl rfl
  · intro keeps
    have same := (keeps.others other otherMac different).symm.trans after
    rw [before] at same
    exact absurd same (by decide +kernel)

end Exclusions
end NetAdmin
