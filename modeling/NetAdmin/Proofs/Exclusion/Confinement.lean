import NetAdmin.Proofs.Exclusion.Lifecycle
/-!
Which texts keep exclusions inside their directory. The text that is given as an address becomes a
path below the directory, so single dots before its last slash do no harm (`confined_of_direct`).
Every other part leads out of the directory in some tree, as a leading slash does
(`exists_outside`), so the direct texts are those that are safe in all trees that have no link in
place of the exclusion file (`confined_iff`). An exclusion writes through such a link
(`inside_or_linked_of_writes`).
-/

namespace NetAdmin
namespace Exclusions

variable (exclusions : Exclusions) (mac : Text)

/-! ## Inside the directory -/

/-- The location is directly in the exclusion directory, once that is created. -/
def Inside (before : Tree) (location : Location) : Prop :=
  ∃ directory name,
    (exclusions.prepared before).directoryAt exclusions.directory = .ok directory ∧
      location = directory ++ [name]

def Linked (before : Tree) (location : Location) : Prop :=
  ∃ target, (exclusions.prepared before).placeOfName (exclusions.filePath mac) =
    .ok (.taken location (.link target))

/-- An exclusion changes the location, and not only to create the directory. -/
def Writes (before : Tree) (location : Location) : Prop :=
  (exclusions.exclude FileStore.tree mac before).2.node? location ≠ before.node? location ∧
    (exclusions.exclude FileStore.tree mac before).2.node? location ≠
      (exclusions.prepared before).node? location

def Removes (before : Tree) (location : Location) : Prop :=
  (exclusions.reinstate FileStore.tree mac before).2.node? location ≠ before.node? location

/-- Besides creating the directory, a call on the text changes nothing but a file directly in
it. -/
structure Confined (before : Tree) : Prop where
  exclude : ∀ location, exclusions.Writes mac before location → exclusions.Inside before location
  reinstate : ∀ location, exclusions.Removes mac before location →
    exclusions.Inside before location

variable {exclusions mac} {before : Tree} {location : Location}

theorem inside_or_linked (direct : Direct mac)
    (found : (exclusions.prepared before).fileLocation (exclusions.filePath mac) = .ok location) :
    exclusions.Inside before location ∨
      ∃ link, exclusions.Linked mac before link ∧ exclusions.Inside before link := by
  rcases Text.exists_pieces_concat '/' mac with ⟨front, last, parts⟩
  have names := names_fileName direct parts
  rcases Tree.fileLocation_ok found with ⟨result, placed, ends⟩
  rcases Tree.reaches_of_place_join names.path_ne_nil names.relative placed with
    ⟨accepted, directory, fewer, there, walk⟩
  -- Only a link at the last name leads on from the directory.
  by_cases linked : ∃ target,
      (exclusions.prepared before).node? (directory ++ [fileName last]) = some (.link target)
  · rcases linked with ⟨target, standing⟩
    refine .inr ⟨directory ++ [fileName last], ⟨target, ?_⟩, directory, _, there, rfl⟩
    rw [filePath, names.placeOfName_eq,
      names.place_eq (.inl rfl) accepted (names.short_of_reaches walk) there, Tree.placeAt,
      standing]
  · rw [not_exists] at linked
    have same := ((names.reaches_iff (.inr linked)).mp walk).2
    refine .inl ⟨directory, fileName last, there, ?_⟩
    rcases ends with rfl | ⟨content, rfl⟩
    · exact Tree.placeAt_eq_free same.symm
    · exact Tree.placeAt_eq_taken same.symm

theorem fileLocation_of_writes (writes : exclusions.Writes mac before location) :
    (exclusions.prepared before).fileLocation (exclusions.filePath mac) = .ok location := by
  rcases writes with ⟨fresh, changed⟩
  rw [exclude_eq] at fresh changed
  split at changed
  · next blank =>
    rw [if_pos blank] at fresh
    exact absurd rfl fresh
  split at changed
  · exact absurd rfl changed
  split at changed
  · exact absurd rfl changed
  · next after written =>
    rw [Tree.writeBytes] at written
    rcases found : (exclusions.prepared before).fileLocation (exclusions.filePath mac) with
      refusal | written'
    all_goals
      rw [found] at written
      cases written
    by_cases here : location = written'
    · rw [here]
    · exact absurd (Tree.node?_put_of_ne here) changed

theorem reinstate_tree (exclusions : Exclusions) (mac : Text) (before : Tree) :
    (exclusions.reinstate FileStore.tree mac before).2 =
      match before.remove (exclusions.filePath mac) with
      | .ok after => after
      | .error _ => before := by
  rw [reinstate]
  rcases removed : before.remove (exclusions.filePath mac) with refusal | after
  all_goals simp only [FileStore.tree, FileStore.changing, removed]
  split <;> rfl

/-- With a direct text an exclusion writes a file directly in the directory. If a link stands there
in its place, it writes the file that the link leads to. -/
theorem inside_or_linked_of_writes (direct : Direct mac)
    (writes : exclusions.Writes mac before location) :
    exclusions.Inside before location ∨
      ∃ link, exclusions.Linked mac before link ∧ exclusions.Inside before link ∧
        (exclusions.prepared before).fileLocation (exclusions.filePath mac) = .ok location := by
  have found := fileLocation_of_writes writes
  rcases inside_or_linked direct found with inside | ⟨link, linked, inside⟩
  · exact .inl inside
  · exact .inr ⟨link, linked, inside, found⟩

theorem inside_of_removes (direct : Direct mac) (removes : exclusions.Removes mac before location) :
    exclusions.Inside before location := by
  rcases Text.exists_pieces_concat '/' mac with ⟨front, last, parts⟩
  rw [Removes, reinstate_tree] at removes
  rcases removed : before.remove (exclusions.filePath mac) with refusal | after
  all_goals rw [removed] at removes
  · exact absurd rfl removes
  · rcases (names_fileName direct parts).remove_ok removed with
      ⟨-, -, directory, node, there, -, -, rfl⟩
    have grows := Tree.grows_ensureDirectories before exclusions.directory
    refine ⟨directory, fileName last, grows.directoryAt there, ?_⟩
    by_contra elsewhere
    exact removes (Tree.node?_cut_of_ne elsewhere)

theorem confined_of_direct (direct : Direct mac)
    (unlinked : ∀ link, ¬ exclusions.Linked mac before link) : exclusions.Confined mac before := by
  refine ⟨fun location writes => ?_, fun location removes => inside_of_removes direct removes⟩
  rcases inside_or_linked_of_writes direct writes with inside | ⟨link, linked, -⟩
  · exact inside
  · exact absurd linked (unlinked link)

/-! ## Ways out of the directory -/

def onward (current : Location) (name : Text) : Location :=
  if name = ['.'] then current
  else if name = ['.', '.'] then current.dropLast
  else current ++ [name]

def stops : Location → List Text → List Location
  | current, [] => [current]
  | current, name :: names => current :: stops (onward current name) names

def lastStop (current : Location) (names : List Text) : Location :=
  names.foldl onward current

theorem head_mem_stops (current : Location) (names : List Text) :
    current ∈ stops current names := by
  cases names <;> exact List.mem_cons_self

theorem lastStop_mem_stops (current : Location) (names : List Text) :
    lastStop current names ∈ stops current names := by
  induction names generalizing current with
  | nil => exact List.mem_cons_self
  | cons name names induction => exact List.mem_cons_of_mem _ (induction (onward current name))

theorem free_of_mem_stops {c : Char} {names : List Text} {current : Location}
    (free : ∀ name ∈ names, c ∉ name) (start : ∀ name ∈ current, c ∉ name) :
    ∀ stop ∈ stops current names, ∀ name ∈ stop, c ∉ name := by
  induction names generalizing current with
  | nil =>
      intro stop member
      rw [List.mem_singleton.mp member]
      exact start
  | cons name names induction =>
      rw [List.forall_mem_cons] at free
      rw [stops, List.forall_mem_cons]
      refine ⟨start, induction free.2 ?_⟩
      rw [onward]
      split
      · exact start
      split
      · exact fun part member => start part (List.dropLast_subset _ member)
      · intro part member
        rcases List.mem_append.mp member with inside | added
        · exact start part inside
        · exact List.mem_singleton.mp added ▸ free.1

theorem reaches_lastStop {tree : Tree} {links : Nat} {current : Location} {names : List Text}
    {name : Text} {result : Place}
    (short : ∀ part ∈ names, part ≠ [] ∧ (Utf8.encode part).length ≤ Tree.nameLimit)
    (directories : ∀ stop ∈ stops current names, tree.node? stop = some .directory)
    (arrival : tree.Reaches .entry links (lastStop current names) [name] result) :
    tree.Reaches .entry links current (names ++ [name]) result := by
  induction names generalizing current with
  | nil => exact arrival
  | cons part names induction =>
      rw [List.forall_mem_cons] at short
      rw [stops, List.forall_mem_cons] at directories
      have later := induction short.2 directories.2 arrival
      have standing := directories.2 _ (head_mem_stops _ names)
      rw [onward] at later standing
      by_cases here : part = ['.']
      · rw [if_pos here] at later
        exact .stay (.inr here) later
      by_cases up : part = ['.', '.']
      · rw [if_neg here, if_pos up] at later
        subst up
        exact .up later
      · rw [if_neg here, if_neg up] at later standing
        exact .enter ⟨short.1.1, here, up, short.1.2, nofun⟩ standing later

/-- A tree in which names lead out of the directory `f`. The first one that is no dot goes up, or
is a link to the root; at the last stop from there stands a file. -/
def trap (part : Text) (names : List Text) (name : Text) : Tree where
  nodes := ([['f']], .directory) :: ([['f'], part], .link ['/']) ::
    ((stops [] names).map fun stop => (stop, .directory)) ++
      [(lastStop [] names ++ [name], .file [])]
  work := []

private theorem lookup_stops (stops : List Location) (location : Location) :
    (stops.map fun stop => (stop, Node.directory)).lookup location =
      if location ∈ stops then some .directory else none := by
  induction stops with
  | nil => rfl
  | cons stop stops induction =>
      rw [List.map_cons, List.lookup_cons, induction]
      by_cases here : location = stop
      · simp [here]
      · simp [here, beq_false_of_ne here]

/-- The letter that names the directory stands in the last name, and nowhere else on the way. -/
structure Lettered (part : Text) (names : List Text) (name : Text) : Prop where
  first : 'f' ∉ part
  names : ∀ other ∈ names, 'f' ∉ other
  last : 'f' ∈ name
  long : name ≠ ['f']

section Trap

variable {part name : Text} {names : List Text}

theorem node?_trap_of_ne (inside : location ≠ []) (home : location ≠ [['f']])
    (below : location ≠ [['f'], part]) :
    (trap part names name).node? location =
      if location ∈ stops [] names then some .directory
      else if location = lastStop [] names ++ [name] then some (.file []) else none := by
  rw [Tree.node?_of_ne_root inside, trap, List.cons_append, List.cons_append, List.lookup_cons,
    beq_false_of_ne home, List.lookup_cons, beq_false_of_ne below, List.lookup_append, lookup_stops,
    List.lookup_cons]
  by_cases stop : location ∈ stops [] names
  · simp [stop]
  · by_cases target : location = lastStop [] names ++ [name]
    · subst target
      simp [stop]
    · simp [stop, target, beq_false_of_ne target]

theorem node?_trap_home : (trap part names name).node? [['f']] = some .directory := by
  simp [Tree.node?, trap]

theorem node?_trap_link : (trap part names name).node? [['f'], part] = some (.link ['/']) := by
  simp [Tree.node?, trap, List.lookup_cons]

theorem directoryAt_trap : (trap part names name).directoryAt ['f'] = .ok [['f']] := by
  rw [Tree.directoryAt_eq_ok_iff]
  exact .enter ⟨by decide, by decide, by decide, by decide, nofun⟩ node?_trap_home .done

theorem prepared_trap : prepared ⟨['f']⟩ (trap part names name) = trap part names name := by
  have accepted : Tree.Accepted ['f'] := ⟨by decide, by decide, by decide⟩
  have leads : (trap part names name).directoryAt ['f'] = .ok [['f']] := directoryAt_trap
  rw [prepared, Tree.ensureDirectories_of_directoryAt (fun _ => accepted) leads]

namespace Lettered

variable (lettered : Lettered part names name)

include lettered

theorem home_not_mem : ∀ stop ∈ stops [] names, ['f'] ∉ stop := by
  intro stop member within
  exact free_of_mem_stops lettered.names (by simp) stop member _ within List.mem_cons_self

theorem node?_stop : ∀ stop ∈ stops [] names,
    (trap part names name).node? stop = some .directory := by
  intro stop member
  have home := lettered.home_not_mem stop member
  by_cases inside : stop = []
  · rw [inside]
    rfl
  rw [node?_trap_of_ne inside, if_pos member]
  all_goals
    rintro rfl
    exact home List.mem_cons_self

theorem node?_target :
    (trap part names name).node? (lastStop [] names ++ [name]) = some (.file []) := by
  rw [node?_trap_of_ne, if_neg, if_pos rfl]
  · intro stop
    exact free_of_mem_stops lettered.names (by simp) _ stop name (by simp) lettered.last
  · simp
  · intro same
    have last : name = ['f'] := by simpa using congrArg List.getLast? same
    exact lettered.long last
  · intro same
    have last : name = part := by simpa using congrArg List.getLast? same
    exact lettered.first (last ▸ lettered.last)

variable (short : ∀ other ∈ names, other ≠ [] ∧ (Utf8.encode other).length ≤ Tree.nameLimit)
  (admitted : Tree.Admitted .entry name [])

include short admitted

theorem reaches_target (links : Nat) :
    (trap part names name).Reaches .entry links [] (names ++ [name])
      (.taken (lastStop [] names ++ [name]) (.file [])) :=
  reaches_lastStop short lettered.node?_stop (.file admitted lettered.node?_target)

theorem reaches_target_below (links : Nat) {dots : List Text} (dotted : ∀ dot ∈ dots, dot = ['.'])
    (filled : part ≠ []) (partShort : (Utf8.encode part).length ≤ Tree.nameLimit)
    (notHere : part ≠ ['.']) :
    (trap part names name).Reaches .entry (links + 1) []
      (['f'] :: (dots ++ part :: (names ++ [name])))
      (.taken (lastStop [] names ++ [name]) (.file [])) := by
  have fromRoot (links : Nat) := lettered.reaches_target short admitted links
  have fromHome : (trap part names name).Reaches .entry (links + 1) [['f']]
      (part :: (names ++ [name])) (.taken (lastStop [] names ++ [name]) (.file [])) := by
    by_cases up : part = ['.', '.']
    · subst up
      exact .up (fromRoot (links + 1))
    · refine .jump ⟨filled, notHere, up, partShort, nofun⟩ (fun _ => by simp) node?_trap_link ?_
      exact .stay (.inl rfl) (fromRoot links)
  refine .enter ⟨by decide, by decide, by decide, by decide, nofun⟩ node?_trap_home ?_
  induction dots with
  | nil => exact fromHome
  | cons dot dots induction =>
      rw [List.forall_mem_cons] at dotted
      exact .stay (.inr dotted.1) (induction dotted.2)

end Lettered

/-- A text that leads to the file in the tree is not confined there: it removes that file, which is
not directly in the directory. -/
theorem Lettered.not_confined (lettered : Lettered part names name)
    (accepted : Tree.Accepted (filePath ⟨['f']⟩ mac))
    (walk : (trap part names name).Reaches .entry Tree.linkLimit
      (Tree.start (filePath ⟨['f']⟩ mac) []) (Tree.steps (filePath ⟨['f']⟩ mac))
      (.taken (lastStop [] names ++ [name]) (.file []))) :
    (∀ link, ¬ Linked ⟨['f']⟩ mac (trap part names name) link) ∧
      ¬ Confined ⟨['f']⟩ mac (trap part names name) := by
  have ends : (filePath ⟨['f']⟩ mac).getLast? ≠ some '/' := by
    rw [filePath, Tree.getLast?_join (fileName_ne_nil mac)]
    exact getLast?_fileName mac
  have placed : (trap part names name).placeOfName (filePath ⟨['f']⟩ mac) =
      .ok (.taken (lastStop [] names ++ [name]) (.file [])) := by
    rw [Tree.placeOfName, Tree.withoutSlash_eq_self ends, Tree.place_eq_ok_iff]
    exact ⟨accepted, walk⟩
  refine ⟨?_, ?_⟩
  · rintro link ⟨target, linked⟩
    rw [prepared_trap, placed] at linked
    cases linked
  intro confined
  have removed : (trap part names name).remove (filePath ⟨['f']⟩ mac) =
      .ok ((trap part names name).cut (lastStop [] names ++ [name])) := by
    rw [Tree.remove, placed]
    exact if_neg ends
  have inside : lastStop [] names ++ [name] ≠ [] := by simp
  have changed := confined.reinstate (lastStop [] names ++ [name])
  rw [Removes, reinstate_tree, removed] at changed
  rw [Tree.node?_cut_self inside, lettered.node?_target] at changed
  rcases changed (Option.some_ne_none _).symm with ⟨directory, entry, there, same⟩
  rw [prepared_trap, directoryAt_trap] at there
  cases there
  have home : lastStop [] names = [['f']] := by simpa using congrArg List.dropLast same
  exact lettered.home_not_mem _ (lastStop_mem_stops [] names) (home ▸ List.mem_cons_self)

end Trap

/-! ## Texts that lead out -/

/-- The path of the file is one that the file system looks up: no NUL in it and nothing too long,
also below a directory with a name of one letter. -/
structure Followable (mac : Text) : Prop where
  noNul : '\x00' ∉ fileName mac
  short : (Utf8.encode (fileName mac)).length + 2 ≤ Tree.pathLimit
  parts : ∀ part ∈ Text.pieces '/' (fileName mac), (Utf8.encode part).length ≤ Tree.nameLimit

namespace Followable

variable (followable : Followable mac)

include followable

theorem accepted : Tree.Accepted (filePath ⟨['f']⟩ mac) := by
  have bytes : (Utf8.encode (['f', '/'] ++ fileName mac)).length =
      (Utf8.encode (fileName mac)).length + 2 := by
    rw [Utf8.encode, List.flatMap_append, List.length_append, Nat.add_comm]
    rfl
  have short := followable.short
  rw [filePath, Path.join]
  split
  · exact ⟨fileName_ne_nil mac, followable.noNul, by omega⟩
  · rw [if_neg (by decide)]
    refine ⟨List.cons_ne_nil _ _, ?_, ?_⟩
    · simpa using followable.noNul
    · exact bytes ▸ short

variable {front : List Text} {last : Text} (parts : Text.pieces '/' mac = front ++ [last])

include parts

theorem admitted : Tree.Admitted .entry (fileName last) [] := by
  have short : (Utf8.encode (fileName last)).length ≤ Tree.nameLimit :=
    followable.parts _ (by rw [pieces_fileName parts]; simp)
  have marked := f_mem_fileName last
  refine ⟨fileName_ne_nil last, ?_, ?_, short, nofun⟩
  all_goals
    intro same
    rw [same] at marked
    exact absurd marked (by decide)

theorem short_of_mem_routes : ∀ route ∈ routes front,
    route ≠ [] ∧ (Utf8.encode route).length ≤ Tree.nameLimit := by
  intro route member
  rcases exists_of_mem_routes member with ⟨filled, part, inside, rfl⟩
  refine ⟨filled, followable.parts _ ?_⟩
  rw [pieces_fileName parts]
  exact List.mem_append_left _ (List.mem_map_of_mem inside)

end Followable

variable {front : List Text} {last : Text}

theorem f_not_mem_of_mem_routes : ∀ route ∈ routes front, 'f' ∉ route := by
  intro route member
  rcases exists_of_mem_routes member with ⟨-, part, -, rfl⟩
  exact f_not_mem_folded part

theorem fileName_ne_f (mac : Text) : fileName mac ≠ ['f'] := by
  intro same
  have long := length_fileName mac
  rw [same] at long
  exact absurd long (by decide)

theorem exists_outside_of_absolute (followable : Followable mac)
    (absolute : Path.isAbsolute mac = true) :
    ∃ exclusions before, (∀ link, ¬ Linked exclusions mac before link) ∧
      ¬ Confined exclusions mac before := by
  rcases Text.exists_pieces_concat '/' mac with ⟨front, last, parts⟩
  have lettered : Lettered [] (routes front) (fileName last) :=
    ⟨List.not_mem_nil, f_not_mem_of_mem_routes, f_mem_fileName last, fileName_ne_f last⟩
  have whole : filePath ⟨['f']⟩ mac = fileName mac := by
    rw [filePath, Path.join, isAbsolute_fileName, absolute]
    rfl
  refine ⟨⟨['f']⟩, trap [] (routes front) (fileName last),
    lettered.not_confined followable.accepted ?_⟩
  rw [whole, steps_fileName parts, Tree.start, isAbsolute_fileName, absolute, if_pos rfl]
  exact lettered.reaches_target (followable.short_of_mem_routes parts) (followable.admitted parts) _

private theorem exists_first {names : List Text} (other : ∃ name ∈ names, name ≠ ['.']) :
    ∃ dots name rest, names = dots ++ name :: rest ∧ (∀ dot ∈ dots, dot = ['.']) ∧
      name ≠ ['.'] := by
  induction names with
  | nil =>
      rcases other with ⟨name, member, -⟩
      cases member
  | cons first names induction =>
      by_cases here : first = ['.']
      · have later : ∃ name ∈ names, name ≠ ['.'] := by
          rcases other with ⟨name, member, notHere⟩
          rcases List.mem_cons.mp member with rfl | inside
          · exact absurd here notHere
          · exact ⟨name, inside, notHere⟩
        rcases induction later with ⟨dots, name, rest, rfl, dotted, notHere⟩
        exact ⟨first :: dots, name, rest, rfl, List.forall_mem_cons.mpr ⟨here, dotted⟩, notHere⟩
      · refine ⟨[], first, names, rfl, ?_, here⟩
        intro dot member
        cases member

theorem exists_outside_of_part (followable : Followable mac)
    (relative : Path.isAbsolute mac = false) (parts : Text.pieces '/' mac = front ++ [last])
    (other : ∃ route ∈ routes front, route ≠ ['.']) :
    ∃ exclusions before, (∀ link, ¬ Linked exclusions mac before link) ∧
      ¬ Confined exclusions mac before := by
  have free : ∀ route ∈ routes front, 'f' ∉ route := f_not_mem_of_mem_routes
  have short := followable.short_of_mem_routes parts
  have steps := steps_fileName parts
  rcases exists_first other with ⟨dots, route, rest, whole, dotted, notHere⟩
  rw [whole, List.forall_mem_append, List.forall_mem_cons] at free short
  rw [whole] at steps
  have lettered : Lettered route rest (fileName last) :=
    ⟨free.2.1, free.2.2, f_mem_fileName last, fileName_ne_f last⟩
  have relativeName : Path.isAbsolute (fileName mac) = false := by
    rw [isAbsolute_fileName, relative]
  refine ⟨⟨['f']⟩, trap route rest (fileName last), lettered.not_confined followable.accepted ?_⟩
  rw [filePath, Tree.steps_join (fileName_ne_nil mac) relativeName, Tree.start_join relativeName,
    steps, List.append_assoc]
  exact lettered.reaches_target_below short.2.2 (followable.admitted parts) 39 dotted
    short.2.1.1 short.2.1.2 notHere

theorem exists_outside (followable : Followable mac) (indirect : ¬ Direct mac) :
    ∃ exclusions before, (∀ link, ¬ Linked exclusions mac before link) ∧
      ¬ Confined exclusions mac before := by
  rcases absolute : Path.isAbsolute mac with _ | _
  · rcases Text.exists_pieces_concat '/' mac with ⟨front, last, parts⟩
    refine exists_outside_of_part followable absolute parts ?_
    by_contra none
    refine indirect ⟨absolute, ?_⟩
    rw [parts, List.dropLast_concat]
    intro part member
    apply part_of_folded
    by_contra neither
    rw [not_or] at neither
    refine none ⟨part.flatMap folded, ?_, neither.2⟩
    exact List.mem_filter.mpr ⟨List.mem_map_of_mem member, by simpa using neither.1⟩
  · exact exists_outside_of_absolute followable absolute

/-- Among the texts that the file system looks up, those with nothing but single dots before their
last slash are the ones with which exclusions stay inside their directory, whatever the tree has but
a link in place of the exclusion file. -/
theorem confined_iff (followable : Followable mac) :
    (∀ exclusions before, (∀ link, ¬ Linked exclusions mac before link) →
      Confined exclusions mac before) ↔ Direct mac := by
  constructor
  · intro confined
    by_contra indirect
    rcases exists_outside followable indirect with ⟨exclusions, before, unlinked, outside⟩
    exact outside (confined exclusions before unlinked)
  · exact fun direct exclusions before unlinked => confined_of_direct direct unlinked

theorem confined_iff_address :
    Followable "02:00:17:0a:bc:01".toList ∧
      ∀ exclusions before, (∀ link, ¬ Linked exclusions "02:00:17:0a:bc:01".toList before link) →
        Confined exclusions "02:00:17:0a:bc:01".toList before := by
  have followable : Followable "02:00:17:0a:bc:01".toList :=
    ⟨by decide +kernel, by decide +kernel, by decide +kernel⟩
  have direct : Direct "02:00:17:0a:bc:01".toList := direct_of_slash_not_mem (by decide)
  exact ⟨followable, (confined_iff followable).mpr direct⟩

/-- An exclusion of a text that starts by going up writes its file next to the directory. -/
theorem not_confined_parent :
    (∀ link, ¬ Linked ⟨"d".toList⟩ "../x".toList ⟨[], []⟩ link) ∧
      ¬ Confined ⟨"d".toList⟩ "../x".toList ⟨[], []⟩ := by
  have leads : (prepared ⟨"d".toList⟩ ⟨[], []⟩).directoryAt "d".toList = .ok ["d".toList] := by
    decide +kernel
  have placed : (prepared ⟨"d".toList⟩ ⟨[], []⟩).placeOfName (filePath ⟨"d".toList⟩ "../x".toList) =
      .ok (.free ["X.conf".toList]) := by decide +kernel
  refine ⟨?_, ?_⟩
  · rintro link ⟨target, linked⟩
    rw [placed] at linked
    cases linked
  · intro confined
    have writes : Writes ⟨"d".toList⟩ "../x".toList ⟨[], []⟩ ["X.conf".toList] :=
      ⟨by decide +kernel, by decide +kernel⟩
    rcases confined.exclude _ writes with ⟨directory, name, there, same⟩
    rw [leads] at there
    cases there
    simp at same

end Exclusions
end NetAdmin
