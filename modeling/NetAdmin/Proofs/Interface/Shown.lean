import NetAdmin.Interface.Discovery
import NetAdmin.Proofs.Command.Dialogue
import NetAdmin.Proofs.SortedTable
/-!
What the tree of devices shows of an interface: all but the hardware addresses of virtual
functions (`Interface.Shows`), which decides the reported facts field by field (`Shows.facts`).
Looking at what is behind the link of an interface gives what
the tree shows. Only if there are functions is a command run, the listing of the interface,
and the functions have the hardware addresses of that listing (`findBacking_ok`).
-/

namespace NetAdmin

def ListedFunction.lastMac? (listing : Text) (index : Nat) : Option Text :=
  ((ofListing listing).filter (·.index == index)).getLast?.map (·.mac)

/-! ## What the tree shows -/

def Interface.device (path : Path) : Path :=
  Path.join path "device".toList

def Interface.ownerLink (path : Path) : Path :=
  Path.join (device path) "physfn".toList

section Shown

variable (view : FileView)

/-- The names in the directory of a device that have a number are links to its virtual
functions. -/
structure ShowsFunctions (device : Path) (functions : SortedTable Nat VirtualFunction) : Prop where
  ascending : functions.Ascending
  listed : ∃ names, view.list device = .ok names ∧
    (∀ index, index ∈ functions.keys ↔
      ∃ name ∈ names, Interface.functionIndex? name = some index) ∧
    ∀ entry ∈ functions, ∃ name ∈ names, Interface.functionIndex? name = some entry.1 ∧
      Host.linkName view (Path.join device name) = .ok entry.2.pci

/-- What is behind an interface whose link has the given target. -/
inductive Backing.ShownBy (path target : Path) : Backing → Prop
  | virtual (below : Path.startsWith Interface.virtualDevices target = true) :
      ShownBy path target .virtual
  | function {pci owner : Text} (apart : Path.startsWith Interface.virtualDevices target = false)
      (bus : Host.linkName view (Interface.device path) = .ok pci)
      (owned : Host.linkName view (Interface.ownerLink path) = .ok owner) :
      ShownBy path target (.function pci owner)
  | device {pci : Text} {functions : SortedTable Nat VirtualFunction}
      (apart : Path.startsWith Interface.virtualDevices target = false)
      (bus : Host.linkName view (Interface.device path) = .ok pci)
      (unowned : (Host.linkName view (Interface.ownerLink path)).isOk = false)
      (shows : ShowsFunctions view (Interface.device path) functions) :
      ShownBy path target (.device pci functions)

/-- What the tree shows of an interface: all but the hardware addresses of its functions. -/
structure Interface.Shows (path : Path) (interface : Interface) : Prop where
  address : ∃ text, view.readText (Path.join path "address".toList) = .ok text ∧
    interface.mac = Text.lower (Text.trim text)
  backing : ∃ target, view.readLink path = .ok target ∧
    interface.backing.ShownBy view path target

/-- The facts about an interface follow from three links: that of the interface, that of its device
and that of the device to an owner. -/
structure InterfaceFacts.Follows (path : Path) (facts : InterfaceFacts) : Prop where
  physical : ∃ target, view.readLink path = .ok target ∧
    facts.physical = !Path.startsWith Interface.virtualDevices target
  pci : (facts.physical = true ∧ ∃ pci, facts.pci = some pci ∧
      Host.linkName view (Interface.device path) = .ok pci) ∨
    (facts.physical = false ∧ facts.pci = none)
  owner : facts.owner =
    if facts.physical then (Host.linkName view (Interface.ownerLink path)).toOption else none
  isFunction : facts.isFunction =
    (facts.physical && (Host.linkName view (Interface.ownerLink path)).isOk)
  functions : facts.functions.isSome =
    (facts.physical && !(Host.linkName view (Interface.ownerLink path)).isOk)

end Shown

theorem Interface.Shows.facts {view : FileView} {path : Path} {interface : Interface}
    (shows : interface.Shows view path) : interface.facts.Follows view path := by
  rcases interface with ⟨mac, backing⟩
  rcases shows.backing with ⟨target, linked, shown⟩
  cases shown with
  | virtual below =>
      exact ⟨⟨target, linked, by rw [below]; rfl⟩, .inr ⟨rfl, rfl⟩, rfl, rfl, rfl⟩
  | function apart bus owned =>
      refine ⟨⟨target, linked, by rw [apart]; rfl⟩, .inl ⟨rfl, _, rfl, bus⟩, ?_, ?_, ?_⟩
      all_goals
        rw [owned]
        rfl
  | device apart bus unowned shows =>
      refine ⟨⟨target, linked, by rw [apart]; rfl⟩, .inl ⟨rfl, _, rfl, bus⟩, ?_, ?_, ?_⟩
      · cases owned : Host.linkName view (ownerLink path) with
        | error cause => rfl
        | ok owner =>
            rw [owned] at unowned
            cases unowned
      all_goals
        rw [unowned]
        rfl

namespace InterfaceFacts.Follows

variable {view : FileView} {path : Path} {facts : InterfaceFacts}
  (follows : facts.Follows view path)

include follows

theorem of_virtual (virtual : facts.physical = false) :
    facts.pci = none ∧ facts.owner = none ∧ facts.functions = none := by
  have owner := follows.owner
  have functions := follows.functions
  rw [virtual] at owner functions
  refine ⟨?_, owner, Option.not_isSome_iff_eq_none.mp (by simp [functions])⟩
  rcases follows.pci with ⟨physical, -⟩ | ⟨-, pci⟩
  · rw [virtual] at physical
    cases physical
  · exact pci

theorem of_physical (physical : facts.physical = true) :
    facts.pci.isSome = true ∧ facts.functions.isSome = !facts.owner.isSome := by
  refine ⟨?_, ?_⟩
  · rcases follows.pci with ⟨-, pci, found, -⟩ | ⟨virtual, -⟩
    · rw [found]
      rfl
    · rw [physical] at virtual
      cases virtual
  · rw [follows.functions, follows.owner, physical]
    cases Host.linkName view (Interface.ownerLink path) <;> rfl

theorem isFunction_iff : facts.isFunction = true ↔ facts.owner.isSome = true := by
  rw [follows.isFunction, follows.owner]
  cases facts.physical
  · simp
  · cases Host.linkName view (Interface.ownerLink path) <;> simp [Except.isOk, Except.toBool,
      Except.toOption]

end InterfaceFacts.Follows

variable {σ : Type} (host : Host σ) (view : FileView)

def Host.linksInterface (name : Text) : Bool :=
  (view.readLink (Path.join host.settings.deviceLinks name)).isOk

/-- The tree shows virtual functions of the interface: it is neither virtual nor a virtual
function, and there is a name with a number in the directory of its device. -/
def Host.ownsFunctions (name : Text) : Bool :=
  let path := Path.join host.settings.deviceLinks name
  (view.readLink path).toOption.any (!Path.startsWith Interface.virtualDevices ·) &&
    !(Host.linkName view (Interface.ownerLink path)).isOk &&
    ((view.list (Interface.device path)).toOption.getD []).any fun name =>
      (Interface.functionIndex? name).isSome

/-! ## Looking at one interface -/

namespace Host

variable {host view}

theorem look_ok {α : Type} {result : Except Fault α} {before after : Session σ} {value : α}
    (done : look result before = (.ok value, after)) : result = .ok value ∧ after = before := by
  rw [look, Computation.ofExcept_apply] at done
  rcases result with cause | found
  · cases done
  · cases done
    exact ⟨rfl, rfl⟩

theorem linkedFunctions_ok {device : Path} {names : List Text}
    {links : List (Nat × VirtualFunction)}
    (done : linkedFunctions view device names = .ok links) :
    (∀ link ∈ links, link.2.mac = none ∧ ∃ name ∈ names,
        Interface.functionIndex? name = some link.1 ∧
        linkName view (Path.join device name) = .ok link.2.pci) ∧
      ∀ name ∈ names, ∀ index, Interface.functionIndex? name = some index →
        index ∈ links.map Prod.fst := by
  rcases Computation.mem_of_mapM_ok done with ⟨given, taken⟩
  refine ⟨?_, ?_⟩
  · intro link member
    rcases given link member with ⟨⟨index, name⟩, inside, read⟩
    rcases List.mem_filterMap.mp inside with ⟨source, inNames, numbered⟩
    rcases Option.map_eq_some_iff.mp numbered with ⟨number, found, same⟩
    cases same
    rcases target : linkName view (Path.join device name) with cause | pci
    · rw [target] at read
      cases read
    · rw [target] at read
      cases read
      exact ⟨rfl, name, inNames, found, target⟩
  · intro name inNames index numbered
    have inside : (index, name) ∈ names.filterMap fun name =>
        (Interface.functionIndex? name).map fun index => (index, name) :=
      List.mem_filterMap.mpr ⟨name, inNames, by rw [numbered]; rfl⟩
    rcases taken _ inside with ⟨link, member, read⟩
    rcases target : linkName view (Path.join device name) with cause | pci
    · rw [target] at read
      cases read
    · rw [target] at read
      cases read
      exact List.mem_map_of_mem member

end Host

theorem ShowsFunctions.mapValues {view : FileView} {device : Path}
    {functions : SortedTable Nat VirtualFunction} (shows : ShowsFunctions view device functions)
    {change : Nat → VirtualFunction → VirtualFunction}
    (keeps : ∀ index function, (change index function).pci = function.pci) :
    ShowsFunctions view device (functions.mapValues change) := by
  rcases shows.listed with ⟨names, listed, numbers, links⟩
  refine ⟨shows.ascending.mapValues change, names, listed, ?_, ?_⟩
  · rw [SortedTable.keys_mapValues]
    exact numbers
  · intro entry member
    rcases SortedTable.mem_mapValues.mp member with ⟨function, inside, changed⟩
    rw [changed, keeps]
    exact links _ inside

theorem ShowsFunctions.withListed {view : FileView} {device : Path}
    {functions : SortedTable Nat VirtualFunction} (shows : ShowsFunctions view device functions)
    (listed : List ListedFunction) :
    ShowsFunctions view device (Interface.withListed listed functions) := by
  refine shows.mapValues ?_
  intro index function
  split <;> rfl

theorem Interface.mac_of_mem_withListed {listing : Text}
    {functions : SortedTable Nat VirtualFunction} {entry : Nat × VirtualFunction}
    (unknown : ∀ entry ∈ functions, entry.2.mac = none)
    (member : entry ∈ withListed (ListedFunction.ofListing listing) functions) :
    entry.2.mac = ListedFunction.lastMac? listing entry.1 := by
  rcases SortedTable.mem_mapValues.mp member with ⟨function, inside, changed⟩
  rw [ListedFunction.lastMac?, List.getLast?_filter, changed]
  cases (ListedFunction.ofListing listing).reverse.find? (·.index == entry.1) with
  | none => exact unknown _ inside
  | some found => rfl

namespace Host

variable {host view}

theorem showsFunctions_of_linked {device : Path} {names : List Text}
    {links : List (Nat × VirtualFunction)} (listed : view.list device = .ok names)
    (linked : linkedFunctions view device names = .ok links) :
    ShowsFunctions view device (SortedTable.ofEntries links) := by
  rcases linkedFunctions_ok linked with ⟨given, taken⟩
  refine ⟨SortedTable.ascending_ofEntries links, names, listed, ?_, ?_⟩
  · intro index
    rw [SortedTable.mem_keys_ofEntries]
    constructor
    · intro member
      rcases List.mem_map.mp member with ⟨link, inside, rfl⟩
      rcases given link inside with ⟨-, name, inNames, numbered, -⟩
      exact ⟨name, inNames, numbered⟩
    · rintro ⟨name, inNames, numbered⟩
      exact taken name inNames index numbered
  · intro entry member
    rcases given entry (SortedTable.mem_of_mem_ofEntries member) with ⟨-, found⟩
    exact found

theorem findFunctions_ok {name : Text} {device : Path} {before after : Session σ}
    {functions : SortedTable Nat VirtualFunction}
    (done : host.findFunctions view name device before = (.ok functions, after)) :
    ShowsFunctions view device functions ∧ ∃ listing : Option Output,
      listing.isSome = !functions.isEmpty ∧
      (∀ entry ∈ functions, ∃ output ∈ listing, output.success = true ∧
        entry.2.mac = ListedFunction.lastMac? output.stdout entry.1) ∧
      Dialogue host before
        (listing.toList.map fun output => ⟨host.functionListing name, .ok output⟩) after := by
  rcases Computation.exists_of_bind_ok done with ⟨names, _, looked, goesOn⟩
  rcases look_ok looked with ⟨listed, rfl⟩
  rcases Computation.exists_of_bind_ok goesOn with ⟨links, _, followed, ends⟩
  rcases look_ok followed with ⟨linked, rfl⟩
  have shows := showsFunctions_of_linked listed linked
  have unknown : ∀ entry ∈ SortedTable.ofEntries links, entry.2.mac = none := by
    intro entry member
    exact ((linkedFunctions_ok linked).1 entry (SortedTable.mem_of_mem_ofEntries member)).1
  dsimp only at ends
  split at ends
  · next nothing =>
    cases ends
    refine ⟨shows, none, by rw [nothing]; rfl, ?_, .silent _⟩
    rw [List.isEmpty_iff.mp nothing]
    simp
  · next something =>
    rcases Computation.exists_of_bind_ok ends with ⟨text, middle, ran, returns⟩
    cases returns
    rcases exists_output_of_checkedRun ran with ⟨output, success, rfl, dialogue⟩
    refine ⟨shows.withListed _, some output, ?_, ?_, dialogue⟩
    · have full : (Interface.withListed (ListedFunction.ofListing output.stdout)
          (SortedTable.ofEntries links)).isEmpty = (SortedTable.ofEntries links).isEmpty :=
        List.isEmpty_map
      rw [full, Bool.eq_false_iff.mpr something]
      rfl
    · intro entry member
      exact ⟨output, rfl, success, Interface.mac_of_mem_withListed unknown member⟩

theorem findBacking_ok {name : Text} {path target : Path} {before after : Session σ}
    {backing : Backing}
    (done : host.findBacking view name path target before = (.ok backing, after)) :
    backing.ShownBy view path target ∧ ∃ listing : Option Output,
      listing.isSome = backing.functions?.any (!·.isEmpty) ∧
      (∀ functions, backing.functions? = some functions → ∀ entry ∈ functions,
        ∃ output ∈ listing, output.success = true ∧
          entry.2.mac = ListedFunction.lastMac? output.stdout entry.1) ∧
      Dialogue host before
        (listing.toList.map fun output => ⟨host.functionListing name, .ok output⟩) after := by
  unfold findBacking at done
  split at done
  · next below =>
    cases done
    exact ⟨.virtual below, none, rfl, by simp [Backing.functions?], .silent _⟩
  · next notBelow =>
    have apart := Bool.eq_false_iff.mpr notBelow
    rcases Computation.exists_of_bind_ok done with ⟨pci, _, looked, goesOn⟩
    rcases look_ok looked with ⟨bus, rfl⟩
    rcases owned : linkName view (Path.join (Path.join path "device".toList) "physfn".toList) with
      cause | owner
    · simp only [owned] at goesOn
      rcases Computation.exists_of_bind_ok goesOn with ⟨functions, middle, found, ends⟩
      cases ends
      rcases findFunctions_ok found with ⟨shows, listing, asked, macs, dialogue⟩
      refine ⟨.device apart bus (by rw [Interface.ownerLink, Interface.device, owned]; rfl) shows,
        listing, asked, ?_, dialogue⟩
      rintro _ ⟨⟩
      exact macs
    · simp only [owned] at goesOn
      cases goesOn
      exact ⟨.function apart bus owned, none, rfl, by simp [Backing.functions?], .silent _⟩

theorem any_functions_eq {name : Text} {target : Path} {backing : Backing}
    (linked : view.readLink (Path.join host.settings.deviceLinks name) = .ok target)
    (shown : backing.ShownBy view (Path.join host.settings.deviceLinks name) target) :
    backing.functions?.any (!·.isEmpty) = host.ownsFunctions view name := by
  rw [ownsFunctions, linked]
  cases shown with
  | virtual below => simp [Backing.functions?, Except.toOption, below]
  | function apart bus owned => simp [Backing.functions?, Except.isOk, Except.toBool, owned]
  | @device pci functions apart bus unowned shows =>
      rcases shows.listed with ⟨names, listed, numbers, -⟩
      rw [unowned, listed, Bool.eq_iff_iff]
      simp only [Backing.functions?, Option.any_some, Except.toOption, apart, Bool.not_false,
        Bool.true_and, Bool.not_eq_true', Option.getD_some, List.any_eq_true,
        Option.isSome_iff_exists]
      constructor
      · intro full
        rcases List.exists_mem_of_ne_nil _ (List.isEmpty_eq_false_iff.mp full) with
          ⟨entry, member⟩
        rcases (numbers entry.1).mp (List.mem_map_of_mem member) with ⟨name, inNames, numbered⟩
        exact ⟨name, inNames, entry.1, numbered⟩
      · rintro ⟨name, inNames, index, numbered⟩
        rcases SortedTable.mem_keys.mp ((numbers index).mpr ⟨name, inNames, numbered⟩) with
          ⟨function, member⟩
        exact List.isEmpty_eq_false_iff.mpr (List.ne_nil_of_mem member)

end Host


end NetAdmin
