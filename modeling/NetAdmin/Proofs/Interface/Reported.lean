import NetAdmin.Proofs.Interface.Enumeration
/-!
What the tree of devices and fixed answers of a runner say of a table of interfaces (`Reports`).
The table of every enumeration that succeeds is one of which they say it
(`reports_of_interfaces`), and there is only one such table if nothing that is entered under one
key is in the tree in two ways (`Reports.unique`).
-/

namespace NetAdmin

variable {σ : Type} (host : Host σ) (view : FileView)

namespace Host

def HasInterface (name : Text) : Prop :=
  host.linksInterface view name = true ∧
    ∃ names, view.list host.settings.deviceLinks = .ok names ∧ name ∈ names

/-- In the directory of a device that owns functions, a link with the number leads to the bus
address. -/
structure LinksFunction (name : Text) (index : Nat) (pci : Text) : Prop where
  listed : host.HasInterface view name
  owns : host.ownsFunctions view name = true
  link : ∃ names,
    view.list (Interface.device (Path.join host.settings.deviceLinks name)) = .ok names ∧
      ∃ link ∈ names, Interface.functionIndex? link = some index ∧
        linkName view (Path.join
          (Interface.device (Path.join host.settings.deviceLinks name)) link) = .ok pci

/-- The interface is not virtual, and these are its bus address and its hardware address. -/
structure LinksDevice (name pci mac : Text) : Prop where
  listed : host.HasInterface view name
  apart : ∃ target, view.readLink (Path.join host.settings.deviceLinks name) = .ok target ∧
    Path.startsWith Interface.virtualDevices target = false
  bus : linkName view (Interface.device (Path.join host.settings.deviceLinks name)) = .ok pci
  address : ∃ text, view.readText
      (Path.join (Path.join host.settings.deviceLinks name) "address".toList) = .ok text ∧
    mac = Text.lower (Text.trim text)

/-- Nothing that an enumeration enters under one key is there in two ways. -/
structure Unambiguous : Prop where
  /-- The links with one number in the directory of a device lead to one virtual function. -/
  numbers : ∀ name index pci other, host.LinksFunction view name index pci →
    host.LinksFunction view name index other → pci = other
  /-- The interfaces at the bus address of a virtual function have one hardware address. -/
  addresses : ∀ name index pci, host.LinksFunction view name index pci →
    ∀ one mac other otherMac, host.LinksDevice view one pci mac →
      host.LinksDevice view other pci otherMac → mac = otherMac

/-- What the tree and the answers of a runner say of a table of interfaces. -/
structure Reports (answers : CommandLine → Except Error Output)
    (table : SortedTable Text Interface) : Prop where
  ascending : table.Ascending
  keys : ∀ name, name ∈ table.keys ↔ host.HasInterface view name
  shows : ∀ entry ∈ table,
    entry.2.Shows view (Path.join host.settings.deviceLinks entry.1)
  macs : ∀ entry ∈ table, ∀ functions, entry.2.backing.functions? = some functions →
    ∀ item ∈ functions, ∃ output,
      answers (host.functionListing entry.1) = .ok output ∧
        item.2.HasMac table (ListedFunction.lastMac? output.stdout item.1)

end Host

variable {host view}

/-! ## Interfaces that the tree shows -/

theorem Backing.ShownBy.same {path target : Path} {left right : Backing}
    (first : left.ShownBy view path target) (second : right.ShownBy view path target) :
    left = right ∨ ∃ pci functions others, left = .device pci functions ∧
      right = .device pci others ∧ functions.Ascending ∧ others.Ascending := by
  cases first with
  | virtual below =>
      cases second with
      | virtual => exact .inl rfl
      | function apart => simp [apart] at below
      | device apart => simp [apart] at below
  | function apart bus owned =>
      cases second with
      | virtual below => simp [apart] at below
      | function _ bus' owned' =>
          rw [bus] at bus'
          rw [owned] at owned'
          cases bus'
          cases owned'
          exact .inl rfl
      | device _ _ unowned =>
          rw [owned] at unowned
          cases unowned
  | device apart bus unowned shows =>
      cases second with
      | virtual below => simp [apart] at below
      | function _ _ owned =>
          rw [owned] at unowned
          cases unowned
      | device _ bus' _ shows' =>
          rw [bus] at bus'
          cases bus'
          exact .inr ⟨_, _, _, rfl, rfl, shows.ascending, shows'.ascending⟩

theorem Interface.Shows.linksDevice_iff {name : Text} {interface : Interface}
    (shows : interface.Shows view (Path.join host.settings.deviceLinks name))
    (listed : host.HasInterface view name) {pci mac : Text} :
    host.LinksDevice view name pci mac ↔
      interface.backing.pci? = some pci ∧ interface.mac = mac := by
  rcases interface with ⟨own, backing⟩
  rcases shows with ⟨⟨text, read, address⟩, target, linked, shown⟩
  constructor
  · rintro ⟨-, ⟨target', linked', apart⟩, bus, text', read', rfl⟩
    rw [read] at read'
    rw [linked] at linked'
    cases read'
    cases linked'
    refine ⟨?_, address⟩
    cases shown with
    | virtual below => simp [apart] at below
    | function _ bus' _ =>
        rw [bus] at bus'
        cases bus'
        rfl
    | device _ bus' _ _ =>
        rw [bus] at bus'
        cases bus'
        rfl
  · rintro ⟨given, rfl⟩
    cases shown with
    | virtual => cases given
    | function apart bus _ =>
        cases given
        exact ⟨listed, ⟨target, linked, apart⟩, bus, text, read, address⟩
    | device apart bus _ _ =>
        cases given
        exact ⟨listed, ⟨target, linked, apart⟩, bus, text, read, address⟩

/-! ## Tables of one tree -/

namespace Host.Reports

variable {answers : CommandLine → Except Error Output}
  {table left right : SortedTable Text Interface}

theorem hasInterface (reports : host.Reports view answers table) {name : Text}
    {interface : Interface} (member : (name, interface) ∈ table) : host.HasInterface view name :=
  (reports.keys name).mp (SortedTable.mem_keys.mpr ⟨interface, member⟩)

theorem exists_interface (reports : host.Reports view answers table) {name : Text}
    (has : host.HasInterface view name) : ∃ interface, (name, interface) ∈ table :=
  SortedTable.mem_keys.mp ((reports.keys name).mpr has)

theorem linksDevice_iff (reports : host.Reports view answers table) {pci mac : Text} :
    (∃ name, host.LinksDevice view name pci mac) ↔
      ∃ entry ∈ table, entry.2.backing.pci? = some pci ∧ entry.2.mac = mac := by
  constructor
  · rintro ⟨name, links⟩
    rcases reports.exists_interface links.listed with ⟨interface, member⟩
    exact ⟨_, member, ((reports.shows _ member).linksDevice_iff links.listed).mp links⟩
  · rintro ⟨⟨name, interface⟩, member, given⟩
    exact ⟨name, ((reports.shows _ member).linksDevice_iff (reports.hasInterface member)).mpr given⟩

theorem linksFunction (reports : host.Reports view answers table) {name : Text}
    {interface : Interface} (member : (name, interface) ∈ table)
    {functions : SortedTable Nat VirtualFunction}
    (given : interface.backing.functions? = some functions) {index : Nat}
    {function : VirtualFunction} (inside : (index, function) ∈ functions) :
    host.LinksFunction view name index function.pci := by
  rcases interface with ⟨mac, backing⟩
  rcases (reports.shows _ member).backing with ⟨target, linked, shown⟩
  have owns := any_functions_eq linked shown
  cases shown with
  | virtual => cases given
  | function => cases given
  | device apart bus unowned shows =>
      cases given
      rcases shows.listed with ⟨names, listed, -, links⟩
      refine ⟨reports.hasInterface member, ?_, names, listed, links _ inside⟩
      rw [← owns]
      simp [Backing.functions?, List.ne_nil_of_mem inside]

theorem exists_function (reports : host.Reports view answers table) {name pci : Text} {index : Nat}
    (links : host.LinksFunction view name index pci) :
    ∃ interface, (name, interface) ∈ table ∧ ∃ functions,
      interface.backing.functions? = some functions ∧
        ∃ function, (index, function) ∈ functions := by
  rcases reports.exists_interface links.listed with ⟨⟨mac, backing⟩, member⟩
  rcases (reports.shows _ member).backing with ⟨target, linked, shown⟩
  have owns := (any_functions_eq linked shown).trans links.owns
  cases shown with
  | virtual => cases owns
  | function => cases owns
  | device apart bus unowned shows =>
      rcases links.link with ⟨names, listed, link, inNames, numbered, -⟩
      rcases shows.listed with ⟨names', listed', numbers, -⟩
      rw [listed] at listed'
      cases listed'
      refine ⟨_, member, _, rfl, ?_⟩
      exact SortedTable.mem_keys.mp ((numbers index).mpr ⟨link, inNames, numbered⟩)

theorem mac_eq (first : host.Reports view answers left) (second : host.Reports view answers right)
    {pci : Text} {mac mac' listed : Option Text}
    (addresses : ∀ one address other otherAddress, host.LinksDevice view one pci address →
      host.LinksDevice view other pci otherAddress → address = otherAddress)
    (hasMac : VirtualFunction.HasMac left ⟨pci, mac⟩ listed)
    (hasMac' : VirtualFunction.HasMac right ⟨pci, mac'⟩ listed) : mac = mac' := by
  rcases hasMac with ⟨entry, member, bus, rfl⟩ | ⟨apart, rfl⟩
  · rcases first.linksDevice_iff.mpr ⟨entry, member, bus, rfl⟩ with ⟨one, links⟩
    rcases hasMac' with ⟨entry', member', bus', rfl⟩ | ⟨apart', -⟩
    · rcases second.linksDevice_iff.mpr ⟨entry', member', bus', rfl⟩ with ⟨other, links'⟩
      exact congrArg some (addresses one _ other _ links links')
    · rcases second.linksDevice_iff.mp ⟨one, links⟩ with ⟨entry', member', bus', -⟩
      exact absurd bus' (apart' entry' member')
  · rcases hasMac' with ⟨entry', member', bus', -⟩ | ⟨-, rfl⟩
    · rcases second.linksDevice_iff.mpr ⟨entry', member', bus', rfl⟩ with ⟨other, links'⟩
      rcases first.linksDevice_iff.mp ⟨other, links'⟩ with ⟨entry, member, bus, -⟩
      exact absurd bus (apart entry member)
    · rfl

section Unambiguous

variable (unambiguous : host.Unambiguous view) (first : host.Reports view answers left)
  (second : host.Reports view answers right)

include unambiguous first second

theorem mem_functions {name : Text} {interface other : Interface}
    (member : (name, interface) ∈ left) (member' : (name, other) ∈ right)
    {functions others : SortedTable Nat VirtualFunction}
    (given : interface.backing.functions? = some functions)
    (given' : other.backing.functions? = some others) :
    ∀ item ∈ functions, item ∈ others := by
  rintro ⟨index, function⟩ inside
  have links := first.linksFunction member given inside
  rcases second.exists_function links with ⟨same, member'', others', given'', function', inside'⟩
  cases second.ascending.value_eq member' member''
  cases given'.symm.trans given''
  -- Both functions have the number, so the tree fixes the bus address, and together with the
  -- listing also the hardware address.
  have links' := second.linksFunction member' given' inside'
  rcases first.macs _ member _ given _ inside with ⟨output, answered, hasMac⟩
  rcases second.macs _ member' _ given' _ inside' with ⟨output', answered', hasMac'⟩
  cases Except.ok.inj (answered.symm.trans answered')
  rcases function with ⟨pci, mac⟩
  rcases function' with ⟨pci', mac'⟩
  cases unambiguous.numbers name index pci pci' links links'
  cases first.mac_eq second (unambiguous.addresses name index pci links) hasMac hasMac'
  exact inside'

theorem interface_eq {name : Text} {interface other : Interface}
    (member : (name, interface) ∈ left) (member' : (name, other) ∈ right) : interface = other := by
  have shows := first.shows _ member
  have shows' := second.shows _ member'
  have sameMac := (shows.same shows').1
  rcases shows.backing with ⟨target, linked, shown⟩
  rcases shows'.backing with ⟨target', linked', shown'⟩
  rw [linked] at linked'
  cases linked'
  rcases shown.same shown' with sameBacking | ⟨pci, functions, others, backing, backing', rest⟩
  · rcases interface with ⟨mac, backing⟩
    rcases other with ⟨mac', backing'⟩
    cases sameMac
    cases sameBacking
    rfl
  · have given : interface.backing.functions? = some functions := by rw [backing]; rfl
    have given' : other.backing.functions? = some others := by rw [backing']; rfl
    have same : functions = others := by
      apply rest.1.ext rest.2
      intro item
      exact ⟨first.mem_functions unambiguous second member member' given given' item,
        second.mem_functions unambiguous first member' member given' given item⟩
    rcases interface with ⟨mac, _⟩
    rcases other with ⟨mac', _⟩
    cases sameMac
    cases backing
    cases backing'
    rw [same]

theorem mem_of_mem : ∀ entry ∈ left, entry ∈ right := by
  rintro ⟨name, interface⟩ member
  rcases second.exists_interface (first.hasInterface member) with ⟨other, member'⟩
  cases first.interface_eq unambiguous second member member'
  exact member'

theorem unique : left = right := by
  apply first.ascending.ext second.ascending
  intro entry
  exact ⟨first.mem_of_mem unambiguous second entry, second.mem_of_mem unambiguous first entry⟩

end Unambiguous

end Host.Reports

/-! ## Tables of enumerations -/

namespace Host

theorem found_of_interfaces {before after : Session σ} {table : SortedTable Text Interface}
    (done : host.interfaces view before = (.ok table, after)) :
    ∃ names found, view.list host.settings.deviceLinks = .ok names ∧
      host.findInterfaces view names before = (.ok found, after) ∧
      table = (SortedTable.ofEntries found).mapValues fun _ => Interface.reconciled found := by
  rcases Computation.exists_of_bind_ok done with ⟨names, _, looked, goesOn⟩
  rcases look_ok looked with ⟨listed, rfl⟩
  rcases Computation.exists_of_bind_ok goesOn with ⟨found, _, walked, ends⟩
  cases ends
  exact ⟨names, found, listed, walked, rfl⟩

/-- With fixed answers, what an enumeration gives is said by the tree. -/
theorem reports_of_interfaces {answers : CommandLine → Except Error Output}
    (fixed : host.runner.Fixed answers) {before after : Session σ}
    {table : SortedTable Text Interface}
    (done : host.interfaces view before = (.ok table, after)) :
    host.Reports view answers table := by
  rcases found_of_interfaces done with ⟨names, found, listed, walked, rfl⟩
  rcases findInterfaces_ok walked with ⟨visits, rfl, same, holds, dialogue⟩
  have enumerates := InterfaceVisit.enumerates holds same
  refine ⟨enumerates.ascending, ?_, enumerates.shows, ?_⟩
  · intro name
    refine (enumerates.keys name).trans ⟨?_, ?_⟩
    · rintro ⟨member, linked⟩
      exact ⟨linked, names, listed, member⟩
    · rintro ⟨linked, names', listed', member⟩
      rw [listed] at listed'
      cases listed'
      exact ⟨member, linked⟩
  · intro entry member functions given item inside
    rcases enumerates.macs entry member functions given item inside with
      ⟨output, -, asked, hasMac⟩
    exact ⟨output, (dialogue.result_eq fixed _ asked).symm, hasMac⟩

end Host
end NetAdmin
