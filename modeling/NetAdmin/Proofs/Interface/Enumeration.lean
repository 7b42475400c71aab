import NetAdmin.Files.Place
import NetAdmin.Proofs.Interface.Shown
/-!
What an enumeration of the interfaces finds. There is one record for every link of the device
tree, with all that the tree shows. The hardware address of a virtual function is that of the
interface at its bus address, or else the one in a listing of the interface that owns it, and
for these listings alone commands are run (`interfaces_enumerated`).
-/

namespace NetAdmin

def Interface.withoutFunctionMacs (interface : Interface) : Interface :=
  match interface.backing with
  | .device pci functions =>
      { interface with
        backing := .device pci (functions.mapValues fun _ function =>
          { function with mac := none }) }
  | _ => interface

variable {σ : Type} (host : Host σ) (view : FileView)

/-- The hardware address that a virtual function has to get: that of an interface at its bus
address, if there is one, and otherwise that of a listing. -/
def VirtualFunction.HasMac (table : SortedTable Text Interface) (function : VirtualFunction)
    (listed : Option Text) : Prop :=
  (∃ other ∈ table, other.2.backing.pci? = some function.pci ∧
      function.mac = some other.2.mac) ∨
    (∀ other ∈ table, other.2.backing.pci? ≠ some function.pci) ∧ function.mac = listed

/-- How a table of interfaces follows from the tree and from commands that were run. -/
structure Host.Enumerates (names : List Text) (exchanges : List Exchange)
    (table : SortedTable Text Interface) : Prop where
  /-- There is one record for every link, under the name of the link. -/
  ascending : table.Ascending
  keys : ∀ name, name ∈ table.keys ↔ name ∈ names ∧ host.linksInterface view name = true
  shows : ∀ entry ∈ table,
    entry.2.Shows view (Path.join host.settings.deviceLinks entry.1)
  facts : ∀ entry ∈ table,
    entry.2.facts.Follows view (Path.join host.settings.deviceLinks entry.1)
  virtual : ∀ entry ∈ table, entry.2.facts.physical = false →
    entry.2.facts.pci = none ∧ entry.2.facts.owner = none ∧ entry.2.facts.functions = none
  physical : ∀ entry ∈ table, entry.2.facts.physical = true →
    entry.2.facts.pci.isSome = true ∧
      entry.2.facts.functions.isSome = !entry.2.facts.owner.isSome
  function : ∀ entry ∈ table, entry.2.facts.isFunction = true ↔
    entry.2.facts.owner.isSome = true
  macs : ∀ entry ∈ table, ∀ functions, entry.2.backing.functions? = some functions →
    ∀ item ∈ functions, ∃ output : Output, output.success = true ∧
      ⟨host.functionListing entry.1, .ok output⟩ ∈ exchanges ∧
      item.2.HasMac table (ListedFunction.lastMac? output.stdout item.1)
  commands : exchanges.map Exchange.line =
    (names.filter (host.ownsFunctions view)).map host.functionListing

/-! ## Visits -/

/-- An interface as it is found behind a link, and what came of the listing of its functions if
it was made. -/
structure InterfaceVisit where
  name : Text
  interface : Interface
  listing : Option Output

namespace InterfaceVisit

def entry (visit : InterfaceVisit) : Text × Interface :=
  (visit.name, visit.interface)

def exchanges (visit : InterfaceVisit) : List Exchange :=
  visit.listing.toList.map fun output => ⟨host.functionListing visit.name, .ok output⟩

/-- What is found behind a link is what the tree shows, with the listed hardware addresses. -/
structure Holds (visit : InterfaceVisit) : Prop where
  linked : host.linksInterface view visit.name = true
  shows : visit.interface.Shows view (Path.join host.settings.deviceLinks visit.name)
  asked : visit.listing.isSome = host.ownsFunctions view visit.name
  macs : ∀ functions, visit.interface.backing.functions? = some functions →
    ∀ entry ∈ functions, ∃ output ∈ visit.listing, output.success = true ∧
      entry.2.mac = ListedFunction.lastMac? output.stdout entry.1

end InterfaceVisit

namespace Host

variable {host view}

theorem findInterface_ok {name : Text} {before after : Session σ} {result : Option Interface}
    (done : host.findInterface view name before = (.ok result, after)) :
    (result = none ∧ host.linksInterface view name = false ∧ after = before) ∨
      ∃ visit : InterfaceVisit, visit.name = name ∧ result = some visit.interface ∧
        visit.Holds host view ∧ Dialogue host before (visit.exchanges host) after := by
  rw [findInterface] at done
  rcases linked : view.readLink (Path.join host.settings.deviceLinks name) with cause | target
  · simp only [linked] at done
    cases done
    refine .inl ⟨rfl, ?_, rfl⟩
    rw [linksInterface, linked]
    rfl
  · simp only [linked] at done
    rcases Computation.exists_of_bind_ok done with ⟨address, _, looked, goesOn⟩
    rcases look_ok looked with ⟨read, rfl⟩
    rcases Computation.exists_of_bind_ok goesOn with ⟨backing, middle, found, ends⟩
    cases ends
    rcases findBacking_ok found with ⟨shown, listing, asked, macs, dialogue⟩
    refine .inr ⟨⟨name, _, listing⟩, rfl, rfl, ⟨?_, ?_, ?_, macs⟩, dialogue⟩
    · rw [linksInterface, linked]
      rfl
    · exact ⟨⟨address, read, rfl⟩, target, linked, shown⟩
    · rw [asked]
      exact any_functions_eq linked shown

theorem findInterfaces_ok {names : List Text} {before after : Session σ}
    {found : Interface.Found}
    (done : host.findInterfaces view names before = (.ok found, after)) :
    ∃ visits : List InterfaceVisit, found = visits.map InterfaceVisit.entry ∧
      visits.map (·.name) = names.filter (host.linksInterface view) ∧
      (∀ visit ∈ visits, visit.Holds host view) ∧
      Dialogue host before (visits.flatMap (InterfaceVisit.exchanges host)) after := by
  induction names generalizing before found with
  | nil =>
      cases done
      exact ⟨[], rfl, rfl, by simp, .silent _⟩
  | cons name names induction =>
      rw [findInterfaces] at done
      rcases Computation.exists_of_bind_ok done with ⟨result, middle, first, goesOn⟩
      rcases Computation.exists_of_bind_ok goesOn with ⟨others, final, rest, ends⟩
      cases ends
      rcases induction rest with ⟨visits, rfl, same, holds, dialogue⟩
      rcases findInterface_ok first with ⟨rfl, unlinked, rfl⟩ | ⟨visit, rfl, rfl, held, asked⟩
      · refine ⟨visits, rfl, ?_, holds, dialogue⟩
        rw [List.filter_cons_of_neg (by simp [unlinked]), same]
      · refine ⟨visit :: visits, rfl, ?_, List.forall_mem_cons.mpr ⟨held, holds⟩,
          asked.append dialogue⟩
        rw [List.filter_cons_of_pos held.linked, List.map_cons, same]

end Host


/-! ## Reconciliation -/

namespace Interface

variable {view : FileView} {path : Path} {found : Found}

theorem Shows.same {left right : Interface} (first : left.Shows view path)
    (second : right.Shows view path) :
    left.mac = right.mac ∧ left.backing.pci? = right.backing.pci? := by
  rcases left with ⟨leftMac, leftBacking⟩
  rcases right with ⟨rightMac, rightBacking⟩
  rcases first with ⟨⟨text, read, mac⟩, target, linked, shown⟩
  rcases second with ⟨⟨text', read', mac'⟩, target', linked', shown'⟩
  rw [read] at read'
  rw [linked] at linked'
  cases read'
  cases linked'
  refine ⟨mac.trans mac'.symm, ?_⟩
  cases shown <;> cases shown' <;> simp_all [Backing.pci?]

theorem Shows.reconciled {interface : Interface} (shows : interface.Shows view path)
    (found : Found) : (reconciled found interface).Shows view path := by
  rcases interface with ⟨mac, backing⟩
  cases backing with
  | virtual => exact shows
  | function pci owner => exact shows
  | device pci functions =>
      rcases shows with ⟨address, target, linked, shown⟩
      cases shown with
      | device apart bus unowned shows =>
          refine ⟨address, target, linked, .device apart bus unowned (shows.mapValues ?_)⟩
          intro index function
          split <;> rfl

theorem withoutFunctionMacs_reconciled (interface : Interface) :
    (reconciled found interface).withoutFunctionMacs = interface.withoutFunctionMacs := by
  rcases interface with ⟨mac, backing⟩
  cases backing with
  | virtual => rfl
  | function pci owner => rfl
  | device pci functions =>
      simp only [reconciled, withoutFunctionMacs, SortedTable.mapValues, List.map_map]
      congr 2
      apply List.map_congr_left
      intro entry _
      dsimp only [Function.comp_apply]
      split <;> rfl

theorem exists_of_macAt? {pci mac : Text} (given : macAt? found pci = some mac) :
    ∃ other ∈ found, other.2.backing.pci? = some pci ∧ other.2.mac = mac := by
  rcases Option.map_eq_some_iff.mp given with ⟨other, last, same⟩
  have holds := List.find?_some last
  exact ⟨other, List.mem_reverse.mp (List.mem_of_find?_eq_some last), by simpa using holds, same⟩

theorem pci?_ne_of_macAt? {pci : Text} (missing : macAt? found pci = none) :
    ∀ other ∈ found, other.2.backing.pci? ≠ some pci := by
  intro other member
  have differs := List.find?_eq_none.mp (Option.map_eq_none_iff.mp missing) other
    (List.mem_reverse.mpr member)
  simpa using differs

theorem exists_function_of_reconciled {interface : Interface}
    {functions : SortedTable Nat VirtualFunction}
    (given : (reconciled found interface).backing.functions? = some functions)
    {item : Nat × VirtualFunction} (member : item ∈ functions) :
    ∃ previous, interface.backing.functions? = some previous ∧ ∃ function,
      (item.1, function) ∈ previous ∧ item.2.pci = function.pci ∧
      match macAt? found item.2.pci with
      | some mac => item.2.mac = some mac
      | none => item.2.mac = function.mac := by
  rcases interface with ⟨mac, backing⟩
  cases backing with
  | virtual => cases given
  | function pci owner => cases given
  | device pci previous =>
      cases given
      rcases SortedTable.mem_mapValues.mp member with ⟨function, inside, changed⟩
      refine ⟨previous, rfl, function, inside, ?_⟩
      rw [changed]
      cases known : macAt? found function.pci with
      | none => simp [known]
      | some mac => simp [known]

end Interface

/-! ## Enumerations -/

def InterfaceVisit.table (visits : List InterfaceVisit) : SortedTable Text Interface :=
  (SortedTable.ofEntries (visits.map entry)).mapValues fun _ =>
    Interface.reconciled (visits.map entry)

namespace InterfaceVisit

variable {host view} {visits : List InterfaceVisit}

theorem mem_keys_table {name : Text} :
    name ∈ (table visits).keys ↔ name ∈ visits.map (·.name) := by
  rw [table, SortedTable.keys_mapValues, SortedTable.mem_keys_ofEntries, List.map_map]
  rfl

theorem exists_of_mem_table {item : Text × Interface} (member : item ∈ table visits) :
    ∃ visit ∈ visits, item.1 = visit.name ∧
      item.2 = Interface.reconciled (visits.map entry) visit.interface := by
  rcases SortedTable.mem_mapValues.mp member with ⟨interface, inside, reconciled⟩
  rcases List.mem_map.mp (SortedTable.mem_of_mem_ofEntries inside) with ⟨visit, visited, same⟩
  rw [entry, Prod.mk.injEq] at same
  exact ⟨visit, visited, same.1.symm, same.2 ▸ reconciled⟩

variable (holds : ∀ visit ∈ visits, visit.Holds host view)

include holds

theorem shows_of_mem_table {item : Text × Interface} (member : item ∈ table visits) :
    item.2.Shows view (Path.join host.settings.deviceLinks item.1) := by
  rcases exists_of_mem_table member with ⟨visit, visited, named, same⟩
  rw [same, named]
  exact (holds visit visited).shows.reconciled _

theorem exists_mem_table {visit : InterfaceVisit} (visited : visit ∈ visits) :
    ∃ item ∈ table visits, item.2.mac = visit.interface.mac ∧
      item.2.backing.pci? = visit.interface.backing.pci? := by
  rcases SortedTable.mem_keys.mp (mem_keys_table.mpr (List.mem_map_of_mem visited)) with
    ⟨interface, member⟩
  exact ⟨_, member, (shows_of_mem_table holds member).same (holds visit visited).shows⟩

theorem hasMac_of_mem_table {item : Text × Interface} (member : item ∈ table visits)
    {functions : SortedTable Nat VirtualFunction}
    (given : item.2.backing.functions? = some functions) {entry : Nat × VirtualFunction}
    (inside : entry ∈ functions) :
    ∃ output : Output, output.success = true ∧
      ⟨host.functionListing item.1, .ok output⟩ ∈ visits.flatMap (exchanges host) ∧
      entry.2.HasMac (table visits) (ListedFunction.lastMac? output.stdout entry.1) := by
  rcases exists_of_mem_table member with ⟨visit, visited, named, same⟩
  rw [same] at given
  rcases Interface.exists_function_of_reconciled given inside with
    ⟨previous, backing, function, before, pci, mac⟩
  rcases (holds visit visited).macs previous backing _ before with
    ⟨output, listing, success, listed⟩
  refine ⟨output, success, ?_, ?_⟩
  · rw [named, List.mem_flatMap]
    refine ⟨visit, visited, ?_⟩
    rw [exchanges, listing]
    exact List.mem_cons_self
  · cases known : Interface.macAt? (visits.map InterfaceVisit.entry) entry.2.pci with
    | some address =>
        rw [known] at mac
        rcases Interface.exists_of_macAt? known with ⟨_, found, bus, rfl⟩
        rcases List.mem_map.mp found with ⟨other, visitedOther, rfl⟩
        rcases exists_mem_table holds visitedOther with ⟨record, recorded, sameMac, samePci⟩
        exact .inl ⟨record, recorded, samePci.trans bus, mac.trans (congrArg some sameMac.symm)⟩
    | none =>
        rw [known] at mac
        refine .inr ⟨?_, mac.trans listed⟩
        intro record recorded
        rcases exists_of_mem_table recorded with ⟨other, visitedOther, namedOther, sameOther⟩
        have shown := (holds other visitedOther).shows.reconciled (visits.map InterfaceVisit.entry)
        rw [sameOther, (shown.same (holds other visitedOther).shows).2]
        exact Interface.pci?_ne_of_macAt? known other.entry (List.mem_map_of_mem visitedOther)

theorem map_line_exchanges :
    (visits.flatMap (exchanges host)).map Exchange.line =
      ((visits.map (·.name)).filter (host.ownsFunctions view)).map host.functionListing := by
  induction visits with
  | nil => rfl
  | cons visit visits induction =>
      rw [List.forall_mem_cons] at holds
      rw [List.flatMap_cons, List.map_append, induction holds.2, List.map_cons]
      have asked := holds.1.asked
      cases listing : visit.listing with
      | none =>
          rw [listing] at asked
          rw [List.filter_cons_of_neg (by simp [← asked]), exchanges, listing]
          rfl
      | some output =>
          rw [listing] at asked
          rw [List.filter_cons_of_pos asked.symm, exchanges, listing]
          rfl

theorem enumerates {names : List Text}
    (same : visits.map (·.name) = names.filter (host.linksInterface view)) :
    host.Enumerates view names (visits.flatMap (exchanges host)) (table visits) where
  ascending := (SortedTable.ascending_ofEntries _).mapValues _
  keys := by
    intro name
    rw [mem_keys_table, same, List.mem_filter]
  shows := fun _ member => shows_of_mem_table holds member
  facts := fun _ member => (shows_of_mem_table holds member).facts
  virtual := fun _ member => (shows_of_mem_table holds member).facts.of_virtual
  physical := fun _ member => (shows_of_mem_table holds member).facts.of_physical
  function := fun _ member => (shows_of_mem_table holds member).facts.isFunction_iff
  macs := fun _ member _ given _ inside => hasMac_of_mem_table holds member given inside
  commands := by
    rw [map_line_exchanges holds, same, List.filter_filter]
    congr 1
    apply List.filter_congr
    intro name _
    cases linked : host.linksInterface view name with
    | true => rw [Bool.and_true]
    | false =>
        have unread :
            (view.readLink (Path.join host.settings.deviceLinks name)).toOption = none := by
          rw [Host.linksInterface] at linked
          cases read : view.readLink (Path.join host.settings.deviceLinks name) with
          | error cause => rfl
          | ok target => rw [read] at linked; cases linked
        simp [Host.ownsFunctions, unread]

end InterfaceVisit

variable {host view}

/-- An enumeration that succeeds gives one record for every link in the directory, with all that
the tree shows and the hardware addresses that functions have to get. It lists every interface
that owns functions once and runs no other command, and reconciling the records that were found
changes nothing but hardware addresses of functions. -/
theorem interfaces_enumerated {before after : Session σ} {table : SortedTable Text Interface}
    (done : host.interfaces view before = (.ok table, after)) :
    ∃ (names : List Text) (exchanges : List Exchange),
      view.list host.settings.deviceLinks = .ok names ∧
      host.Enumerates view names exchanges table ∧ host.Dialogue before exchanges after ∧
      after.calls = before.calls ++
        (names.filter (host.ownsFunctions view)).map host.functionListing ∧
      ∃ found : Interface.Found, (host.findInterfaces view names before).1 = .ok found ∧
        table.mapValues (fun _ => Interface.withoutFunctionMacs) =
          (SortedTable.ofEntries found).mapValues fun _ => Interface.withoutFunctionMacs := by
  rcases Computation.exists_of_bind_ok done with ⟨names, _, looked, goesOn⟩
  rcases Host.look_ok looked with ⟨listed, rfl⟩
  rcases Computation.exists_of_bind_ok goesOn with ⟨found, _, walked, ends⟩
  cases ends
  rcases Host.findInterfaces_ok walked with ⟨visits, rfl, same, holds, dialogue⟩
  have enumerates := InterfaceVisit.enumerates holds same
  refine ⟨names, _, listed, enumerates, dialogue, ?_, _, by rw [walked], ?_⟩
  · rw [dialogue.calls, enumerates.commands]
  · rw [SortedTable.mapValues, SortedTable.mapValues, SortedTable.mapValues, List.map_map]
    apply List.map_congr_left
    intro entry _
    exact Prod.ext rfl (Interface.withoutFunctionMacs_reconciled entry.2)

theorem interfaces_enumerated_owner :
    let view : FileView := {
      list := fun path => (List.lookup path
        [("/sys/class/net".toList, ["lo".toList, "e1".toList, "e0".toList, "notes".toList]),
          ("/sys/class/net/e0/device".toList, ["net".toList, "virtfn0".toList,
            "virtfn1".toList])]).elim (.error Refusal.notFound.fault) .ok
      readLink := fun path => (List.lookup path
        [("/sys/class/net/lo".toList, "../../devices/virtual/net/lo".toList),
          ("/sys/class/net/e0".toList, "../../devices/p/net/e0".toList),
          ("/sys/class/net/e0/device".toList, "../../../p".toList),
          ("/sys/class/net/e0/device/virtfn0".toList, "../v".toList),
          ("/sys/class/net/e0/device/virtfn1".toList, "../w".toList),
          ("/sys/class/net/e1".toList, "../../devices/v/net/e1".toList),
          ("/sys/class/net/e1/device".toList, "../../../v".toList),
          ("/sys/class/net/e1/device/physfn".toList, "../p".toList)]).elim
            (.error Refusal.notFound.fault) .ok
      readText := fun path => (List.lookup path
        [("/sys/class/net/lo/address".toList, "00\n".toList),
          ("/sys/class/net/e0/address".toList, "0A\n".toList),
          ("/sys/class/net/e1/address".toList, "0B\n".toList)]).elim
            (.error Refusal.notFound.fault) .ok }
    let host : Host Unit := ⟨.standard, .scripted [("/usr/sbin/ip link show e0".toList,
      .leaves ⟨some 0, "vf 0 MAC 0c\nvf 1 MAC 0d\n".toList, []⟩)]⟩
    let table : SortedTable Text Interface := [
      ("e0".toList, ⟨"0a".toList, .device "p".toList
        [(0, ⟨"v".toList, some "0b".toList⟩), (1, ⟨"w".toList, some "0d".toList⟩)]⟩),
      ("e1".toList, ⟨"0b".toList, .function "v".toList "p".toList⟩),
      ("lo".toList, ⟨"00".toList, .virtual⟩)]
    (host.interfaces view ⟨(), []⟩).1 = .ok table ∧
      ∃ names exchanges, host.Enumerates view names exchanges table ∧
        exchanges.map Exchange.line = [["/usr/sbin/ip".toList, "link".toList, "show".toList,
          "e0".toList]] := by
  intro view host table
  have succeeds : (host.interfaces view ⟨(), []⟩).1 = .ok table := by decide +kernel
  have asked : (host.interfaces view ⟨(), []⟩).2.calls = [["/usr/sbin/ip".toList,
      "link".toList, "show".toList, "e0".toList]] := by decide +kernel
  rcases ended : host.interfaces view ⟨(), []⟩ with ⟨result, after⟩
  rw [ended] at succeeds asked
  cases succeeds
  rcases interfaces_enumerated ended with ⟨names, exchanges, -, enumerates, -, calls, -⟩
  exact ⟨rfl, names, exchanges, enumerates, enumerates.commands.trans (calls.symm.trans asked)⟩

end NetAdmin
