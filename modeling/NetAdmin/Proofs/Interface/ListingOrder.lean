import Mathlib.Data.Multiset.Defs
import NetAdmin.Proofs.Interface.Reported
/-!
What the order of the names in directories does to an enumeration of the interfaces. Nobody
promises an order, and of several entries under one key the last one stays. Whether an enumeration
succeeds is the same for all orders (`succeeds_interfaces_of_reorders`). What it gives is the same
for all orders exactly if the tree is `Unambiguous`: links with one number lead to one virtual
function, and the interfaces at the bus address of a function have one hardware address
(`orderFree_iff`).
-/

namespace NetAdmin

/-! ## Orders of names -/

structure FileView.Reorders (other view : FileView) : Prop where
  list : ∀ path, (other.list path).map Multiset.ofList = (view.list path).map Multiset.ofList
  readLink : other.readLink = view.readLink
  readText : other.readText = view.readText

def FileView.listingLast (view : FileView) (last : Text) : FileView where
  list path := (view.list path).map fun names =>
    if names.contains last then names.erase last ++ [last] else names
  readLink := view.readLink
  readText := view.readText

namespace FileView

variable {other view : FileView}

theorem Reorders.symm (reorders : other.Reorders view) : view.Reorders other :=
  ⟨fun path => (reorders.list path).symm, reorders.readLink.symm, reorders.readText.symm⟩

theorem Reorders.list_ok (reorders : other.Reorders view) {path : Path} {names : List Text}
    (listed : view.list path = .ok names) :
    ∃ permuted, other.list path = .ok permuted ∧ permuted.Perm names := by
  have same := reorders.list path
  rw [listed] at same
  cases given : other.list path with
  | error cause =>
      rw [given] at same
      cases same
  | ok permuted =>
      rw [given] at same
      exact ⟨permuted, rfl, Multiset.coe_eq_coe.mp (Except.ok.inj same)⟩

theorem Reorders.linkName_eq (reorders : other.Reorders view) (path : Path) :
    Host.linkName other path = Host.linkName view path := by
  rw [Host.linkName, Host.linkName, reorders.readLink]

theorem listingLast_reorders (view : FileView) (last : Text) :
    (view.listingLast last).Reorders view := by
  refine ⟨fun path => ?_, rfl, rfl⟩
  simp only [listingLast]
  cases view.list path with
  | error cause => rfl
  | ok names =>
      apply congrArg Except.ok
      apply Multiset.coe_eq_coe.mpr
      dsimp only
      split
      · next contained =>
        have member := List.contains_iff_mem.mp contained
        exact (List.perm_append_singleton _ _).trans (List.perm_cons_erase member).symm
      · exact List.Perm.refl names

theorem list_listingLast {path : Path} {names : List Text} {last : Text}
    (listed : view.list path = .ok names) (member : last ∈ names) :
    (view.listingLast last).list path = .ok (names.erase last ++ [last]) := by
  simp only [listingLast, listed, Except.map, if_pos (List.contains_iff_mem.mpr member)]

end FileView

variable {σ : Type} {host : Host σ} {view other : FileView}

variable (host view) in
/-- All enumerations that succeed give one table, in whatever order the names of a directory are
listed. -/
def Host.OrderFree : Prop :=
  ∀ one other : FileView, one.Reorders view → other.Reorders view →
    ∀ before otherBefore table otherTable, (host.interfaces one before).1 = .ok table →
      (host.interfaces other otherBefore).1 = .ok otherTable → table = otherTable

theorem ShowsFunctions.reordered {device : Path} {functions : SortedTable Nat VirtualFunction}
    (shows : ShowsFunctions view device functions) (reorders : other.Reorders view) :
    ShowsFunctions other device functions := by
  rcases shows.listed with ⟨names, listed, numbers, links⟩
  rcases reorders.list_ok listed with ⟨permuted, relisted, perm⟩
  refine ⟨shows.ascending, permuted, relisted, ?_, ?_⟩
  · simp only [perm.mem_iff]
    exact numbers
  · simp only [perm.mem_iff, reorders.linkName_eq]
    exact links

theorem Interface.Shows.reordered {path : Path} {interface : Interface}
    (shows : interface.Shows view path) (reorders : other.Reorders view) :
    interface.Shows other path := by
  rcases interface with ⟨mac, backing⟩
  rcases shows with ⟨address, target, linked, shown⟩
  refine ⟨by rw [reorders.readText]; exact address, target, by rw [reorders.readLink, linked], ?_⟩
  cases shown with
  | virtual below => exact .virtual below
  | function apart bus owned =>
      exact .function apart (reorders.linkName_eq _ ▸ bus) (reorders.linkName_eq _ ▸ owned)
  | device apart bus unowned shows =>
      exact .device apart (reorders.linkName_eq _ ▸ bus) (reorders.linkName_eq _ ▸ unowned)
        (shows.reordered reorders)

namespace Host

theorem HasInterface.reordered {name : Text} (has : host.HasInterface view name)
    (reorders : other.Reorders view) : host.HasInterface other name := by
  rcases has with ⟨linked, names, listed, member⟩
  rcases reorders.list_ok listed with ⟨permuted, relisted, perm⟩
  refine ⟨?_, permuted, relisted, perm.mem_iff.mpr member⟩
  rw [linksInterface, reorders.readLink]
  exact linked

theorem LinksDevice.reordered {name pci mac : Text} (links : host.LinksDevice view name pci mac)
    (reorders : other.Reorders view) : host.LinksDevice other name pci mac where
  listed := links.listed.reordered reorders
  apart := by
    rw [reorders.readLink]
    exact links.apart
  bus := (reorders.linkName_eq _).trans links.bus
  address := by
    rw [reorders.readText]
    exact links.address

theorem Reports.reordered {answers : CommandLine → Except Error Output}
    {table : SortedTable Text Interface} (reports : host.Reports view answers table)
    (reorders : other.Reorders view) : host.Reports other answers table where
  ascending := reports.ascending
  keys := fun name => (reports.keys name).trans
    ⟨fun has => has.reordered reorders, fun has => has.reordered reorders.symm⟩
  shows := fun entry member => (reports.shows entry member).reordered reorders
  macs := reports.macs

end Host

/-! ## Steps of an enumeration -/

namespace Host

open NetAdmin.Computation (Succeeds)

theorem links_of_findFunctions {name : Text} {device : Path} {before after : Session σ}
    {functions : SortedTable Nat VirtualFunction}
    (done : host.findFunctions view name device before = (.ok functions, after)) :
    ∃ names links listed, view.list device = .ok names ∧
      linkedFunctions view device names = .ok links ∧
      functions = Interface.withListed listed (SortedTable.ofEntries links) ∧
      ((SortedTable.ofEntries links).isEmpty = false →
        ∃ start, Succeeds (host.checkedRun (host.functionListing name)) start) := by
  rcases Computation.exists_of_bind_ok done with ⟨names, _, looked, goesOn⟩
  rcases look_ok looked with ⟨listed, rfl⟩
  rcases Computation.exists_of_bind_ok goesOn with ⟨links, _, followed, ends⟩
  rcases look_ok followed with ⟨linked, rfl⟩
  dsimp only at ends
  split at ends
  · next nothing =>
    cases ends
    refine ⟨names, links, [], listed, linked, ?_, ?_⟩
    · rw [List.isEmpty_iff.mp nothing]
      rfl
    · rw [nothing]
      intro full
      cases full
  · next something =>
    rcases Computation.exists_of_bind_ok ends with ⟨text, _, ran, returns⟩
    cases returns
    exact ⟨names, links, _, listed, linked, rfl, fun _ => ⟨_, _, _, ran⟩⟩

theorem findBacking_cases {name : Text} {path target : Path} {before after : Session σ}
    {backing : Backing}
    (done : host.findBacking view name path target before = (.ok backing, after)) :
    (Path.startsWith Interface.virtualDevices target = true ∧ backing = .virtual) ∨
      Path.startsWith Interface.virtualDevices target = false ∧
        ∃ pci, linkName view (Interface.device path) = .ok pci ∧
          ((∃ owner, linkName view (Interface.ownerLink path) = .ok owner ∧
              backing = .function pci owner) ∨
            ∃ cause functions, linkName view (Interface.ownerLink path) = .error cause ∧
              host.findFunctions view name (Interface.device path) before =
                (.ok functions, after) ∧ backing = .device pci functions) := by
  unfold findBacking at done
  split at done
  · next below =>
    cases done
    exact .inl ⟨below, rfl⟩
  · next notBelow =>
    rcases Computation.exists_of_bind_ok done with ⟨pci, _, looked, goesOn⟩
    rcases look_ok looked with ⟨bus, rfl⟩
    refine .inr ⟨Bool.eq_false_iff.mpr notBelow, pci, bus, ?_⟩
    rw [Interface.ownerLink, Interface.device]
    rcases owned : linkName view (Path.join (Path.join path "device".toList) "physfn".toList) with
      cause | owner
    · simp only [owned] at goesOn
      rcases Computation.exists_of_bind_ok goesOn with ⟨functions, _, found, ends⟩
      cases ends
      exact .inr ⟨cause, functions, rfl, found, rfl⟩
    · simp only [owned] at goesOn
      cases goesOn
      exact .inl ⟨owner, rfl, rfl⟩

theorem findInterface_cases {name : Text} {before after : Session σ} {result : Option Interface}
    (done : host.findInterface view name before = (.ok result, after)) :
    (∃ cause, view.readLink (Path.join host.settings.deviceLinks name) = .error cause ∧
      result = none) ∨
    ∃ target address backing,
      view.readLink (Path.join host.settings.deviceLinks name) = .ok target ∧
      view.readText (Path.join (Path.join host.settings.deviceLinks name) "address".toList) =
        .ok address ∧
      host.findBacking view name (Path.join host.settings.deviceLinks name) target before =
        (.ok backing, after) ∧
      result = some { mac := Text.lower (Text.trim address), backing } := by
  rw [findInterface] at done
  rcases linked : view.readLink (Path.join host.settings.deviceLinks name) with cause | target
  · simp only [linked] at done
    cases done
    exact .inl ⟨cause, rfl, rfl⟩
  · simp only [linked] at done
    rcases Computation.exists_of_bind_ok done with ⟨address, _, looked, goesOn⟩
    rcases look_ok looked with ⟨read, rfl⟩
    rcases Computation.exists_of_bind_ok goesOn with ⟨backing, _, found, ends⟩
    cases ends
    exact .inr ⟨target, address, backing, rfl, read, found, rfl⟩

theorem mem_of_findInterfaces {names : List Text} {before after : Session σ}
    {found : Interface.Found}
    (done : host.findInterfaces view names before = (.ok found, after)) :
    (∀ entry ∈ found, ∃ start stop,
      host.findInterface view entry.1 start = (.ok (some entry.2), stop)) ∧
    ∀ name ∈ names, ∃ start, Succeeds (host.findInterface view name) start := by
  induction names generalizing before found with
  | nil =>
      cases done
      simp
  | cons name names induction =>
      rw [findInterfaces] at done
      rcases Computation.exists_of_bind_ok done with ⟨result, middle, first, goesOn⟩
      rcases Computation.exists_of_bind_ok goesOn with ⟨others, final, rest, ends⟩
      cases ends
      rcases induction rest with ⟨given, taken⟩
      refine ⟨?_, List.forall_mem_cons.mpr ⟨⟨before, result, middle, first⟩, taken⟩⟩
      cases result with
      | none => exact given
      | some interface =>
          exact List.forall_mem_cons.mpr ⟨⟨before, middle, first⟩, given⟩

end Host

/-! ## Whether an enumeration succeeds -/

theorem ShowsFunctions.isEmpty_eq {device : Path}
    {functions others : SortedTable Nat VirtualFunction}
    (first : ShowsFunctions view device functions) (second : ShowsFunctions view device others) :
    functions.isEmpty = others.isEmpty := by
  rcases first.listed with ⟨names, listed, numbers, -⟩
  rcases second.listed with ⟨names', listed', numbers', -⟩
  rw [listed] at listed'
  cases listed'
  apply SortedTable.isEmpty_eq_of_keys
  intro index
  exact (numbers index).trans (numbers' index).symm

namespace Host

open NetAdmin.Computation (Succeeds)

theorem succeeds_look {α : Type} {result : Except Fault α} {value : α} (given : result = .ok value)
    (start : Session σ) : Succeeds (look result) start :=
  ⟨value, start, by rw [given]; rfl⟩

theorem succeeds_findInterfaces {names : List Text}
    (each : ∀ name ∈ names, ∀ start, Succeeds (host.findInterface view name) start)
    (start : Session σ) : Succeeds (host.findInterfaces view names) start := by
  induction names generalizing start with
  | nil => exact ⟨[], start, rfl⟩
  | cons name names induction =>
      rcases List.forall_mem_cons.mp each with ⟨first, others⟩
      apply (first start).bind
      intro result middle _
      exact (induction others middle).map _

section Fixed

variable {answers : CommandLine → Except Error Output} (fixed : host.runner.Fixed answers)
  (reorders : other.Reorders view)

include reorders

theorem exists_linkedFunctions_of_reorders {device : Path} {names permuted : List Text}
    {links : List (Nat × VirtualFunction)} (perm : permuted.Perm names)
    (linked : linkedFunctions view device names = .ok links) :
    ∃ relinks, linkedFunctions other device permuted = .ok relinks := by
  rcases Computation.mem_of_mapM_ok linked with ⟨-, taken⟩
  apply Computation.exists_mapM_ok
  intro entry member
  rcases taken entry ((perm.filterMap _).mem_iff.mp member) with ⟨link, -, read⟩
  exact ⟨link, by rw [reorders.linkName_eq, read]⟩

include fixed

theorem succeeds_findFunctions_of_reorders {name : Text} {device : Path} {before : Session σ}
    (succeeds : Succeeds (host.findFunctions view name device) before) (start : Session σ) :
    Succeeds (host.findFunctions other name device) start := by
  rcases succeeds with ⟨functions, after, done⟩
  rcases links_of_findFunctions done with ⟨names, links, _, listed, linked, -, asks⟩
  rcases reorders.list_ok listed with ⟨permuted, relisted, perm⟩
  rcases exists_linkedFunctions_of_reorders reorders perm linked with ⟨relinks, relinked⟩
  have sameEmpty :
      (SortedTable.ofEntries relinks).isEmpty = (SortedTable.ofEntries links).isEmpty :=
    (showsFunctions_of_linked relisted relinked).isEmpty_eq
      ((showsFunctions_of_linked listed linked).reordered reorders)
  apply (succeeds_look relisted start).bind
  intro given middle looked
  cases (look_ok looked).1.symm.trans relisted
  apply (succeeds_look relinked middle).bind
  intro given final followed
  cases (look_ok followed).1.symm.trans relinked
  dsimp only
  split
  · exact ⟨_, final, rfl⟩
  · next something =>
    -- Another order asks for a listing only where this one has asked for it.
    rcases asks (sameEmpty ▸ Bool.eq_false_iff.mpr something) with ⟨_, asked⟩
    exact (succeeds_checkedRun_of_fixed fixed asked final).map _

theorem succeeds_findBacking_of_reorders {name : Text} {path target : Path} {before : Session σ}
    (succeeds : Succeeds (host.findBacking view name path target) before) (start : Session σ) :
    Succeeds (host.findBacking other name path target) start := by
  rcases succeeds with ⟨backing, after, done⟩
  have relinked := reorders.linkName_eq
  rw [findBacking]
  rcases findBacking_cases done with ⟨below, -⟩ | ⟨apart, pci, bus, rest⟩
  · rw [if_pos below]
    exact ⟨_, start, rfl⟩
  · rw [if_neg (Bool.eq_false_iff.mp apart)]
    apply (succeeds_look ((relinked _).trans bus) start).bind
    intro given middle _
    rw [Interface.ownerLink, Interface.device, ← relinked] at rest
    rcases rest with ⟨owner, owned, -⟩ | ⟨cause, functions, unowned, found, -⟩
    · simp only [owned]
      exact ⟨_, middle, rfl⟩
    · simp only [unowned]
      have others := succeeds_findFunctions_of_reorders fixed reorders ⟨functions, _, found⟩ middle
      exact others.map _

theorem succeeds_findInterface_of_reorders {name : Text} {before : Session σ}
    (succeeds : Succeeds (host.findInterface view name) before) (start : Session σ) :
    Succeeds (host.findInterface other name) start := by
  rcases succeeds with ⟨result, after, done⟩
  rw [findInterface, reorders.readLink, reorders.readText]
  rcases findInterface_cases done with ⟨cause, unlinked, -⟩ |
    ⟨target, address, backing, linked, read, found, -⟩
  · simp only [unlinked]
    exact ⟨none, start, rfl⟩
  · simp only [linked]
    apply (succeeds_look read start).bind
    intro given middle _
    have behind := succeeds_findBacking_of_reorders fixed reorders ⟨backing, _, found⟩ middle
    exact behind.map _

theorem succeeds_interfaces_of_reorders {before : Session σ}
    (succeeds : Succeeds (host.interfaces view) before) (start : Session σ) :
    Succeeds (host.interfaces other) start := by
  rcases succeeds with ⟨table, after, done⟩
  rcases found_of_interfaces done with ⟨names, found, listed, walked, -⟩
  rcases reorders.list_ok listed with ⟨permuted, relisted, perm⟩
  apply (succeeds_look relisted start).bind
  intro given middle looked
  cases (look_ok looked).1.symm.trans relisted
  apply (succeeds_findInterfaces ?_ middle).map
  intro name member
  rcases (mem_of_findInterfaces walked).2 name (perm.mem_iff.mp member) with ⟨_, each⟩
  exact succeeds_findInterface_of_reorders fixed reorders each

end Fixed

/-! ## What is listed last -/

theorem linkedFunctions_last {device : Path} {front : List Text} {link : Text}
    {links : List (Nat × VirtualFunction)}
    (linked : linkedFunctions view device (front ++ [link]) = .ok links) {index : Nat} {pci : Text}
    (numbered : Interface.functionIndex? link = some index)
    (leads : linkName view (Path.join device link) = .ok pci) :
    ∃ others, links = others ++ [(index, ⟨pci, none⟩)] := by
  have last : [link].filterMap (fun name => (Interface.functionIndex? name).map fun index =>
      (index, name)) = [(index, link)] := by simp [numbered]
  rw [linkedFunctions, List.filterMap_append, last, List.mapM_append] at linked
  rcases first : linkedFunctions view device front with cause | others
  · rw [linkedFunctions] at first
    rw [first] at linked
    cases linked
  · rw [linkedFunctions] at first
    rw [first, List.mapM_cons, leads] at linked
    cases linked
    exact ⟨others, rfl⟩

theorem pci_of_findFunctions_last {name : Text} {device : Path} {before after : Session σ}
    {functions : SortedTable Nat VirtualFunction}
    (done : host.findFunctions view name device before = (.ok functions, after))
    {front : List Text} {link : Text} (listed : view.list device = .ok (front ++ [link]))
    {index : Nat} {pci : Text} (numbered : Interface.functionIndex? link = some index)
    (leads : linkName view (Path.join device link) = .ok pci) {function : VirtualFunction}
    (member : (index, function) ∈ functions) : function.pci = pci := by
  rcases links_of_findFunctions done with ⟨names, links, given, listed', linked, rfl, -⟩
  rw [listed] at listed'
  cases listed'
  rcases linkedFunctions_last linked numbered leads with ⟨others, rfl⟩
  rcases SortedTable.mem_mapValues.mp member with ⟨previous, inside, changed⟩
  have last : (index, ⟨pci, none⟩) ∈ SortedTable.ofEntries (others ++ [(index, ⟨pci, none⟩)]) := by
    rw [SortedTable.ofEntries_concat]
    exact SortedTable.mem_insert_self _ _ _
  cases (SortedTable.ascending_ofEntries _).value_eq inside last
  dsimp only at changed
  rw [changed]
  split <;> rfl

theorem findFunctions_of_findInterface {name : Text} {before after : Session σ}
    {interface : Interface}
    (done : host.findInterface view name before = (.ok (some interface), after))
    {functions : SortedTable Nat VirtualFunction}
    (given : interface.backing.functions? = some functions) :
    ∃ start stop, host.findFunctions view name
      (Interface.device (Path.join host.settings.deviceLinks name)) start =
        (.ok functions, stop) := by
  rcases findInterface_cases done with ⟨_, _, nothing⟩ | ⟨target, _, backing, _, _, found, same⟩
  · cases nothing
  · cases same
    rcases findBacking_cases found with ⟨_, rfl⟩ |
      ⟨_, pci, _, ⟨_, _, rfl⟩ | ⟨_, _, _, counted, rfl⟩⟩
    · cases given
    · cases given
    · cases given
      exact ⟨_, _, counted⟩

theorem pci_of_interfaces_last {before after : Session σ} {table : SortedTable Text Interface}
    (done : host.interfaces view before = (.ok table, after)) {name link pci : Text} {index : Nat}
    {front : List Text}
    (listed : view.list (Interface.device (Path.join host.settings.deviceLinks name)) =
      .ok (front ++ [link])) (numbered : Interface.functionIndex? link = some index)
    (leads : linkName view (Path.join
      (Interface.device (Path.join host.settings.deviceLinks name)) link) = .ok pci)
    {interface : Interface} (member : (name, interface) ∈ table)
    {functions : SortedTable Nat VirtualFunction}
    (given : interface.backing.functions? = some functions) {function : VirtualFunction}
    (inside : (index, function) ∈ functions) : function.pci = pci := by
  rcases found_of_interfaces done with ⟨names, found, -, walked, rfl⟩
  rcases SortedTable.mem_mapValues.mp member with ⟨previous, entered, reconciled⟩
  cases reconciled
  rcases Interface.exists_function_of_reconciled given inside with
    ⟨functions', given', function', inside', samePci, -⟩
  rcases (mem_of_findInterfaces walked).1 _ (SortedTable.mem_of_mem_ofEntries entered) with
    ⟨_, _, looked⟩
  rcases findFunctions_of_findInterface looked given' with ⟨_, _, counted⟩
  exact samePci.trans (pci_of_findFunctions_last counted listed numbered leads inside')

theorem mac_of_interfaces_last {before after : Session σ} {table : SortedTable Text Interface}
    (done : host.interfaces view before = (.ok table, after)) {front : List Text}
    {last pci mac : Text}
    (listed : view.list host.settings.deviceLinks = .ok (front ++ [last]))
    (links : host.LinksDevice view last pci mac) {name : Text} {interface : Interface}
    (member : (name, interface) ∈ table) {functions : SortedTable Nat VirtualFunction}
    (given : interface.backing.functions? = some functions) {index : Nat}
    {function : VirtualFunction} (inside : (index, function) ∈ functions)
    (samePci : function.pci = pci) : function.mac = some mac := by
  rcases found_of_interfaces done with ⟨names, found, listed', walked, rfl⟩
  rw [listed] at listed'
  cases listed'
  rcases findInterfaces_ok walked with ⟨visits, rfl, same, holds, -⟩
  rw [List.filter_append, List.filter_cons_of_pos links.listed.1, List.filter_nil,
    List.map_eq_append_iff] at same
  rcases same with ⟨others, rest, rfl, -, single⟩
  rcases List.map_eq_singleton_iff.mp single with ⟨visit, rfl, rfl⟩
  have held := holds visit (by simp)
  have known : Interface.macAt? ((others ++ [visit]).map InterfaceVisit.entry) pci = some mac := by
    rcases (held.shows.linksDevice_iff links.listed).mp links with ⟨bus, address⟩
    simp [Interface.macAt?, InterfaceVisit.entry, bus, address]
  rcases SortedTable.mem_mapValues.mp member with ⟨previous, -, reconciled⟩
  cases reconciled
  rcases Interface.exists_function_of_reconciled given inside with ⟨_, _, _, _, _, sameMac⟩
  rw [samePci, known] at sameMac
  exact sameMac

/-! ## Enumerations that do not depend on the order -/

section Fixed

variable {answers : CommandLine → Except Error Output} (fixed : host.runner.Fixed answers)

include fixed

theorem orderFree_of_unambiguous (unambiguous : host.Unambiguous view) : host.OrderFree view := by
  intro one other reorders reorders' before before' table table' done done'
  have reports := reports_of_interfaces fixed (Prod.ext done rfl)
  have reports' := reports_of_interfaces fixed (Prod.ext done' rfl)
  exact (reports.reordered reorders.symm).unique unambiguous (reports'.reordered reorders'.symm)

variable (orderFree : host.OrderFree view) {before : Session σ}
  (succeeds : Succeeds (host.interfaces view) before)

include orderFree succeeds

theorem OrderFree.exists_table (first second : Text) :
    ∃ table, host.Reports view answers table ∧
      (∃ start stop, host.interfaces (view.listingLast first) start = (.ok table, stop)) ∧
      ∃ start stop, host.interfaces (view.listingLast second) start = (.ok table, stop) := by
  have reorders := view.listingLast_reorders first
  have reorders' := view.listingLast_reorders second
  rcases succeeds_interfaces_of_reorders fixed reorders succeeds before with ⟨table, stop, done⟩
  rcases succeeds_interfaces_of_reorders fixed reorders' succeeds before with
    ⟨table', stop', done'⟩
  cases orderFree _ _ reorders reorders' _ _ table table' (congrArg Prod.fst done)
    (congrArg Prod.fst done')
  have reports := (reports_of_interfaces fixed done).reordered reorders.symm
  exact ⟨table, reports, ⟨before, stop, done⟩, before, stop', done'⟩

theorem OrderFree.numbers {name pci other : Text} {index : Nat}
    (links : host.LinksFunction view name index pci)
    (links' : host.LinksFunction view name index other) : pci = other := by
  rcases links.link with ⟨names, listed, link, member, numbered, leads⟩
  rcases links'.link with ⟨names', listed', link', member', numbered', leads'⟩
  rcases orderFree.exists_table fixed succeeds link link' with
    ⟨table, reports, ⟨_, _, done⟩, _, _, done'⟩
  rcases reports.exists_function links with
    ⟨interface, inTable, functions, given, function, inside⟩
  calc
    pci = function.pci := (pci_of_interfaces_last done (FileView.list_listingLast listed member)
      numbered leads inTable given inside).symm
    _ = other := pci_of_interfaces_last done' (FileView.list_listingLast listed' member')
      numbered' leads' inTable given inside

theorem OrderFree.addresses {name pci : Text} {index : Nat}
    (links : host.LinksFunction view name index pci) {one mac other otherMac : Text}
    (linksOne : host.LinksDevice view one pci mac)
    (linksOther : host.LinksDevice view other pci otherMac) : mac = otherMac := by
  rcases orderFree.exists_table fixed succeeds one other with
    ⟨table, reports, ⟨_, _, done⟩, _, _, done'⟩
  rcases reports.exists_function links with
    ⟨interface, inTable, functions, given, function, inside⟩
  -- The bus address in the table has to be known first: it is fixed by the numbers.
  have samePci : function.pci = pci :=
    orderFree.numbers fixed succeeds (reports.linksFunction inTable given inside) links
  rcases linksOne.listed.2 with ⟨names, listed, member⟩
  rcases linksOther.listed.2 with ⟨names', listed', member'⟩
  have first := mac_of_interfaces_last done (FileView.list_listingLast listed member)
    (linksOne.reordered (view.listingLast_reorders one)) inTable given inside samePci
  have second := mac_of_interfaces_last done' (FileView.list_listingLast listed' member')
    (linksOther.reordered (view.listingLast_reorders other)) inTable given inside samePci
  exact Option.some.inj (first.symm.trans second)

end Fixed

end Host

/-- An enumeration gives one table for all orders exactly if nothing that it enters under one key
is there in two ways, or if it fails, which it then does for all orders. -/
theorem orderFree_iff {answers : CommandLine → Except Error Output}
    (fixed : host.runner.Fixed answers) :
    host.OrderFree view ↔
      ((∃ before table, (host.interfaces view before).1 = .ok table) →
        host.Unambiguous view) := by
  constructor
  · rintro orderFree ⟨before, table, done⟩
    have succeeds : Computation.Succeeds (host.interfaces view) before :=
      ⟨table, _, Prod.ext done rfl⟩
    refine ⟨?_, ?_⟩
    · intro name index pci other links links'
      exact orderFree.numbers fixed succeeds links links'
    · intro name index pci links one mac other otherMac linksOne linksOther
      exact orderFree.addresses fixed succeeds links linksOne linksOther
  · intro unambiguous one other reorders reorders' before before' table table' done
    have succeeds := Host.succeeds_interfaces_of_reorders fixed reorders.symm
      ⟨table, _, Prod.ext done rfl⟩ before
    rcases succeeds with ⟨given, after, ends⟩
    exact Host.orderFree_of_unambiguous fixed
      (unambiguous ⟨before, given, congrArg Prod.fst ends⟩) one other reorders reorders' before
      before' table table' done

theorem orderFree_iff_apart :
    let view : FileView := {
      list := fun path => (List.lookup path
        [("/sys/class/net".toList, ["e1".toList, "e0".toList]),
          ("/sys/class/net/e0/device".toList, ["virtfn1".toList, "virtfn0".toList])]).elim
            (.error Refusal.notFound.fault) .ok
      readLink := fun path => (List.lookup path
        [("/sys/class/net/e0".toList, "../../devices/p/net/e0".toList),
          ("/sys/class/net/e0/device".toList, "../../../p".toList),
          ("/sys/class/net/e0/device/virtfn0".toList, "../v".toList),
          ("/sys/class/net/e0/device/virtfn1".toList, "../w".toList),
          ("/sys/class/net/e1".toList, "../../devices/v/net/e1".toList),
          ("/sys/class/net/e1/device".toList, "../../../v".toList),
          ("/sys/class/net/e1/device/physfn".toList, "../p".toList)]).elim
            (.error Refusal.notFound.fault) .ok
      readText := fun path => (List.lookup path
        [("/sys/class/net/e0/address".toList, "0A\n".toList),
          ("/sys/class/net/e1/address".toList, "0B\n".toList)]).elim
            (.error Refusal.notFound.fault) .ok }
    let host : Host Unit := ⟨.standard, .scripted []⟩
    host.runner.Fixed (Script.answer []) ∧ (host.interfaces view ⟨(), []⟩).1.isOk = true ∧
      host.OrderFree view := by
  intro view host
  have fixed : host.runner.Fixed (Script.answer []) := Runner.fixed_ofFunction _
  refine ⟨fixed, by decide +kernel, (orderFree_iff fixed).mpr ?_⟩
  have listed : view.list host.settings.deviceLinks = .ok ["e1".toList, "e0".toList] := by
    decide +kernel
  have named : ∀ name, host.HasInterface view name → name = "e1".toList ∨ name = "e0".toList := by
    rintro name ⟨-, names, given, member⟩
    cases listed.symm.trans given
    simpa using member
  rintro -
  refine ⟨?_, ?_⟩
  · intro name index pci other links links'
    rcases named name links.listed with rfl | rfl
    · exact absurd links.owns (by decide +kernel)
    · have numbers : view.list (Interface.device (Path.join host.settings.deviceLinks
          "e0".toList)) = .ok ["virtfn1".toList, "virtfn0".toList] := by decide +kernel
      rcases links.link with ⟨names, given, link, member, numbered, leads⟩
      rcases links'.link with ⟨names', given', link', member', numbered', leads'⟩
      cases numbers.symm.trans given
      cases numbers.symm.trans given'
      have same : link = link' := by
        simp only [List.mem_cons, List.not_mem_nil, or_false] at member member'
        rcases member with rfl | rfl <;> rcases member' with rfl | rfl
        · rfl
        · exact absurd (numbered.trans numbered'.symm) (by decide)
        · exact absurd (numbered.trans numbered'.symm) (by decide)
        · rfl
      cases same
      exact Except.ok.inj (leads.symm.trans leads')
  · intro name index pci _ one mac other otherMac links links'
    have same : one = other := by
      rcases named one links.listed with rfl | rfl <;>
        rcases named other links'.listed with rfl | rfl
      · rfl
      · exact absurd (links.bus.trans links'.bus.symm) (by decide +kernel)
      · exact absurd (links.bus.trans links'.bus.symm) (by decide +kernel)
      · rfl
    cases same
    rcases links.address with ⟨text, read, rfl⟩
    rcases links'.address with ⟨text', read', rfl⟩
    cases read.symm.trans read'
    rfl

/-- Two interfaces are at the bus address of a function, and the one listed last decides. -/
theorem not_orderFree_shared :
    let view : FileView := {
      list := fun path => (List.lookup path
        [("/sys/class/net".toList, ["e0".toList, "e1".toList, "e2".toList]),
          ("/sys/class/net/e0/device".toList, ["virtfn0".toList])]).elim
            (.error Refusal.notFound.fault) .ok
      readLink := fun path => (List.lookup path
        [("/sys/class/net/e0".toList, "../../devices/p/net/e0".toList),
          ("/sys/class/net/e0/device".toList, "../../../p".toList),
          ("/sys/class/net/e0/device/virtfn0".toList, "../v".toList),
          ("/sys/class/net/e1".toList, "../../devices/v/net/e1".toList),
          ("/sys/class/net/e1/device".toList, "../../../v".toList),
          ("/sys/class/net/e1/device/physfn".toList, "../p".toList),
          ("/sys/class/net/e2".toList, "../../devices/v/net/e2".toList),
          ("/sys/class/net/e2/device".toList, "../../../v".toList),
          ("/sys/class/net/e2/device/physfn".toList, "../p".toList)]).elim
            (.error Refusal.notFound.fault) .ok
      readText := fun path => (List.lookup path
        [("/sys/class/net/e0/address".toList, "0A\n".toList),
          ("/sys/class/net/e1/address".toList, "0B\n".toList),
          ("/sys/class/net/e2/address".toList, "0C\n".toList)]).elim
            (.error Refusal.notFound.fault) .ok }
    let host : Host Unit := ⟨.standard, .scripted []⟩
    let table (mac : Text) : SortedTable Text Interface := [
      ("e0".toList, ⟨"0a".toList, .device "p".toList [(0, ⟨"v".toList, some mac⟩)]⟩),
      ("e1".toList, ⟨"0b".toList, .function "v".toList "p".toList⟩),
      ("e2".toList, ⟨"0c".toList, .function "v".toList "p".toList⟩)]
    host.runner.Fixed (Script.answer []) ∧
      (host.interfaces view ⟨(), []⟩).1 = .ok (table "0c".toList) ∧
      (host.interfaces (view.listingLast "e1".toList) ⟨(), []⟩).1 = .ok (table "0b".toList) ∧
      ¬host.OrderFree view := by
  intro view host table
  have given : (host.interfaces view ⟨(), []⟩).1 = .ok (table "0c".toList) := by decide +kernel
  have other : (host.interfaces (view.listingLast "e1".toList) ⟨(), []⟩).1 =
      .ok (table "0b".toList) := by decide +kernel
  refine ⟨Runner.fixed_ofFunction _, given, other, ?_⟩
  intro orderFree
  have same := orderFree view (view.listingLast "e1".toList) ⟨fun _ => rfl, rfl, rfl⟩
    (view.listingLast_reorders _) _ _ _ _ given other
  exact absurd same (by decide)

end NetAdmin
