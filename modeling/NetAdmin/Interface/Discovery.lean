import NetAdmin.Command.Basic
import NetAdmin.Files.View
import NetAdmin.Interface.FunctionListing
import NetAdmin.SortedTable
import NetAdmin.Text.LowerCase
/-!
The network interfaces of a host as its device tree shows them. A directory
holds one link per interface; the link leads to the device behind it. A device
may be virtual, it may be a virtual function of another device, or it may have
virtual functions of its own.

The hardware address of a virtual function is that of the interface with the
same bus address, if the host has one, and otherwise the address that the
listing of the owning interface shows.
-/

namespace NetAdmin

structure VirtualFunction where
  pci : Text
  mac : Option Text
  deriving DecidableEq, Repr

inductive Backing
  | virtual
  /-- A virtual function, with the bus address of the device it belongs to. -/
  | function (pci owner : Text)
  /-- A device with its virtual functions by number. -/
  | device (pci : Text) (functions : SortedTable Nat VirtualFunction)
  deriving DecidableEq, Repr

namespace Backing

def isPhysical : Backing → Bool
  | .virtual => false
  | _ => true

def isFunction : Backing → Bool
  | .function _ _ => true
  | _ => false

def pci? : Backing → Option Text
  | .virtual => none
  | .function pci _ | .device pci _ => some pci

def owner? : Backing → Option Text
  | .function _ owner => some owner
  | _ => none

def functions? : Backing → Option (SortedTable Nat VirtualFunction)
  | .device _ functions => some functions
  | _ => none

end Backing

structure Interface where
  mac : Text
  backing : Backing
  deriving DecidableEq, Repr

structure InterfaceFacts where
  physical : Bool
  mac : Text
  pci : Option Text
  isFunction : Bool
  owner : Option Text
  functions : Option (SortedTable Nat VirtualFunction)
  deriving DecidableEq, Repr

namespace Interface

def facts (interface : Interface) : InterfaceFacts where
  physical := interface.backing.isPhysical
  mac := interface.mac
  pci := interface.backing.pci?
  isFunction := interface.backing.isFunction
  owner := interface.backing.owner?
  functions := interface.backing.functions?

def virtualDevices : Path :=
  "../../devices/virtual".toList

def functionIndex? (name : Text) : Option Nat :=
  if "virtfn".toList.isPrefixOf name then Decimal.word? (name.drop 6) else none

def withListed (listed : List ListedFunction) (functions : SortedTable Nat VirtualFunction) :
    SortedTable Nat VirtualFunction :=
  functions.mapValues fun index function =>
    match listed.reverse.find? (·.index == index) with
    | some found => { function with mac := some found.mac }
    | none => function

abbrev Found := List (Text × Interface)

/-- The hardware address of the interface at a bus address. If several are
there it is the one found last. -/
def macAt? (found : Found) (pci : Text) : Option Text :=
  (found.reverse.find? fun entry => entry.2.backing.pci? == some pci).map (·.2.mac)

/-- Gives every function of an interface the hardware address of the interface
at its bus address. A function without such an interface stays. -/
def reconciled (found : Found) (interface : Interface) : Interface :=
  match interface.backing with
  | .device pci functions =>
      { interface with
        backing := .device pci (functions.mapValues fun _ function =>
          match macAt? found function.pci with
          | some mac => { function with mac := some mac }
          | none => function) }
  | _ => interface

end Interface

namespace Host

variable {σ : Type} (host : Host σ) (view : FileView)

def look {α : Type} (result : Except Fault α) : CommandM σ α :=
  MonadExcept.ofExcept (result.mapError Error.io)

def linkName (path : Path) : Except Fault Text :=
  (view.readLink path).map fun target => (Path.fileName? target).getD []

def functionListing (name : Text) : CommandLine :=
  host.ip [] ["link".toList, "show".toList, name]

def linkedFunctions (device : Path) (names : List Text) :
    Except Fault (List (Nat × VirtualFunction)) :=
  (names.filterMap fun name => (Interface.functionIndex? name).map fun index => (index, name)).mapM
    fun entry => (linkName view (Path.join device entry.2)).map fun pci =>
      (entry.1, { pci, mac := none })

def findFunctions (name : Text) (device : Path) :
    CommandM σ (SortedTable Nat VirtualFunction) := do
  let names ← look (view.list device)
  let functions := SortedTable.ofEntries (← look (linkedFunctions view device names))
  if functions.isEmpty then return functions
  else
    let listing ← host.checkedRun (host.functionListing name)
    return Interface.withListed (ListedFunction.ofListing listing) functions

def findBacking (name : Text) (path target : Path) : CommandM σ Backing := do
  if Path.startsWith Interface.virtualDevices target then return .virtual
  else
    let device := Path.join path "device".toList
    let pci ← look (linkName view device)
    match linkName view (Path.join device "physfn".toList) with
    | .ok owner => return .function pci owner
    | .error _ => return .device pci (← host.findFunctions view name device)

def findInterface (name : Text) : CommandM σ (Option Interface) := do
  let path := Path.join host.settings.deviceLinks name
  match view.readLink path with
  | .error _ => return none
  | .ok target =>
      let address ← look (view.readText (Path.join path "address".toList))
      let backing ← host.findBacking view name path target
      return some { mac := Text.lower (Text.trim address), backing }

def findInterfaces : List Text → CommandM σ Interface.Found
  | [] => return []
  | name :: others => do
      let interface ← host.findInterface view name
      let found ← findInterfaces others
      return (interface.map fun interface => (name, interface)).toList ++ found

def interfaces : CommandM σ (SortedTable Text Interface) := do
  let names ← look (view.list host.settings.deviceLinks)
  let found ← host.findInterfaces view names
  return (SortedTable.ofEntries found).mapValues fun _ => Interface.reconciled found

end Host
end NetAdmin
