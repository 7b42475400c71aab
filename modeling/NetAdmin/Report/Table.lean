import NetAdmin.Address.Literal
import NetAdmin.Interface.Discovery
import NetAdmin.Registry.Entry
import NetAdmin.Text.Grid
import NetAdmin.Topology
/-!
What was found as tables with one row per link, interface or route table. A
dash stands for what is absent.
-/

namespace NetAdmin

def orDash {α : Type} (write : α → Text) (value : Option α) : Text :=
  (value.map write).getD ['-']

namespace LinkRecord

def addressCell (link : LinkRecord) : Text :=
  match link.address, link.length with
  | some address, some length => address.write ++ '/' :: Decimal.write length
  | address, _ => orDash Address.write address

def cells (network : Text) (link : LinkRecord) : List Text :=
  [if network.isEmpty then "(default)".toList else network,
    Decimal.write link.index,
    link.device,
    link.state.name,
    orDash id link.mac,
    link.addressCell,
    orDash Address.write link.network,
    orDash Decimal.write link.vlan]

end LinkRecord

namespace Topology

def heading : List Text :=
  ["NAMESPACE", "INDEX", "DEVICE", "STATE", "MAC", "ADDRESS", "SUBNET", "VLAN"].map String.toList

def table (topology : Topology) : Text :=
  Text.grid heading (topology.links.map fun entry => entry.2.cells entry.1)

end Topology

namespace InterfaceFacts

/-- The virtual functions of an interface, each with its hardware address or
else its bus address. -/
def functionsCell (facts : InterfaceFacts) : Text :=
  orDash
    (fun functions => Text.glue ' ' (functions.map fun entry =>
      Decimal.write entry.1 ++ ':' :: entry.2.mac.getD entry.2.pci))
    facts.functions

def cells (name : Text) (facts : InterfaceFacts) : List Text :=
  [name,
    if facts.physical then "true".toList else "false".toList,
    facts.mac,
    orDash id facts.pci,
    orDash id facts.owner,
    facts.functionsCell]

end InterfaceFacts

namespace Interface

def heading : List Text :=
  ["NAME", "PHYSICAL", "MAC", "PCI", "PHYSFN", "VFS"].map String.toList

def table (interfaces : SortedTable Text Interface) : Text :=
  Text.grid heading (interfaces.map fun entry => entry.2.facts.cells entry.1)

end Interface

namespace TableEntry

def heading : List Text :=
  ["NUMBER", "NAME"].map String.toList

def table (entries : List TableEntry) : Text :=
  Text.grid heading (entries.map fun entry => [Decimal.write entry.number, entry.name])

end TableEntry
end NetAdmin
