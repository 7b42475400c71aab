import NetAdmin.Address.Literal
import NetAdmin.Interface.Discovery
import NetAdmin.Json.Writer
import NetAdmin.Registry.Entry
import NetAdmin.Topology
/-!
What was found as JSON documents. The fields of a record come in the order in
which the record declares them, and what is absent is null.
-/

namespace NetAdmin

namespace Address

def toJson (address : Address) : Json :=
  .ofText address.write

end Address

namespace LinkRecord

def toJson (link : LinkRecord) : Json :=
  .ofFields
    [("device", .ofText link.device),
      ("index", .ofNat link.index),
      ("mac", .ofOption .ofText link.mac),
      ("opstate", .ofText link.state.name),
      ("link_type", .ofOption .ofText link.kind),
      ("address", .ofOption Address.toJson link.address),
      ("address_prefix_length", .ofOption .ofNat link.length),
      ("address_subnet", .ofOption Address.toJson link.network),
      ("broadcast", .ofOption Address.toJson link.broadcast),
      ("vlan_id", .ofOption .ofNat link.vlan)]

end LinkRecord

namespace NamespaceLinks

def toJson (found : NamespaceLinks) : Json :=
  .ofFields [("name", .ofText found.name), ("links", .array (found.links.map LinkRecord.toJson))]

end NamespaceLinks

namespace InspectionFailure

def toJson (failure : InspectionFailure) : Json :=
  .ofFields
    [("namespace", .ofText failure.network),
      ("device", .ofOption .ofText failure.device),
      ("message", .ofText failure.message)]

end InspectionFailure

namespace Topology

def toJson (topology : Topology) : Json :=
  .ofFields
    [("namespaces", .array (topology.namespaces.map NamespaceLinks.toJson)),
      ("failures", .array (topology.failures.map InspectionFailure.toJson))]

end Topology

namespace VirtualFunction

def toJson (function : VirtualFunction) : Json :=
  .ofFields [("pci_id", .ofText function.pci), ("mac", .ofOption .ofText function.mac)]

end VirtualFunction

namespace InterfaceFacts

def functionsToJson (functions : SortedTable Nat VirtualFunction) : Json :=
  .object (functions.map fun entry => (some (Decimal.write entry.1), entry.2.toJson))

def toJson (facts : InterfaceFacts) : Json :=
  .ofFields
    [("physical", .bool facts.physical),
      ("mac", .ofText facts.mac),
      ("pci_id", .ofOption .ofText facts.pci),
      ("is_virtual_function", .bool facts.isFunction),
      ("physfn", .ofOption .ofText facts.owner),
      ("virtual_functions", .ofOption functionsToJson facts.functions)]

end InterfaceFacts

def Interface.tableToJson (interfaces : SortedTable Text Interface) : Json :=
  .object (interfaces.map fun entry => (some entry.1, entry.2.facts.toJson))

namespace TableEntry

def toJson (entry : TableEntry) : Json :=
  .ofFields [("number", .ofNat entry.number), ("name", .ofText entry.name)]

def listToJson (entries : List TableEntry) : Json :=
  .array (entries.map toJson)

end TableEntry
end NetAdmin
