import NetAdmin.Link.Details
import NetAdmin.Link.Listing
/-!
The state of one link, put together from its two queries.
-/

namespace NetAdmin

inductive LinkState
  | up
  | down
  /-- A state is reported that says nothing, as for loopback links. -/
  | unknown
  /-- No state is reported. -/
  | absent
  deriving DecidableEq, Repr

namespace LinkState

def ofReported : Option Text → LinkState
  | none => .absent
  | some state =>
      let name := state.map Char.toUpper
      if name = "UP".toList then .up
      else if name = "DOWN".toList ∨ name = "LOWERLAYERDOWN".toList then .down
      else if name = "NOTPRESENT".toList then .absent
      else .unknown

def name : LinkState → Text
  | .up => "up".toList
  | .down => "down".toList
  | .unknown => "unknown".toList
  | .absent => "absent".toList

end LinkState

/-- The state of a link. What belongs to the address of the link is there only
if an address is. -/
structure LinkRecord where
  device : Text
  index : Nat
  mac : Option Text
  state : LinkState
  kind : Option Text
  address : Option Address
  length : Option Nat
  /-- The network that the address belongs to by its length. -/
  network : Option Address
  broadcast : Option Address
  vlan : Option Nat
  deriving DecidableEq, Repr

namespace LinkRecord

def networkOf (details : AddressDetails) : Option Address :=
  details.length.bind fun length => (details.address.network length).toOption

/-- The record of a listed link from what its queries reported, if either
reported anything. -/
def merge (listed : ListedLink) : Option LinkDetails → Option AddressDetails → Option LinkRecord
  | none, none => none
  | link, address => some
      { device := listed.device
        index := listed.index
        mac := link.bind (·.mac)
        state := LinkState.ofReported (link.bind (·.state))
        kind := link.bind (·.kind)
        address := address.map (·.address)
        length := address.bind (·.length)
        network := address.bind networkOf
        broadcast := address.bind (·.broadcast)
        vlan := address.bind (·.vlan) }

end LinkRecord
end NetAdmin
