import NetAdmin.Address.Literal
import NetAdmin.Json.Decode
import NetAdmin.Json.Reader
import NetAdmin.Text.Blank
import NetAdmin.Text.UpperCase
/-!
What the queries of one link report. A query prints a JSON array with one
object per link, perhaps behind some other output, or nothing at all. The link
query tells the hardware address, the state and the type; the address query
tells the first address of the link with what belongs to it.
-/

namespace NetAdmin

structure LinkDetails where
  mac : Option Text
  state : Option Text
  kind : Option Text
  deriving DecidableEq, Repr

structure AddressDetails where
  address : Address
  length : Option Nat
  broadcast : Option Address
  vlan : Option Nat
  deriving DecidableEq, Repr

/-! ## The report -/

/-- The part of a report from its first opening bracket on, all of it if there
is none, and nothing if the report is blank. -/
def reportedJson? (report : Text) : Option Text :=
  match Text.trim report with
  | [] => none
  | text => some
      (match text.dropWhile (· != '[') with
      | [] => text
      | rest => rest)

def readReport {α : Type} (decode : Json → Option α) (json : Text) : Except Error (List α) :=
  match (Json.read? json).bind (Json.items? decode) with
  | some items => .ok items
  | none => .error .malformedJson

/-! ## Links -/

namespace LinkDetails

def ofJson? (value : Json) : Option LinkDetails := do
  match ← Json.record? ["address".toList, "operstate".toList, "link_type".toList] value with
  | [mac, state, kind] =>
      let mac ← Json.optional? Json.text? mac
      let state ← Json.optional? Json.text? state
      let kind ← Json.optional? Json.text? kind
      some ⟨mac.map Text.upper, state, kind⟩
  | _ => none

def ofReport (report : Text) : Except Error (Option LinkDetails) :=
  match reportedJson? report with
  | none => .ok none
  | some json => (readReport ofJson? json).map List.head?

end LinkDetails

/-! ## Addresses -/

structure ReportedAddress where
  address : Option Text
  length : Option Nat
  broadcast : Option Text
  deriving DecidableEq, Repr

structure ReportedKind where
  kind : Option Text
  data : Option Json
  deriving DecidableEq

structure ReportedLink where
  addresses : List ReportedAddress
  kind : Option ReportedKind
  deriving DecidableEq

namespace ReportedAddress

def ofJson? (value : Json) : Option ReportedAddress := do
  match ← Json.record? ["local".toList, "prefixlen".toList, "broadcast".toList] value with
  | [address, length, broadcast] =>
      let address ← Json.optional? Json.text? address
      let length ← Json.optional? Json.byte? length
      let broadcast ← Json.optional? Json.text? broadcast
      some ⟨address, length, broadcast⟩
  | _ => none

end ReportedAddress

namespace ReportedKind

def dataLevel : Nat := 3

def data? (value : Json) : Option Json :=
  if value.isSound && value.depth + dataLevel ≤ Json.nestingLimit then some value else none

def ofJson? (value : Json) : Option ReportedKind := do
  match ← Json.record? ["info_kind".toList, "info_data".toList] value with
  | [kind, data] =>
      let kind ← Json.optional? Json.text? kind
      let data ← Json.optional? data? data
      some ⟨kind, data⟩
  | _ => none

def vlan? (kind : ReportedKind) : Option Nat :=
  if kind.kind = some "vlan".toList then do
    let number ← (← (← kind.data).field? "id".toList).natural?
    if number < 0x10000 then some number else none
  else none

end ReportedKind

namespace ReportedLink

def ofJson? (value : Json) : Option ReportedLink := do
  match ← Json.record? ["addr_info".toList, "linkinfo".toList] value with
  | [addresses, kind] =>
      let addresses ← match addresses with
        | none => some []
        | some value => Json.items? ReportedAddress.ofJson? value
      let kind ← Json.optional? ReportedKind.ofJson? kind
      some ⟨addresses, kind⟩
  | _ => none

def firstAddress? (link : ReportedLink) : Option (Text × ReportedAddress) :=
  link.addresses.findSome? fun entry => entry.address.map fun address => (address, entry)

end ReportedLink

namespace AddressDetails

def readAddress (text : Text) : Except Error Address :=
  match Address.read? text with
  | some address => .ok address
  | none =>
      .error (.unreadable "IP address".toList (Text.quoted text ++ " is not an address".toList))

def ofEntry (link : ReportedLink) (text : Text) (entry : ReportedAddress) :
    Except Error AddressDetails := do
  let address ← readAddress text
  let broadcast ← entry.broadcast.mapM readAddress
  return { address, length := entry.length, broadcast, vlan := link.kind.bind (·.vlan?) }

def ofLinks : List ReportedLink → Except Error (Option AddressDetails)
  | [] => .ok none
  | link :: links =>
      match link.firstAddress? with
      | none => ofLinks links
      | some (text, entry) => (ofEntry link text entry).map some

def ofReport (report : Text) : Except Error (Option AddressDetails) :=
  match reportedJson? report with
  | none => .ok none
  | some json => (readReport ReportedLink.ofJson? json).bind ofLinks

end AddressDetails
end NetAdmin
