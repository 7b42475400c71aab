import NetAdmin.Command.Basic
import NetAdmin.Link.Record
/-!
The links of every network namespace of a host. Namespaces are listed first,
then the links of each, and every link is queried twice. A query that fails
leaves its fields out and is remembered as a failure; it stops nothing else.
-/

namespace NetAdmin

/-- The links found in one namespace. The empty name is the default namespace. -/
structure NamespaceLinks where
  name : Text
  links : List LinkRecord
  deriving DecidableEq, Repr

structure InspectionFailure where
  network : Text
  device : Option Text
  message : Text
  deriving DecidableEq, Repr

structure Topology where
  namespaces : List NamespaceLinks
  failures : List InspectionFailure
  deriving DecidableEq, Repr

namespace Topology

def get? (topology : Topology) (name : Text) : Option (List LinkRecord) :=
  (topology.namespaces.find? fun found => found.name == name).map (·.links)

def links (topology : Topology) : List (Text × LinkRecord) :=
  topology.namespaces.flatMap fun found => found.links.map fun link => (found.name, link)

end Topology

namespace Host

variable {σ : Type} (host : Host σ)

/-! ## Command lines -/

def namespaceListing : CommandLine :=
  host.ip [] ["netns".toList, "list".toList]

def linkListing (network : Text) : CommandLine :=
  host.ip network ["-oneline".toList, "link".toList, "list".toList]

def linkQuery (network device : Text) : CommandLine :=
  host.ip network
    ["-oneline".toList, "-json".toList, "link".toList, "show".toList, "dev".toList, device]

def addressQuery (network device : Text) : CommandLine :=
  host.ip network
    ["--details".toList, "-json".toList, "address".toList, "show".toList, "dev".toList, device]

/-! ## Queries -/

def listNamespaces : CommandM σ (List Text) := do
  return namespaceNames (← host.checkedRun host.namespaceListing)

def listLinks (network : Text) : CommandM σ (List ListedLink) := do
  return ListedLink.ofListing (← host.checkedRun (host.linkListing network))

def queryLink (network device : Text) : CommandM σ (Option LinkDetails) := do
  let report ← host.checkedRun (host.linkQuery network device)
  MonadExcept.ofExcept (LinkDetails.ofReport report)

def queryAddress (network device : Text) : CommandM σ (Option AddressDetails) := do
  let report ← host.checkedRun (host.addressQuery network device)
  MonadExcept.ofExcept (AddressDetails.ofReport report)

/-- Runs a query of a device. A query that fails reports nothing, and the
failure is handed on beside that. -/
def tolerating {α : Type} (network : Text) (device : Option Text) (empty : α)
    (query : CommandM σ α) : CommandM σ (α × List InspectionFailure) := do
  try
    return (← query, [])
  catch error =>
    return (empty, [{ network, device, message := error.message }])

/-! ## Inspection -/

def inspectLink (network : Text) (listed : ListedLink) :
    CommandM σ (Option LinkRecord × List InspectionFailure) := do
  let (link, linkFailures) ←
    tolerating network (some listed.device) none (host.queryLink network listed.device)
  let (address, addressFailures) ←
    tolerating network (some listed.device) none (host.queryAddress network listed.device)
  return (LinkRecord.merge listed link address, linkFailures ++ addressFailures)

/-- Queries listed links one after the other. Links of which nothing is
reported are left out. -/
def inspectLinks (network : Text) :
    List ListedLink → CommandM σ (List LinkRecord × List InspectionFailure)
  | [] => return ([], [])
  | listed :: others => do
      let (record, failures) ← host.inspectLink network listed
      let (records, otherFailures) ← inspectLinks network others
      return (record.toList ++ records, failures ++ otherFailures)

def inspectNamespace (network : Text) : CommandM σ NamespaceLinks := do
  let listed ← host.listLinks network
  let (links, _) ← host.inspectLinks network listed
  return { name := network, links }

/-- Inspects one namespace. If its links cannot be listed it has none, and the
failure is handed on. -/
def collectNamespace (network : Text) :
    CommandM σ (NamespaceLinks × List InspectionFailure) := do
  let (listed, listingFailures) ← tolerating network none [] (host.listLinks network)
  let (links, failures) ← host.inspectLinks network listed
  return ({ name := network, links }, listingFailures ++ failures)

def collectNamespaces : List Text → CommandM σ Topology
  | [] => return ⟨[], []⟩
  | network :: others => do
      let (found, failures) ← host.collectNamespace network
      let rest ← collectNamespaces others
      return ⟨found :: rest.namespaces, failures ++ rest.failures⟩

/-- Inspects every namespace, the default one last. Only the listing of the
namespaces must not fail. -/
def inspect : CommandM σ Topology := do
  host.collectNamespaces ((← host.listNamespaces) ++ [[]])

end Host
end NetAdmin
