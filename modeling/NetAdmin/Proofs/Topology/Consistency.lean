import NetAdmin.Command.Scripted
import NetAdmin.Proofs.Address.Network
import NetAdmin.Proofs.Topology.Survey
/-!
What holds of every record that an inspection finds. Records come from merging what two
queries report, and merging gives consistent records whatever was reported
(`LinkRecord.consistent_of_merge`): nothing belongs to an address that is missing, and the
network is the one of the address and its length, exactly if there is one.
-/

namespace NetAdmin

namespace LinkRecord

/-- What belongs to an address is there only with the address, and the network is there
exactly if the address has a length that its family allows. -/
structure Consistent (record : LinkRecord) : Prop where
  belongings : record.address = none →
    record.length = none ∧ record.network = none ∧ record.broadcast = none ∧ record.vlan = none
  hasNetwork_iff : record.network.isSome ↔ ∃ address length,
    record.address = some address ∧ record.length = some length ∧ length ≤ address.width
  isNetwork : ∀ address length network, record.address = some address →
    record.length = some length → record.network = some network →
      address.IsNetwork length network

theorem networkOf_eq_some_iff {details : AddressDetails} {network : Address} :
    networkOf details = some network ↔ ∃ length, details.length = some length ∧
      length ≤ details.address.width ∧ details.address.IsNetwork length network := by
  rw [networkOf, Option.bind_eq_some_iff]
  apply exists_congr
  intro length
  rw [← Address.network_eq_ok_iff]
  rcases details.address.network length with error | found
  · simp [Except.toOption]
  · simp [Except.toOption]

theorem consistent_of_details {record : LinkRecord} {details : AddressDetails}
    (address : record.address = some details.address) (length : record.length = details.length)
    (network : record.network = networkOf details) : record.Consistent where
  belongings missing := by
    rw [address] at missing
    cases missing
  hasNetwork_iff := by
    rw [network, length, address]
    constructor
    · intro found
      rcases Option.isSome_iff_exists.mp found with ⟨network, same⟩
      rcases networkOf_eq_some_iff.mp same with ⟨length, given, fits, -⟩
      exact ⟨details.address, length, rfl, given, fits⟩
    · rintro ⟨address, length, same, given, fits⟩
      cases same
      rcases Address.exists_network fits with ⟨network, -, isNetwork⟩
      exact Option.isSome_iff_exists.mpr
        ⟨network, networkOf_eq_some_iff.mpr ⟨length, given, fits, isNetwork⟩⟩
  isNetwork other otherLength found same sameLength sameNetwork := by
    rw [address] at same
    cases same
    rw [network] at sameNetwork
    rcases networkOf_eq_some_iff.mp sameNetwork with ⟨given, isLength, -, isNetwork⟩
    rw [← length, sameLength] at isLength
    cases isLength
    exact isNetwork

theorem consistent_of_no_address {record : LinkRecord} (address : record.address = none)
    (length : record.length = none) (network : record.network = none)
    (broadcast : record.broadcast = none) (vlan : record.vlan = none) : record.Consistent where
  belongings _ := ⟨length, network, broadcast, vlan⟩
  hasNetwork_iff := by simp [address, network]
  isNetwork other otherLength found same := by
    rw [address] at same
    cases same

theorem consistent_of_merge {listed : ListedLink} {link : Option LinkDetails}
    {address : Option AddressDetails} {record : LinkRecord}
    (merged : merge listed link address = some record) : record.Consistent := by
  cases address with
  | none =>
      cases link with
      | none => cases merged
      | some link =>
          cases merged
          exact consistent_of_no_address rfl rfl rfl rfl rfl
  | some details =>
      cases link with
      | none =>
          cases merged
          exact consistent_of_details rfl rfl rfl
      | some link =>
          cases merged
          exact consistent_of_details rfl rfl rfl

end LinkRecord

variable {σ : Type} (host : Host σ)

theorem NamespaceVisit.consistent_of_mem_found {visit : NamespaceVisit} {record : LinkRecord}
    (member : record ∈ (visit.found host).links) : record.Consistent := by
  rcases List.mem_filterMap.mp member with ⟨link, -, merged⟩
  exact LinkRecord.consistent_of_merge merged

/-- Whatever the runner answers, every record of an inspected host or namespace is
consistent. -/
theorem inspect_consistent (before : Session σ) :
    (∀ topology, (host.inspect before).1 = .ok topology →
      ∀ found ∈ topology.namespaces, ∀ record ∈ found.links, record.Consistent) ∧
    ∀ network found, (host.inspectNamespace network before).1 = .ok found →
      ∀ record ∈ found.links, record.Consistent := by
  constructor
  · intro topology done found inTopology record member
    rcases host.runs_inspect before with ⟨survey, after, -, runs⟩
    rw [runs.ends, Survey.outcome] at done
    rcases report : host.namespaceListing.report survey.listing with error | listing
    · rw [report] at done
      cases done
    · rw [report] at done
      cases done
      rcases List.mem_map.mp inTopology with ⟨visit, -, rfl⟩
      exact visit.consistent_of_mem_found host member
  · intro network found done record member
    rcases host.runs_inspectNamespace network before with ⟨visit, after, -, -, runs⟩
    rw [runs.ends] at done
    rcases listed : visit.listed host with error | links
    · rw [listed] at done
      cases done
    · rw [listed] at done
      cases done
      exact visit.consistent_of_mem_found host member

theorem inspect_consistent_vlan :
    let script : Script := [
      ("/usr/sbin/ip -oneline link list".toList, .leaves ⟨some 0, "7: e.5: <UP>\n".toList, []⟩),
      ("/usr/sbin/ip --details -json address show dev e.5".toList, .leaves ⟨some 0,
        ("[\x7b\"linkinfo\":\x7b\"info_kind\":\"vlan\",\"info_data\":\x7b\"id\":5\x7d\x7d," ++
          "\"addr_info\":[\x7b\"local\":\"10.0.3.17\",\"prefixlen\":22\x7d]\x7d]").toList, []⟩)]
    let host : Host Unit := ⟨.standard, .scripted script⟩
    ∃ topology, (host.inspect ⟨(), []⟩).1 = .ok topology ∧
      ∃ found ∈ topology.namespaces, ∃ record ∈ found.links,
        record.network = some (.v4 0x0A000000) ∧ record.vlan = some 5 ∧ record.Consistent := by
  intro script host
  let record : LinkRecord := ⟨"e.5".toList, 7, none, .absent, none, some (.v4 0x0A000311), some 22,
    some (.v4 0x0A000000), none, some 5⟩
  have links : (host.inspect ⟨(), []⟩).1.toOption.map Topology.links = some [([], record)] := by
    decide +kernel
  rcases done : (host.inspect ⟨(), []⟩).1 with error | topology
  · rw [done] at links
    cases links
  · rw [done] at links
    have same : topology.links = [([], record)] := Option.some.inj links
    have member : ([], record) ∈ topology.links := by simp [same]
    rcases List.mem_flatMap.mp member with ⟨found, inTopology, inFound⟩
    rcases List.mem_map.mp inFound with ⟨link, inLinks, named⟩
    have isRecord : link = record := congrArg Prod.snd named
    rw [isRecord] at inLinks
    exact ⟨topology, rfl, found, inTopology, record, inLinks, rfl, rfl,
      (inspect_consistent host ⟨(), []⟩).1 topology done found inTopology record inLinks⟩

end NetAdmin
