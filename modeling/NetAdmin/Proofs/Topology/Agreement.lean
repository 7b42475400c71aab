import NetAdmin.Proofs.Topology.Isolation
/-!
Inspecting one namespace against inspecting the whole host. With fixed answers both make the
same visit of the namespace (`runs_inspectNamespace_of_fixed`), and a namespace that is
listed repeatedly is found alike each time. So the topology of a host holds for each of its
namespaces what inspecting it alone gives, or in its place the failure that this ends with.
-/

namespace NetAdmin

/-- What a topology holds for a namespace, by what inspecting it alone ends with: its links,
and no failure to list them, or else no links and only that failure. -/
inductive Topology.Agrees (topology : Topology) (network : Text) :
    Except Error NamespaceLinks → Prop
  | found {links : List LinkRecord} (same : topology.get? network = some links)
      (listed : ∀ failure ∈ topology.failures, failure.network = network → failure.device ≠ none) :
      Agrees topology network (.ok { name := network, links })
  | failed {error : Error} (empty : topology.get? network = some [])
      (only : ∀ failure, failure ∈ topology.failures ∧ failure.network = network ↔
        failure = { network, device := none, message := error.message }) :
      Agrees topology network (.error error)

variable {σ : Type} (host : Host σ)

namespace NamespaceVisit

variable {visit : NamespaceVisit} {failure : InspectionFailure}

theorem network_of_mem_failures (member : failure ∈ visit.failures host) :
    failure.network = visit.name := by
  rcases List.mem_append.mp member with ofListing | ofLinks
  · exact congrArg Prod.fst (InspectionFailure.names_of_mem_ofAnswer ofListing)
  · rcases List.mem_flatMap.mp ofLinks with ⟨link, -, ofLink⟩
    exact congrArg Prod.fst (link.names_of_mem_failures host ofLink)

theorem device_of_mem_failures {links : List ListedLink} (listed : visit.listed host = .ok links)
    (member : failure ∈ visit.failures host) : failure.device ≠ none := by
  rw [failures, listed, InspectionFailure.ofAnswer, List.nil_append] at member
  rcases List.mem_flatMap.mp member with ⟨link, -, ofLink⟩
  have named : failure.device = some link.listed.device :=
    congrArg Prod.snd (link.names_of_mem_failures host ofLink)
  rw [named]
  exact Option.some_ne_none _

section FixedAnswers

variable (answers : CommandLine → Except Error Output) (network : Text)

theorem ofAnswers_unlisted {error : Error}
    (failed : (ofAnswers host answers network).listed host = .error error) :
    ((ofAnswers host answers network).found host).links = [] ∧
      (ofAnswers host answers network).failures host =
        [{ network, device := none, message := error.message }] := by
  have noLinks : (ofAnswers host answers network).links = [] := by
    simp only [ofAnswers, listed] at failed ⊢
    rw [failed]
    rfl
  constructor
  · rw [found, noLinks]
    rfl
  · rw [failures, noLinks, failed]
    rfl

end FixedAnswers

end NamespaceVisit

section FixedAnswers

variable {answers : CommandLine → Except Error Output}

theorem Host.runs_inspectNamespace_of_fixed (fixed : host.runner.Fixed answers) (network : Text)
    (before : Session σ) :
    ∃ after, Runs host (host.inspectNamespace network) before
      ((NamespaceVisit.ofAnswers host answers network).exchanges host)
      (((NamespaceVisit.ofAnswers host answers network).listed host).map fun _ =>
        (NamespaceVisit.ofAnswers host answers network).found host) after := by
  rcases host.runs_inspectNamespace network before with ⟨visit, after, rfl, complete, runs⟩
  rw [← NamespaceVisit.eq_ofAnswers host complete (runs.dialogue.result_eq fixed)]
  exact ⟨after, runs⟩

theorem Survey.exists_names {topology : Topology}
    (outcome : (Survey.ofAnswers host answers).outcome host = .ok topology) :
    ∃ names : List Text,
      topology.namespaces = names.map (fun network =>
        (NamespaceVisit.ofAnswers host answers network).found host) ∧
      topology.failures = names.flatMap fun network =>
        (NamespaceVisit.ofAnswers host answers network).failures host := by
  rw [Survey.outcome] at outcome
  rcases report : host.namespaceListing.report (Survey.ofAnswers host answers).listing with
    error | listing
  · rw [report] at outcome
    cases outcome
  · rw [report] at outcome
    cases outcome
    exact ⟨_, List.map_map, List.flatMap_map ..⟩

end FixedAnswers

theorem Topology.get?_of_visits {topology : Topology} {names : List Text}
    (visit : Text → NamespaceVisit) (named : ∀ network, (visit network).name = network)
    (same : topology.namespaces = names.map fun network => (visit network).found host)
    {network : Text} (member : network ∈ names) :
    topology.get? network = some ((visit network).found host).links := by
  have first : names.find? (fun name => name == network) = some network := by
    rcases found : names.find? (fun name => name == network) with _ | name
    · exact absurd (List.find?_eq_none.mp found network member) (by simp)
    · have same : name = network := by simpa using List.find?_some found
      rw [same]
  have key : (fun found : NamespaceLinks => found.name == network) ∘
      (fun network => (visit network).found host) = fun name => name == network := by
    funext name
    exact congrArg (· == network) (named name)
  rw [Topology.get?, same, List.find?_map, key, first]
  rfl

/-- With fixed answers, the topology of a host agrees with what inspecting one of its
namespaces gives. -/
theorem inspect_agrees {answers : CommandLine → Except Error Output}
    (fixed : host.runner.Fixed answers) {before after : Session σ} {topology : Topology}
    (done : host.inspect before = (.ok topology, after)) {network : Text}
    (member : network ∈ topology.namespaces.map (·.name)) (start : Session σ) :
    topology.Agrees network (host.inspectNamespace network start).1 := by
  let visit := NamespaceVisit.ofAnswers host answers
  rcases host.runs_inspect_of_fixed fixed before with ⟨left, inspected⟩
  rw [inspected.ends] at done
  rcases Survey.exists_names host (congrArg Prod.fst done) with ⟨names, namespaces, failures⟩
  have listed : network ∈ names := by
    rw [namespaces, List.map_map] at member
    rcases List.mem_map.mp member with ⟨name, inside, same⟩
    exact same ▸ inside
  have links := Topology.get?_of_visits host visit (fun _ => rfl) namespaces listed
  have failed (failure : InspectionFailure) :
      failure ∈ topology.failures ∧ failure.network = network ↔
        failure ∈ (visit network).failures host := by
    rw [failures, List.mem_flatMap]
    constructor
    · rintro ⟨⟨name, -, inVisit⟩, same⟩
      rw [NamespaceVisit.network_of_mem_failures host inVisit] at same
      exact same ▸ inVisit
    · intro inVisit
      exact ⟨⟨network, listed, inVisit⟩, NamespaceVisit.network_of_mem_failures host inVisit⟩
  rcases host.runs_inspectNamespace_of_fixed fixed network start with ⟨final, runs⟩
  rw [runs.ends]
  rcases listing : (visit network).listed host with error | found
  · rcases NamespaceVisit.ofAnswers_unlisted host answers network listing with ⟨noLinks, only⟩
    refine .failed (by rw [links, noLinks]) fun failure => ?_
    rw [failed, only, List.mem_singleton]
  · refine .found links fun failure inside same => ?_
    exact NamespaceVisit.device_of_mem_failures host listing ((failed failure).mp ⟨inside, same⟩)

theorem inspect_agrees_repeated :
    let blue : Text := "blue".toList
    let script : Script := [
      ("/usr/sbin/ip netns list".toList, .leaves ⟨some 0, "blue (id: 0)\nblue\n".toList, []⟩),
      ("/usr/sbin/ip -netns blue -oneline link list".toList,
        .leaves ⟨some 1, [], "Cannot open network namespace".toList⟩),
      ("/usr/sbin/ip -oneline link list".toList, .leaves ⟨some 0, "1: lo: <UP>\n".toList, []⟩),
      ("/usr/sbin/ip -oneline -json link show dev lo".toList,
        .leaves ⟨some 0, "[\x7b\"operstate\":\"UP\"\x7d]".toList, []⟩)]
    let host : Host Unit := ⟨.standard, .scripted script⟩
    let start : Session Unit := ⟨(), []⟩
    host.runner.Fixed script.answer ∧ ∃ topology after,
      host.inspect start = (.ok topology, after) ∧
      topology.namespaces.map (·.name) = [blue, blue, []] ∧
      topology.Agrees blue (host.inspectNamespace blue start).1 ∧
      topology.Agrees [] (host.inspectNamespace [] start).1 := by
  intro blue script host start
  have fixed : host.runner.Fixed script.answer := Runner.fixed_ofFunction script.answer
  have names : (host.inspect start).1.toOption.map (fun topology =>
      topology.namespaces.map (·.name)) = some [blue, blue, []] := by decide +kernel
  rcases done : host.inspect start with ⟨error | topology, after⟩
  · rw [done] at names
    cases names
  · rw [done] at names
    have named : topology.namespaces.map (·.name) = [blue, blue, []] := Option.some.inj names
    refine ⟨fixed, topology, after, rfl, named, ?_, ?_⟩
    · exact inspect_agrees host fixed done (by simp [named]) start
    · exact inspect_agrees host fixed done (by simp [named]) start

end NetAdmin
