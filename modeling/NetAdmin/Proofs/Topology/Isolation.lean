import Mathlib.Data.List.Basic
import NetAdmin.Proofs.Topology.Survey
/-!
What one link can do to the rest of an inspection. If every command has a fixed answer,
the survey of an inspection is a function of these answers (`runs_inspect_of_fixed`). No
two queries have the same command line, whatever namespaces and links are called
(`not_mem_queries_of_ne`); so other answers to the queries of one link change what is
found of that link and nothing else.
-/

namespace NetAdmin

variable {σ τ : Type} (host : Host σ)

/-! ## Surveys of fixed answers -/

section FixedAnswers

variable (answers : CommandLine → Except Error Output)

def LinkVisit.ofAnswers (network : Text) (listed : ListedLink) : LinkVisit where
  listed := listed
  link := answers (host.linkQuery network listed.device)
  address := answers (host.addressQuery network listed.device)

def NamespaceVisit.ofAnswers (network : Text) : NamespaceVisit where
  name := network
  listing := answers (host.linkListing network)
  links :=
    let listing := (host.linkListing network).report (answers (host.linkListing network))
    ((listing.map ListedLink.ofListing).toOption.getD []).map
      (LinkVisit.ofAnswers host answers network)

def Survey.ofAnswers : Survey where
  listing := answers host.namespaceListing
  namespaces :=
    (match host.namespaceListing.report (answers host.namespaceListing) with
      | .ok listing => namespaceNames listing ++ [[]]
      | .error _ => []).map (NamespaceVisit.ofAnswers host answers)

private theorem eq_map_of_keys {α β : Type} {key : α → β} {make : β → α} {values : List α}
    {keys : List β} (same : values.map key = keys)
    (made : ∀ value ∈ values, value = make (key value)) : values = keys.map make := by
  rw [← same, List.map_map]
  calc
    values = values.map id := (List.map_id values).symm
    _ = values.map (make ∘ key) := List.map_congr_left made

variable {answers}

theorem LinkVisit.eq_ofAnswers {network : Text} {visit : LinkVisit}
    (answered : ∀ exchange ∈ visit.exchanges host network,
      exchange.result = answers exchange.line) :
    visit = LinkVisit.ofAnswers host answers network visit.listed := by
  rcases visit with ⟨listed, link, address⟩
  have givenLink : link = answers (host.linkQuery network listed.device) :=
    answered _ List.mem_cons_self
  have givenAddress : address = answers (host.addressQuery network listed.device) :=
    answered _ (List.mem_cons_of_mem _ List.mem_cons_self)
  rw [LinkVisit.ofAnswers, ← givenLink, ← givenAddress]

theorem NamespaceVisit.eq_ofAnswers {visit : NamespaceVisit}
    (complete : visit.links.map (·.listed) = (visit.listed host).toOption.getD [])
    (answered : ∀ exchange ∈ visit.exchanges host, exchange.result = answers exchange.line) :
    visit = NamespaceVisit.ofAnswers host answers visit.name := by
  rcases visit with ⟨network, listing, links⟩
  have given : listing = answers (host.linkListing network) := answered _ List.mem_cons_self
  subst given
  have made : ∀ link ∈ links, link = LinkVisit.ofAnswers host answers network link.listed := by
    intro link member
    apply LinkVisit.eq_ofAnswers
    intro exchange inLink
    exact answered _ (List.mem_cons_of_mem _ (List.mem_flatMap.mpr ⟨link, member, inLink⟩))
  exact congrArg (NamespaceVisit.mk network _) (eq_map_of_keys complete made)

theorem Survey.eq_ofAnswers {survey : Survey} (complete : survey.Complete host)
    (answered : ∀ exchange ∈ survey.exchanges host, exchange.result = answers exchange.line) :
    survey = Survey.ofAnswers host answers := by
  rcases survey with ⟨listing, visits⟩
  rcases complete with ⟨names, links⟩
  have given : listing = answers host.namespaceListing := answered _ List.mem_cons_self
  subst given
  have made : ∀ visit ∈ visits, visit = NamespaceVisit.ofAnswers host answers visit.name := by
    intro visit member
    apply NamespaceVisit.eq_ofAnswers host (links visit member)
    intro exchange inVisit
    exact answered _ (List.mem_cons_of_mem _ (List.mem_flatMap.mpr ⟨visit, member, inVisit⟩))
  exact congrArg (Survey.mk _) (eq_map_of_keys names made)

theorem Host.runs_inspect_of_fixed (fixed : host.runner.Fixed answers) (before : Session σ) :
    ∃ after, Runs host host.inspect before ((Survey.ofAnswers host answers).exchanges host)
      ((Survey.ofAnswers host answers).outcome host) after := by
  rcases host.runs_inspect before with ⟨survey, after, complete, runs⟩
  rw [← Survey.eq_ofAnswers host complete (runs.dialogue.result_eq fixed)]
  exact ⟨after, runs⟩

end FixedAnswers

/-! ## Command lines that differ -/

namespace Host

def queries (network device : Text) : List CommandLine :=
  [host.linkQuery network device, host.addressQuery network device]

variable {network other device otherDevice : Text}

theorem eq_of_ip_eq {words others : List Text}
    (same : host.ip other others = host.ip network words)
    (plainOther : others.head? ≠ some "-netns".toList)
    (plain : words.head? ≠ some "-netns".toList) : other = network ∧ others = words := by
  have tails : CommandLine.inNetwork other ++ others = CommandLine.inNetwork network ++ words :=
    List.tail_eq_of_cons_eq same
  cases network with
  | nil =>
      cases other with
      | nil => exact ⟨rfl, tails⟩
      | cons c other => exact absurd (congrArg List.head? tails).symm plain
  | cons c network =>
      cases other with
      | nil => exact absurd (congrArg List.head? tails) plainOther
      | cons d other => simpa [CommandLine.inNetwork] using tails

theorem shape_of_ip_mem_queries {words : List Text} (plain : words.head? ≠ some "-netns".toList)
    (member : host.ip other words ∈ host.queries network device) :
    other = network ∧ words.length = 6 ∧ words.getLast? = some device := by
  rcases List.mem_cons.mp member with isLink | inAddress
  · rcases host.eq_of_ip_eq isLink plain (by simp) with ⟨same, rfl⟩
    exact ⟨same, rfl, rfl⟩
  · rcases host.eq_of_ip_eq (List.mem_singleton.mp inAddress) plain (by simp) with ⟨same, rfl⟩
    exact ⟨same, rfl, rfl⟩

theorem namespaceListing_not_mem_queries : host.namespaceListing ∉ host.queries network device :=
  fun member => absurd (host.shape_of_ip_mem_queries (by decide) member).2.1 (by decide)

theorem linkListing_not_mem_queries : host.linkListing other ∉ host.queries network device :=
  fun member => absurd (host.shape_of_ip_mem_queries (by decide) member).2.1 (by decide)

theorem not_mem_queries_of_ne (different : (other, otherDevice) ≠ (network, device)) :
    ∀ line ∈ host.queries other otherDevice, line ∉ host.queries network device := by
  intro line member inQueries
  apply different
  rcases List.mem_cons.mp member with rfl | inAddress
  · rcases host.shape_of_ip_mem_queries (by simp) inQueries with ⟨same, -, last⟩
    exact Prod.ext same (Option.some.inj last)
  · rw [List.mem_singleton.mp inAddress] at inQueries
    rcases host.shape_of_ip_mem_queries (by simp) inQueries with ⟨same, -, last⟩
    exact Prod.ext same (Option.some.inj last)

end Host

/-! ## Other answers to one link -/

def NamespaceLinks.without (network device : Text) (found : NamespaceLinks) : NamespaceLinks :=
  { found with
    links := found.links.filter fun link => (found.name, link.device) ≠ (network, device) }

/-- What was found on a host, without a link and the failures of its queries. -/
def Topology.without (network device : Text) (topology : Topology) : Topology where
  namespaces := topology.namespaces.map (NamespaceLinks.without network device)
  failures := topology.failures.filter fun failure =>
    (failure.network, failure.device) ≠ (network, some device)

theorem InspectionFailure.names_of_mem_ofAnswer {α : Type} {network : Text} {device : Option Text}
    {answer : Except Error α} {failure : InspectionFailure}
    (member : failure ∈ InspectionFailure.ofAnswer network device answer) :
    (failure.network, failure.device) = (network, device) := by
  cases answer with
  | ok value => cases member
  | error error => rw [List.mem_singleton.mp member]

namespace LinkVisit

theorem filter_record_eq_none (network : Text) (visit : LinkVisit) :
    (visit.record host network).filter
      (fun link => (network, link.device) ≠ (network, visit.listed.device)) = none := by
  rw [Option.filter_eq_none_iff]
  intro record merged
  have same : record.device = visit.listed.device :=
    congrArg ListedLink.device (LinkRecord.listed_of_merge merged)
  simp [same]

theorem names_of_mem_failures {network : Text} {visit : LinkVisit} {failure : InspectionFailure}
    (member : failure ∈ visit.failures host network) :
    (failure.network, failure.device) = (network, some visit.listed.device) := by
  rcases List.mem_append.mp member with ofLink | ofAddress
  · exact InspectionFailure.names_of_mem_ofAnswer ofLink
  · exact InspectionFailure.names_of_mem_ofAnswer ofAddress

theorem filter_failures_eq_nil (network : Text) (visit : LinkVisit) :
    (visit.failures host network).filter (fun failure =>
      (failure.network, failure.device) ≠ (network, some visit.listed.device)) = [] := by
  rw [List.filter_eq_nil_iff]
  intro failure member
  simp [names_of_mem_failures host member]

end LinkVisit

section TwoAnswers

variable {answers changed : CommandLine → Except Error Output} {network device : Text}
  (agree : ∀ line, line ∉ host.queries network device → answers line = changed line)
include agree

theorem LinkVisit.ofAnswers_congr {other : Text} {listed : ListedLink}
    (different : (other, listed.device) ≠ (network, device)) :
    LinkVisit.ofAnswers host answers other listed =
      LinkVisit.ofAnswers host changed other listed := by
  have apart := host.not_mem_queries_of_ne different
  rw [LinkVisit.ofAnswers, agree _ (apart _ List.mem_cons_self),
    agree _ (apart _ (List.mem_cons_of_mem _ List.mem_cons_self))]
  rfl

namespace NamespaceVisit

theorem lines_congr (other : Text) :
    ((NamespaceVisit.ofAnswers host answers other).exchanges host).map Exchange.line =
      ((NamespaceVisit.ofAnswers host changed other).exchanges host).map Exchange.line := by
  simp only [NamespaceVisit.ofAnswers, NamespaceVisit.exchanges,
    agree _ host.linkListing_not_mem_queries, List.map_cons, List.map_flatMap, List.flatMap_map]
  rfl

theorem found_congr (other : Text) :
    ((NamespaceVisit.ofAnswers host answers other).found host).without network device =
      ((NamespaceVisit.ofAnswers host changed other).found host).without network device := by
  simp only [NamespaceVisit.ofAnswers, NamespaceVisit.found, NamespaceLinks.without,
    agree _ host.linkListing_not_mem_queries, List.filterMap_map, List.filter_filterMap]
  congr 1
  apply List.filterMap_congr
  intro listed _
  -- The link itself is left out on both sides, and every other one is visited alike.
  by_cases same : (other, listed.device) = (network, device)
  · cases same
    have gone := LinkVisit.filter_record_eq_none host network
    exact (gone (.ofAnswers host answers network listed)).trans
      (gone (.ofAnswers host changed network listed)).symm
  · simp only [Function.comp, LinkVisit.ofAnswers_congr host agree same]

theorem failures_congr (other : Text) :
    ((NamespaceVisit.ofAnswers host answers other).failures host).filter (fun failure =>
        (failure.network, failure.device) ≠ (network, some device)) =
      ((NamespaceVisit.ofAnswers host changed other).failures host).filter fun failure =>
        (failure.network, failure.device) ≠ (network, some device) := by
  simp only [NamespaceVisit.ofAnswers, NamespaceVisit.failures, NamespaceVisit.listed,
    agree _ host.linkListing_not_mem_queries, List.filter_append, List.flatMap_map,
    List.filter_flatMap]
  congr 1
  apply List.flatMap_congr
  intro listed _
  by_cases same : (other, listed.device) = (network, device)
  · cases same
    have gone := LinkVisit.filter_failures_eq_nil host network
    exact (gone (.ofAnswers host answers network listed)).trans
      (gone (.ofAnswers host changed network listed)).symm
  · simp only [LinkVisit.ofAnswers_congr host agree same]

end NamespaceVisit

namespace Survey

theorem lines_congr :
    ((Survey.ofAnswers host answers).exchanges host).map Exchange.line =
      ((Survey.ofAnswers host changed).exchanges host).map Exchange.line := by
  simp only [Survey.ofAnswers, Survey.exchanges, agree _ host.namespaceListing_not_mem_queries,
    List.map_cons, List.map_flatMap, List.flatMap_map]
  congr 1
  apply List.flatMap_congr
  intro other _
  exact NamespaceVisit.lines_congr host agree other

theorem outcome_congr :
    ((Survey.ofAnswers host answers).outcome host).map (Topology.without network device) =
      ((Survey.ofAnswers host changed).outcome host).map (Topology.without network device) := by
  simp only [Survey.ofAnswers, Survey.outcome, agree _ host.namespaceListing_not_mem_queries]
  cases host.namespaceListing.report (changed host.namespaceListing) with
  | error error => rfl
  | ok listing =>
      simp only [Except.map, Topology.without, List.map_map, List.filter_flatMap,
        List.flatMap_map]
      congr 2
      · apply List.map_congr_left
        intro other _
        exact NamespaceVisit.found_congr host agree other
      · apply List.flatMap_congr
        intro other _
        exact NamespaceVisit.failures_congr host agree other

end Survey

end TwoAnswers

/-- An inspection asks the same and finds the same, but for one link, if nothing but the
answers to the queries of that link is different. -/
theorem inspect_isolated (other : Host τ) (sameSettings : other.settings = host.settings)
    {answers changed : CommandLine → Except Error Output}
    (fixed : host.runner.Fixed answers) (fixedOther : other.runner.Fixed changed)
    {network device : Text}
    (agree : ∀ line, line ∉ host.queries network device → answers line = changed line)
    (before : Session σ) (otherBefore : Session τ) :
    (∃ lines, (host.inspect before).2.calls = before.calls ++ lines ∧
      (other.inspect otherBefore).2.calls = otherBefore.calls ++ lines) ∧
    (host.inspect before).1.map (Topology.without network device) =
      (other.inspect otherBefore).1.map (Topology.without network device) := by
  rcases other with ⟨_, runner⟩
  cases sameSettings
  rcases host.runs_inspect_of_fixed fixed before with ⟨after, ends, dialogue⟩
  rcases Host.runs_inspect_of_fixed ⟨host.settings, runner⟩ fixedOther otherBefore with
    ⟨otherAfter, otherEnds, otherDialogue⟩
  rw [ends, otherEnds]
  refine ⟨⟨_, dialogue.calls, ?_⟩, Survey.outcome_congr host agree⟩
  rw [otherDialogue.calls, Survey.lines_congr host agree]
  rfl

theorem inspect_isolated_unstartable :
    let script : Script := [("/usr/sbin/ip -oneline link list".toList,
      .leaves ⟨some 0, "1: lo: <UP> mtu 65536\n2: eth0: <UP> mtu 1500\n".toList, []⟩)]
    let host : Host Unit := ⟨.standard, .scripted script⟩
    let changed : CommandLine → Except Error Output := fun line =>
      if line ∈ host.queries [] "eth0".toList then
        .error (.notStarted host.settings.ip ⟨.permissionDenied, "Permission denied".toList⟩)
      else script.answer line
    let broken : Host Unit := ⟨.standard, .ofFunction changed⟩
    let start : Session Unit := ⟨(), []⟩
    broken.settings = host.settings ∧
      host.runner.Fixed script.answer ∧ broken.runner.Fixed changed ∧
      (∀ line, line ∉ host.queries [] "eth0".toList → script.answer line = changed line) ∧
      (∃ lines, (host.inspect start).2.calls = start.calls ++ lines ∧
        (broken.inspect start).2.calls = start.calls ++ lines) ∧
      (host.inspect start).1.map (Topology.without [] "eth0".toList) =
        (broken.inspect start).1.map (Topology.without [] "eth0".toList) := by
  intro script host changed broken start
  have agree : ∀ line, line ∉ host.queries [] "eth0".toList →
      script.answer line = changed line := fun line free => (if_neg free).symm
  have fixed : host.runner.Fixed script.answer := Runner.fixed_ofFunction script.answer
  have fixedOther : broken.runner.Fixed changed := Runner.fixed_ofFunction changed
  exact ⟨rfl, fixed, fixedOther, agree,
    inspect_isolated host broken rfl fixed fixedOther agree start start⟩

end NetAdmin
