import NetAdmin.Proofs.Command.Dialogue
import NetAdmin.Topology
/-!
What an inspection asks and how its answers become a topology. A `Survey` holds the
results of all commands, by namespace and link. Every inspection has the dialogue of a
survey, whatever the runner answers (`runs_inspect`), and that survey describes its
topology: nothing is left out because something else has failed. There is no record of a
link if neither of its queries reports anything; they need not have failed.
-/

namespace NetAdmin

/-! ## Surveys -/

structure LinkVisit where
  listed : ListedLink
  link : Except Error Output
  address : Except Error Output

structure NamespaceVisit where
  name : Text
  listing : Except Error Output
  links : List LinkVisit

structure Survey where
  listing : Except Error Output
  namespaces : List NamespaceVisit

def InspectionFailure.ofAnswer {α : Type} (network : Text) (device : Option Text) :
    Except Error α → List InspectionFailure
  | .ok _ => []
  | .error error => [{ network, device, message := error.message }]

def LinkRecord.listed (record : LinkRecord) : ListedLink :=
  ⟨record.index, record.device⟩

variable {σ : Type} (host : Host σ)

namespace LinkVisit

variable (network : Text) (visit : LinkVisit)

def exchanges : List Exchange :=
  [⟨host.linkQuery network visit.listed.device, visit.link⟩,
    ⟨host.addressQuery network visit.listed.device, visit.address⟩]

def linkAnswer : Except Error (Option LinkDetails) :=
  ((host.linkQuery network visit.listed.device).report visit.link).bind LinkDetails.ofReport

def addressAnswer : Except Error (Option AddressDetails) :=
  ((host.addressQuery network visit.listed.device).report visit.address).bind
    AddressDetails.ofReport

/-- Whether one of the queries succeeds and has something to report. -/
def reports : Bool :=
  ((visit.linkAnswer host network).toOption.getD none).isSome ||
    ((visit.addressAnswer host network).toOption.getD none).isSome

/-- Whether one of the queries succeeds, be it without anything to report. -/
def succeeds : Bool :=
  (visit.linkAnswer host network).isOk || (visit.addressAnswer host network).isOk

def record : Option LinkRecord :=
  LinkRecord.merge visit.listed ((visit.linkAnswer host network).toOption.getD none)
    ((visit.addressAnswer host network).toOption.getD none)

def failures : List InspectionFailure :=
  InspectionFailure.ofAnswer network (some visit.listed.device) (visit.linkAnswer host network) ++
    InspectionFailure.ofAnswer network (some visit.listed.device) (visit.addressAnswer host network)

end LinkVisit

namespace NamespaceVisit

variable (visit : NamespaceVisit)

def exchanges : List Exchange :=
  ⟨host.linkListing visit.name, visit.listing⟩ ::
    visit.links.flatMap (LinkVisit.exchanges host visit.name)

def listed : Except Error (List ListedLink) :=
  ((host.linkListing visit.name).report visit.listing).map ListedLink.ofListing

def found : NamespaceLinks where
  name := visit.name
  links := visit.links.filterMap (LinkVisit.record host visit.name)

def failures : List InspectionFailure :=
  InspectionFailure.ofAnswer visit.name none (visit.listed host) ++
    visit.links.flatMap (LinkVisit.failures host visit.name)

end NamespaceVisit

def Survey.exchanges (survey : Survey) : List Exchange :=
  ⟨host.namespaceListing, survey.listing⟩ ::
    survey.namespaces.flatMap (NamespaceVisit.exchanges host)

def Survey.outcome (survey : Survey) : Except Error Topology :=
  (host.namespaceListing.report survey.listing).map fun _ =>
    ⟨survey.namespaces.map (NamespaceVisit.found host),
      survey.namespaces.flatMap (NamespaceVisit.failures host)⟩

/-- A survey leaves no namespace and no link out. -/
structure Survey.Complete (survey : Survey) : Prop where
  namespaces : survey.namespaces.map (·.name) =
    match host.namespaceListing.report survey.listing with
    | .ok listing => namespaceNames listing ++ [[]]
    | .error _ => []
  links : ∀ visit ∈ survey.namespaces,
    visit.links.map (·.listed) = (visit.listed host).toOption.getD []

/-- A command line with the words that take it to a namespace right behind the program.
For the default namespace there are none. -/
def Host.Scoped (network : Text) (line : CommandLine) : Prop :=
  if network = [] then
    ∃ words, line = host.settings.ip :: words ∧ words.head? ≠ some "-netns".toList
  else ∃ words, line = host.settings.ip :: "-netns".toList :: network :: words

/-- How a topology follows from a listing of namespaces and a survey. There is a record of
the links that are `kept`. -/
structure Survey.Describes (survey : Survey) (kept : Text → LinkVisit → Bool) (listing : Text)
    (topology : Topology) : Prop where
  names : topology.namespaces.map (·.name) =
    ((Text.lines listing).filterMap fun line => (Text.words line).head?) ++ [[]]
  /-- Only the last namespace has the empty name. -/
  named : ∀ line ∈ Text.lines listing, (Text.words line).head? ≠ some []
  default : topology.get? [] = topology.namespaces.getLast?.map (·.links)
  visited : survey.namespaces.map (·.name) = topology.namespaces.map (·.name)
  inNamespace : ∀ visit ∈ survey.namespaces, ∀ exchange ∈ visit.exchanges host,
    host.Scoped visit.name exchange.line
  /-- All listed links are queried, in their order. -/
  complete : ∀ visit ∈ survey.namespaces,
    visit.links.map (·.listed) = (visit.listed host).toOption.getD []
  links : topology.namespaces.map (fun found => found.links.map (·.listed)) =
    survey.namespaces.map fun visit => (visit.links.filter (kept visit.name)).map (·.listed)
  records : topology.namespaces = survey.namespaces.map (NamespaceVisit.found host)
  failures : topology.failures = survey.namespaces.flatMap (NamespaceVisit.failures host)

/-! ## Parts of an inspection -/

theorem NamespaceVisit.exchanges_eq (visit : NamespaceVisit) :
    visit.exchanges host = [⟨host.linkListing visit.name, visit.listing⟩] ++
      (visit.links.flatMap (LinkVisit.exchanges host visit.name) ++ []) := by
  rw [List.append_nil]
  rfl

namespace Host

theorem Runs.tolerating {host : Host σ} {α : Type} {query : CommandM σ α}
    {before after : Session σ} {exchanges : List Exchange} {answer : Except Error α}
    (runs : Runs host query before exchanges answer after) (network : Text)
    (device : Option Text) (empty : α) :
    Runs host (tolerating network device empty query) before exchanges
      (.ok (answer.toOption.getD empty, InspectionFailure.ofAnswer network device answer))
      after where
  ends := by
    simp only [Host.tolerating, Computation.tryCatch_apply, Computation.bind_apply, runs.ends]
    cases answer <;> rfl
  dialogue := runs.dialogue

theorem runs_inspectLink (network : Text) (listed : ListedLink) (before : Session σ) :
    ∃ (visit : LinkVisit) (after : Session σ), visit.listed = listed ∧
      Runs host (host.inspectLink network listed) before (visit.exchanges host network)
        (.ok (visit.record host network, visit.failures host network)) after := by
  rcases host.runs_query (host.linkQuery network listed.device) LinkDetails.ofReport before with
    ⟨link, middle, linkRuns⟩
  rcases host.runs_query (host.addressQuery network listed.device) AddressDetails.ofReport middle
    with ⟨address, after, addressRuns⟩
  refine ⟨⟨listed, link, address⟩, after, rfl, ?_⟩
  have first := linkRuns.tolerating network (some listed.device) none
  have second := addressRuns.tolerating network (some listed.device) none
  exact first.bind (second.bind (.pure _ after))

theorem runs_inspectLinks (network : Text) (listed : List ListedLink) (before : Session σ) :
    ∃ (visits : List LinkVisit) (after : Session σ), visits.map (·.listed) = listed ∧
      Runs host (host.inspectLinks network listed) before
        (visits.flatMap (LinkVisit.exchanges host network))
        (.ok (visits.filterMap (LinkVisit.record host network),
          visits.flatMap (LinkVisit.failures host network))) after := by
  induction listed generalizing before with
  | nil => exact ⟨[], before, rfl, .pure _ before⟩
  | cons first others induction =>
      rcases host.runs_inspectLink network first before with ⟨visit, middle, same, runs⟩
      rcases induction middle with ⟨visits, after, sameOthers, rest⟩
      refine ⟨visit :: visits, after, by rw [List.map_cons, same, sameOthers], ?_⟩
      have asked : (visit :: visits).flatMap (LinkVisit.exchanges host network) =
          visit.exchanges host network ++
            (visits.flatMap (LinkVisit.exchanges host network) ++ []) := by
        rw [List.flatMap_cons, List.append_nil]
      have records : (visit.record host network).toList ++
            visits.filterMap (LinkVisit.record host network) =
          (visit :: visits).filterMap (LinkVisit.record host network) := by
        rw [List.filterMap_cons]
        cases visit.record host network <;> rfl
      rw [asked, ← records]
      exact runs.bind (rest.bind (.pure _ after))

theorem runs_listLinks (network : Text) (before : Session σ) :
    ∃ listing after, Runs host (host.listLinks network) before
      [⟨host.linkListing network, listing⟩]
      (((host.linkListing network).report listing).map ListedLink.ofListing) after :=
  host.runs_query (host.linkListing network) (fun text => .ok (ListedLink.ofListing text)) before

theorem runs_collectNamespace (network : Text) (before : Session σ) :
    ∃ (visit : NamespaceVisit) (after : Session σ), visit.name = network ∧
      visit.links.map (·.listed) = (visit.listed host).toOption.getD [] ∧
      Runs host (host.collectNamespace network) before (visit.exchanges host)
        (.ok (visit.found host, visit.failures host)) after := by
  rcases host.runs_listLinks network before with ⟨listing, middle, listingRuns⟩
  have listed := listingRuns.tolerating network none []
  let answer := ((host.linkListing network).report listing).map ListedLink.ofListing
  rcases host.runs_inspectLinks network (answer.toOption.getD []) middle with
    ⟨visits, after, same, runs⟩
  refine ⟨⟨network, listing, visits⟩, after, rfl, same, ?_⟩
  rw [NamespaceVisit.exchanges_eq]
  exact listed.bind (runs.bind (.pure _ after))

theorem runs_inspectNamespace (network : Text) (before : Session σ) :
    ∃ (visit : NamespaceVisit) (after : Session σ), visit.name = network ∧
      visit.links.map (·.listed) = (visit.listed host).toOption.getD [] ∧
      Runs host (host.inspectNamespace network) before (visit.exchanges host)
        ((visit.listed host).map fun _ => visit.found host) after := by
  rcases host.runs_listLinks network before with ⟨listing, middle, listingRuns⟩
  rcases answer : ((host.linkListing network).report listing).map ListedLink.ofListing with
    error | links
  · let visit : NamespaceVisit := ⟨network, listing, []⟩
    have failed : visit.listed host = .error error := answer
    rw [answer] at listingRuns
    refine ⟨visit, middle, rfl, by rw [failed]; rfl, ?_⟩
    rw [failed]
    exact listingRuns.bind_error
  · rw [answer] at listingRuns
    rcases host.runs_inspectLinks network links middle with ⟨visits, after, same, runs⟩
    let visit : NamespaceVisit := ⟨network, listing, visits⟩
    have listed : visit.listed host = .ok links := answer
    refine ⟨visit, after, rfl, by rw [listed]; exact same, ?_⟩
    rw [listed, NamespaceVisit.exchanges_eq]
    exact listingRuns.bind (runs.bind (.pure _ after))

theorem runs_collectNamespaces (names : List Text) (before : Session σ) :
    ∃ (visits : List NamespaceVisit) (after : Session σ), visits.map (·.name) = names ∧
      (∀ visit ∈ visits, visit.links.map (·.listed) = (visit.listed host).toOption.getD []) ∧
      Runs host (host.collectNamespaces names) before
        (visits.flatMap (NamespaceVisit.exchanges host))
        (.ok ⟨visits.map (NamespaceVisit.found host),
          visits.flatMap (NamespaceVisit.failures host)⟩) after := by
  induction names generalizing before with
  | nil => exact ⟨[], before, rfl, by simp, .pure _ before⟩
  | cons network others induction =>
      rcases host.runs_collectNamespace network before with
        ⟨visit, middle, same, complete, runs⟩
      rcases induction middle with ⟨visits, after, sameOthers, completeOthers, rest⟩
      refine ⟨visit :: visits, after, by rw [List.map_cons, same, sameOthers], ?_, ?_⟩
      · exact List.forall_mem_cons.mpr ⟨complete, completeOthers⟩
      · have asked : (visit :: visits).flatMap (NamespaceVisit.exchanges host) =
            visit.exchanges host ++ (visits.flatMap (NamespaceVisit.exchanges host) ++ []) := by
          rw [List.flatMap_cons, List.append_nil]
        rw [asked]
        exact runs.bind (rest.bind (.pure _ after))

theorem runs_inspect (before : Session σ) :
    ∃ (survey : Survey) (after : Session σ), survey.Complete host ∧
      Runs host host.inspect before (survey.exchanges host) (survey.outcome host) after := by
  rcases host.runs_query host.namespaceListing (fun text => .ok (namespaceNames text)) before with
    ⟨listing, middle, listed⟩
  rcases report : host.namespaceListing.report listing with error | text
  · rw [report] at listed
    have outcome : (Survey.mk listing []).outcome host = .error error := by
      rw [Survey.outcome, report]
      rfl
    refine ⟨⟨listing, []⟩, middle, ⟨by simp [report], by simp⟩, ?_⟩
    rw [outcome]
    exact listed.bind_error
  · rw [report] at listed
    rcases host.runs_collectNamespaces (namespaceNames text ++ [[]]) middle with
      ⟨visits, after, names, links, runs⟩
    have outcome : (Survey.mk listing visits).outcome host =
        .ok ⟨visits.map (NamespaceVisit.found host),
          visits.flatMap (NamespaceVisit.failures host)⟩ := by
      rw [Survey.outcome, report]
      rfl
    refine ⟨⟨listing, visits⟩, after, ⟨by simpa [report] using names, links⟩, ?_⟩
    rw [outcome]
    exact listed.bind runs

end Host

/-! ## Topologies of surveys -/

theorem LinkRecord.isSome_merge (listed : ListedLink) (link : Option LinkDetails)
    (address : Option AddressDetails) :
    (LinkRecord.merge listed link address).isSome = (link.isSome || address.isSome) := by
  cases link <;> cases address <;> rfl

theorem LinkRecord.listed_of_merge {listed : ListedLink} {link : Option LinkDetails}
    {address : Option AddressDetails} {record : LinkRecord}
    (merged : LinkRecord.merge listed link address = some record) : record.listed = listed := by
  cases link <;> cases address <;> cases merged <;> rfl

theorem LinkVisit.map_listed_filterMap_record (network : Text) (visits : List LinkVisit) :
    (visits.filterMap (LinkVisit.record host network)).map (·.listed) =
      (visits.filter (LinkVisit.reports host network)).map (·.listed) := by
  induction visits with
  | nil => rfl
  | cons visit visits induction =>
      have kept : (visit.record host network).isSome = visit.reports host network :=
        LinkRecord.isSome_merge _ _ _
      cases merged : visit.record host network with
      | none =>
          have dropped : visit.reports host network = false := by rw [← kept, merged]; rfl
          rw [List.filterMap_cons_none merged, List.filter_cons_of_neg (by simp [dropped]),
            induction]
      | some record =>
          have stays : visit.reports host network = true := by rw [← kept, merged]; rfl
          rw [List.filterMap_cons_some merged, List.filter_cons_of_pos stays, List.map_cons,
            List.map_cons, induction, LinkRecord.listed_of_merge merged]

theorem ne_nil_of_mem_namespaceNames {listing name : Text}
    (member : name ∈ namespaceNames listing) : name ≠ [] := by
  rcases List.mem_filterMap.mp member with ⟨line, -, first⟩
  exact (Text.free_of_mem_words (List.mem_of_head? first)).1

theorem Topology.get?_nil {topology : Topology} {names : List Text} (named : [] ∉ names)
    (same : topology.namespaces.map (·.name) = names ++ [[]]) :
    topology.get? [] = topology.namespaces.getLast?.map (·.links) := by
  rcases List.eq_nil_or_concat topology.namespaces with empty | ⟨front, last, whole⟩
  · simp [empty] at same
  · rw [List.concat_eq_append] at whole
    rw [whole, List.map_append] at same
    rcases List.append_inj' same rfl with ⟨rfl, sameLast⟩
    have absent : front.find? (fun found => found.name == []) = none := by
      rw [List.find?_eq_none]
      intro found member
      have different : found.name ≠ [] := by
        intro equal
        exact named (equal ▸ List.mem_map_of_mem member)
      simpa using different
    have default : last.name = [] := by simpa using sameLast
    rw [Topology.get?, whole, List.find?_append, absent, List.getLast?_concat]
    simp [default]

theorem Host.scoped_ip (network : Text) {words : List Text}
    (plain : words.head? ≠ some "-netns".toList) : host.Scoped network (host.ip network words) := by
  unfold Host.Scoped
  split
  · next default =>
      subst default
      exact ⟨words, rfl, plain⟩
  · next named =>
      refine ⟨words, ?_⟩
      rw [Host.ip, CommandLine.inNetwork, List.isEmpty_eq_false_iff.mpr named]
      rfl

theorem NamespaceVisit.scoped_of_mem_exchanges {visit : NamespaceVisit} {exchange : Exchange}
    (member : exchange ∈ visit.exchanges host) : host.Scoped visit.name exchange.line := by
  rcases List.mem_cons.mp member with rfl | inLinks
  · exact host.scoped_ip visit.name (by decide)
  · rcases List.mem_flatMap.mp inLinks with ⟨link, -, inLink⟩
    rcases List.mem_cons.mp inLink with rfl | inAddress
    · apply host.scoped_ip
      simp
    · rw [List.mem_singleton.mp inAddress]
      apply host.scoped_ip
      simp

theorem Survey.describes {survey : Survey} {listing : Text}
    (names : survey.namespaces.map (·.name) = namespaceNames listing ++ [[]])
    (complete : ∀ visit ∈ survey.namespaces,
      visit.links.map (·.listed) = (visit.listed host).toOption.getD []) :
    survey.Describes host (LinkVisit.reports host) listing
      ⟨survey.namespaces.map (NamespaceVisit.found host),
        survey.namespaces.flatMap (NamespaceVisit.failures host)⟩ where
  names := by
    rw [List.map_map]
    exact names
  named line member first :=
    ne_nil_of_mem_namespaceNames (List.mem_filterMap.mpr ⟨line, member, first⟩) rfl
  default := by
    have named : [] ∉ namespaceNames listing := fun member =>
      ne_nil_of_mem_namespaceNames member rfl
    apply Topology.get?_nil named
    rw [List.map_map]
    exact names
  visited := by
    rw [List.map_map]
    rfl
  inNamespace visit _ exchange member := visit.scoped_of_mem_exchanges host member
  complete := complete
  links := by
    rw [List.map_map]
    apply List.map_congr_left
    intro visit _
    exact LinkVisit.map_listed_filterMap_record host visit.name visit.links
  records := rfl
  failures := rfl

/-- An inspection asks all that a survey has to ask. It fails if the namespaces cannot be
listed, and otherwise the survey describes its topology, with records of the links that are
kept. -/
def Host.Surveyed (kept : Text → LinkVisit → Bool) (before : Session σ) : Prop :=
  ∃ (survey : Survey) (result : Except Error Topology) (after : Session σ),
    host.Runs host.inspect before (survey.exchanges host) result after ∧
    after.calls = before.calls ++ (survey.exchanges host).map (·.line) ∧
    match host.namespaceListing.report survey.listing with
    | .error error => survey.namespaces = [] ∧ result = .error error
    | .ok listing => ∃ topology, result = .ok topology ∧
        survey.Describes host kept listing topology

/-- Whatever its runner answers, an inspection surveys the whole host. There is a record of
every listed link of which a query reports something. -/
theorem inspect_surveyed (before : Session σ) :
    host.Surveyed (LinkVisit.reports host) before := by
  rcases host.runs_inspect before with ⟨survey, after, ⟨names, links⟩, runs⟩
  refine ⟨survey, _, after, runs, runs.dialogue.calls, ?_⟩
  rcases report : host.namespaceListing.report survey.listing with error | listing
  · rw [report] at names
    rw [Survey.outcome, report]
    exact ⟨List.map_eq_nil_iff.mp names, rfl⟩
  · rw [report] at names
    rw [Survey.outcome, report]
    exact ⟨_, rfl, survey.describes host names links⟩

theorem Survey.Describes.filter_eq {host : Host σ} {survey : Survey}
    {kept : Text → LinkVisit → Bool} {listing : Text} {topology : Topology}
    (describes : survey.Describes host kept listing topology) :
    ∀ visit ∈ survey.namespaces,
      (visit.links.filter (kept visit.name)).map (·.listed) =
        (visit.links.filter (LinkVisit.reports host visit.name)).map (·.listed) := by
  have links := describes.links
  rw [describes.records, List.map_map, List.map_inj_left] at links
  intro visit member
  rw [← links visit member]
  exact LinkVisit.map_listed_filterMap_record host visit.name visit.links

/-- A link whose two queries succeed without anything to report has no record. -/
theorem not_surveyed_silent :
    let host : Host Unit := ⟨.standard, .scripted [("/usr/sbin/ip -oneline link list".toList,
      .leaves ⟨some 0, "9: dummy0: <BROADCAST,NOARP> mtu 1500 state DOWN\n".toList, []⟩)]⟩
    ¬ host.Surveyed (LinkVisit.succeeds host) ⟨(), []⟩ := by
  rintro host ⟨⟨listing, namespaces⟩, result, after, runs, -, outcome⟩
  have answers := runs.dialogue.result_eq (Runner.fixed_ofFunction _)
  have noNamespaces : host.namespaceListing.report listing = .ok [] := by
    rw [show listing = .ok ⟨some 0, [], []⟩ from answers _ List.mem_cons_self]
    rfl
  rw [noNamespaces] at outcome
  rcases outcome with ⟨topology, -, describes⟩
  have names : namespaces.map (·.name) = [[]] := describes.visited.trans describes.names
  rcases List.map_eq_singleton_iff.mp names with ⟨⟨name, links, visits⟩, rfl, rfl⟩
  have listed : links =
      .ok ⟨some 0, "9: dummy0: <BROADCAST,NOARP> mtu 1500 state DOWN\n".toList, []⟩ :=
    answers ⟨host.linkListing [], links⟩ (by simp [Survey.exchanges, NamespaceVisit.exchanges])
  subst listed
  have complete : visits.map (·.listed) = [⟨9, "dummy0".toList⟩] :=
    describes.complete _ List.mem_cons_self
  rcases List.map_eq_singleton_iff.mp complete with ⟨⟨device, link, address⟩, rfl, rfl⟩
  have silentLink : link = .ok ⟨some 0, [], []⟩ :=
    answers ⟨host.linkQuery [] "dummy0".toList, link⟩
      (by simp [Survey.exchanges, NamespaceVisit.exchanges, LinkVisit.exchanges])
  have silentAddress : address = .ok ⟨some 0, [], []⟩ :=
    answers ⟨host.addressQuery [] "dummy0".toList, address⟩
      (by simp [Survey.exchanges, NamespaceVisit.exchanges, LinkVisit.exchanges])
  subst silentLink silentAddress
  have kept := describes.filter_eq _ List.mem_cons_self
  cases kept

end NetAdmin
