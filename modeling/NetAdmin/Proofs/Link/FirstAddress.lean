import NetAdmin.Link.Details
import NetAdmin.Proofs.Json.Extent
/-!
The first address of a link. Of all that is reported, one entry decides, the first one with
an address in the first link that has one (`ReportedLink.First`), together with the kind of
its link: it gives the details (`AddressDetails.OfEntry`), and only its own texts can be
at fault (`ReportedAddress.Faulty`). What stands in front of the report does not count.
-/

namespace NetAdmin

/-! ## What decides -/

/-- The entry is the first one with an address in the first of the links that has one. -/
def ReportedLink.First (links : List ReportedLink) (link : ReportedLink)
    (entry : ReportedAddress) (text : Text) : Prop :=
  (∃ skipped others, links = skipped ++ link :: others ∧
    ∀ other ∈ skipped, ∀ entry ∈ other.addresses, entry.address = none) ∧
  (∃ skipped others, link.addresses = skipped ++ entry :: others ∧
    ∀ other ∈ skipped, other.address = none) ∧
  entry.address = some text

/-- The text of an entry that is not an address: its own, or the broadcast address if its own
is one. -/
inductive ReportedAddress.Faulty (entry : ReportedAddress) (text : Text) : Text → Prop
  | address (unreadable : Address.read? text = none) : Faulty entry text text
  | broadcast {address : Address} {broadcast : Text} (readable : Address.read? text = some address)
      (given : entry.broadcast = some broadcast) (unreadable : Address.read? broadcast = none) :
      Faulty entry text broadcast

/-- The kind is that of a virtual local network, and its number is a whole number of sixteen
bits in the data. -/
def ReportedKind.IsVlan (kind : ReportedKind) (id : Nat) : Prop :=
  kind.kind = some "vlan".toList ∧ ∃ data number, kind.data = some data ∧
    data.field? "id".toList = some (.number number) ∧ number.negative = false ∧
    number.fraction = none ∧ number.exponent = none ∧
    Json.Number.digitsValue number.whole = id ∧ id ≤ 65535

/-- The details that an entry and the kind of its link say. -/
structure AddressDetails.OfEntry (kind : Option ReportedKind) (entry : ReportedAddress)
    (text : Text) (details : AddressDetails) : Prop where
  address : Address.read? text = some details.address
  length : details.length = entry.length
  broadcast : entry.broadcast.map Address.read? = details.broadcast.map some
  vlan : ∀ id, details.vlan = some id ↔ ∃ given, kind = some given ∧ given.IsVlan id

structure ReportedLink.Decide (links : List ReportedLink)
    (result : Except Error (Option AddressDetails)) : Prop where
  nothing_iff : result = .ok none ↔
    ∀ link ∈ links, ∀ entry ∈ link.addresses, entry.address = none
  error_iff : ∀ link entry text, First links link entry text → ∀ cause,
    result = .error cause ↔ ∃ faulty, entry.Faulty text faulty ∧
      cause = .unreadable "IP address".toList (Text.quoted faulty ++ " is not an address".toList)
  found_iff : ∀ link entry text, First links link entry text → ∀ details,
    result = .ok (some details) ↔ details.OfEntry link.kind entry text

/-! ## The network number -/

theorem Json.Number.natural?_eq_some_iff {number : Json.Number} {value : Nat}
    (small : value ≤ 65535) :
    number.natural? = some value ↔ number.negative = false ∧ number.fraction = none ∧
      number.exponent = none ∧ digitsValue number.whole = value := by
  have fits : value < 0x10000000000000000 := by omega
  rw [natural?]
  dsimp only
  constructor
  · intro found
    split at found
    · cases found
    · next plain =>
        split at found
        · cases found
          simpa [and_assoc] using plain
        · cases found
  · rintro ⟨sign, fraction, exponent, rfl⟩
    simp [sign, fraction, exponent, fits]

namespace ReportedKind

theorem vlan?_eq_some_iff {kind : ReportedKind} {id : Nat} :
    kind.vlan? = some id ↔ kind.IsVlan id := by
  rw [vlan?, IsVlan]
  by_cases isVlan : kind.kind = some "vlan".toList
  · rw [if_pos isVlan, and_iff_right isVlan]
    constructor
    · intro found
      rcases Option.bind_eq_some_iff.mp found with ⟨data, given, found⟩
      rcases Option.bind_eq_some_iff.mp found with ⟨value, field, found⟩
      rcases Option.bind_eq_some_iff.mp found with ⟨number, natural, found⟩
      split at found
      · next small =>
          cases found
          cases value with
          | number number =>
              rcases (Json.Number.natural?_eq_some_iff (by omega)).mp natural with
                ⟨sign, fraction, exponent, value⟩
              exact ⟨data, number, given, field, sign, fraction, exponent, value, by omega⟩
          | _ => cases natural
      · cases found
    · rintro ⟨data, number, given, field, sign, fraction, exponent, value, small⟩
      have natural := (Json.Number.natural?_eq_some_iff small).mpr
        ⟨sign, fraction, exponent, value⟩
      have short : id < 0x10000 := by omega
      simp only [given, field, Json.natural?, natural, Option.bind_eq_bind, Option.bind_some, short,
        if_true]
  · rw [if_neg isVlan]
    constructor
    · intro found
      cases found
    · rintro ⟨same, -⟩
      exact absurd same isVlan

theorem bind_vlan?_eq_some_iff {kind : Option ReportedKind} {id : Nat} :
    kind.bind (·.vlan?) = some id ↔ ∃ given, kind = some given ∧ given.IsVlan id := by
  rw [Option.bind_eq_some_iff]
  exact exists_congr fun given => and_congr_right fun _ => vlan?_eq_some_iff

end ReportedKind

/-! ## The deciding entry -/

namespace ReportedLink

theorem firstAddress?_eq_some_iff {link : ReportedLink} {entry : ReportedAddress} {text : Text} :
    link.firstAddress? = some (text, entry) ↔
      (∃ skipped others, link.addresses = skipped ++ entry :: others ∧
        ∀ other ∈ skipped, other.address = none) ∧ entry.address = some text := by
  rw [firstAddress?, List.findSome?_eq_some_iff]
  constructor
  · rintro ⟨skipped, found, others, whole, address, unaddressed⟩
    rcases Option.map_eq_some_iff.mp address with ⟨_, given, same⟩
    cases same
    exact ⟨⟨skipped, others, whole, fun other member =>
      Option.map_eq_none_iff.mp (unaddressed other member)⟩, given⟩
  · rintro ⟨⟨skipped, others, whole, unaddressed⟩, given⟩
    exact ⟨skipped, entry, others, whole, by rw [given]; rfl, fun other member =>
      Option.map_eq_none_iff.mpr (unaddressed other member)⟩

theorem firstAddress?_eq_none_iff {link : ReportedLink} :
    link.firstAddress? = none ↔ ∀ entry ∈ link.addresses, entry.address = none := by
  simp only [firstAddress?, List.findSome?_eq_none_iff, Option.map_eq_none_iff]

end ReportedLink

namespace AddressDetails

theorem readAddress_eq_error {text : Text} (unreadable : Address.read? text = none) :
    readAddress text = .error (.unreadable "IP address".toList
      (Text.quoted text ++ " is not an address".toList)) := by
  rw [readAddress, unreadable]

theorem readAddress_eq_ok {text : Text} {address : Address}
    (readable : Address.read? text = some address) : readAddress text = .ok address := by
  rw [readAddress, readable]

theorem ofEntry_cases (link : ReportedLink) (text : Text) (entry : ReportedAddress) :
    (∃ faulty, entry.Faulty text faulty ∧ ofEntry link text entry = .error
      (.unreadable "IP address".toList (Text.quoted faulty ++ " is not an address".toList))) ∨
    ∃ details, details.OfEntry link.kind entry text ∧ ofEntry link text entry = .ok details := by
  have vlan (id : Nat) : link.kind.bind (·.vlan?) = some id ↔
      ∃ given, link.kind = some given ∧ given.IsVlan id :=
    ReportedKind.bind_vlan?_eq_some_iff
  rcases readable : Address.read? text with _ | address
  · refine .inl ⟨text, .address readable, ?_⟩
    rw [ofEntry, readAddress_eq_error readable]
    rfl
  rcases given : entry.broadcast with _ | broadcast
  · refine .inr ⟨⟨address, entry.length, none, link.kind.bind (·.vlan?)⟩,
      ⟨readable, rfl, by rw [given]; rfl, vlan⟩, ?_⟩
    rw [ofEntry, readAddress_eq_ok readable, given]
    rfl
  rcases readableBroadcast : Address.read? broadcast with _ | second
  · refine .inl ⟨broadcast, .broadcast readable given readableBroadcast, ?_⟩
    rw [ofEntry, readAddress_eq_ok readable, given, Option.mapM_some,
      readAddress_eq_error readableBroadcast]
    rfl
  · refine .inr ⟨⟨address, entry.length, some second, link.kind.bind (·.vlan?)⟩,
      ⟨readable, rfl, by rw [given]; exact congrArg some readableBroadcast, vlan⟩, ?_⟩
    rw [ofEntry, readAddress_eq_ok readable, given, Option.mapM_some,
      readAddress_eq_ok readableBroadcast]
    rfl

end AddressDetails

theorem ReportedAddress.Faulty.unique {entry : ReportedAddress} {text first second : Text}
    (isFaulty : entry.Faulty text first) (alsoFaulty : entry.Faulty text second) :
    first = second := by
  cases isFaulty with
  | address unreadable =>
      cases alsoFaulty with
      | address => rfl
      | broadcast readable =>
          rw [unreadable] at readable
          cases readable
  | broadcast readable given =>
      cases alsoFaulty with
      | address unreadable =>
          rw [unreadable] at readable
          cases readable
      | broadcast _ alsoGiven => exact Option.some.inj (given.symm.trans alsoGiven)

namespace AddressDetails

theorem OfEntry.unique {kind : Option ReportedKind} {entry : ReportedAddress} {text : Text}
    {first second : AddressDetails} (given : first.OfEntry kind entry text)
    (alsoGiven : second.OfEntry kind entry text) : first = second := by
  have address := Option.some.inj (given.address.symm.trans alsoGiven.address)
  have length := given.length.trans alsoGiven.length.symm
  have broadcast : first.broadcast = second.broadcast :=
    Option.map_injective (fun _ _ => Option.some.inj)
      (given.broadcast.symm.trans alsoGiven.broadcast)
  have vlan : first.vlan = second.vlan :=
    Option.ext fun id => (given.vlan id).trans (alsoGiven.vlan id).symm
  cases first
  cases second
  cases address
  cases length
  cases broadcast
  cases vlan
  rfl

theorem OfEntry.not_faulty {kind : Option ReportedKind} {entry : ReportedAddress} {text : Text}
    {details : AddressDetails} (given : details.OfEntry kind entry text) (faulty : Text) :
    ¬ entry.Faulty text faulty := by
  rintro (unreadable | ⟨-, broadcast, unreadable⟩)
  · rw [given.address] at unreadable
    cases unreadable
  · have readable := given.broadcast
    rw [broadcast, Option.map_some, unreadable] at readable
    rcases Option.map_eq_some_iff.mp readable.symm with ⟨_, -, same⟩
    cases same

theorem ofEntry_eq_ok_iff {link : ReportedLink} {text : Text} {entry : ReportedAddress}
    {details : AddressDetails} :
    ofEntry link text entry = .ok details ↔ details.OfEntry link.kind entry text := by
  rcases ofEntry_cases link text entry with ⟨faulty, isFaulty, result⟩ | ⟨found, given, result⟩
  · rw [result]
    constructor
    · intro same
      cases same
    · intro given
      exact absurd isFaulty (given.not_faulty faulty)
  · rw [result]
    constructor
    · intro same
      cases same
      exact given
    · intro alsoGiven
      rw [given.unique alsoGiven]

theorem ofEntry_eq_error_iff {link : ReportedLink} {text : Text} {entry : ReportedAddress}
    {cause : Error} : ofEntry link text entry = .error cause ↔
      ∃ faulty, entry.Faulty text faulty ∧ cause = .unreadable "IP address".toList
        (Text.quoted faulty ++ " is not an address".toList) := by
  rcases ofEntry_cases link text entry with ⟨faulty, isFaulty, result⟩ | ⟨found, given, result⟩
  · rw [result]
    constructor
    · intro same
      cases same
      exact ⟨faulty, isFaulty, rfl⟩
    · rintro ⟨other, alsoFaulty, rfl⟩
      rw [isFaulty.unique alsoFaulty]
  · rw [result]
    constructor
    · intro same
      cases same
    · rintro ⟨faulty, isFaulty, -⟩
      exact absurd isFaulty (given.not_faulty faulty)

/-! ## The links of a report -/

theorem ofLinks_of_first {links : List ReportedLink} {link : ReportedLink}
    {entry : ReportedAddress} {text : Text} (first : ReportedLink.First links link entry text) :
    ofLinks links = (ofEntry link text entry).map some := by
  rcases first with ⟨⟨skipped, others, rfl, unaddressed⟩, inside, address⟩
  have chosen := ReportedLink.firstAddress?_eq_some_iff.mpr ⟨inside, address⟩
  induction skipped with
  | nil => rw [List.nil_append, ofLinks, chosen]
  | cons other skipped induction =>
      have skips : other.firstAddress? = none :=
        ReportedLink.firstAddress?_eq_none_iff.mpr (unaddressed other List.mem_cons_self)
      rw [List.cons_append, ofLinks, skips]
      exact induction fun other member => unaddressed other (List.mem_cons_of_mem _ member)

theorem ofLinks_eq_nothing_iff {links : List ReportedLink} : ofLinks links = .ok none ↔
    ∀ link ∈ links, ∀ entry ∈ link.addresses, entry.address = none := by
  induction links with
  | nil => simp [ofLinks]
  | cons link links induction =>
      rw [List.forall_mem_cons, ← ReportedLink.firstAddress?_eq_none_iff, ← induction, ofLinks]
      rcases link.firstAddress? with _ | ⟨text, entry⟩
      · simp
      · rcases result : ofEntry link text entry with error | details
        · simp [Except.map, result]
        · simp [Except.map, result]

theorem decide_ofLinks (links : List ReportedLink) : ReportedLink.Decide links (ofLinks links) where
  nothing_iff := ofLinks_eq_nothing_iff
  error_iff link entry text first cause := by
    rw [ofLinks_of_first first, ← ofEntry_eq_error_iff]
    rcases ofEntry link text entry with error | details
    · simp [Except.map]
    · simp [Except.map]
  found_iff link entry text first details := by
    rw [ofLinks_of_first first, ← ofEntry_eq_ok_iff]
    rcases ofEntry link text entry with error | details
    · simp [Except.map]
    · simp [Except.map]

theorem ofLinks_congr {links others : List ReportedLink} {link other : ReportedLink}
    {entry : ReportedAddress} {text : Text} (first : ReportedLink.First links link entry text)
    (otherFirst : ReportedLink.First others other entry text) (kind : link.kind = other.kind) :
    ofLinks links = ofLinks others := by
  rw [ofLinks_of_first first, ofLinks_of_first otherFirst, ofEntry, ofEntry, kind]

end AddressDetails

/-! ## The text of a report -/

theorem dropWhile_append_bracket {noise : Text} (free : '[' ∉ noise) (rest : Text) :
    (noise ++ '[' :: rest).dropWhile (· != '[') = '[' :: rest := by
  rw [List.dropWhile_append_of_pos]
  · rfl
  · intro c member
    exact bne_iff_ne.mpr (ne_of_mem_of_not_mem member free)

theorem reportedJson?_append {noise : Text} (free : '[' ∉ noise) (rest : Text) :
    reportedJson? (noise ++ '[' :: rest) = some ('[' :: Text.trimEnd rest) := by
  have start : Text.trimStart (noise ++ '[' :: rest) = Text.trimStart noise ++ '[' :: rest := by
    rw [Text.trimStart, List.dropWhile_append]
    split
    · next blank =>
        rw [Text.trimStart, List.isEmpty_iff.mp blank]
        rfl
    · rfl
  have freeStart : '[' ∉ Text.trimStart noise :=
    fun member => free ((List.dropWhile_suffix _).subset member)
  have trimmed : Text.trim (noise ++ '[' :: rest) =
      Text.trimStart noise ++ '[' :: Text.trimEnd rest := by
    rw [Text.trim, start, Text.trimEnd_append_cons (by decide)]
  have payload := dropWhile_append_bracket freeStart (Text.trimEnd rest)
  rw [reportedJson?, trimmed]
  split
  · next empty => exact absurd empty (by simp)
  · rw [payload]

theorem readReport_trimEnd {α : Type} {decode : Json → Option α} {rest : Text} {items : List α}
    (done : readReport decode ('[' :: rest) = .ok items) :
    readReport decode ('[' :: Text.trimEnd rest) = .ok items := by
  rcases found : Json.read? ('[' :: rest) with _ | document
  · rw [readReport, found] at done
    cases done
  · rw [readReport, found] at done
    rw [readReport, Json.read?_trimEnd found]
    exact done

namespace AddressDetails

theorem ofReport_append {noise : Text} (free : '[' ∉ noise) (rest : Text) :
    ofReport (noise ++ '[' :: rest) = ofReport ('[' :: rest) := by
  have plain := reportedJson?_append (List.not_mem_nil (a := '[')) rest
  rw [List.nil_append] at plain
  rw [ofReport, reportedJson?_append free, ofReport, plain]

theorem ofReport_of_decoded {report : Text} {links : List ReportedLink}
    (decoded : readReport ReportedLink.ofJson? (report.dropWhile (· != '[')) = .ok links) :
    ofReport report = ofLinks links := by
  rcases start : report.dropWhile (· != '[') with _ | ⟨c, rest⟩
  · rw [start] at decoded
    cases decoded
  · have bracket := List.head?_dropWhile_not (· != '[') report
    rw [start] at bracket
    have isBracket : c = '[' := by simpa using bracket
    subst isBracket
    have free : '[' ∉ report.takeWhile (· != '[') := by
      intro member
      simpa using List.mem_takeWhile_imp member
    have whole : report = report.takeWhile (· != '[') ++ '[' :: rest := by
      rw [← start, List.takeWhile_append_dropWhile]
    rw [start] at decoded
    rw [whole, ofReport, reportedJson?_append free]
    dsimp only
    rw [readReport_trimEnd decoded]
    rfl

/-- The first entry with an address of the first link that has one decides what a report of
addresses gives, and nothing else in the report does. -/
theorem ofReport_decided :
    (∀ report links, readReport ReportedLink.ofJson? (report.dropWhile (· != '[')) = .ok links →
      ReportedLink.Decide links (ofReport report)) ∧
    (∀ report links other others link otherLink entry text,
      readReport ReportedLink.ofJson? (report.dropWhile (· != '[')) = .ok links →
      readReport ReportedLink.ofJson? (other.dropWhile (· != '[')) = .ok others →
      ReportedLink.First links link entry text → ReportedLink.First others otherLink entry text →
      link.kind = otherLink.kind → ofReport report = ofReport other) ∧
    ∀ noise rest : Text, '[' ∉ noise →
      ofReport (noise ++ '[' :: rest) = ofReport ('[' :: rest) := by
  refine ⟨fun report links decoded => ?_, ?_, fun noise rest free => ofReport_append free rest⟩
  · rw [ofReport_of_decoded decoded]
    exact decide_ofLinks links
  · intro report links other others link otherLink entry text decoded otherDecoded first otherFirst
      kind
    rw [ofReport_of_decoded decoded, ofReport_of_decoded otherDecoded]
    exact ofLinks_congr first otherFirst kind

theorem ofReport_decided_vlan :
    ofReport ("[\x7b\"addr_info\":[\x7b\"local\":\"10.0.3.17\",\"prefixlen\":22\x7d]," ++
        "\"linkinfo\":\x7b\"info_kind\":\"vlan\",\"info_data\":\x7b\"id\":5\x7d\x7d\x7d]").toList =
      .ok (some ⟨.v4 0x0A000311, some 22, none, some 5⟩) ∧
    ofReport "[\x7b\"addr_info\":[\x7b\"local\":\"::1\"\x7d]\x7d]".toList =
      ofReport ("[\x7b\x7d,\x7b\"addr_info\":[\x7b\x7d,\x7b\"local\":\"::1\"\x7d," ++
        "\x7b\"local\":\"x\"\x7d]\x7d]").toList ∧
    ofReport ("note: ".toList ++ '[' :: "\x7b\x7d]".toList) =
      ofReport ('[' :: "\x7b\x7d]".toList) := by
  let vlan : ReportedKind := ⟨some "vlan".toList,
    some (.object [(some "id".toList, .number ⟨false, ['5'], none, none⟩)])⟩
  let addressed : ReportedAddress := ⟨some "10.0.3.17".toList, some 22, none⟩
  let loopback : ReportedAddress := ⟨some "::1".toList, none, none⟩
  let network : ReportedLink := ⟨[addressed], some vlan⟩
  let alone : ReportedLink := ⟨[loopback], none⟩
  let among : ReportedLink :=
    ⟨[⟨none, none, none⟩, loopback, ⟨some "x".toList, none, none⟩], none⟩
  rcases ofReport_decided with ⟨decided, unaffected, behind⟩
  refine ⟨?_, ?_, behind _ _ (by decide)⟩
  · have first : ReportedLink.First [network] network addressed "10.0.3.17".toList :=
      ⟨⟨[], [], rfl, by simp⟩, ⟨[], [], rfl, by simp⟩, rfl⟩
    refine ((decided _ [network] (by decide +kernel)).found_iff network _ _ first _).mpr ?_
    exact ofEntry_eq_ok_iff.mp (by decide +kernel)
  · have first : ReportedLink.First [alone] alone loopback "::1".toList :=
      ⟨⟨[], [], rfl, by simp⟩, ⟨[], [], rfl, by simp⟩, rfl⟩
    have firstAmong : ReportedLink.First [⟨[], none⟩, among] among loopback "::1".toList :=
      ⟨⟨[_], [], rfl, by simp⟩, ⟨[_], [_], rfl, by simp⟩, rfl⟩
    exact unaffected _ _ _ _ _ _ _ _ (by decide +kernel) (by decide +kernel) first firstAmong rfl

end AddressDetails
end NetAdmin
