import Mathlib.Data.List.Infix
import NetAdmin.Proofs.Address.Literal
import NetAdmin.Proofs.Route.Clearance
import NetAdmin.Proofs.Route.RuleLine
/-!
Flushes of the policy rules that `ip` keeps. Rules with the same description all look up the
same tables, so the flush of a table takes out its rules and no other one, although it may
delete another copy than the one it has listed (`takesOut_flushTableRules`). Rules with the
same priority need not mention the same addresses. The flush of an address deletes by
priority, so it takes out the right rules only if those that mention the address stand in
front of the others with their priority (`takesOut_flushAddressRules_iff`).
-/

namespace NetAdmin

/-- A rule of the table that `ip` keeps. Its body is the words that describe it. -/
structure PolicyRule where
  priority : Nat
  body : List Text
  /-- Whether the device of the rule is gone. -/
  detached : Bool
  fits : priority < Decimal.wordBound := by decide
  separate : ∀ word ∈ body, word.IsWord := by decide

namespace PolicyRule

def mentions (address : Text) (rule : PolicyRule) : Bool :=
  rule.body.contains address

def looksUp (table : Text) (rule : PolicyRule) : Bool :=
  decide (["lookup".toList, table] <:+: rule.body)

def marks (rule : PolicyRule) : List Text :=
  if rule.detached then ["[detached]".toList] else []

theorem filter_marks (rule : PolicyRule) :
    rule.marks.filter (· != ListedRule.detachedMarker) = [] := by
  unfold marks
  split <;> rfl

theorem not_mem_marks {address : Text} (written : Address.IsWritten address)
    (rule : PolicyRule) : address ∉ rule.marks := by
  have other : address ≠ "[detached]".toList := by
    rintro rfl
    exact Address.not_isWritten rfl (by decide) written
  unfold marks
  split
  · simpa using other
  · simp

/-- The line shows the priority, a colon, a tab and the words of the body, with a marker
behind them if the rule is detached. -/
def ShownAs (rule : PolicyRule) (line : Text) : Prop :=
  ∃ text, line = Decimal.write rule.priority ++ ':' :: '\t' :: text ∧
    Text.words text = rule.body ++ rule.marks

namespace ShownAs

variable {rule : PolicyRule} {line : Text} (shown : rule.ShownAs line)

include shown

theorem words_eq : Text.words line = (Decimal.write rule.priority ++ [':']) ::
    (rule.body ++ rule.marks) := by
  rcases shown with ⟨text, rfl, words⟩
  have whole : Decimal.write rule.priority ++ ':' :: '\t' :: text =
      (Decimal.write rule.priority ++ [':']) ++ '\t' :: text := by simp
  have letters : ∀ c ∈ Decimal.write rule.priority ++ [':'], Text.isBlank c = false := by
    intro c member
    rcases List.mem_append.mp member with inNumeral | last
    · exact Decimal.free_of_mem_write inNumeral
    · rw [List.mem_singleton.mp last]
      rfl
  rw [whole, Text.words_append_blank (by decide), Text.words_of_free (by simp) letters, words]
  rfl

theorem ofLine?_eq (oneLine : '\n' ∉ line) : ListedRule.ofLine? line =
    some ⟨rule.priority, rule.body.filter (· != ListedRule.detachedMarker)⟩ := by
  rcases shown with ⟨text, rfl, words⟩
  have free : '\n' ∉ '\t' :: text := by
    intro member
    exact oneLine (List.mem_append_right _ (List.mem_cons_of_mem _ member))
  rw [ListedRule.ofLine?_numeral rule.fits free, Text.words_cons_of_blank (by decide), words,
    List.filter_append, filter_marks, List.append_nil]

theorem contains_words {address : Text} (written : Address.IsWritten address) :
    (Text.words line).contains address = rule.mentions address := by
  have noNumeral : address ≠ Decimal.write rule.priority ++ [':'] := by
    rintro rfl
    exact Address.not_isWritten_numeral (fun c member => Decimal.isDigit_of_mem_write member)
      written
  rw [shown.words_eq, mentions, Bool.eq_iff_iff]
  simp [noNumeral, not_mem_marks written rule]

end ShownAs

theorem filterMap_ofLine? {rules : List PolicyRule} {lines : List Text}
    (shown : List.Forall₂ ShownAs rules lines) (oneLine : ∀ line ∈ lines, '\n' ∉ line) :
    lines.filterMap ListedRule.ofLine? = rules.map fun rule =>
      ⟨rule.priority, rule.body.filter (· != ListedRule.detachedMarker)⟩ := by
  induction shown with
  | nil => rfl
  | cons first others induction =>
      rw [List.filterMap_cons_some (first.ofLine?_eq (oneLine _ List.mem_cons_self)),
        induction fun line member => oneLine line (List.mem_cons_of_mem _ member), List.map_cons]

theorem forall₂_mentions {address : Text} (written : Address.IsWritten address)
    {rules : List PolicyRule} {lines : List Text} (shown : List.Forall₂ ShownAs rules lines) :
    List.Forall₂ ShownAs (rules.filter (mentions address))
      (lines.filter fun line => address ∈ Text.words line) := by
  refine List.rel_filter (fun rule line first => ?_) shown
  dsimp only
  rw [← first.contains_words written, List.contains_eq_mem]

/-! ## A table of rules -/

def ofText (priority : Nat) (text : Text) (detached : Bool)
    (fits : priority < Decimal.wordBound := by decide) : PolicyRule :=
  ⟨priority, Text.words text, detached, fits, fun _ member => Text.free_of_mem_words member⟩

def display (rule : PolicyRule) : Text :=
  Decimal.write rule.priority ++ ':' :: '\t' :: Text.glue ' ' (rule.body ++ rule.marks)

example : (ofText 32765 "from 10.0.0.2 lookup t1".toList true).display =
    "32765:\tfrom 10.0.0.2 lookup t1 [detached]".toList := by decide

theorem isWord_of_mem_shown {rule : PolicyRule} {word : Text}
    (member : word ∈ rule.body ++ rule.marks) : word.IsWord := by
  rcases List.mem_append.mp member with inBody | mark
  · exact rule.separate word inBody
  · unfold marks at mark
    split at mark
    · rw [List.mem_singleton.mp mark]
      decide
    · cases mark

theorem shownAs_display (rule : PolicyRule) : rule.ShownAs rule.display :=
  ⟨_, rfl, Text.words_glue fun _ member => isWord_of_mem_shown member⟩

theorem not_mem_display {rule : PolicyRule} {c : Char} (blank : Text.isBlank c = true)
    (noTab : c ≠ '\t') (noSpace : c ≠ ' ') : c ∉ rule.display := by
  intro member
  rcases List.mem_append.mp member with inNumeral | rest
  · simp [Decimal.free_of_mem_write inNumeral] at blank
  rcases List.mem_cons.mp rest with rfl | rest
  · cases blank
  rcases List.mem_cons.mp rest with rfl | inWords
  · exact noTab rfl
  · exact Text.not_mem_glue (fun _ shown => isWord_of_mem_shown shown) blank noSpace inWords

theorem forall₂_display (rules : List PolicyRule) :
    List.Forall₂ ShownAs rules (Text.lines (listing display rules)) := by
  apply forall₂_lines_listing
  · intro rule
    exact ⟨not_mem_display rfl (by decide) (by decide),
      not_mem_display rfl (by decide) (by decide)⟩
  · exact shownAs_display

def priorityDeletion? (line : CommandLine) : Option (PolicyRule → Bool) :=
  if line.tail.take 3 = ["rule".toList, "del".toList, "pref".toList] then
    ((line.drop 4).head?.bind Decimal.natural?).map fun priority rule =>
      decide (rule.priority = priority)
  else none

def byPriority : Runner (List PolicyRule) :=
  .ofTable priorityDeletion? fun _ => listing display

def bodyDeletion? (line : CommandLine) : Option (PolicyRule → Bool) :=
  if line.tail.take 2 = ["rule".toList, "del".toList] then
    some fun rule => decide (rule.body = line.drop 3)
  else none

def byBody : Runner (List PolicyRule) :=
  .ofTable bodyDeletion? fun line rules =>
    listing display (rules.filter (looksUp (line.getLastD [])))

theorem byPriority_lists (settings : Settings) :
    (⟨settings, byPriority⟩ : Host _).Lists id [settings.ip, "rule".toList, "list".toList]
      (fun _ => true) ShownAs := by
  refine Runner.ofTable_lists settings (by rfl) ?_
  intro rules
  rw [List.filter_true]
  exact forall₂_display rules

theorem byPriority_deletes (settings : Settings) (priority : Nat) :
    (⟨settings, byPriority⟩ : Host _).Deletes id [settings.ip, "rule".toList, "del".toList,
      "pref".toList, Decimal.write priority] fun rule => rule.priority = priority := by
  apply Runner.ofTable_deletes
  simp [priorityDeletion?, Decimal.natural?_write]

theorem byBody_lists (settings : Settings) (table : Text) :
    (⟨settings, byBody⟩ : Host _).Lists id
      [settings.ip, "rule".toList, "show".toList, "lookup".toList, table] (looksUp table)
      ShownAs := by
  refine Runner.ofTable_lists settings (by rfl) ?_
  intro rules
  exact forall₂_display (rules.filter (looksUp table))

theorem byBody_deletes (settings : Settings) (body : List Text) :
    (⟨settings, byBody⟩ : Host _).Deletes id
      ([settings.ip, "rule".toList, "del".toList] ++ body) fun rule => rule.body = body := by
  apply Runner.ofTable_deletes
  simp [bodyDeletion?]

end PolicyRule

/-! ## Flushes -/

section Flushes

variable {σ : Type} {host : Host σ} {rules : σ → List PolicyRule}

/-- If `ip` deletes the first rule with a priority, the flush of an address takes out the
rules that mention it exactly if no other rule stands in front of one of them with its
priority. -/
theorem takesOut_flushAddressRules_iff {address : Text} (written : Address.IsWritten address)
    (lists : host.Lists rules [host.settings.ip, "rule".toList, "list".toList] (fun _ => true)
      PolicyRule.ShownAs)
    (deletes : ∀ priority < Decimal.wordBound,
      host.Deletes rules [host.settings.ip, "rule".toList, "del".toList, "pref".toList,
        Decimal.write priority] fun rule => rule.priority = priority)
    (before : Session σ) :
    TakesOut (host.flushAddressRules address) rules (PolicyRule.mentions address) before ↔
      (rules before.state).Pairwise fun earlier later =>
        earlier.priority = later.priority → later.mentions address → earlier.mentions address := by
  have deletesListed : ∀ priority ∈ ((rules before.state).filter (PolicyRule.mentions address)).map
      PolicyRule.priority, host.Deletes rules [host.settings.ip, "rule".toList, "del".toList,
        "pref".toList, Decimal.write priority] fun rule => rule.priority = priority := by
    intro priority member
    rcases List.mem_map.mp member with ⟨rule, -, rfl⟩
    exact deletes rule.priority rule.fits
  refine (Flush.addressRules address).takesOut_iff lists deletesListed ?_
  intro listed shown
  rw [List.filter_true] at shown
  have oneLine : ∀ line ∈ (Text.lines listed).filter fun line => address ∈ Text.words line,
      '\n' ∉ line := by
    intro line member
    exact Text.newline_not_mem_of_mem_lines (List.mem_filter.mp member).1
  rw [Flush.deletions, PolicyRule.filterMap_ofLine? (PolicyRule.forall₂_mentions written shown)
    oneLine, List.map_map, List.map_map]
  rfl

theorem takesOut_flushAddressRules_iff_first :
    let host : Host (List PolicyRule) := ⟨.standard, PolicyRule.byPriority⟩
    let rules : List PolicyRule := [.ofText 0 "from all lookup local".toList false,
      .ofText 100 "from 10.0.0.2 lookup t1".toList false,
      .ofText 100 "from 10.0.0.9 lookup t2".toList true,
      .ofText 200 "to 10.0.0.2 lookup t1".toList true]
    Address.IsWritten "10.0.0.2".toList ∧
      host.Lists id [host.settings.ip, "rule".toList, "list".toList] (fun _ => true)
        PolicyRule.ShownAs ∧
      (∀ priority < Decimal.wordBound,
        host.Deletes id [host.settings.ip, "rule".toList, "del".toList, "pref".toList,
          Decimal.write priority] fun rule => rule.priority = priority) ∧
      TakesOut (host.flushAddressRules "10.0.0.2".toList) id
        (PolicyRule.mentions "10.0.0.2".toList) ⟨rules, []⟩ := by
  intro host rules
  have written : Address.IsWritten "10.0.0.2".toList := ⟨"10.0.0.2".toList, by decide, .inl rfl⟩
  have lists := PolicyRule.byPriority_lists .standard
  have deletes := fun priority (_ : priority < Decimal.wordBound) =>
    PolicyRule.byPriority_deletes .standard priority
  exact ⟨written, lists, deletes,
    (takesOut_flushAddressRules_iff written lists deletes ⟨rules, []⟩).mpr (by decide)⟩

/-- Two rules share a priority, and the one that mentions the address stands last. The other
one is deleted. -/
theorem not_takesOut_sharedPriority :
    let host : Host (List PolicyRule) := ⟨.standard, PolicyRule.byPriority⟩
    let rules : List PolicyRule := [.ofText 100 "from 10.0.0.9 lookup t2".toList false,
      .ofText 100 "from 10.0.0.2 lookup t1".toList false]
    Address.IsWritten "10.0.0.2".toList ∧
      host.Lists id [host.settings.ip, "rule".toList, "list".toList] (fun _ => true)
        PolicyRule.ShownAs ∧
      (∀ priority < Decimal.wordBound,
        host.Deletes id [host.settings.ip, "rule".toList, "del".toList, "pref".toList,
          Decimal.write priority] fun rule => rule.priority = priority) ∧
      ¬ TakesOut (host.flushAddressRules "10.0.0.2".toList) id
        (PolicyRule.mentions "10.0.0.2".toList) ⟨rules, []⟩ := by
  intro host rules
  refine ⟨⟨"10.0.0.2".toList, by decide, .inl rfl⟩, PolicyRule.byPriority_lists .standard,
    fun priority _ => PolicyRule.byPriority_deletes .standard priority, ?_⟩
  rintro ⟨after, ends, left⟩
  have remaining : (host.flushAddressRules "10.0.0.2".toList ⟨rules, []⟩).2.state.map
      PolicyRule.body = [Text.words "from 10.0.0.2 lookup t1".toList] := by decide +kernel
  rw [ends] at remaining
  have bodies := congrArg (List.map PolicyRule.body) left
  rw [id, remaining] at bodies
  exact absurd bodies (by decide)

/-- If `ip` deletes the first rule with a body, the flush of a table takes out the rules that
look it up, attached or detached, however often their bodies and priorities occur. -/
theorem takesOut_flushTableRules {table : Text}
    (lists : host.Lists rules [host.settings.ip, "rule".toList, "show".toList, "lookup".toList,
      table] (PolicyRule.looksUp table) PolicyRule.ShownAs)
    (deletes : ∀ body, host.Deletes rules ([host.settings.ip, "rule".toList, "del".toList] ++ body)
      fun rule => rule.body = body)
    (before : Session σ)
    (unmarked : ∀ rule ∈ rules before.state, "[detached]".toList ∉ rule.body) :
    TakesOut (host.flushTableRules table) rules (PolicyRule.looksUp table) before := by
  have bodies : ∀ rule ∈ (rules before.state).filter (PolicyRule.looksUp table),
      rule.body.filter (· != ListedRule.detachedMarker) = rule.body := by
    intro rule member
    have free := unmarked rule (List.mem_filter.mp member).1
    rw [List.filter_eq_self]
    intro word inBody
    have other : word ≠ ListedRule.detachedMarker := by
      rintro rfl
      exact free inBody
    exact bne_iff_ne.mpr other
  refine ((Flush.tableRules table).takesOut_iff lists (fun body _ => deletes body) ?_).mpr ?_
  · intro listed shown
    rw [Flush.deletions, PolicyRule.filterMap_ofLine? shown
      (fun line member => Text.newline_not_mem_of_mem_lines member), List.map_map, List.map_map]
    apply List.map_congr_left
    intro rule member
    simp only [Function.comp_apply, bodies rule member]
  · -- Rules with one body look up the same tables.
    apply List.pairwise_of_forall
    intro earlier later same selected
    rwa [PolicyRule.looksUp, same]

theorem takesOut_flushTableRules_repeated :
    let host : Host (List PolicyRule) := ⟨.standard, PolicyRule.byBody⟩
    let rules : List PolicyRule := [.ofText 0 "from all lookup local".toList false,
      .ofText 7 "from 10.0.0.2 lookup t1".toList false,
      .ofText 9 "from 10.0.0.2 lookup t1".toList true,
      .ofText 9 "from t1 lookup t2".toList false,
      .ofText 9 "from 10.0.0.2 lookup t1".toList false]
    host.Lists id [host.settings.ip, "rule".toList, "show".toList, "lookup".toList, "t1".toList]
        (PolicyRule.looksUp "t1".toList) PolicyRule.ShownAs ∧
      (∀ body, host.Deletes id ([host.settings.ip, "rule".toList, "del".toList] ++ body)
        fun rule => rule.body = body) ∧
      (∀ rule ∈ rules, "[detached]".toList ∉ rule.body) ∧
      TakesOut (host.flushTableRules "t1".toList) id (PolicyRule.looksUp "t1".toList)
        ⟨rules, []⟩ ∧
      rules.countP (PolicyRule.looksUp "t1".toList) = 3 := by
  intro host rules
  have lists := PolicyRule.byBody_lists .standard "t1".toList
  have deletes := PolicyRule.byBody_deletes .standard
  have unmarked : ∀ rule ∈ rules, "[detached]".toList ∉ rule.body := by decide
  exact ⟨lists, deletes, unmarked, takesOut_flushTableRules lists deletes ⟨rules, []⟩ unmarked,
    by decide⟩

end Flushes

end NetAdmin
