import NetAdmin.Proofs.Route.Clearance
import NetAdmin.Proofs.Text.Lines
/-!
The flush of the routes of a device that `ip` keeps. A listing leaves the device out of its
lines, and so do the deletions that are made from them. Routes of several devices may be
described by the same words, and then the first one is deleted, whatever its device is
(`takesOut_flushRoutes_iff`).
-/

namespace NetAdmin

/-- A route of the table that `ip` keeps. Its words describe it apart from its device. -/
structure DeviceRoute where
  device : Text
  words : List Text
  separate : ∀ word ∈ words, word.IsWord := by decide
  deviceless : "dev".toList ∉ words := by decide

namespace DeviceRoute

def isOn (device : Text) (route : DeviceRoute) : Bool :=
  decide (route.device = device)

def ShownAs (route : DeviceRoute) (line : Text) : Prop :=
  Text.words line = route.words

theorem map_words_of_shown {routes : List DeviceRoute} {lines : List Text}
    (shown : List.Forall₂ ShownAs routes lines) : lines.map Text.words = routes.map words := by
  induction shown with
  | nil => rfl
  | cons first _ induction => rw [List.map_cons, List.map_cons, first, induction]

theorem map_words_filter_of_shown {routes : List DeviceRoute} {lines : List Text}
    (shown : List.Forall₂ ShownAs routes lines) :
    (lines.filter fun line => !Text.isAllBlank line).map Text.words =
      (routes.filter fun route => !route.words.isEmpty).map words := by
  have nonblank : (fun line => !Text.isAllBlank line) =
      (fun words : List Text => !words.isEmpty) ∘ Text.words := by
    funext line
    have same : Text.isAllBlank line = (Text.words line).isEmpty := by
      rw [Bool.eq_iff_iff, List.isEmpty_iff, Text.words_eq_nil_iff]
    rw [Function.comp_apply, same]
  have described : (fun route : DeviceRoute => !route.words.isEmpty) =
      (fun words : List Text => !words.isEmpty) ∘ words := rfl
  rw [nonblank, described, ← List.filter_map, ← List.filter_map, map_words_of_shown shown]

/-! ## A table of routes -/

def ofText (device text : Text) (deviceless : "dev".toList ∉ Text.words text := by decide) :
    DeviceRoute :=
  ⟨device, Text.words text, fun _ member => Text.free_of_mem_words member, deviceless⟩

def display (route : DeviceRoute) : Text :=
  Text.glue ' ' route.words

example : listing display [ofText "eth0".toList "default via 10.0.1.1".toList,
      ofText "eth0".toList "10.0.1.0/24 proto kernel".toList] =
    "default via 10.0.1.1\n10.0.1.0/24 proto kernel\n".toList := by decide

theorem forall₂_display (routes : List DeviceRoute) :
    List.Forall₂ ShownAs routes (Text.lines (listing display routes)) := by
  apply forall₂_lines_listing
  · intro route
    exact ⟨Text.not_mem_glue route.separate rfl (by decide),
      Text.not_mem_glue route.separate rfl (by decide)⟩
  · intro route
    exact Text.words_glue route.separate

def deletion? (line : CommandLine) : Option (DeviceRoute → Bool) :=
  if line.tail.take 2 = ["route".toList, "del".toList] then
    some fun route => decide (route.words = line.drop 3)
  else none

/-- A runner that shows the routes of the device named last and deletes routes by their
words. -/
def byWords : Runner (List DeviceRoute) :=
  .ofTable deletion? fun line routes =>
    listing display (routes.filter (isOn (line.getLastD [])))

theorem byWords_lists (settings : Settings) (device : Text) :
    (⟨settings, byWords⟩ : Host _).Lists id
      [settings.ip, "route".toList, "show".toList, "dev".toList, device] (isOn device)
      ShownAs := by
  refine Runner.ofTable_lists settings (by rfl) ?_
  intro routes
  exact forall₂_display (routes.filter (isOn device))

theorem byWords_deletes (settings : Settings) (words : List Text) :
    (⟨settings, byWords⟩ : Host _).Deletes id
      ([settings.ip, "route".toList, "del".toList] ++ words)
      fun route => route.words = words := by
  apply Runner.ofTable_deletes
  simp [deletion?]

end DeviceRoute

/-! ## The flush -/

section Flushes

variable {σ : Type} {host : Host σ} {routes : σ → List DeviceRoute} {device : Text}

theorem DeviceRoute.deletions_of_shown {listed : Text} {table : List DeviceRoute}
    (shown : List.Forall₂ ShownAs (table.filter (isOn device)) (Text.lines listed)) :
    (Flush.routes device).deletions host listed =
      ((table.filter fun route => !route.words.isEmpty && route.isOn device).map words).map
        ([host.settings.ip, "route".toList, "del".toList] ++ ·) := by
  have described := map_words_filter_of_shown shown
  rw [List.filter_filter] at described
  rw [← described, List.map_map]
  rfl

/-- If `ip` deletes the first route with the given words, the flush of a device takes out its
routes exactly if each of them has words, and no route of another device with the same words
stands in front of one of them. -/
theorem takesOut_flushRoutes_iff
    (lists : host.Lists routes [host.settings.ip, "route".toList, "show".toList, "dev".toList,
      device] (DeviceRoute.isOn device) DeviceRoute.ShownAs)
    (deletes : ∀ words, "dev".toList ∉ words →
      host.Deletes routes ([host.settings.ip, "route".toList, "del".toList] ++ words)
        fun route => route.words = words)
    (before : Session σ) :
    TakesOut (host.flushRoutes device) routes (DeviceRoute.isOn device) before ↔
      (∀ route ∈ routes before.state, route.isOn device → route.words ≠ []) ∧
      (routes before.state).Pairwise fun earlier later =>
        earlier.words = later.words → later.isOn device → earlier.isOn device := by
  have deletesAsked : ∀ selected : DeviceRoute → Bool,
      ∀ words ∈ ((routes before.state).filter selected).map DeviceRoute.words,
        host.Deletes routes ([host.settings.ip, "route".toList, "del".toList] ++ words)
          fun route => route.words = words := by
    intro selected words member
    rcases List.mem_map.mp member with ⟨route, -, rfl⟩
    exact deletes route.words route.deviceless
  by_cases described : ∀ route ∈ routes before.state, route.isOn device → route.words ≠ []
  · have all : ((routes before.state).filter fun route =>
        !route.words.isEmpty && route.isOn device) =
          (routes before.state).filter (DeviceRoute.isOn device) := by
      apply List.filter_congr
      intro route member
      cases on : route.isOn device with
      | false => rw [Bool.and_false]
      | true => simp [described route member on]
    rw [and_iff_right described]
    refine (Flush.routes device).takesOut_iff lists (deletesAsked _) ?_
    intro listed shown
    rw [DeviceRoute.deletions_of_shown shown, all]
  · rw [iff_false_right (fun holds => described holds.1)]
    push Not at described
    rcases described with ⟨route, member, on, nothing⟩
    -- A route without words is shown on a blank line, and stays.
    rcases (Flush.routes device).exists_withoutFirsts lists
      (deletesAsked fun route => !route.words.isEmpty && route.isOn device)
      (fun listed shown => DeviceRoute.deletions_of_shown shown) with ⟨after, ends, left⟩
    have unasked : route.words ∉ ((routes before.state).filter fun route =>
        !route.words.isEmpty && route.isOn device).map DeviceRoute.words := by
      intro asked
      rcases List.mem_map.mp asked with ⟨other, inFilter, same⟩
      simp [same, nothing] at inFilter
    have stays := mem_withoutFirsts unasked member
    rintro ⟨other, endsOther, leftOther⟩
    have same : other = after := congrArg Prod.snd (endsOther.symm.trans ends)
    rw [← left, ← same, leftOther] at stays
    simp [on] at stays

theorem takesOut_flushRoutes_iff_first :
    let host : Host (List DeviceRoute) := ⟨.standard, DeviceRoute.byWords⟩
    let routes : List DeviceRoute := [.ofText "eth0".toList "10.0.1.0/24 proto kernel".toList,
      .ofText "eth0".toList "default via 10.0.1.1".toList,
      .ofText "eth1".toList "default via 10.0.1.1".toList]
    host.Lists id [host.settings.ip, "route".toList, "show".toList, "dev".toList, "eth0".toList]
        (DeviceRoute.isOn "eth0".toList) DeviceRoute.ShownAs ∧
      (∀ words, "dev".toList ∉ words →
        host.Deletes id ([host.settings.ip, "route".toList, "del".toList] ++ words)
          fun route => route.words = words) ∧
      TakesOut (host.flushRoutes "eth0".toList) id (DeviceRoute.isOn "eth0".toList)
        ⟨routes, []⟩ := by
  intro host routes
  have lists := DeviceRoute.byWords_lists .standard "eth0".toList
  have deletes := fun words (_ : "dev".toList ∉ words) =>
    DeviceRoute.byWords_deletes .standard words
  exact ⟨lists, deletes,
    (takesOut_flushRoutes_iff lists deletes ⟨routes, []⟩).mpr (by decide)⟩

/-- Two devices share the words of a route, and the flushed one has its route behind. The
other one is deleted. -/
theorem not_takesOut_sharedWords :
    let host : Host (List DeviceRoute) := ⟨.standard, DeviceRoute.byWords⟩
    let routes : List DeviceRoute := [.ofText "eth1".toList "default via 10.0.1.1".toList,
      .ofText "eth0".toList "default via 10.0.1.1".toList]
    host.Lists id [host.settings.ip, "route".toList, "show".toList, "dev".toList, "eth0".toList]
        (DeviceRoute.isOn "eth0".toList) DeviceRoute.ShownAs ∧
      (∀ words, "dev".toList ∉ words →
        host.Deletes id ([host.settings.ip, "route".toList, "del".toList] ++ words)
          fun route => route.words = words) ∧
      ¬ TakesOut (host.flushRoutes "eth0".toList) id (DeviceRoute.isOn "eth0".toList)
        ⟨routes, []⟩ := by
  intro host routes
  refine ⟨DeviceRoute.byWords_lists .standard "eth0".toList,
    fun words _ => DeviceRoute.byWords_deletes .standard words, ?_⟩
  rintro ⟨after, ends, left⟩
  have remaining : (host.flushRoutes "eth0".toList ⟨routes, []⟩).2.state.map
      DeviceRoute.device = ["eth0".toList] := by decide +kernel
  rw [ends] at remaining
  have devices := congrArg (List.map DeviceRoute.device) left
  rw [id, remaining] at devices
  exact absurd devices (by decide)

end Flushes

end NetAdmin
