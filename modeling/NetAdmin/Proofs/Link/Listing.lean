import NetAdmin.Link.Listing
import NetAdmin.Proofs.Text.Listing
import NetAdmin.Proofs.Text.Numeral
/-!
Reading a listing of links. The links that are read are those that the lines of a listing
show, each once and in order, and links that were printed are read back, with their peers left
out and whatever other lines stand between them (`links_recovered`).
-/

namespace NetAdmin

theorem Text.before_eq_iff {mark : Char} {text part : Text} :
    Text.before mark text = part ↔
      mark ∉ part ∧ (text = part ∨ ∃ rest, text = part ++ mark :: rest) := by
  constructor
  · rintro rfl
    have free : mark ∉ Text.before mark text := by
      intro member
      simpa using List.mem_takeWhile_imp member
    have whole : text = Text.before mark text ++ text.dropWhile (· != mark) :=
      List.takeWhile_append_dropWhile.symm
    refine ⟨free, ?_⟩
    cases behind : text.dropWhile (· != mark) with
    | nil =>
        rw [behind, List.append_nil] at whole
        exact .inl whole
    | cons c rest =>
        have stop := List.head?_dropWhile_not (· != mark) text
        have equal : c = mark := by simpa [behind] using stop
        rw [behind, equal] at whole
        exact .inr ⟨rest, whole⟩
  · rintro ⟨free, whole⟩
    have plain : ∀ c ∈ part, (c != mark) = true := by
      intro c member
      exact bne_iff_ne.mpr fun equal => free (equal ▸ member)
    rcases whole with rfl | ⟨rest, rfl⟩
    · exact List.takeWhile_eq_self_iff.mpr plain
    · rw [Text.before, List.takeWhile_append_of_pos plain]
      simp

namespace ListedLink

/-! ## Lines that show a link -/

/-- The first word of the line is the number of the link and a colon. The second one starts with
its name and ends with a colon; what stands between the two starts with an at sign. -/
def ShownOn (line : Text) (link : ListedLink) : Prop :=
  ∃ numeral name others, Text.words line = (numeral ++ [':']) :: (name ++ [':']) :: others ∧
    Decimal.SpellsWord numeral link.index ∧ link.device ≠ [] ∧ '@' ∉ link.device ∧
    (name = link.device ∨ ∃ peer, name = link.device ++ '@' :: peer)

/-- What is printed for a link: its number and its name, with its peer if it has one, and a
note on it. -/
def printed (link : ListedLink) (peer : Option Text) (note : Text) : Text :=
  Decimal.write link.index ++ ": ".toList ++ link.device ++ (peer.map ('@' :: ·)).getD [] ++
    ": ".toList ++ note

example : printed ⟨2, "veth0".toList⟩ (some "if5".toList) "<UP>".toList =
    "2: veth0@if5: <UP>".toList := by decide

def PrintedOn (line : Text) (link : ListedLink) : Prop :=
  ∃ peer note, line = link.printed peer note ∧ link.index < Decimal.wordBound ∧
    link.device.IsWord ∧ '@' ∉ link.device ∧ ∀ name ∈ peer, name.IsUnbroken

theorem ofLine?_eq_some_iff (line : Text) (link : ListedLink) :
    ofLine? line = some link ↔ ShownOn line link := by
  rcases link with ⟨index, device⟩
  unfold ofLine?
  constructor
  · intro read
    split at read
    · next number name others found =>
        simp only [Option.bind_eq_bind, Option.bind_eq_some_iff, Text.withoutLast?_eq_some_iff,
          Decimal.word?_eq_some_iff] at read
        rcases read with ⟨numeral, rfl, value, spells, inner, rfl, kept⟩
        split at kept
        · cases kept
        · next full =>
            cases kept
            have cut := Text.before_eq_iff.mp (rfl : Text.before '@' inner = _)
            exact ⟨numeral, inner, others, found, spells, by simpa using full, cut.1, cut.2⟩
    · cases read
  · rintro ⟨numeral, name, others, found, spells, full, cut⟩
    have named : Text.before '@' name = device := Text.before_eq_iff.mpr cut
    have numbered : Text.withoutLast? ':' (numeral ++ [':']) = some numeral :=
      Text.withoutLast?_eq_some_iff.mpr rfl
    have ended : Text.withoutLast? ':' (name ++ [':']) = some name :=
      Text.withoutLast?_eq_some_iff.mpr rfl
    have nonempty : device ≠ [] := full
    simp [found, numbered, ended, Decimal.word?_eq_some_iff.mpr spells, named, nonempty]

theorem ofLine?_concat_of_blank {c : Char} (blank : Text.isBlank c = true) (line : Text) :
    ofLine? (line ++ [c]) = ofLine? line := by
  rw [ofLine?, ofLine?, Text.words_concat_of_blank blank]

theorem PrintedOn.shownOn {line : Text} {link : ListedLink} (printedOn : PrintedOn line link) :
    ShownOn line link := by
  rcases printedOn with ⟨peer, note, rfl, small, isWord, noAt, peerUnbroken⟩
  let name := link.device ++ (peer.map ('@' :: ·)).getD []
  have unbroken : name.IsUnbroken := by
    refine List.forall_mem_append.mpr ⟨isWord.2, ?_⟩
    cases peer with
    | none => exact List.forall_mem_nil _
    | some peer => exact List.forall_mem_cons.mpr ⟨by decide, peerUnbroken peer rfl⟩
  have colon : Text.IsWord [':'] := by decide
  have numbered : Text.IsWord (Decimal.write link.index ++ [':']) :=
    colon.append_left fun _ member => Decimal.free_of_mem_write member
  have named : Text.IsWord (name ++ [':']) := colon.append_left unbroken
  refine ⟨Decimal.write link.index, name, Text.words note, ?_, Decimal.spellsWord_write small,
    isWord.1, noAt, ?_⟩
  · have whole : link.printed peer note =
        (Decimal.write link.index ++ [':']) ++ ' ' :: ((name ++ [':']) ++ ' ' :: note) := by
      simp [printed, name]
    rw [whole, numbered.words_append_cons (by decide), named.words_append_cons (by decide)]
  · cases peer with
    | none => exact .inl (List.append_nil _)
    | some peer => exact .inr ⟨peer, rfl⟩

/-! ## Listings of links -/

/-- What is read from a listing is one link for each line that shows one, in their order. So
links that were printed are read back, if no line that stands between theirs shows a link. -/
theorem links_recovered (text : Text) (links : List ListedLink) :
    (ofListing text = links ↔
        Text.Lists ShownOn (Text.ShowsNothing ShownOn) (Text.lines text) links) ∧
      ∀ lines, Text.Page lines text →
        Text.Lists PrintedOn (Text.ShowsNothing ShownOn) lines links → ofListing text = links := by
  refine ⟨Text.filterMap_eq_iff_lists ofLine?_eq_some_iff, fun lines page lists => ?_⟩
  exact Text.filterMap_lines_of_lists ofLine?_eq_some_iff (ofLine?_concat_of_blank (by decide))
    (fun _ _ printedOn => printedOn.shownOn) (fun _ nothing => nothing) lists page

theorem links_recovered_peer :
    let text := "Dump\n2: a:b: <UP>\r\n7: veth0@if5: mtu 9000".toList
    let lines := ["Dump".toList, "2: a:b: <UP>".toList, "7: veth0@if5: mtu 9000".toList]
    let links : List ListedLink := [⟨2, "a:b".toList⟩, ⟨7, "veth0".toList⟩]
    Text.Page lines text ∧ Text.Lists PrintedOn (Text.ShowsNothing ShownOn) lines links ∧
      ofListing text = links := by
  intro text lines links
  have page : Text.Page lines text := Text.page_lines text
  have lists : Text.Lists PrintedOn (Text.ShowsNothing ShownOn) lines links := by
    refine .pass ((Text.showsNothing_iff ofLine?_eq_some_iff).mpr (by decide))
      (.item ⟨none, "<UP>".toList, ?_⟩ (.item ⟨some "if5".toList, "mtu 9000".toList, ?_⟩ .nil))
    · decide
    · decide
  exact ⟨page, lists, (links_recovered text links).2 lines page lists⟩

end ListedLink
end NetAdmin
