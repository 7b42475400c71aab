import NetAdmin.Interface.FunctionListing
import NetAdmin.Proofs.Text.Listing
import NetAdmin.Proofs.Text.Numeral
/-!
Reading the virtual functions in the listing of a link. The functions that are read are those
that the lines show, each once and in order. The hardware address of a function is the word
behind the first marker on its own line, so neither the address of the link nor a broadcast
address is taken for it, and functions that were printed in either layout are read back
(`functions_recovered`).
-/

namespace NetAdmin

/-- Behind the core the text has marks only, and the core itself does not end with one. -/
def Text.FollowedBy (mark : Char) (core text : Text) : Prop :=
  core.getLast? ≠ some mark ∧ ∃ marks, text = core ++ marks ∧ ∀ c ∈ marks, c = mark

theorem Text.trimEndOf_eq_iff {mark : Char} {text core : Text} :
    Text.trimEndOf mark text = core ↔ Text.FollowedBy mark core text := by
  constructor
  · rintro rfl
    refine ⟨?_, (text.reverse.takeWhile (· == mark)).reverse, ?_, ?_⟩
    · rw [Text.trimEndOf, List.getLast?_reverse]
      intro last
      have stop := List.head?_dropWhile_not (· == mark) text.reverse
      simp [last] at stop
    · rw [Text.trimEndOf, ← List.reverse_append, List.takeWhile_append_dropWhile,
        List.reverse_reverse]
    · intro c member
      simpa using List.mem_takeWhile_imp (List.mem_reverse.mp member)
  · rintro ⟨last, marks, rfl, all⟩
    have dropped : ∀ c ∈ marks.reverse, (c == mark) = true := by simpa using all
    have kept : core.reverse.dropWhile (· == mark) = core.reverse := by
      rw [List.dropWhile_eq_self_iff]
      intro full
      rw [← List.head?_reverse, List.head?_eq_getElem?, List.getElem?_eq_getElem full] at last
      simpa using last
    rw [Text.trimEndOf, List.reverse_append, List.dropWhile_append_of_pos dropped, kept,
      List.reverse_reverse]

namespace ListedFunction

/-! ## Lines that show a virtual function -/

def IsMarker (word : Text) : Prop :=
  word = "MAC".toList ∨ word = "link/ether".toList

def IsMarked (words : List Text) (word : Text) : Prop :=
  ∃ front marker back, words = front ++ marker :: word :: back ∧ IsMarker marker ∧
    ∀ other ∈ front, ¬ IsMarker other

/-- The line starts with `vf` and a space. Its second word is the number of the function, and
the word behind its first marker is the hardware address; commas may follow both. -/
structure ShownOn (line : Text) (function : ListedFunction) : Prop where
  starts : "vf ".toList <+: Text.trim line
  numbered : ∃ first word others numeral, Text.words line = first :: word :: others ∧
    Text.FollowedBy ',' numeral word ∧ Decimal.SpellsWord numeral function.index
  addressed : ∃ word, IsMarked (Text.words line) word ∧ Text.FollowedBy ',' function.mac word

/-- The two layouts in which a virtual function is printed, behind blanks that indent it. Its
hardware address has no commas of its own. -/
inductive PrintedOn : Text → ListedFunction → Prop
  | named {lead mac note : Text} {index : Nat} (indent : Text.isAllBlank lead = true)
      (small : index < Decimal.wordBound) (isWord : mac.IsWord) (noComma : ',' ∉ mac) :
      PrintedOn (lead ++ "vf ".toList ++ Decimal.write index ++ " MAC ".toList ++ mac ++
        ", ".toList ++ note) ⟨index, mac⟩
  | linked {lead gap mac note : Text} {index : Nat} (indent : Text.isAllBlank lead = true)
      (small : index < Decimal.wordBound) (blank : Text.isAllBlank gap = true) (wide : gap ≠ [])
      (isWord : mac.IsWord) (noComma : ',' ∉ mac) :
      PrintedOn (lead ++ "vf ".toList ++ Decimal.write index ++ gap ++ "link/ether ".toList ++
        mac ++ " brd ".toList ++ note) ⟨index, mac⟩

def StartsOtherwise (line : Text) : Prop :=
  ¬ "vf ".toList <+: Text.trim line

theorem isMacMarker_iff {word : Text} : isMacMarker word = true ↔ IsMarker word := by
  simp [isMacMarker, IsMarker]

theorem isMarked_cons {first second word : Text} {rest : List Text} :
    IsMarked (first :: second :: rest) word ↔
      (IsMarker first ∧ second = word) ∨ (¬ IsMarker first ∧ IsMarked (second :: rest) word) := by
  constructor
  · rintro ⟨front, marker, back, whole, isMarker, unmarked⟩
    cases front with
    | nil =>
        rw [List.nil_append, List.cons.injEq, List.cons.injEq] at whole
        exact .inl ⟨whole.1 ▸ isMarker, whole.2.1⟩
    | cons other front =>
        rw [List.cons_append, List.cons.injEq] at whole
        rw [List.forall_mem_cons, ← whole.1] at unmarked
        exact .inr ⟨unmarked.1, front, marker, back, whole.2, isMarker, unmarked.2⟩
  · rintro (⟨isMarker, rfl⟩ | ⟨noMarker, front, marker, back, whole, isMarker, unmarked⟩)
    · exact ⟨[], first, rest, rfl, isMarker, List.forall_mem_nil _⟩
    · exact ⟨first :: front, marker, back, congrArg (first :: ·) whole, isMarker,
        List.forall_mem_cons.mpr ⟨noMarker, unmarked⟩⟩

theorem markedMac?_eq_some_iff {words : List Text} {mac : Text} :
    markedMac? words = some mac ↔ IsMarked words mac := by
  induction words with
  | nil => simp [markedMac?, IsMarked]
  | cons first others induction =>
      cases others with
      | nil => simp [markedMac?, IsMarked, List.cons_eq_append_iff]
      | cons second rest =>
          rw [markedMac?, isMarked_cons, ← isMacMarker_iff]
          cases isMacMarker first with
          | true => simp
          | false => simpa using induction

theorem ofLine?_eq_some_iff (line : Text) (function : ListedFunction) :
    ofLine? line = some function ↔ ShownOn line function := by
  rcases function with ⟨index, mac⟩
  unfold ofLine?
  dsimp only
  cases start : "vf ".toList.isPrefixOf (Text.trim line) with
  | false =>
      rw [Bool.not_false, if_pos rfl]
      constructor
      · intro read
        cases read
      · intro shown
        rw [List.isPrefixOf_iff_prefix.mpr shown.starts] at start
        cases start
  | true =>
      rw [Bool.not_true, if_neg Bool.false_ne_true, Text.words_trim]
      constructor
      · intro read
        simp only [Option.bind_eq_bind, Option.bind_eq_some_iff, Decimal.word?_eq_some_iff,
          markedMac?_eq_some_iff] at read
        rcases read with ⟨word, second, value, spells, marked, isMarked, same⟩
        rw [Option.some.injEq, ListedFunction.mk.injEq] at same
        rcases same with ⟨rfl, rfl⟩
        cases found : Text.words line with
        | nil => simp [found] at second
        | cons first others =>
            rw [found, List.tail_cons, List.head?_eq_some_iff] at second
            rcases second with ⟨rest, rfl⟩
            refine ⟨List.isPrefixOf_iff_prefix.mp start, ?_, ?_⟩
            · exact ⟨first, word, rest, _, found, Text.trimEndOf_eq_iff.mp rfl, spells⟩
            · exact ⟨marked, isMarked, Text.trimEndOf_eq_iff.mp rfl⟩
      · rintro ⟨-, ⟨first, word, others, numeral, found, behind, spells⟩, marked, isMarked,
          behindMac⟩
        have value := Decimal.word?_eq_some_iff.mpr spells
        have address := markedMac?_eq_some_iff.mpr isMarked
        rw [found] at address
        simp [found, Text.trimEndOf_eq_iff.mpr behind, value, address,
          Text.trimEndOf_eq_iff.mpr behindMac]

theorem ofLine?_concat_of_blank {c : Char} (blank : Text.isBlank c = true) (line : Text) :
    ofLine? (line ++ [c]) = ofLine? line := by
  rw [ofLine?, ofLine?, Text.trim_concat_of_blank blank]

/-! ## Printed lines -/

theorem followedBy_of_not_mem {mark : Char} {core : Text} (free : mark ∉ core) {marks : Text}
    (all : ∀ c ∈ marks, c = mark) : Text.FollowedBy mark core (core ++ marks) :=
  ⟨fun last => free (List.mem_of_getLast? last), marks, rfl, all⟩

theorem not_isMarker_of_isNumeral {word : Text} (numeral : Decimal.IsNumeral word) :
    ¬ IsMarker word := by
  rintro (rfl | rfl)
  · exact absurd (numeral.2 'M' (by decide)) (by decide)
  · exact absurd (numeral.2 'l' (by decide)) (by decide)

theorem starts_of_isAllBlank {lead : Text} (indent : Text.isAllBlank lead = true) {c : Char}
    (letter : Text.isBlank c = false) (rest : Text) :
    "vf ".toList <+: Text.trim (lead ++ ("vf ".toList ++ c :: rest)) := by
  have start : Text.trimStart (lead ++ ("vf ".toList ++ c :: rest)) =
      "vf ".toList ++ c :: rest := by
    rw [Text.trimStart, List.dropWhile_append_of_pos (List.all_eq_true.mp indent)]
    exact List.dropWhile_cons_of_neg (by decide)
  rw [Text.trim, start, Text.trimEnd_append_cons letter]
  exact List.prefix_append _ _

theorem shownOn_of_words {lead rest marker word mac : Text} {others : List Text} {index : Nat}
    (indent : Text.isAllBlank lead = true) (small : index < Decimal.wordBound)
    (apart : rest.head?.all Text.isBlank = true)
    (found : Text.words rest = marker :: word :: others)
    (isMarker : IsMarker marker) (behind : Text.FollowedBy ',' mac word) :
    ShownOn (lead ++ ("vf ".toList ++ (Decimal.write index ++ rest))) ⟨index, mac⟩ := by
  have digits := Decimal.isNumeral_write index
  have numeral : Text.IsWord (Decimal.write index) := digits.free
  have words : Text.words (lead ++ ("vf ".toList ++ (Decimal.write index ++ rest))) =
      "vf".toList :: Decimal.write index :: marker :: word :: others := by
    have first : Text.IsWord "vf".toList := by decide
    rw [Text.words_append_of_isAllBlank indent, ← found, ← numeral.words_append apart]
    exact first.words_append_cons (by decide) _
  refine ⟨?_, ?_, ?_⟩
  · rcases List.exists_cons_of_ne_nil digits.1 with ⟨c, later, written⟩
    have letter := numeral.2 c (written ▸ List.mem_cons_self)
    rw [written]
    exact starts_of_isAllBlank indent letter _
  · have noComma : ',' ∉ Decimal.write index :=
      fun member => absurd (digits.2 ',' member) (by decide)
    have alone := followedBy_of_not_mem noComma (List.forall_mem_nil _)
    rw [List.append_nil] at alone
    exact ⟨_, _, _, Decimal.write index, words, alone, Decimal.spellsWord_write small⟩
  · refine ⟨word, ⟨["vf".toList, Decimal.write index], marker, others, words, isMarker, ?_⟩, behind⟩
    have noMarker : ¬ IsMarker "vf".toList := by simp [IsMarker]
    exact List.forall_mem_cons.mpr ⟨noMarker,
      List.forall_mem_singleton.mpr (not_isMarker_of_isNumeral digits)⟩

theorem PrintedOn.shownOn {line : Text} {function : ListedFunction}
    (printedOn : PrintedOn line function) : ShownOn line function := by
  cases printedOn with
  | @named lead mac note index indent small isWord noComma =>
      have marker : Text.IsWord "MAC".toList := by decide
      have comma : Text.IsWord [','] := by decide
      have words : Text.words (' ' :: ("MAC".toList ++ ' ' :: ((mac ++ [',']) ++ ' ' :: note))) =
          "MAC".toList :: (mac ++ [',']) :: Text.words note := by
        rw [Text.words_cons_of_blank (by decide), marker.words_append_cons (by decide),
          (comma.append_left isWord.2).words_append_cons (by decide)]
      have behind : Text.FollowedBy ',' mac (mac ++ [',']) :=
        followedBy_of_not_mem noComma (by simp)
      have shown := shownOn_of_words indent small rfl words (.inl rfl) behind
      simpa using shown
  | @linked lead gap mac note index indent small blank wide isWord noComma =>
      have marker : Text.IsWord "link/ether".toList := by decide
      have apart : (gap ++ ("link/ether".toList ++ ' ' ::
          (mac ++ ' ' :: ("brd ".toList ++ note)))).head?.all Text.isBlank = true := by
        rw [List.head?_append_of_ne_nil _ wide]
        exact Text.head?_all_of_isAllBlank blank
      have words : Text.words (gap ++ ("link/ether".toList ++ ' ' ::
          (mac ++ ' ' :: ("brd ".toList ++ note)))) =
            "link/ether".toList :: mac :: Text.words ("brd ".toList ++ note) := by
        rw [Text.words_append_of_isAllBlank blank, marker.words_append_cons (by decide),
          isWord.words_append_cons (by decide)]
      have behind := followedBy_of_not_mem noComma (List.forall_mem_nil _)
      rw [List.append_nil] at behind
      have shown := shownOn_of_words indent small apart words (.inr rfl) behind
      simpa using shown

/-! ## Listings of virtual functions -/

/-- What is read from a listing is one function for each line that shows one, in their order. So
functions that were printed are read back, whatever lines that start otherwise stand between. -/
theorem functions_recovered (text : Text) (functions : List ListedFunction) :
    (ofListing text = functions ↔
        Text.Lists ShownOn (Text.ShowsNothing ShownOn) (Text.lines text) functions) ∧
      ∀ lines, Text.Page lines text → Text.Lists PrintedOn StartsOtherwise lines functions →
        ofListing text = functions := by
  refine ⟨Text.filterMap_eq_iff_lists ofLine?_eq_some_iff, fun lines page lists => ?_⟩
  exact Text.filterMap_lines_of_lists ofLine?_eq_some_iff (ofLine?_concat_of_blank (by decide))
    (fun _ _ printedOn => printedOn.shownOn) (fun _ otherwise _ shown => otherwise shown.starts)
    lists page

theorem functions_recovered_both :
    let text :=
      " link/ether 0a brd ff\n vf 0 MAC 01, vlan 0\r\n vf 17   link/ether 02 brd ff".toList
    let lines := [" link/ether 0a brd ff".toList, " vf 0 MAC 01, vlan 0".toList,
      " vf 17   link/ether 02 brd ff".toList]
    let functions : List ListedFunction := [⟨0, "01".toList⟩, ⟨17, "02".toList⟩]
    Text.Page lines text ∧ Text.Lists PrintedOn StartsOtherwise lines functions ∧
      ofListing text = functions := by
  intro text lines functions
  have cut : Text.lines text = lines := by decide +kernel
  have page : Text.Page lines text := cut ▸ Text.page_lines text
  have other : StartsOtherwise " link/ether 0a brd ff".toList := by
    rw [StartsOtherwise]
    decide
  have named : PrintedOn " vf 0 MAC 01, vlan 0".toList ⟨0, "01".toList⟩ :=
    @PrintedOn.named " ".toList "01".toList "vlan 0".toList 0 (by decide) (by decide) (by decide)
      (by decide)
  have linked : PrintedOn " vf 17   link/ether 02 brd ff".toList ⟨17, "02".toList⟩ :=
    @PrintedOn.linked " ".toList "   ".toList "02".toList "ff".toList 17 (by decide) (by decide)
      (by decide) (by decide) (by decide) (by decide)
  have lists : Text.Lists PrintedOn StartsOtherwise lines functions :=
    .pass other (.item named (.item linked .nil))
  exact ⟨page, lists, (functions_recovered text functions).2 lines page lists⟩

end ListedFunction
end NetAdmin
