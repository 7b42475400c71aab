import NetAdmin.Proofs.Registry.Lines
import NetAdmin.Proofs.Text.Listing
/-!
The texts that show a list of entries. An entry may be spelled on its line in many ways,
and blank lines and comments may stand between the entries. Reading a registry accepts exactly
these texts and gives back the list that was shown; it fails exactly on a text in which a line
that is no comment starts with another word than a number (`ofRegistry_undoes`).
-/

namespace NetAdmin
namespace TableEntry

/-! ## Lines of a registry -/

/-- The lines that show an entry: its number, blanks and its name. More blanks may stand around
them. Behind a name other words may follow, but behind a number without a name only blanks. -/
inductive ShownOn : Text → TableEntry → Prop
  | unnamed {lead numeral trail : Text} {number : Nat} (blankLead : Text.isAllBlank lead = true)
      (spells : Decimal.SpellsWord numeral number) (blankTrail : Text.isAllBlank trail = true) :
      ShownOn (lead ++ numeral ++ trail) ⟨number, []⟩
  | named {lead numeral gap name rest : Text} {number : Nat}
      (blankLead : Text.isAllBlank lead = true) (spells : Decimal.SpellsWord numeral number)
      (blankGap : Text.isAllBlank gap = true) (wide : gap ≠ []) (isWord : name.IsWord)
      (apart : rest.head?.all Text.isBlank = true) :
      ShownOn (lead ++ numeral ++ gap ++ name ++ rest) ⟨number, name⟩

def IsComment (line : Text) : Prop :=
  (Text.trimStart line).head? = some '#'

def IsDecoration (line : Text) : Prop :=
  Text.isAllBlank line = true ∨ IsComment line

/-- The line ought to show an entry, but its first word is no number of an entry. -/
def Misread (line : Text) : Prop :=
  ¬ IsDecoration line ∧
    ∃ word, (Text.words line).head? = some word ∧ ∀ number, ¬ Decimal.SpellsWord word number

/-- The text shows the entries, each on a line of its own, in their order. -/
def Renders (entries : List TableEntry) (text : Text) : Prop :=
  ∃ lines, Text.Page lines text ∧ Text.Lists ShownOn IsDecoration lines entries

/-! ## Reading one line -/

theorem isComment_iff {line : Text} :
    IsComment line ↔ (Text.words line).head?.bind List.head? = some '#' := by
  rw [IsComment, Text.head?_trimStart]

theorem isDecoration_iff {line : Text} :
    IsDecoration line ↔
      ∀ number names, Text.words line = number :: names → number.head? = some '#' := by
  rw [IsDecoration, ← Text.words_eq_nil_iff, isComment_iff]
  cases Text.words line with
  | nil => simp
  | cons number names => simp

theorem not_hash_of_spellsWord {numeral : Text} {number : Nat}
    (spells : Decimal.SpellsWord numeral number) : numeral.head? ≠ some '#' := by
  intro hash
  rcases spells with ⟨digits, rfl | rfl, numeral, -, -⟩
  · exact absurd (numeral.2 '#' (List.mem_of_head? hash)) (by decide)
  · cases hash

theorem ShownOn.words_eq {line : Text} {entry : TableEntry} (shown : ShownOn line entry) :
    ∃ numeral names, Text.words line = numeral :: names ∧
      Decimal.SpellsWord numeral entry.number ∧ names.headD [] = entry.name := by
  cases shown with
  | @unnamed lead numeral trail number blankLead spells blankTrail =>
      have apart := Text.head?_all_of_isAllBlank blankTrail
      refine ⟨numeral, [], ?_, spells, rfl⟩
      rw [List.append_assoc, Text.words_append_of_isAllBlank blankLead,
        Text.IsWord.words_append spells.free apart, Text.words_eq_nil_iff.mpr blankTrail]
  | @named lead numeral gap name rest number blankLead spells blankGap wide isWord apart =>
      have apartGap : (gap ++ (name ++ rest)).head?.all Text.isBlank = true := by
        rw [List.head?_append_of_ne_nil _ wide]
        exact Text.head?_all_of_isAllBlank blankGap
      refine ⟨numeral, name :: Text.words rest, ?_, spells, rfl⟩
      simp only [List.append_assoc]
      rw [Text.words_append_of_isAllBlank blankLead,
        Text.IsWord.words_append spells.free apartGap,
        Text.words_append_of_isAllBlank blankGap, isWord.words_append apart]

theorem shownOn_of_words_eq {line numeral : Text} {names : List Text} {number : Nat}
    (words : Text.words line = numeral :: names) (spells : Decimal.SpellsWord numeral number) :
    ShownOn line ⟨number, names.headD []⟩ := by
  rcases Text.exists_of_words_eq_cons words with ⟨lead, rest, rfl, blankLead, apart, rfl⟩
  cases later : Text.words rest with
  | nil => exact .unnamed blankLead spells (Text.words_eq_nil_iff.mp later)
  | cons name others =>
      rcases Text.exists_of_words_eq_cons later with ⟨gap, tail, rfl, blankGap, apartName, -⟩
      have isWord : name.IsWord := Text.free_of_mem_words (later ▸ List.mem_cons_self)
      -- The number and the name are two words, so something stands between them.
      have wide : gap ≠ [] := by
        rintro rfl
        rcases List.exists_cons_of_ne_nil isWord.1 with ⟨c, letters, rfl⟩
        have letter := isWord.2 c List.mem_cons_self
        simp [letter] at apart
      have named := ShownOn.named blankLead spells blankGap wide isWord apartName
      show ShownOn _ ⟨number, name⟩
      simpa only [List.append_assoc] using named

theorem ofWords_eq_entry_iff {line : Text} {entry : TableEntry} :
    ofWords (Text.words line) = some [entry] ↔ ShownOn line entry := by
  constructor
  · intro read
    cases found : Text.words line with
    | nil => simp [found, ofWords] at read
    | cons numeral names =>
        rw [found, ofWords] at read
        split at read
        · cases read
        · rcases Option.map_eq_some_iff.mp read with ⟨number, value, same⟩
          cases same
          exact shownOn_of_words_eq found (Decimal.word?_eq_some_iff.mp value)
  · intro shown
    rcases shown.words_eq with ⟨numeral, names, found, spells, name⟩
    rw [found, ofWords, if_neg (not_hash_of_spellsWord spells),
      Decimal.word?_eq_some_iff.mpr spells, Option.map_some, name]

theorem ofWords_eq_nil_iff {line : Text} :
    ofWords (Text.words line) = some [] ↔ IsDecoration line := by
  rw [isDecoration_iff]
  cases Text.words line with
  | nil => simp [ofWords]
  | cons number names => simp [ofWords]

theorem ofWords_cases {words : List Text} {entries : List TableEntry}
    (read : ofWords words = some entries) : entries = [] ∨ ∃ entry, entries = [entry] := by
  unfold ofWords at read
  split at read
  · cases read
    exact .inl rfl
  · split at read
    · cases read
      exact .inl rfl
    · rcases Option.map_eq_some_iff.mp read with ⟨number, -, rfl⟩
      exact .inr ⟨_, rfl⟩

theorem ofWords_eq_none_iff {line : Text} :
    ofWords (Text.words line) = none ↔ Misread line := by
  rw [Misread, isDecoration_iff]
  cases Text.words line with
  | nil => simp [ofWords]
  | cons number names =>
      have unread : Decimal.word? number = none ↔ ∀ value, ¬ Decimal.SpellsWord number value := by
        rw [Option.eq_none_iff_forall_ne_some]
        exact forall_congr' fun value => not_congr Decimal.word?_eq_some_iff
      by_cases hash : number.head? = some '#'
      · simp [ofWords, hash]
      · simp [ofWords, hash, unread]

/-! ## Reading all lines -/

theorem ofLines_eq_some_iff {lines : List Text} {entries : List TableEntry} :
    ofLines lines = some entries ↔ Text.Lists ShownOn IsDecoration lines entries := by
  constructor
  · intro read
    induction lines generalizing entries with
    | nil =>
        cases read
        exact .nil
    | cons line lines induction =>
        rcases Option.bind_eq_some_iff.mp read with ⟨here, readHere, rest⟩
        rcases Option.map_eq_some_iff.mp rest with ⟨others, readOthers, rfl⟩
        rcases ofWords_cases readHere with rfl | ⟨entry, rfl⟩
        · exact .pass (ofWords_eq_nil_iff.mp readHere) (induction readOthers)
        · exact .item (ofWords_eq_entry_iff.mp readHere) (induction readOthers)
  · intro lists
    induction lists with
    | nil => rfl
    | item first _ induction => simp [ofLines, ofWords_eq_entry_iff.mpr first, induction]
    | pass first _ induction => simp [ofLines, ofWords_eq_nil_iff.mpr first, induction]

theorem ofLines_eq_none_iff {lines : List Text} :
    ofLines lines = none ↔ ∃ line ∈ lines, Misread line := by
  induction lines with
  | nil => simp [ofLines]
  | cons line lines induction =>
      rw [List.exists_mem_cons_iff, ← induction, ← ofWords_eq_none_iff, ofLines]
      cases ofWords (Text.words line) <;> simp

theorem ofLines_congr {left right : List Text}
    (same : left.map Text.words = right.map Text.words) : ofLines left = ofLines right := by
  induction left generalizing right with
  | nil =>
      rw [List.map_nil, eq_comm, List.map_eq_nil_iff] at same
      rw [same]
  | cons line left induction =>
      cases right with
      | nil => cases same
      | cons line' right =>
          rw [List.map_cons, List.map_cons, List.cons.injEq] at same
          rw [ofLines, ofLines, same.1, induction same.2]

theorem toOption_ofRegistry (text : Text) :
    (ofRegistry text).toOption = ofLines (Text.lines text) :=
  toOption_mapM_ofLine (Text.lines text)

theorem renders_iff {entries : List TableEntry} {text : Text} :
    Renders entries text ↔ ofLines (Text.lines text) = some entries := by
  constructor
  · rintro ⟨lines, page, lists⟩
    rw [ofLines_congr (page.map_lines (Text.words_concat_of_blank (by decide)))]
    exact ofLines_eq_some_iff.mpr lists
  · intro read
    exact ⟨Text.lines text, Text.page_lines text, ofLines_eq_some_iff.mp read⟩

/-! ## Entries as they are written -/

theorem shownOn_display {entry : TableEntry} (small : entry.number < Decimal.wordBound)
    (unbroken : entry.name.IsUnbroken) : ShownOn entry.display entry := by
  rcases entry with ⟨number, name⟩
  have spells := Decimal.spellsWord_write small
  have words := words_display ⟨number, name⟩
  cases name with
  | nil => exact shownOn_of_words_eq words spells
  | cons c rest =>
      rw [Text.words_of_free (by simp) unbroken] at words
      exact shownOn_of_words_eq words spells

theorem renders_display {entries : List TableEntry}
    (plain : ∀ entry ∈ entries, entry.number < Decimal.wordBound ∧ entry.name.IsUnbroken) :
    Renders entries (Text.glue '\n' (entries.map display)) := by
  refine ⟨entries.map display, Text.page_glue ?_, Text.lists_map ?_⟩
  · intro line member
    rcases List.mem_map.mp member with ⟨entry, inside, rfl⟩
    exact ⟨newline_not_mem_display (plain entry inside).2, by simp [display]⟩
  · intro entry inside
    exact shownOn_display (plain entry inside).1 (plain entry inside).2

/-- Reading a registry undoes every way of showing entries, and accepts nothing else. In
particular it gives back entries that were written below each other. It fails exactly if a line
that is neither blank nor a comment does not start with a number. -/
theorem ofRegistry_undoes (text : Text) (entries : List TableEntry) :
    (ofRegistry text = .ok entries ↔ Renders entries text) ∧
      ((∀ entry ∈ entries, entry.number < Decimal.wordBound ∧ entry.name.IsUnbroken) →
        ofRegistry (Text.glue '\n' (entries.map display)) = .ok entries) ∧
      ((∃ error, ofRegistry text = .error error) ↔ ∃ line ∈ Text.lines text, Misread line) := by
  have accepts (shown : Text) : ofRegistry shown = .ok entries ↔ Renders entries shown := by
    rw [renders_iff, ← toOption_ofRegistry]
    cases ofRegistry shown <;> simp [Except.toOption]
  refine ⟨accepts text, fun plain => (accepts _).mpr (renders_display plain), ?_⟩
  rw [← ofLines_eq_none_iff, ← toOption_ofRegistry]
  cases ofRegistry text <;> simp [Except.toOption]

theorem ofRegistry_undoes_mixed :
    let text := "# tables\r\n\n \t+255  local  # kept\r\n007 \n0\tunspec".toList
    let entries : List TableEntry := [⟨255, "local".toList⟩, ⟨7, []⟩, ⟨0, "unspec".toList⟩]
    Renders entries text ∧
      (∀ entry ∈ entries, entry.number < Decimal.wordBound ∧ entry.name.IsUnbroken) ∧
      ofRegistry "255\tlocal\n7\t\n0\tunspec".toList = .ok entries ∧
      ¬ ∃ line ∈ Text.lines text, Misread line := by
  intro text entries
  have plain : ∀ entry ∈ entries, entry.number < Decimal.wordBound ∧ entry.name.IsUnbroken := by
    decide
  have read : ofRegistry text = .ok entries := by decide +kernel
  have undoes := ofRegistry_undoes text entries
  refine ⟨undoes.1.mp read, plain, undoes.2.1 plain, ?_⟩
  rw [← undoes.2.2, read]
  rintro ⟨error, impossible⟩
  cases impossible

end TableEntry
end NetAdmin
