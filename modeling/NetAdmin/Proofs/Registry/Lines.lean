import NetAdmin.Proofs.Text.Lines
import NetAdmin.Proofs.Text.Numeral
import NetAdmin.Registry.Edit
/-!
The lines of a registry. Reading a registry and deleting from it cut the text in
different ways, but neither looks at more than the words of a line. So both can be
told by the pieces between newlines (`ofRegistry_eq_ok`, `withoutName_eq`), and an
edit of the text is an edit of its entries (`ofRegistry_withEntry`,
`ofRegistry_withoutName`).
-/

namespace NetAdmin
namespace TableEntry

/-! ## Entries of lines -/

/-- The entries on a line with the given words. There are none if it has no words or
its first one starts with a hash. -/
def ofWords : List Text → Option (List TableEntry)
  | [] => some []
  | number :: names =>
      if number.head? = some '#' then some []
      else (Decimal.word? number).map fun value => [⟨value, names.headD []⟩]

def ofLines : List Text → Option (List TableEntry)
  | [] => some []
  | line :: lines => (ofWords (Text.words line)).bind fun entries =>
      (ofLines lines).map fun others => entries ++ others

theorem ofLines_append (left right : List Text) :
    ofLines (left ++ right) =
      (ofLines left).bind fun entries => (ofLines right).map fun others => entries ++ others := by
  induction left with
  | nil => simp [ofLines]
  | cons line left induction =>
      rw [List.cons_append, ofLines, ofLines, induction]
      cases ofWords (Text.words line) <;> cases ofLines left <;> cases ofLines right <;> simp

@[simp] theorem ofLines_singleton_nil : ofLines [[]] = some [] := rfl

theorem ofLines_concat_nil (lines : List Text) : ofLines (lines ++ [[]]) = ofLines lines := by
  rw [ofLines_append, ofLines_singleton_nil]
  cases ofLines lines <;> simp

theorem ofLines_map {change : Text → Text}
    (same : ∀ line, Text.words (change line) = Text.words line) (lines : List Text) :
    ofLines (lines.map change) = ofLines lines := by
  induction lines with
  | nil => rfl
  | cons line lines induction => rw [List.map_cons, ofLines, ofLines, same, induction]

theorem isEntryLine_eq (line : Text) : isEntryLine line = line.head?.any (· != '#') := by
  cases line <;> rfl

theorem isEntryLine_trim (line : Text) :
    isEntryLine (Text.trim line) = ((Text.words line).head?.bind List.head?).any (· != '#') := by
  rw [isEntryLine_eq, Text.head?_trim]

theorem ofWords_words (line : Text) :
    ofWords (Text.words line) =
      if isEntryLine (Text.trim line) then
        (ofLine (Text.trim line)).toOption.map fun entry => [entry]
      else some [] := by
  rw [isEntryLine_trim, ofLine, Text.words_trim]
  cases found : Text.words line with
  | nil => rfl
  | cons number names =>
      have member : number ∈ Text.words line := by simp [found]
      rcases List.exists_cons_of_ne_nil (Text.free_of_mem_words member).1 with ⟨c, rest, rfl⟩
      by_cases comment : c = '#'
      · simp [ofWords, comment]
      · cases value : Decimal.word? (c :: rest) <;> simp [ofWords, comment, value, Except.toOption]

theorem toOption_mapM_ofLine (lines : List Text) :
    (((lines.map Text.trim).filter isEntryLine).mapM ofLine).toOption = ofLines lines := by
  induction lines with
  | nil => rfl
  | cons line lines induction =>
      rw [ofLines, ← induction, ofWords_words, List.map_cons, List.filter_cons]
      split
      · rw [List.mapM_cons]
        cases ofLine (Text.trim line) with
        | error error => rfl
        | ok entry =>
            cases ((lines.map Text.trim).filter isEntryLine).mapM ofLine <;> rfl
      · cases ((lines.map Text.trim).filter isEntryLine).mapM ofLine <;> rfl

theorem ofLines_lines (text : Text) :
    ofLines (Text.lines text) = ofLines (Text.pieces '\n' text) := by
  rcases Text.exists_pieces_concat '\n' text with ⟨init, last, cut⟩
  rw [Text.lines, ofLines_map Text.words_withoutLineEnd, Text.chunks_of_pieces cut, cut,
    ofLines_append, ofLines_append, ofLines_map (Text.words_concat_of_blank (by decide))]
  cases last <;> rfl

theorem ofRegistry_eq_ok {text : Text} {entries : List TableEntry} :
    ofRegistry text = .ok entries ↔ ofLines (Text.pieces '\n' text) = some entries := by
  rw [← ofLines_lines, ← toOption_mapM_ofLine]
  change _ ↔ (ofRegistry text).toOption = some entries
  cases ofRegistry text <;> simp [Except.toOption]

theorem free_of_ofWords {line : Text} {entries : List TableEntry} {entry : TableEntry}
    (read : ofWords (Text.words line) = some entries) (member : entry ∈ entries) :
    ∀ c ∈ entry.name, Text.isBlank c = false := by
  cases found : Text.words line with
  | nil =>
      rw [found] at read
      cases read
      cases member
  | cons number names =>
      rw [found, ofWords] at read
      split at read
      · cases read
        cases member
      · rcases Option.map_eq_some_iff.mp read with ⟨value, -, rfl⟩
        cases List.mem_singleton.mp member
        cases names with
        | nil => simp
        | cons name others =>
            have inside : name ∈ Text.words line := by simp [found]
            exact (Text.free_of_mem_words inside).2

theorem free_of_ofLines {lines : List Text} {entries : List TableEntry} {entry : TableEntry}
    (read : ofLines lines = some entries) (member : entry ∈ entries) :
    ∀ c ∈ entry.name, Text.isBlank c = false := by
  induction lines generalizing entries with
  | nil =>
      cases read
      cases member
  | cons line lines induction =>
      rcases Option.bind_eq_some_iff.mp read with ⟨here, readHere, rest⟩
      rcases Option.map_eq_some_iff.mp rest with ⟨others, readOthers, rfl⟩
      rcases List.mem_append.mp member with first | later
      · exact free_of_ofWords readHere first
      · exact induction readOthers later

theorem free_of_ofRegistry {text : Text} {entries : List TableEntry} {entry : TableEntry}
    (registered : ofRegistry text = .ok entries) (member : entry ∈ entries) :
    ∀ c ∈ entry.name, Text.isBlank c = false :=
  free_of_ofLines (ofRegistry_eq_ok.mp registered) member

theorem firstFree_eq_some {entries : List TableEntry} {number : Nat} :
    firstFree entries = some number ↔
      number < numberLimit ∧ (∀ entry ∈ entries, entry.number ≠ number) ∧
        ∀ smaller < number, ∃ entry ∈ entries, entry.number = smaller := by
  rw [firstFree, List.find?_range_eq_some]
  simp only [Bool.not_eq_true', List.any_eq_false, List.mem_range, Bool.not_not,
    List.any_eq_true, beq_iff_eq]
  constructor
  · rintro ⟨unused, small, least⟩
    exact ⟨small, unused, least⟩
  · rintro ⟨small, unused, least⟩
    exact ⟨unused, small, least⟩

theorem firstFree_eq_none {entries : List TableEntry} :
    firstFree entries = none ↔
      ∀ number < numberLimit, ∃ entry ∈ entries, entry.number = number := by
  rw [firstFree, List.find?_range_eq_none]
  simp only [Bool.not_not, List.any_eq_true, beq_iff_eq]

/-! ## The line of an entry -/

theorem newline_not_mem_display {entry : TableEntry}
    (free : ∀ c ∈ entry.name, Text.isBlank c = false) : '\n' ∉ entry.display := by
  intro member
  rcases List.mem_append.mp member with inNumber | inRest
  · exact absurd (Decimal.free_of_mem_write inNumber) (by decide)
  · rcases List.mem_cons.mp inRest with tab | inName
    · exact absurd tab (by decide)
    · exact absurd (free _ inName) (by decide)

theorem words_display (entry : TableEntry) :
    Text.words entry.display = Decimal.write entry.number :: Text.words entry.name := by
  have digits : ∀ c ∈ Decimal.write entry.number, Text.isBlank c = false :=
    fun c member => Decimal.free_of_mem_write member
  rw [display, Text.words_append_blank (by decide),
    Text.words_of_free (Decimal.write_ne_nil entry.number) digits, List.singleton_append]

theorem ofLines_display {entry : TableEntry} (small : entry.number < Decimal.wordBound)
    (free : ∀ c ∈ entry.name, Text.isBlank c = false) :
    ofLines (Text.pieces '\n' entry.display) = some [entry] := by
  rw [Text.pieces_of_not_mem (newline_not_mem_display free), ofLines, words_display]
  rcases entry with ⟨value, name⟩
  cases name with
  | nil =>
      simp [ofWords, ofLines, Text.words_nil, Decimal.word?_write small, Decimal.head?_write_ne]
  | cons c rest =>
      rw [Text.words_of_free (by simp) free]
      simp [ofWords, ofLines, Decimal.word?_write small, Decimal.head?_write_ne]

end TableEntry

namespace Registry

open TableEntry

/-! ## Deleting lines -/

theorem registers_eq (name line : Text) :
    registers name line =
      ((Text.words line).head?.bind List.head? != some '#' &&
        (Text.words line).tail.head? == some name) := by
  rw [registers, Text.head?_trimStart]

theorem registers_concat_newline (name line : Text) :
    registers name (line ++ ['\n']) = registers name line := by
  rw [registers_eq, registers_eq, Text.words_concat_of_blank (by decide)]

theorem registers_nil (name : Text) : registers name [] = false := rfl

theorem registers_empty (line : Text) : registers [] line = false := by
  rw [registers_eq]
  by_contra registered
  simp only [Bool.not_eq_false, Bool.and_eq_true, beq_iff_eq] at registered
  have member := List.mem_of_mem_tail (List.mem_of_head? registered.2)
  exact (Text.free_of_mem_words member).1 rfl

theorem withoutName_eq (text name : Text) :
    withoutName text name =
      Text.glue '\n' ((Text.pieces '\n' text).filter fun line => !registers name line) := by
  rcases Text.exists_pieces_concat '\n' text with ⟨init, last, cut⟩
  have ends := Text.isEmpty_last_piece cut
  have kept : ((init.map (· ++ ['\n'])).filter fun line => !registers name line) =
      (init.filter fun line => !registers name line).map (· ++ ['\n']) := by
    simp only [List.filter_map, Function.comp_def, registers_concat_newline]
  simp only [withoutName, Text.chunks_of_pieces cut, cut, List.filter_append, kept]
  by_cases empty : last = []
  · -- No line is left open, so no line end has to go.
    subst empty
    have closed : text = [] ∨ text.getLast? = some '\n' := by simpa using ends
    rcases closed with rfl | newline
    · have none : init = [] := by simpa [List.append_eq_singleton_iff] using cut.symm
      subst none
      rfl
    · simp [newline, registers_nil, Text.glue_concat]
  · have opened : text.getLast? ≠ some '\n' := by
      rw [List.isEmpty_eq_false_iff.mpr empty, Bool.or_eq_false_iff] at ends
      exact of_decide_eq_false ends.2
    cases goes : registers name last with
    | false => simp [empty, goes, Text.glue_concat]
    | true => simp [empty, opened, goes, Text.glue_eq_dropLast]

theorem countName_eq (text name : Text) :
    countName text name = (Text.pieces '\n' text).countP (registers name) := by
  rcases Text.exists_pieces_concat '\n' text with ⟨init, last, cut⟩
  rw [countName, Text.chunks_of_pieces cut, cut, List.countP_append, List.countP_append,
    List.countP_map]
  simp only [Function.comp_def, registers_concat_newline]
  cases last <;> rfl

theorem ofLines_pieces_glue {lines : List Text} (free : ∀ line ∈ lines, '\n' ∉ line) :
    ofLines (Text.pieces '\n' (Text.glue '\n' lines)) = ofLines lines := by
  cases lines with
  | nil => rfl
  | cons line lines => rw [Text.pieces_glue free]

theorem eq_of_registers {name line : Text} {entries : List TableEntry}
    (registered : registers name line = true)
    (read : ofWords (Text.words line) = some entries) :
    ∃ number, entries = [⟨number, name⟩] := by
  rw [registers_eq, Bool.and_eq_true, bne_iff_ne, beq_iff_eq] at registered
  rcases registered with ⟨comment, second⟩
  cases found : Text.words line with
  | nil =>
      rw [found] at second
      cases second
  | cons number names =>
      rw [found] at comment second
      have noComment : number.head? ≠ some '#' := comment
      rw [found, ofWords, if_neg noComment] at read
      rcases Option.map_eq_some_iff.mp read with ⟨value, -, rfl⟩
      rw [List.tail_cons] at second
      rw [List.headD_eq_head?_getD, second]
      exact ⟨value, rfl⟩

theorem ne_of_registers {name line : Text} {entries : List TableEntry} (named : name ≠ [])
    (other : registers name line = false)
    (read : ofWords (Text.words line) = some entries) :
    ∀ entry ∈ entries, entry.name ≠ name := by
  rw [registers_eq] at other
  cases found : Text.words line with
  | nil =>
      rw [found] at read
      cases read
      simp
  | cons number names =>
      rw [found, ofWords] at read
      split at read
      · cases read
        simp
      · next noComment =>
          rcases Option.map_eq_some_iff.mp read with ⟨value, -, rfl⟩
          cases names <;> simp_all [Ne.symm named]

theorem ofLines_filter {name : Text} (named : name ≠ []) {lines : List Text}
    {entries : List TableEntry} (read : ofLines lines = some entries) :
    ofLines (lines.filter fun line => !registers name line) =
        some (entries.filter fun entry => entry.name != name) ∧
      lines.countP (registers name) = entries.countP fun entry => entry.name == name := by
  induction lines generalizing entries with
  | nil =>
      cases read
      exact ⟨rfl, rfl⟩
  | cons line lines induction =>
      rcases Option.bind_eq_some_iff.mp read with ⟨here, readHere, rest⟩
      rcases Option.map_eq_some_iff.mp rest with ⟨others, readOthers, rfl⟩
      rcases induction readOthers with ⟨kept, count⟩
      cases registered : registers name line with
      | true =>
          -- The line has one entry, with the name, and both go.
          rcases eq_of_registers registered readHere with ⟨number, rfl⟩
          simp [registered, kept, count]
      | false =>
          have different := ne_of_registers named registered readHere
          have all : (here.filter fun entry => entry.name != name) = here := by
            simpa using different
          have none : (here.countP fun entry => entry.name == name) = 0 := by simpa using different
          simp [registered, kept, count, ofLines, readHere, all, none]

/-! ## Edits of the text as edits of the entries -/

variable {text : Text} {entries : List TableEntry}

theorem ofRegistry_withoutName (registered : ofRegistry text = .ok entries) {name : Text}
    (named : name ≠ []) :
    ofRegistry (withoutName text name) = .ok (entries.filter fun entry => entry.name != name) := by
  have free : ∀ line ∈ (Text.pieces '\n' text).filter (fun line => !registers name line),
      '\n' ∉ line := fun line member => Text.not_mem_of_mem_pieces (List.mem_of_mem_filter member)
  rw [ofRegistry_eq_ok, withoutName_eq, ofLines_pieces_glue free]
  exact (ofLines_filter named (ofRegistry_eq_ok.mp registered)).1

theorem countName_of_ofRegistry (registered : ofRegistry text = .ok entries) {name : Text}
    (named : name ≠ []) :
    countName text name = entries.countP fun entry => entry.name == name := by
  rw [countName_eq]
  exact (ofLines_filter named (ofRegistry_eq_ok.mp registered)).2

theorem withoutName_empty (text : Text) : withoutName text [] = text := by
  rw [withoutName_eq]
  simp [registers_empty, Text.glue_pieces]

theorem pieces_withEntry_of_open {init : List Text} {last : Text}
    (cut : Text.pieces '\n' text = init ++ [last]) (opened : last ≠ []) (entry : TableEntry) :
    Text.pieces '\n' (withEntry text entry) =
      init ++ [last] ++ Text.pieces '\n' entry.display := by
  have cutBoth : Text.pieces '\n' (text ++ '\n' :: entry.display) =
      Text.pieces '\n' text ++ Text.pieces '\n' entry.display :=
    Text.split_append rfl text entry.display
  rw [withEntry, Text.isEmpty_last_piece cut, List.isEmpty_eq_false_iff.mpr opened,
    if_neg Bool.false_ne_true, cutBoth, cut]

theorem pieces_withEntry_of_closed {init : List Text}
    (cut : Text.pieces '\n' text = init ++ [[]]) (entry : TableEntry) :
    Text.pieces '\n' (withEntry text entry) =
      init ++ Text.pieces '\n' entry.display ++ [[]] := by
  have free : ∀ line ∈ init, '\n' ∉ line := by
    intro line member
    exact Text.not_mem_of_mem_pieces (by rw [cut]; exact List.mem_append_left _ member)
  have whole : text = (init.map (· ++ ['\n'])).flatten := by
    rw [← Text.glue_pieces '\n' text, cut, Text.glue_concat, List.append_nil]
  have closed : Text.pieces '\n' (entry.display ++ ['\n']) =
      Text.pieces '\n' entry.display ++ [[]] :=
    Text.split_append rfl entry.display []
  rw [withEntry, Text.isEmpty_last_piece cut, List.isEmpty_nil, if_pos rfl, List.append_assoc,
    whole, Text.pieces_flatten_append free, closed, ← List.append_assoc]

theorem ofLines_withEntry (text : Text) (entry : TableEntry) :
    ofLines (Text.pieces '\n' (withEntry text entry)) =
      ofLines (Text.pieces '\n' text ++ Text.pieces '\n' entry.display) := by
  rcases Text.exists_pieces_concat '\n' text with ⟨init, last, cut⟩
  by_cases empty : last = []
  · subst empty
    rw [pieces_withEntry_of_closed cut, cut, ofLines_concat_nil, ofLines_append,
      ofLines_append (init ++ [[]]), ofLines_concat_nil]
  · rw [pieces_withEntry_of_open cut empty, cut]

theorem ofRegistry_withEntry (registered : ofRegistry text = .ok entries) {entry : TableEntry}
    (small : entry.number < Decimal.wordBound)
    (free : ∀ c ∈ entry.name, Text.isBlank c = false) :
    ofRegistry (withEntry text entry) = .ok (entries ++ [entry]) := by
  have added : ofLines (Text.pieces '\n' text ++ Text.pieces '\n' entry.display) =
      some (entries ++ [entry]) := by
    rw [ofLines_append, ofRegistry_eq_ok.mp registered, ofLines_display small free]
    rfl
  rw [ofRegistry_eq_ok, ← added]
  exact ofLines_withEntry text entry

end Registry
end NetAdmin
