import NetAdmin.Proofs.Registry.Lines
import NetAdmin.Proofs.Registry.Run
/-!
Adding and deleting as opposites. While the names of a run are words that a text does
not register yet, the file holds that text with entries added to it: adding appends one
more, and deleting takes the entries with the name out again, wherever they stand
(`withoutName_extended`). So a run that later deletes every name it adds ends with the
text it started from, to the last newline (`content_of_addsUndone`).
-/

namespace NetAdmin
namespace Registry

/-! ## Texts with added entries -/

def extended (text : Text) (entries : List TableEntry) : Text :=
  entries.foldl withEntry text

example : extended "0 a".toList [⟨1, "b".toList⟩, ⟨2, "c".toList⟩] =
    "0 a\n1\tb\n2\tc".toList := by decide

@[simp] theorem extended_nil (text : Text) : extended text [] = text := rfl

theorem extended_concat (text : Text) (entries : List TableEntry) (entry : TableEntry) :
    extended text (entries ++ [entry]) = withEntry (extended text entries) entry := by
  simp [extended]

/-- A name that is a word, and not the second word of a line of the text that is no
comment. -/
structure Fresh (text name : Text) : Prop where
  named : name ≠ []
  word : ∀ c ∈ name, Text.isBlank c = false
  absent : ∀ line ∈ Text.lines text,
    (Text.trimStart line).head? ≠ some '#' → (Text.words line)[1]? ≠ some name

-- The characters of the name are gone through, not all characters there are.
instance (text name : Text) : Decidable (Fresh text name) :=
  decidable_of_iff (name ≠ [] ∧ (name.all fun c => !Text.isBlank c) = true ∧
      ∀ line ∈ Text.lines text,
        (Text.trimStart line).head? ≠ some '#' → (Text.words line)[1]? ≠ some name)
    ⟨fun ⟨named, word, absent⟩ => ⟨named, by simpa using word, absent⟩,
      fun fresh => ⟨fresh.named, by simpa using fresh.word, fresh.absent⟩⟩

theorem Fresh.registers {text name line : Text} (fresh : Fresh text name)
    (member : line ∈ Text.pieces '\n' text) : registers name line = false := by
  by_cases empty : line = []
  · rw [empty, registers_nil]
  · rcases Text.exists_line_of_mem_pieces member empty with ⟨original, inText, same⟩
    have absent := fresh.absent original inText
    rw [Text.head?_trimStart, same] at absent
    rw [registers_eq, Bool.and_eq_false_iff]
    by_cases comment : (Text.words line).head?.bind List.head? = some '#'
    · left
      simp [comment]
    · right
      have second := absent comment
      rw [← List.head?_drop, List.drop_one] at second
      simpa using second

theorem registers_display {entry : TableEntry} (named : entry.name ≠ [])
    (word : ∀ c ∈ entry.name, Text.isBlank c = false) (name : Text) :
    registers name entry.display = (entry.name == name) := by
  have noComment : (Decimal.write entry.number).head? ≠ some '#' :=
    Decimal.head?_write_ne (by decide)
  rw [registers_eq, TableEntry.words_display, Text.words_of_free named word]
  simp [noComment]

/-- Entries that are added stand one below the other: below all lines of the text, and
above the empty piece behind its last newline if it has one. -/
theorem exists_frame (text : Text) : ∃ above below, Text.pieces '\n' text = above ++ below ∧
    (∀ line ∈ below, line = []) ∧
    ∀ entries : List TableEntry,
      (∀ entry ∈ entries, ∀ c ∈ entry.name, Text.isBlank c = false) →
      Text.pieces '\n' (extended text entries) =
        above ++ entries.map TableEntry.display ++ below := by
  have oneLine {entry : TableEntry} (word : ∀ c ∈ entry.name, Text.isBlank c = false) :
      Text.pieces '\n' entry.display = [entry.display] :=
    Text.pieces_of_not_mem (TableEntry.newline_not_mem_display word)
  rcases Text.exists_pieces_concat '\n' text with ⟨init, last, cut⟩
  by_cases closed : last = []
  · subst closed
    refine ⟨init, [[]], cut, by simp, ?_⟩
    intro entries words
    induction entries generalizing text init with
    | nil => simpa using cut
    | cons entry entries induction =>
        rw [List.forall_mem_cons] at words
        have next := pieces_withEntry_of_closed cut entry
        rw [oneLine words.1] at next
        have rest := induction (withEntry text entry) (init ++ [entry.display]) next words.2
        simpa [extended] using rest
  · refine ⟨init ++ [last], [], by simpa using cut, by simp, ?_⟩
    intro entries words
    induction entries generalizing text init last with
    | nil => simpa using cut
    | cons entry entries induction =>
        rw [List.forall_mem_cons] at words
        have next := pieces_withEntry_of_open cut closed entry
        rw [oneLine words.1] at next
        have opened : entry.display ≠ [] := by simp [TableEntry.display]
        have rest := induction (withEntry text entry) (init ++ [last]) entry.display next opened
          words.2
        simpa [extended] using rest

theorem withoutName_extended {text name : Text} {entries : List TableEntry}
    (fresh : Fresh text name) (added : ∀ entry ∈ entries, Fresh text entry.name) :
    withoutName (extended text entries) name =
      extended text (entries.filter fun entry => entry.name != name) := by
  rcases exists_frame text with ⟨above, below, cut, empty, frame⟩
  have keptAbove : (above.filter fun line => !registers name line) = above := by
    rw [List.filter_eq_self]
    intro line member
    rw [fresh.registers (by rw [cut]; exact List.mem_append_left _ member), Bool.not_false]
  have keptBelow : (below.filter fun line => !registers name line) = below := by
    rw [List.filter_eq_self]
    intro line member
    rw [empty line member, registers_nil, Bool.not_false]
  have keptEntries :
      ((entries.map TableEntry.display).filter fun line => !registers name line) =
        (entries.filter fun entry => entry.name != name).map TableEntry.display := by
    rw [List.filter_map]
    congr 1
    apply List.filter_congr
    intro entry member
    have own := added entry member
    rw [Function.comp_apply, registers_display own.named own.word name]
    rfl
  have wordsKept : ∀ entry ∈ entries.filter fun entry => entry.name != name,
      ∀ c ∈ entry.name, Text.isBlank c = false :=
    fun entry member => (added entry (List.mem_of_mem_filter member)).word
  rw [withoutName_eq, frame entries fun entry member => (added entry member).word,
    List.filter_append, List.filter_append, keptAbove, keptBelow, keptEntries,
    ← frame _ wordsKept, Text.glue_pieces]

/-! ## Runs -/

variable {σ : Type} {files : FileStore σ} {registry : Registry}
variable {content : σ → Contents} {steady : σ → Prop}

def Call.editedName? : Call → Option Text
  | .add name | .delete name => some name
  | .find _ | .entries => none

def Step.remaining (entries : List TableEntry) (step : Step σ) : List TableEntry :=
  match step.call, step.result with
  | .add name, .ok (.added entry) => entries ++ [⟨entry.number, name⟩]
  | .delete name, _ => entries.filter fun entry => entry.name != name
  | _, _ => entries

/-- The entries that the steps of a run have added and not deleted again. -/
def remaining (steps : List (Step σ)) (entries : List TableEntry) : List TableEntry :=
  steps.foldl Step.remaining entries

def Step.addedName? (step : Step σ) : Option Text :=
  match step.call, step.result with
  | .add name, .ok _ => some name
  | _, _ => none

/-- Every name that a step of a run adds is deleted by a later one. -/
def AddsUndone : List (Step σ) → Prop
  | [] => True
  | step :: later =>
      (∀ name ∈ step.addedName?, ∃ undoing ∈ later, undoing.call = .delete name) ∧
        AddsUndone later

instance decidableAddsUndone : (steps : List (Step σ)) → Decidable (AddsUndone steps)
  | [] => isTrue trivial
  | step :: later =>
      have := decidableAddsUndone later
      inferInstanceAs (Decidable ((∀ name ∈ step.addedName?, ∃ undoing ∈ later,
        undoing.call = .delete name) ∧ AddsUndone later))

theorem fresh_of_mem_remaining {text : Text} {entries : List TableEntry} {step : Step σ}
    (fresh : ∀ name ∈ step.call.editedName?, Fresh text name)
    (added : ∀ entry ∈ entries, Fresh text entry.name) :
    ∀ entry ∈ step.remaining entries, Fresh text entry.name := by
  intro entry member
  unfold Step.remaining at member
  split at member
  · next name number asked _ =>
      rcases List.mem_append.mp member with old | new
      · exact added entry old
      · rw [List.mem_singleton.mp new]
        exact fresh name (by rw [asked]; exact rfl)
  · exact added entry (List.mem_of_mem_filter member)
  · exact added entry member

theorem textAfter_extended (registry : Registry) {call : Call} {text : Text}
    {entries : List TableEntry} (state after : σ)
    (fresh : ∀ name ∈ call.editedName?, Fresh text name)
    (added : ∀ entry ∈ entries, Fresh text entry.name) :
    let result := (registry.plan call (extended text entries)).map Prod.fst
    registry.textAfter call (extended text entries) =
      extended text (Step.remaining entries ⟨call, state, result, after⟩) := by
  intro result
  cases call with
  | add name =>
      rcases registered : TableEntry.ofRegistry (extended text entries) with error | listed
      · have failed : registry.plan (.add name) (extended text entries) = .error error := by
          rw [plan, registered]
          rfl
        simp only [result, textAfter, failed]
        rfl
      · have planned : registry.plan (.add name) (extended text entries) = _ :=
          plan_add registered name
        cases free : TableEntry.firstFree listed with
        | none =>
            rw [free] at planned
            simp only [result, textAfter, planned]
            rfl
        | some number =>
            rw [free] at planned
            simp only [result, textAfter, planned]
            exact (extended_concat text entries ⟨number, name⟩).symm
  | delete name => exact withoutName_extended (fresh name rfl) added
  | find name =>
      rcases registered : TableEntry.ofRegistry (extended text entries) with error | listed <;>
        simp only [textAfter, plan, registered] <;> rfl
  | entries =>
      rcases registered : TableEntry.ofRegistry (extended text entries) with error | listed <;>
        simp only [textAfter, plan, registered] <;> rfl

/-- After a run with fresh names the file holds the text it started from, with those
entries added that the run has not deleted again. -/
theorem stateAfter_extended (reliable : files.Reliable registry.paths content steady)
    (apart : registry.path ≠ registry.backup) (calls : List Call) {state : σ} {text : Text}
    {entries : List TableEntry}
    (fresh : ∀ call ∈ calls, ∀ name ∈ call.editedName?, Fresh text name)
    (added : ∀ entry ∈ entries, Fresh text entry.name) (fits : steady state)
    (stood : content state registry.path = some (Utf8.encode (extended text entries))) :
    content (registry.stateAfter files calls state) registry.path =
      some (Utf8.encode (extended text (remaining (registry.run files calls state) entries))) := by
  induction calls generalizing state entries with
  | nil => exact stood
  | cons call calls induction =>
      have freshFirst := fresh call List.mem_cons_self
      rcases answer_planned reliable apart call fits stood with
        ⟨after, answered, fitsAfter, stoodAfter, -⟩
      rw [textAfter_extended registry state after freshFirst added] at stoodAfter
      rw [stateAfter, run, answered]
      apply induction (fun other member => fresh other (List.mem_cons_of_mem _ member)) ?_
        fitsAfter stoodAfter
      exact fresh_of_mem_remaining freshFirst added

theorem remaining_eq_nil {steps : List (Step σ)} {entries : List TableEntry}
    (undone : AddsUndone steps)
    (doomed : ∀ entry ∈ entries, ∃ step ∈ steps, step.call = .delete entry.name) :
    remaining steps entries = [] := by
  induction steps generalizing entries with
  | nil =>
      apply List.eq_nil_iff_forall_not_mem.mpr
      intro entry member
      rcases doomed entry member with ⟨step, inSteps, -⟩
      cases inSteps
  | cons step later induction =>
      rcases undone with ⟨undoneFirst, undoneLater⟩
      apply induction undoneLater
      intro entry member
      -- An entry that is left was added just now, or has its deletion still before it.
      have later_of_old (old : entry ∈ entries) (keeps : step.call ≠ .delete entry.name) :
          ∃ step ∈ later, step.call = .delete entry.name := by
        rcases doomed entry old with ⟨deleting, inSteps, deletes⟩
        rcases List.mem_cons.mp inSteps with rfl | inLater
        · exact absurd deletes keeps
        · exact ⟨deleting, inLater, deletes⟩
      unfold Step.remaining at member
      split at member
      · next name number asked told =>
          rcases List.mem_append.mp member with old | new
          · exact later_of_old old (by simp [asked])
          · rw [List.mem_singleton.mp new]
            exact undoneFirst name (by rw [Step.addedName?, asked, told]; exact rfl)
      · next name _ asked =>
          rcases List.mem_filter.mp member with ⟨old, kept⟩
          refine later_of_old old ?_
          rw [asked]
          rintro same
          cases same
          simp at kept
      · next _ _ noDelete _ => exact later_of_old member (noDelete entry.name)

/-- A run whose names are fresh words, and that later deletes every name it adds, ends with
the bytes it started from. Adding may fail on the way, and the text need not be readable. -/
theorem content_of_addsUndone (path : Path)
    (reliable : files.Reliable (ofPath path).paths content steady) (calls : List Call) {state : σ}
    {text : Text} (fits : steady state)
    (stood : content state path = some (Utf8.encode text))
    (fresh : ∀ call ∈ calls, ∀ name ∈ call.editedName?, Fresh text name)
    (undone : AddsUndone ((ofPath path).run files calls state)) :
    content ((ofPath path).stateAfter files calls state) path = some (Utf8.encode text) := by
  have noneAdded : ∀ entry ∈ ([] : List TableEntry), Fresh text entry.name := by simp
  have left := stateAfter_extended reliable (ofPath_apart path) calls fresh noneAdded fits stood
  rwa [remaining_eq_nil undone (by simp)] at left

theorem content_of_addsUndone_interleaved :
    let text := "# tables\r\n0\tunspec\r\n\n255 local".toList
    let store := MemoryStore.start [("t".toList, text)] []
    let calls := [.add "a".toList, .add "b".toList, .delete "a".toList, .add "a".toList,
      .delete "b".toList, .delete "a".toList]
    let registry := ofPath "t".toList
    store.Faultless ∧
      (∀ call ∈ calls, ∀ name ∈ call.editedName?, Fresh text name) ∧
      AddsUndone (registry.run FileStore.memory calls store) ∧
      (registry.stateAfter FileStore.memory (calls.take 5) store).content "t".toList =
        some (Utf8.encode "# tables\r\n0\tunspec\r\n\n255 local\n1\ta".toList) ∧
      (registry.stateAfter FileStore.memory calls store).content "t".toList =
        some (Utf8.encode text) := by
  intro text store calls registry
  have faultless : store.Faultless := rfl
  have stood : store.content "t".toList = some (Utf8.encode text) := by decide
  have fresh : ∀ call ∈ calls, ∀ name ∈ call.editedName?, Fresh text name := by decide
  have undone : AddsUndone (registry.run FileStore.memory calls store) := by decide
  exact ⟨faultless, fresh, undone, by decide,
    content_of_addsUndone "t".toList (MemoryStore.memory_reliable _) calls faultless stood fresh
      undone⟩

end Registry
end NetAdmin
