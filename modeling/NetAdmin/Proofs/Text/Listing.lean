import NetAdmin.Proofs.Text.Lines
/-!
Texts that list items line by line. Every text is a page: its lines stand one below the
other, each with a line end (`page_lines`). Which line end it is does not matter to a reader
that a carriage return does not disturb (`Page.map_lines`). Some lines of a listing show an item
each, and the others are passed over (`Lists`). A reader that reads the shown items, and
nothing from other lines, gives back the list (`filterMap_eq_iff_lists`,
`filterMap_lines_of_lists`).
-/

namespace NetAdmin
namespace Text

/-! ## Pages -/

/-- The text has the lines one below the other. Each one ends with a newline, maybe behind a
carriage return; the last one may be left open if it is not empty. -/
inductive Page : List Text → Text → Prop
  | empty : Page [] []
  | opened {line : Text} (plain : '\n' ∉ line) (full : line ≠ []) : Page [line] line
  | ended {line lineEnd rest : Text} {lines : List Text} (plain : '\n' ∉ line)
      (ends : lineEnd = ['\n'] ∨ lineEnd = ['\r', '\n']) (below : Page lines rest) :
      Page (line :: lines) (line ++ lineEnd ++ rest)

theorem lines_of_plain {line : Text} (plain : '\n' ∉ line) (full : line ≠ []) :
    lines line = [line] := by
  have cut : pieces '\n' line = [] ++ [line] := pieces_of_not_mem plain
  have unended : withoutLast? '\n' line = none :=
    if_neg fun ends => plain (List.mem_of_getLast? ends)
  rw [lines, chunks_of_pieces cut, List.isEmpty_eq_false_iff.mpr full]
  simp [withoutLineEnd, unended]

theorem lines_append {line : Text} (plain : '\n' ∉ line) (rest : Text) :
    lines (line ++ '\n' :: rest) = (withoutLast? '\r' line).getD line :: lines rest := by
  rcases exists_pieces_concat '\n' rest with ⟨init, last, cut⟩
  have cutAll : pieces '\n' (line ++ '\n' :: rest) = line :: init ++ [last] := by
    rw [pieces_append plain, cut]
    rfl
  rw [lines, lines, chunks_of_pieces cutAll, chunks_of_pieces cut]
  simp [withoutLineEnd, withoutLast?]

theorem Page.map_lines {β : Type} {read : Text → β}
    (undisturbed : ∀ line, read (line ++ ['\r']) = read line) {parts : List Text} {text : Text}
    (page : Page parts text) : (lines text).map read = parts.map read := by
  induction page with
  | empty => rfl
  | opened plain full => rw [lines_of_plain plain full]
  | @ended line lineEnd rest parts plain ends below induction =>
      rw [List.map_cons, ← induction]
      rcases ends with rfl | rfl
      · -- A carriage return at the end of the line itself is taken for a part of its line end.
        rw [List.append_assoc, List.singleton_append, lines_append plain, List.map_cons]
        rcases returned : withoutLast? '\r' line with _ | inner
        · rfl
        · rw [withoutLast?_eq_some_iff.mp returned, undisturbed]
          rfl
      · have plainReturned : '\n' ∉ line ++ ['\r'] := by simpa using plain
        have closed : line ++ ['\r', '\n'] ++ rest = (line ++ ['\r']) ++ '\n' :: rest := by simp
        rw [closed, lines_append plainReturned, List.map_cons]
        simp [withoutLast?]

theorem page_lines (text : Text) : Page (lines text) text := by
  -- The rest of the page is what stands behind the first newline.
  by_cases newline : '\n' ∈ text
  · rcases List.eq_append_cons_of_mem newline with ⟨line, rest, whole, plain⟩
    have below := page_lines rest
    rw [whole, lines_append plain]
    rcases returned : withoutLast? '\r' line with _ | inner
    · have page := Page.ended plain (.inl rfl) below
      rwa [List.append_assoc] at page
    · rw [withoutLast?_eq_some_iff.mp returned] at plain ⊢
      have plainInner : '\n' ∉ inner := fun inside => plain (List.mem_append_left _ inside)
      have page := Page.ended plainInner (.inr rfl) below
      simpa using page
  · by_cases full : text = []
    · rw [full]
      exact .empty
    · rw [lines_of_plain newline full]
      exact .opened newline full
termination_by text.length
decreasing_by
  rw [whole, List.length_append, List.length_cons]
  omega

theorem page_glue {parts : List Text} (plain : ∀ part ∈ parts, '\n' ∉ part ∧ part ≠ []) :
    Page parts (glue '\n' parts) := by
  induction parts with
  | nil => exact .empty
  | cons part parts induction =>
      rw [List.forall_mem_cons] at plain
      have below := induction plain.2
      cases parts with
      | nil => exact .opened plain.1.1 plain.1.2
      | cons next parts => simpa [glue] using Page.ended plain.1.1 (.inl rfl) below

/-! ## Listings -/

variable {α : Type}

/-- The lines list the items in their order: every line shows one item, or is passed over. -/
inductive Lists (shows : Text → α → Prop) (passed : Text → Prop) : List Text → List α → Prop
  | nil : Lists shows passed [] []
  | item {line : Text} {item : α} {lines : List Text} {items : List α} (first : shows line item)
      (others : Lists shows passed lines items) :
      Lists shows passed (line :: lines) (item :: items)
  | pass {line : Text} {lines : List Text} {items : List α} (first : passed line)
      (others : Lists shows passed lines items) : Lists shows passed (line :: lines) items

def ShowsNothing (shows : Text → α → Prop) (line : Text) : Prop :=
  ∀ item, ¬ shows line item

theorem Lists.mono {shows shows' : Text → α → Prop} {passed passed' : Text → Prop}
    (shown : ∀ line item, shows line item → shows' line item)
    (nothing : ∀ line, passed line → passed' line) {lines : List Text} {items : List α}
    (lists : Lists shows passed lines items) : Lists shows' passed' lines items := by
  induction lists with
  | nil => exact .nil
  | item first _ induction => exact .item (shown _ _ first) induction
  | pass first _ induction => exact .pass (nothing _ first) induction

theorem lists_map {shows : Text → α → Prop} {passed : Text → Prop} {line : α → Text}
    {items : List α} (shown : ∀ item ∈ items, shows (line item) item) :
    Lists shows passed (items.map line) items := by
  induction items with
  | nil => exact .nil
  | cons item items induction =>
      rw [List.forall_mem_cons] at shown
      exact .item shown.1 (induction shown.2)

variable {read : Text → Option α} {shows : Text → α → Prop}

theorem showsNothing_iff (reads : ∀ line item, read line = some item ↔ shows line item)
    {line : Text} : ShowsNothing shows line ↔ read line = none := by
  rw [Option.eq_none_iff_forall_ne_some]
  exact forall_congr' fun item => not_congr (reads line item).symm

theorem filterMap_eq_iff_lists (reads : ∀ line item, read line = some item ↔ shows line item)
    {lines : List Text} {items : List α} :
    lines.filterMap read = items ↔ Lists shows (ShowsNothing shows) lines items := by
  constructor
  · rintro rfl
    induction lines with
    | nil => exact .nil
    | cons line lines induction =>
        cases found : read line with
        | none =>
            rw [List.filterMap_cons_none found]
            exact .pass ((showsNothing_iff reads).mpr found) induction
        | some item =>
            rw [List.filterMap_cons_some found]
            exact .item ((reads line item).mp found) induction
  · intro lists
    induction lists with
    | nil => rfl
    | item first _ induction =>
        rw [List.filterMap_cons_some ((reads _ _).mpr first), induction]
    | pass first _ induction =>
        rw [List.filterMap_cons_none ((showsNothing_iff reads).mp first), induction]

/-- A page on which items are listed is read back, also if the items are shown in only some of
the ways in which they can be read. -/
theorem filterMap_lines_of_lists (reads : ∀ line item, read line = some item ↔ shows line item)
    (undisturbed : ∀ line, read (line ++ ['\r']) = read line)
    {printed : Text → α → Prop} {passed : Text → Prop}
    (shown : ∀ line item, printed line item → shows line item)
    (nothing : ∀ line, passed line → ShowsNothing shows line)
    {parts : List Text} {items : List α} {text : Text} (lists : Lists printed passed parts items)
    (page : Page parts text) : (lines text).filterMap read = items := by
  have asRead : (lines text).filterMap read = parts.filterMap read := by
    have same := congrArg (List.filterMap id) (page.map_lines undisturbed)
    simpa only [List.filterMap_map, Function.id_comp] using same
  rw [asRead]
  exact (filterMap_eq_iff_lists reads).mpr (lists.mono shown nothing)

end Text
end NetAdmin
