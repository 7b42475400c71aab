/-!
Texts as lists of characters, and the ways of cutting them that every listing
and configuration file of this library goes through.

`split` cuts at every character of a class, `pieces` at one character, and
`chunks` after every newline. The main statements say that nothing is lost:
`flatten_chunks`, `glue_pieces`, and that `pieces` undoes `glue` on parts that
do not hold the separating character (`pieces_glue`).
-/

namespace NetAdmin

abbrev Text := List Char

namespace Text

/-! ## Cutting at separators -/

/-- The parts of a text between the characters of a class. A text with `n`
such characters has `n + 1` parts, some of them possibly empty. -/
def split (separates : Char → Bool) : Text → List Text
  | [] => [[]]
  | c :: rest =>
      if separates c then [] :: split separates rest
      else
        match split separates rest with
        | [] => [[c]]
        | part :: parts => (c :: part) :: parts

def pieces (mark : Char) : Text → List Text :=
  split (· == mark)

def glue (mark : Char) : List Text → Text
  | [] => []
  | [part] => part
  | part :: parts => part ++ mark :: glue mark parts

example : pieces ':' "a::b".toList = ["a".toList, [], "b".toList] := rfl

example : pieces ':' [] = [[]] := rfl

theorem split_ne_nil (separates : Char → Bool) (text : Text) :
    split separates text ≠ [] := by
  cases text with
  | nil => simp [split]
  | cons c rest =>
      unfold split
      split
      · simp
      · split <;> simp

theorem split_cons_of_not {separates : Char → Bool} {c : Char} (plain : separates c = false)
    (rest : Text) : ∃ part parts, split separates rest = part :: parts ∧
      split separates (c :: rest) = (c :: part) :: parts := by
  cases found : split separates rest with
  | nil => exact absurd found (split_ne_nil _ _)
  | cons part parts => exact ⟨part, parts, rfl, by simp [split, plain, found]⟩

theorem split_append {separates : Char → Bool} {c : Char} (mark : separates c = true)
    (left right : Text) :
    split separates (left ++ c :: right) = split separates left ++ split separates right := by
  induction left with
  | nil => simp [split, mark]
  | cons d left induction =>
      by_cases cut : separates d = true
      · simp [split, cut, induction]
      · have plain : separates d = false := by simpa using cut
        obtain ⟨part, parts, found, joined⟩ := split_cons_of_not plain (left ++ c :: right)
        obtain ⟨part', parts', found', joined'⟩ := split_cons_of_not plain left
        rw [induction, found'] at found
        rw [List.cons_append, joined, joined']
        cases found
        rfl

theorem split_of_free {separates : Char → Bool} {text : Text}
    (free : ∀ c ∈ text, separates c = false) : split separates text = [text] := by
  induction text with
  | nil => rfl
  | cons c rest induction =>
      simp [split, free c (by simp), induction fun d member => free d (by simp [member])]

theorem free_of_mem_split {separates : Char → Bool} {text part : Text}
    (member : part ∈ split separates text) : ∀ c ∈ part, separates c = false := by
  induction text generalizing part with
  | nil => simp [split] at member; simp [member]
  | cons c rest induction =>
      by_cases cut : separates c = true
      · simp only [split, cut, if_true, List.mem_cons] at member
        rcases member with equal | member
        · simp [equal]
        · exact induction member
      · have plain : separates c = false := by simpa using cut
        obtain ⟨first, parts, found, joined⟩ := split_cons_of_not plain rest
        rw [joined, List.mem_cons] at member
        rcases member with equal | member
        · subst equal
          intro d inside
          rcases List.mem_cons.mp inside with equal | inside
          · rw [equal]; exact plain
          · exact induction (found ▸ List.mem_cons_self) d inside
        · exact induction (found ▸ List.mem_cons_of_mem _ member)

@[simp] theorem pieces_nil (mark : Char) : pieces mark [] = [[]] := rfl

@[simp] theorem pieces_cons_self (mark : Char) (rest : Text) :
    pieces mark (mark :: rest) = [] :: pieces mark rest := by
  simp [pieces, split]

theorem pieces_cons_of_ne {mark c : Char} (different : c ≠ mark) (rest : Text) :
    ∃ part parts, pieces mark rest = part :: parts ∧
      pieces mark (c :: rest) = (c :: part) :: parts :=
  split_cons_of_not (by simpa using different) rest

theorem glue_cons_cons (mark c : Char) (part : Text) (parts : List Text) :
    glue mark ((c :: part) :: parts) = c :: glue mark (part :: parts) := by
  cases parts <;> rfl

theorem glue_pieces (mark : Char) (text : Text) : glue mark (pieces mark text) = text := by
  induction text with
  | nil => rfl
  | cons c rest induction =>
      by_cases equal : c = mark
      · subst equal
        cases found : pieces c rest with
        | nil => exact absurd found (split_ne_nil _ _)
        | cons part parts =>
            rw [pieces_cons_self, found]
            rw [found] at induction
            simp [glue, induction]
      · obtain ⟨part, parts, before, after⟩ := pieces_cons_of_ne equal rest
        rw [after, glue_cons_cons, ← before, induction]

theorem pieces_of_not_mem {mark : Char} {part : Text} (free : mark ∉ part) :
    pieces mark part = [part] := by
  apply split_of_free
  intro c member
  have different : c ≠ mark := fun equal => free (equal ▸ member)
  simpa using different

theorem pieces_append {mark : Char} {part : Text} (free : mark ∉ part) (rest : Text) :
    pieces mark (part ++ mark :: rest) = part :: pieces mark rest := by
  show split _ _ = _
  rw [split_append (by simp)]
  show pieces mark part ++ pieces mark rest = _
  rw [pieces_of_not_mem free]
  rfl

theorem pieces_glue {mark : Char} {part : Text} {parts : List Text}
    (free : ∀ p ∈ part :: parts, mark ∉ p) :
    pieces mark (glue mark (part :: parts)) = part :: parts := by
  induction parts generalizing part with
  | nil => exact pieces_of_not_mem (free part (by simp))
  | cons next parts induction =>
      simp only [glue]
      rw [pieces_append (free part (by simp))]
      rw [induction fun p member => free p (List.mem_cons_of_mem _ member)]

/-! ## Lines -/

/-- The text cut after each newline. Only the last chunk may lack one. -/
def chunks : Text → List Text
  | [] => []
  | c :: rest =>
      if c = '\n' then ['\n'] :: chunks rest
      else
        match chunks rest with
        | [] => [[c]]
        | first :: others => (c :: first) :: others

theorem flatten_chunks (text : Text) : (chunks text).flatten = text := by
  induction text with
  | nil => rfl
  | cons c rest induction =>
      unfold chunks
      split
      · next equal => subst equal; simp [induction]
      · cases found : chunks rest with
        | nil => rw [found] at induction; simp at induction; simp [← induction]
        | cons first others => rw [found] at induction; simp at induction; simp [induction]

def withoutLast? (mark : Char) (text : Text) : Option Text :=
  if text.getLast? = some mark then some text.dropLast else none

/-- A chunk without its line end: a newline, or a carriage return and a
newline. A carriage return that no newline follows belongs to the line. -/
def withoutLineEnd (chunk : Text) : Text :=
  match withoutLast? '\n' chunk with
  | none => chunk
  | some line => (withoutLast? '\r' line).getD line

def lines (text : Text) : List Text :=
  (chunks text).map withoutLineEnd

example : lines "a\r\n\nb\r".toList = ["a".toList, [], "b\r".toList] := rfl

example : lines [] = [] := rfl

def before (mark : Char) (text : Text) : Text :=
  text.takeWhile (· != mark)

def replaced (old new : Char) (text : Text) : Text :=
  text.map fun c => if c = old then new else c

end Text

end NetAdmin
