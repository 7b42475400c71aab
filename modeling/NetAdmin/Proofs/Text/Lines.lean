import Mathlib.Data.List.Basic
import Mathlib.Data.List.Induction
import Mathlib.Data.List.TakeWhile
import NetAdmin.Text.Blank
/-!
Lines, seen from three sides. The pieces of a text between newlines, the chunks that
end with one (`chunks_of_pieces`), and the words that are left of a line when the
blanks around it, its line end included, do not count (`words_trim`,
`words_withoutLineEnd`). Lines that are written one below the other are read back
(`lines_flatten`).
-/

namespace NetAdmin
namespace Text

/-! ## Pieces and chunks -/

theorem exists_pieces_concat (mark : Char) (text : Text) :
    ∃ init last, pieces mark text = init ++ [last] := by
  have full : pieces mark text ≠ [] := split_ne_nil _ _
  exact ⟨_, _, (List.dropLast_concat_getLast full).symm⟩

theorem not_mem_of_mem_pieces {mark : Char} {text piece : Text}
    (member : piece ∈ pieces mark text) : mark ∉ piece := by
  intro inside
  have free := free_of_mem_split member mark inside
  simp at free

theorem eq_or_mem_of_mem_glue {mark c : Char} {parts : List Text} (member : c ∈ glue mark parts) :
    c = mark ∨ ∃ part ∈ parts, c ∈ part := by
  induction parts with
  | nil => cases member
  | cons part parts induction =>
      cases parts with
      | nil => exact .inr ⟨part, List.mem_cons_self, member⟩
      | cons next parts =>
          rcases List.mem_append.mp member with first | rest
          · exact .inr ⟨part, List.mem_cons_self, first⟩
          · rcases List.mem_cons.mp rest with between | later
            · exact .inl between
            · rcases induction later with between | ⟨other, inside, found⟩
              · exact .inl between
              · exact .inr ⟨other, List.mem_cons_of_mem _ inside, found⟩

theorem glue_concat (mark : Char) (parts : List Text) (last : Text) :
    glue mark (parts ++ [last]) = (parts.map (· ++ [mark])).flatten ++ last := by
  induction parts with
  | nil => rfl
  | cons part parts induction =>
      have step : glue mark (part :: (parts ++ [last])) =
          part ++ mark :: glue mark (parts ++ [last]) := by
        cases parts <;> rfl
      rw [List.cons_append, step, induction]
      simp

theorem getLast?_glue {mark : Char} {parts : List Text} (free : ∀ part ∈ parts, mark ∉ part) :
    (glue mark parts).getLast? = some mark ↔ parts.getLast? = some [] ∧ 1 < parts.length := by
  rcases List.eq_nil_or_concat parts with rfl | ⟨front, last, rfl⟩
  · simp [glue]
  rw [List.concat_eq_append, glue_concat, List.getLast?_concat, List.length_append]
  cases last using List.reverseRecOn with
  | nil =>
      rcases List.eq_nil_or_concat front with rfl | ⟨others, part, rfl⟩
      · simp
      · simp
  | append_singleton last c =>
      have different : c ≠ mark := by
        intro equal
        have inside := free (last ++ [c]) (by simp)
        simp [equal] at inside
      simp [← List.append_assoc, different]

theorem glue_eq_dropLast (parts : List Text) :
    glue '\n' parts =
      let ended := (parts.map (· ++ ['\n'])).flatten
      if ended.getLast? = some '\n' then ended.dropLast else ended := by
  rcases List.eq_nil_or_concat parts with rfl | ⟨front, part, rfl⟩
  · rfl
  · have ended : ((front ++ [part]).map (· ++ ['\n'])).flatten =
        (front.map (· ++ ['\n'])).flatten ++ part ++ ['\n'] := by simp
    rw [List.concat_eq_append, glue_concat, ended]
    simp only [List.getLast?_concat, if_pos, List.dropLast_concat]

theorem pieces_flatten_append {mark : Char} {parts : List Text}
    (free : ∀ part ∈ parts, mark ∉ part) (rest : Text) :
    pieces mark ((parts.map (· ++ [mark])).flatten ++ rest) = parts ++ pieces mark rest := by
  induction parts with
  | nil => rfl
  | cons part parts induction =>
      have others := induction fun other member => free other (List.mem_cons_of_mem _ member)
      have first : ((part :: parts).map (· ++ [mark])).flatten ++ rest =
          part ++ mark :: ((parts.map (· ++ [mark])).flatten ++ rest) := by simp
      rw [first, pieces_append (free part List.mem_cons_self), others]
      rfl

theorem chunks_of_pieces {text last : Text} {init : List Text}
    (cut : pieces '\n' text = init ++ [last]) :
    chunks text = init.map (· ++ ['\n']) ++ if last.isEmpty then [] else [last] := by
  induction text generalizing init last with
  | nil =>
      have parts := List.append_eq_singleton_iff.mp cut.symm
      rcases parts with ⟨rfl, single⟩ | ⟨-, impossible⟩
      · cases single
        rfl
      · cases impossible
  | cons c rest induction =>
      by_cases newline : c = '\n'
      · subst newline
        rcases exists_pieces_concat '\n' rest with ⟨init', last', cut'⟩
        rw [pieces_cons_self, cut', ← List.cons_append] at cut
        rcases List.append_inj' cut rfl with ⟨rfl, same⟩
        cases same
        simp [chunks, induction cut']
      · -- The first piece and the first chunk grow by the same character.
        rcases pieces_cons_of_ne newline rest with ⟨part, parts, before, after⟩
        rw [after] at cut
        rcases List.eq_nil_or_concat parts with rfl | ⟨init', last', rfl⟩
        · rcases List.append_eq_singleton_iff.mp cut.symm with ⟨rfl, single⟩ | ⟨-, impossible⟩
          · cases single
            have others := @induction _ [] before
            cases part <;> simp [chunks, newline, others]
          · cases impossible
        · rw [List.concat_eq_append, ← List.cons_append] at cut before
          rcases List.append_inj' cut rfl with ⟨rfl, same⟩
          cases same
          simp [chunks, newline, induction before]

theorem isEmpty_last_piece {text last : Text} {init : List Text}
    (cut : pieces '\n' text = init ++ [last]) :
    (text.isEmpty || decide (text.getLast? = some '\n')) = last.isEmpty := by
  have whole : text = (init.map (· ++ ['\n'])).flatten ++ last := by
    rw [← glue_concat, ← cut, glue_pieces]
  have member : last ∈ pieces '\n' text := by simp [cut]
  have free := not_mem_of_mem_pieces member
  rcases List.eq_nil_or_concat last with rfl | ⟨front, c, rfl⟩
  · rcases List.eq_nil_or_concat init with rfl | ⟨front, piece, rfl⟩
    · simp [whole]
    · simp [whole]
  · have different : c ≠ '\n' := by
      intro equal
      simp [equal] at free
    rw [Bool.eq_iff_iff]
    simp [whole, different]

/-! ## Lines -/

theorem newline_not_mem_of_mem_lines {text line : Text} (member : line ∈ lines text) :
    '\n' ∉ line := by
  rcases List.mem_map.mp member with ⟨chunk, inText, rfl⟩
  rcases exists_pieces_concat '\n' text with ⟨init, last, cut⟩
  rw [chunks_of_pieces cut, List.mem_append] at inText
  have free {piece : Text} (inside : piece ∈ init ++ [last]) : '\n' ∉ piece := by
    rw [← cut] at inside
    exact not_mem_of_mem_pieces inside
  rcases inText with ended | rest
  · rcases List.mem_map.mp ended with ⟨piece, inInit, rfl⟩
    have freePiece := free (List.mem_append_left [last] inInit)
    simp only [withoutLineEnd, withoutLast?, List.getLast?_concat, if_pos, List.dropLast_concat]
    split
    · exact fun inside => freePiece ((List.dropLast_sublist piece).subset inside)
    · exact freePiece
  · split at rest
    · cases rest
    · rw [List.mem_singleton.mp rest]
      have freeLast := free (List.mem_append_right init List.mem_cons_self)
      have noEnd : last.getLast? ≠ some '\n' := fun ends => freeLast (List.mem_of_getLast? ends)
      rw [withoutLineEnd, withoutLast?, if_neg noEnd]
      exact freeLast

/-- Lines that are written one below the other are read back, if none of them holds a newline
or ends with a carriage return. -/
theorem lines_flatten {parts : List Text}
    (plain : ∀ part ∈ parts, '\n' ∉ part ∧ part.getLast? ≠ some '\r') :
    lines (parts.map (· ++ ['\n'])).flatten = parts := by
  have cut : pieces '\n' (parts.map (· ++ ['\n'])).flatten = parts ++ [[]] := by
    have whole := pieces_flatten_append (fun part member => (plain part member).1) []
    rwa [List.append_nil] at whole
  rw [lines, chunks_of_pieces cut]
  simp only [List.isEmpty_nil, if_pos, List.append_nil, List.map_map]
  rw [List.map_congr_left (g := id), List.map_id]
  intro part member
  simp [withoutLineEnd, withoutLast?, (plain part member).2]

/-! ## Words of a line -/

theorem words_cons_of_blank {c : Char} (blank : isBlank c = true) (rest : Text) :
    words (c :: rest) = words rest :=
  words_append_blank blank [] rest

theorem words_concat_of_blank {c : Char} (blank : isBlank c = true) (text : Text) :
    words (text ++ [c]) = words text := by
  rw [words_append_blank blank, words_nil, List.append_nil]

theorem words_cons_of_not_blank {c : Char} (letter : isBlank c = false) (rest : Text) :
    ∃ word others, words (c :: rest) = (c :: word) :: others := by
  rcases split_cons_of_not letter rest with ⟨part, parts, -, joined⟩
  exact ⟨part, parts.filter fun word => !word.isEmpty, by simp [words, joined]⟩

def IsWord (text : Text) : Prop :=
  text ≠ [] ∧ ∀ c ∈ text, isBlank c = false

-- The characters of the text are gone through, not all characters there are.
instance (text : Text) : Decidable text.IsWord :=
  decidable_of_iff (text ≠ [] ∧ (text.all fun c => !isBlank c) = true) (by simp [IsWord])

def IsUnbroken (text : Text) : Prop :=
  ∀ c ∈ text, isBlank c = false

instance (text : Text) : Decidable text.IsUnbroken :=
  decidable_of_iff ((text.all fun c => !isBlank c) = true) (by simp [IsUnbroken])

theorem not_mem_glue {parts : List Text} (separate : ∀ part ∈ parts, part.IsWord) {c : Char}
    (blank : isBlank c = true) (noSpace : c ≠ ' ') : c ∉ glue ' ' parts := by
  intro member
  rcases eq_or_mem_of_mem_glue member with between | ⟨part, inside, found⟩
  · exact noSpace between
  · simp [(separate part inside).2 c found] at blank

theorem words_append_of_isAllBlank {lead : Text} (blank : isAllBlank lead = true) (rest : Text) :
    words (lead ++ rest) = words rest := by
  induction lead with
  | nil => rfl
  | cons c lead induction =>
      rw [isAllBlank, List.all_cons, Bool.and_eq_true] at blank
      rw [List.cons_append, words_cons_of_blank blank.1, induction blank.2]

theorem IsWord.append_left {left right : Text} (isWord : right.IsWord)
    (unbroken : left.IsUnbroken) : IsWord (left ++ right) :=
  ⟨List.append_ne_nil_of_right_ne_nil left isWord.1,
    List.forall_mem_append.mpr ⟨unbroken, isWord.2⟩⟩

theorem IsWord.words_append_cons {word : Text} (isWord : word.IsWord) {c : Char}
    (blank : isBlank c = true) (rest : Text) : words (word ++ c :: rest) = word :: words rest := by
  rw [words_append_blank blank, words_of_free isWord.1 isWord.2, List.singleton_append]

theorem IsWord.words_append {word rest : Text} (isWord : word.IsWord)
    (apart : rest.head?.all isBlank = true) : words (word ++ rest) = word :: words rest := by
  cases rest with
  | nil => rw [List.append_nil, words_of_free isWord.1 isWord.2, words_nil]
  | cons c rest =>
      have blank : isBlank c = true := by simpa using apart
      rw [isWord.words_append_cons blank, words_cons_of_blank blank]

theorem head?_all_of_isAllBlank {text : Text} (blank : isAllBlank text = true) :
    text.head?.all isBlank = true := by
  cases text with
  | nil => rfl
  | cons c text => exact List.all_eq_true.mp blank c List.mem_cons_self

theorem exists_of_words_eq_cons {text word : Text} {others : List Text}
    (found : words text = word :: others) :
    ∃ lead rest, text = lead ++ word ++ rest ∧ isAllBlank lead = true ∧
      rest.head?.all isBlank = true ∧ words rest = others := by
  induction text with
  | nil => cases found
  | cons c text induction =>
      cases kind : isBlank c with
      | true =>
          rw [words_cons_of_blank kind] at found
          rcases induction found with ⟨lead, rest, rfl, blank, apart, words⟩
          exact ⟨c :: lead, rest, rfl, by simpa [isAllBlank, kind] using blank, apart, words⟩
      | false =>
          have isWord : IsWord ((c :: text).takeWhile (!isBlank ·)) := by
            refine ⟨by simp [kind], fun d member => ?_⟩
            simpa using List.mem_takeWhile_imp member
          have apart : ((c :: text).dropWhile (!isBlank ·)).head?.all isBlank = true := by
            have stop := List.head?_dropWhile_not (!isBlank ·) (c :: text)
            cases next : ((c :: text).dropWhile (!isBlank ·)).head? with
            | none => rfl
            | some d => simpa [next] using stop
          have split := isWord.words_append apart
          rw [List.takeWhile_append_dropWhile, found] at split
          cases split
          exact ⟨[], _, by simp, rfl, apart, rfl⟩

theorem words_eq_nil_iff {text : Text} : words text = [] ↔ isAllBlank text = true := by
  induction text with
  | nil => simp [words_nil, isAllBlank]
  | cons c rest induction =>
      cases kind : isBlank c with
      | true =>
          rw [words_cons_of_blank kind, induction]
          simp [isAllBlank, kind]
      | false =>
          rcases words_cons_of_not_blank kind rest with ⟨word, others, found⟩
          simp [isAllBlank, kind, found]

theorem trim_of_isAllBlank {text : Text} (blank : isAllBlank text = true) : trim text = [] := by
  have nothing : trimStart text = [] := by
    rw [trimStart, List.dropWhile_eq_nil_iff]
    exact List.all_eq_true.mp blank
  rw [trim, nothing]
  rfl

theorem words_trimStart (text : Text) : words (trimStart text) = words text := by
  induction text with
  | nil => rfl
  | cons c rest induction =>
      by_cases blank : isBlank c = true
      · rw [words_cons_of_blank blank, ← induction]
        simp [trimStart, blank]
      · simp [trimStart, blank]

theorem trimEnd_concat (text : Text) (c : Char) :
    trimEnd (text ++ [c]) = if isBlank c then trimEnd text else text ++ [c] := by
  by_cases blank : isBlank c = true
  · simp [trimEnd, blank]
  · simp [trimEnd, blank]

theorem trim_concat_of_blank {c : Char} (blank : isBlank c = true) (text : Text) :
    trim (text ++ [c]) = trim text := by
  rw [trim, trimStart, List.dropWhile_append]
  split
  · next nothing =>
      rw [trim, trimStart, List.isEmpty_iff.mp nothing, List.dropWhile_cons_of_pos blank]
      rfl
  · rw [trimEnd_concat, if_pos blank]
    rfl

theorem trimEnd_append_cons {c : Char} (letter : isBlank c = false) (left right : Text) :
    trimEnd (left ++ c :: right) = left ++ c :: trimEnd right := by
  induction right using List.reverseRecOn with
  | nil =>
      rw [trimEnd_concat, if_neg (by simp [letter])]
      rfl
  | append_singleton rest d induction =>
      rw [← List.cons_append, ← List.append_assoc, trimEnd_concat, trimEnd_concat]
      split
      · exact induction
      · rw [List.append_assoc, List.cons_append]

theorem words_trimEnd (text : Text) : words (trimEnd text) = words text := by
  induction text using List.reverseRecOn with
  | nil => rfl
  | append_singleton rest c induction =>
      rw [trimEnd_concat]
      split
      · next blank => rw [induction, words_concat_of_blank blank]
      · rfl

theorem words_trim (text : Text) : words (trim text) = words text := by
  rw [trim, words_trimEnd, words_trimStart]

theorem withoutLast?_eq_some_iff {mark : Char} {text line : Text} :
    withoutLast? mark text = some line ↔ text = line ++ [mark] := by
  constructor
  · intro found
    unfold withoutLast? at found
    split at found
    · next last =>
        cases found
        exact (List.dropLast_append_getLast? mark last).symm
    · cases found
  · rintro rfl
    simp [withoutLast?]

theorem words_of_withoutLast? {mark : Char} {text line : Text} (blank : isBlank mark = true)
    (found : withoutLast? mark text = some line) : words line = words text := by
  rw [withoutLast?_eq_some_iff.mp found, words_concat_of_blank blank]

theorem words_withoutLineEnd (chunk : Text) : words (withoutLineEnd chunk) = words chunk := by
  unfold withoutLineEnd
  rcases ended : withoutLast? '\n' chunk with _ | line
  · rfl
  · rw [← words_of_withoutLast? (by decide) ended]
    dsimp only
    rcases returned : withoutLast? '\r' line with _ | inner
    · rfl
    · exact words_of_withoutLast? (by decide) returned

theorem exists_line_of_mem_pieces {text piece : Text} (member : piece ∈ pieces '\n' text)
    (full : piece ≠ []) : ∃ line ∈ lines text, words line = words piece := by
  rcases exists_pieces_concat '\n' text with ⟨init, last, cut⟩
  have chunked := chunks_of_pieces cut
  rw [cut, List.mem_append, List.mem_singleton] at member
  rcases member with inside | rfl
  · have chunk : piece ++ ['\n'] ∈ chunks text := by
      rw [chunked]
      exact List.mem_append_left _ (List.mem_map_of_mem inside)
    refine ⟨_, List.mem_map_of_mem chunk, ?_⟩
    rw [words_withoutLineEnd, words_concat_of_blank (by decide)]
  · have chunk : piece ∈ chunks text := by
      rw [chunked, List.isEmpty_eq_false_iff.mpr full]
      exact List.mem_append_right _ List.mem_cons_self
    exact ⟨_, List.mem_map_of_mem chunk, words_withoutLineEnd piece⟩

theorem head?_trimStart (text : Text) :
    (trimStart text).head? = (words text).head?.bind List.head? := by
  induction text with
  | nil => rfl
  | cons c rest induction =>
      by_cases blank : isBlank c = true
      · rw [words_cons_of_blank blank, ← induction]
        simp [trimStart, blank]
      · rcases words_cons_of_not_blank (by simpa using blank) rest with ⟨word, others, found⟩
        simp [trimStart, blank, found]

theorem head?_trimEnd {text : Text} {c : Char} (first : text.head? = some c)
    (letter : isBlank c = false) : (trimEnd text).head? = some c := by
  induction text using List.reverseRecOn with
  | nil => cases first
  | append_singleton rest d induction =>
      rw [trimEnd_concat]
      split
      · next blank =>
          cases rest with
          | nil =>
              cases first
              rw [letter] at blank
              cases blank
          | cons e rest => exact induction first
      · exact first

theorem head?_trim (text : Text) : (trim text).head? = (words text).head?.bind List.head? := by
  rw [← head?_trimStart, trim]
  rcases start : (trimStart text).head? with _ | c
  · rw [List.head?_eq_none_iff.mp start]
    rfl
  · have letter := List.head?_dropWhile_not isBlank text
    rw [← trimStart, start] at letter
    exact head?_trimEnd start letter

end Text
end NetAdmin
