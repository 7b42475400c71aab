import NetAdmin.Text.Basic
import NetAdmin.Text.Ranges
/-!
Blank characters and the words between them.

A character is blank when Unicode gives it the property White_Space. Command
listings and configuration files are read word by word, a word being a longest
run of characters that are not blank. Everything about words follows from
`words_append_blank`: a blank character separates what stands on its two sides.
-/

namespace NetAdmin
namespace Text

/-- The closed ranges of code points with the property White_Space, ascending. -/
def blankRanges : List (Nat × Nat) :=
  [(0x09, 0x0D), (0x20, 0x20), (0x85, 0x85), (0xA0, 0xA0), (0x1680, 0x1680),
    (0x2000, 0x200A), (0x2028, 0x2029), (0x202F, 0x202F), (0x205F, 0x205F), (0x3000, 0x3000)]

example : ascending blankRanges = true ∧ rangesSize blankRanges = 25 := by decide

def isBlank (c : Char) : Bool :=
  inRanges blankRanges c.toNat

example : isBlank '\u0085' ∧ isBlank '\u00a0' ∧ ¬ isBlank '\u200b' := by decide

theorem isBlank_of_isWhitespace (c : Char) (white : c.isWhitespace = true) :
    isBlank c = true := by
  simp only [Char.isWhitespace, Bool.or_eq_true, decide_eq_true_eq] at white
  rcases white with ((equal | equal) | equal) | equal <;> subst equal <;> decide

def trimStart (text : Text) : Text :=
  text.dropWhile isBlank

def trimEnd (text : Text) : Text :=
  (text.reverse.dropWhile isBlank).reverse

def trim (text : Text) : Text :=
  trimEnd (trimStart text)

def isAllBlank (text : Text) : Bool :=
  text.all isBlank

def words (text : Text) : List Text :=
  (split isBlank text).filter fun word => !word.isEmpty

example : words " a\tbc \u3000d".toList = ["a".toList, "bc".toList, "d".toList] := by decide

theorem words_nil : words [] = [] := rfl

theorem words_append_blank {c : Char} (blank : isBlank c = true) (left right : Text) :
    words (left ++ c :: right) = words left ++ words right := by
  simp [words, split_append blank]

theorem free_of_mem_words {text word : Text} (member : word ∈ words text) :
    word ≠ [] ∧ ∀ c ∈ word, isBlank c = false := by
  obtain ⟨inside, full⟩ := List.mem_filter.mp member
  exact ⟨by simpa using full, free_of_mem_split inside⟩

theorem words_of_free {word : Text} (full : word ≠ []) (free : ∀ c ∈ word, isBlank c = false) :
    words word = [word] := by
  simp [words, split_of_free free, full]

theorem words_glue {parts : List Text}
    (free : ∀ part ∈ parts, part ≠ [] ∧ ∀ c ∈ part, isBlank c = false) :
    words (glue ' ' parts) = parts := by
  induction parts with
  | nil => rfl
  | cons part parts induction =>
      have first := free part (by simp)
      have others := induction fun p member => free p (by simp [member])
      cases parts with
      | nil => exact words_of_free first.1 first.2
      | cons next parts =>
          show words (part ++ ' ' :: glue ' ' (next :: parts)) = _
          rw [words_append_blank (by decide), words_of_free first.1 first.2, others]
          rfl

def trimEndOf (mark : Char) (text : Text) : Text :=
  (text.reverse.dropWhile (· == mark)).reverse

end Text
end NetAdmin
