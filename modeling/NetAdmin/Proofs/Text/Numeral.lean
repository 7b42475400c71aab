import Mathlib.Data.Nat.Digits.Defs
import NetAdmin.Text.Blank
import NetAdmin.Text.Decimal
/-!
Numerals among the words of a line. A written number is a word of digits, so nothing that a
line is cut at stands in it, and it is read back if it fits. Which texts are read, and as which
number, is told by the places of their digits (`natural?_eq_some_iff`, `word?_eq_some_iff`).
-/

namespace NetAdmin
namespace Decimal

theorem isBlank_of_isDigit {c : Char} (digit : c.isDigit = true) : Text.isBlank c = false := by
  simp only [Char.isDigit, Bool.and_eq_true, decide_eq_true_eq, ge_iff_le, UInt32.le_iff_toNat_le]
    at digit
  have digits : ∀ code ≤ 57, 48 ≤ code → Text.inRanges Text.blankRanges code = false := by decide
  exact digits c.toNat digit.2 digit.1

theorem free_of_mem_write {value : Nat} {c : Char} (member : c ∈ write value) :
    Text.isBlank c = false :=
  isBlank_of_isDigit (isDigit_of_mem_write member)

theorem head?_write_ne {value : Nat} {c : Char} (noDigit : c.isDigit = false) :
    (write value).head? ≠ some c := by
  intro first
  have digit := isDigit_of_mem_write (List.mem_of_head? first)
  rw [noDigit] at digit
  cases digit

theorem withoutPlus_of_ne {text : Text} (unsigned : ∀ rest, text ≠ '+' :: rest) :
    withoutPlus text = text := by
  unfold withoutPlus
  split
  · next rest => exact absurd rfl (unsigned rest)
  · rfl

theorem word?_write {value : Nat} (small : value < wordBound) :
    word? (write value) = some value := by
  have unsigned : withoutPlus (write value) = write value := by
    apply withoutPlus_of_ne
    intro rest signed
    have first : (write value).head? = some '+' := by rw [signed]; rfl
    exact head?_write_ne (by decide) first
  rw [word?, below?, unsigned, natural?_write, Option.bind_some, if_pos small]

/-! ## Which texts are numerals -/

def IsNumeral (text : Text) : Prop :=
  text ≠ [] ∧ ∀ c ∈ text, c.isDigit = true

/-- The number that digits give by their places: the last one counts ones, the one in front of
it tens, and so on. -/
def placeValue (digits : Text) : Nat :=
  Nat.ofDigits 10 (digits.reverse.map fun c => c.toNat - '0'.toNat)

example : placeValue "0907".toList = 907 := by decide

/-- The text gives the number as one that fits a word of 32 bits: by digits, maybe with a plus
sign in front of them. -/
def SpellsWord (text : Text) (value : Nat) : Prop :=
  ∃ digits, (text = digits ∨ text = '+' :: digits) ∧ IsNumeral digits ∧
    placeValue digits = value ∧ value < wordBound

theorem placeValue_cons (c : Char) (rest : Text) :
    placeValue (c :: rest) = (c.toNat - '0'.toNat) * 10 ^ rest.length + placeValue rest := by
  simp only [placeValue, List.reverse_cons, List.map_append, List.map_cons, List.map_nil,
    Nat.ofDigits_append, Nat.ofDigits_singleton, List.length_map, List.length_reverse]
  rw [Nat.add_comm, Nat.mul_comm]

theorem readFrom_eq_some_iff {text : Text} {start value : Nat} :
    readFrom start text = some value ↔
      (∀ c ∈ text, c.isDigit = true) ∧ start * 10 ^ text.length + placeValue text = value := by
  induction text generalizing start with
  | nil => simp [readFrom, placeValue]
  | cons c rest induction =>
      cases digit : c.isDigit with
      | false => simp [readFrom, digit?, digit]
      | true =>
          -- What has been read moves up one place, and the new digit takes the last one.
          have moved : (10 * start + (c.toNat - '0'.toNat)) * 10 ^ rest.length + placeValue rest =
              start * 10 ^ (c :: rest).length + placeValue (c :: rest) := by
            rw [placeValue_cons, List.length_cons, Nat.pow_succ]
            ring
          rw [readFrom, digit?, if_pos digit, Option.bind_some, induction, moved,
            List.forall_mem_cons]
          simp [digit]

theorem natural?_eq_some_iff {text : Text} {value : Nat} :
    natural? text = some value ↔ IsNumeral text ∧ placeValue text = value := by
  cases text with
  | nil => simp [natural?, IsNumeral]
  | cons c rest =>
      show readFrom 0 (c :: rest) = some value ↔ _
      rw [readFrom_eq_some_iff, Nat.zero_mul, Nat.zero_add, IsNumeral]
      simp

theorem isNumeral_write (value : Nat) : IsNumeral (write value) :=
  ⟨write_ne_nil value, fun _ member => isDigit_of_mem_write member⟩

theorem IsNumeral.free {digits : Text} (numeral : IsNumeral digits) :
    digits ≠ [] ∧ ∀ c ∈ digits, Text.isBlank c = false :=
  ⟨numeral.1, fun c member => isBlank_of_isDigit (numeral.2 c member)⟩

theorem IsNumeral.ne_plus {digits rest : Text} (numeral : IsNumeral digits) :
    digits ≠ '+' :: rest := by
  rintro rfl
  exact absurd (numeral.2 '+' List.mem_cons_self) (by decide)

theorem word?_eq_some_iff {text : Text} {value : Nat} :
    word? text = some value ↔ SpellsWord text value := by
  have fits : word? text = some value ↔ IsNumeral (withoutPlus text) ∧
      placeValue (withoutPlus text) = value ∧ value < wordBound := by
    rw [word?, below?, Option.bind_eq_some_iff]
    simp only [natural?_eq_some_iff]
    constructor
    · rintro ⟨number, ⟨numeral, places⟩, kept⟩
      split at kept
      · next small =>
          cases kept
          exact ⟨numeral, places, small⟩
      · cases kept
    · rintro ⟨numeral, places, small⟩
      exact ⟨value, ⟨numeral, places⟩, if_pos small⟩
  rw [fits]
  constructor
  · rintro ⟨numeral, places, small⟩
    refine ⟨withoutPlus text, ?_, numeral, places, small⟩
    unfold withoutPlus
    split
    · exact .inr rfl
    · exact .inl rfl
  · rintro ⟨digits, rfl | rfl, numeral, places, small⟩
    · rw [withoutPlus_of_ne fun rest => numeral.ne_plus]
      exact ⟨numeral, places, small⟩
    · exact ⟨numeral, places, small⟩

theorem SpellsWord.free {text : Text} {value : Nat} (spells : SpellsWord text value) :
    text ≠ [] ∧ ∀ c ∈ text, Text.isBlank c = false := by
  rcases spells with ⟨digits, rfl | rfl, numeral, -, -⟩
  · exact numeral.free
  · exact ⟨List.cons_ne_nil _ _, List.forall_mem_cons.mpr ⟨by decide, numeral.free.2⟩⟩

theorem spellsWord_write {value : Nat} (small : value < wordBound) :
    SpellsWord (write value) value :=
  word?_eq_some_iff.mp (word?_write small)

end Decimal
end NetAdmin
