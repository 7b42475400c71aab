import NetAdmin.Address.Literal
import NetAdmin.Text.Decimal
/-!
What the text of an address cannot be. The numeral and the colon that a rule listing starts
its lines with are no address (`not_isWritten_numeral`), so an address among the words of
such a line is one of the words that describe the rule.
-/

namespace NetAdmin
namespace Address

/-- A text that is an address, alone or with a slash and the length of a network behind
it. -/
def IsWritten (text : Text) : Prop :=
  ∃ literal, (read? literal).isSome ∧ (text = literal ∨ ∃ length, text = literal ++ '/' :: length)

theorem not_isWritten {text : Text} (unread : read? text = none) (single : '/' ∉ text) :
    ¬ IsWritten text := by
  rintro ⟨literal, readable, rfl | ⟨length, rfl⟩⟩
  · simp [unread] at readable
  · simp at single

theorem isSome_digitIn? {base : Nat} (decimal : 10 ≤ base) {c : Char} (digit : c.isDigit = true) :
    (digitIn? base c).isSome = true := by
  have small : c.toNat - 48 < base := by
    simp only [Char.isDigit, Bool.and_eq_true, decide_eq_true_eq] at digit
    have upper : c.toNat ≤ 57 := digit.2
    omega
  simp [digitIn?, digit, small]

theorem readDigits_append {base : Nat} {digits : Text} (mark : Char) (value count : Nat)
    (digit : ∀ c ∈ digits, (digitIn? base c).isSome = true) (stop : digitIn? base mark = none)
    (rest : Text) :
    ∃ read, readDigits base (digits ++ mark :: rest) value count =
      (read, count + digits.length, mark :: rest) := by
  induction digits generalizing value count with
  | nil => exact ⟨value, by simp [readDigits, stop]⟩
  | cons c digits induction =>
      rcases Option.isSome_iff_exists.mp (digit c List.mem_cons_self) with ⟨first, found⟩
      rcases induction (base * value + first) (count + 1)
        (fun d member => digit d (List.mem_cons_of_mem _ member)) with ⟨read, ends⟩
      refine ⟨read, ?_⟩
      rw [List.cons_append, readDigits, found]
      simp only [ends, List.length_cons, Nat.add_assoc, Nat.add_comm 1]

section Numeral

variable {digits : Text} (decimal : ∀ c ∈ digits, c.isDigit = true)

include decimal

theorem readQuad_numeral : readQuad (digits ++ [':']) = none := by
  have digit := fun c member => isSome_digitIn? (Nat.le_refl 10) (decimal c member)
  rcases readDigits_append ':' 0 0 digit rfl [] with ⟨read, ends⟩
  rw [readQuad, readOctet, ends]
  dsimp only
  split <;> rfl

theorem readGroup_numeral : readGroup (digits ++ [':']) = none ∨
    ∃ value, readGroup (digits ++ [':']) = some (value, [':']) := by
  have digit := fun c member => isSome_digitIn? (show 10 ≤ 16 by decide) (decimal c member)
  rcases readDigits_append ':' 0 0 digit rfl [] with ⟨read, ends⟩
  rw [readGroup, ends]
  dsimp only
  split
  · exact .inl rfl
  · exact .inr ⟨read, rfl⟩

theorem readV6_numeral : readV6 (digits ++ [':']) = none := by
  rcases readGroup_numeral decimal with noGroup | ⟨value, group⟩
  · have front : readGroups 8 true (digits ++ [':']) = ⟨[], false, digits ++ [':']⟩ := by
      simp [readGroups, readQuad_numeral decimal, noGroup]
    rw [readV6, front]
    cases digits with
    | nil => rfl
    | cons c digits =>
        have other : c ≠ ':' := by
          rintro rfl
          exact absurd (decimal ':' List.mem_cons_self) (by decide)
        simp [readMark, other]
  · -- Behind the colon stands neither a second group nor a second colon.
    have nothing : readGroups 7 false [':'] = ⟨[], false, [':']⟩ := rfl
    have front : readGroups 8 true (digits ++ [':']) = ⟨[value], false, [':']⟩ := by
      rw [readGroups]
      simp [readQuad_numeral decimal, group, nothing]
    rw [readV6, front]
    rfl

theorem not_isWritten_numeral : ¬ IsWritten (digits ++ [':']) := by
  apply not_isWritten
  · rw [read?, readQuad_numeral decimal, readV6_numeral decimal]
  · intro slash
    rcases List.mem_append.mp slash with inside | last
    · exact absurd (decimal '/' inside) (by decide)
    · exact absurd last (by decide)

end Numeral

end Address
end NetAdmin
