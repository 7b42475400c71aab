import NetAdmin.Text.Columns.Behind
/-!
How many columns of a fixed-width display a line takes. The characters of a
pictograph sequence, of a flag and of a merged pair of letters are counted
together; in a line without such sequences each character counts on its own,
as `columns_of_narrow` says for the narrow ones.
-/

namespace NetAdmin
namespace Text

/-- The columns of a line, counted from its end, and what its beginning offers to
a character in front of it. -/
def counted (line : Text) : Int × Behind :=
  line.foldr (fun c rest =>
    let (added, behind) := rest.2.count c
    (rest.1 + added, behind)) (0, .lineEnd)

def columns (line : Text) : Nat :=
  (counted line).1.toNat

/-! ## Narrow lines -/

theorem Joint.ofChar_of_le {c : Char} (narrow : c.toNat ≤ 0xA0) : Joint.ofChar c = .nothing := by
  have outside (ranges : List (Nat × Nat))
      (above : ranges.all (fun range => 0xA0 < range.1) = true) :
      inRanges ranges c.toNat = false := inRanges_of_le narrow above
  have other (code : Nat) (high : 0xA0 < code) : ¬ c.toNat = code := by omega
  have low (code : Nat) (high : 0xA0 < code) : ¬ code ≤ c.toNat := by omega
  have letter : MergingLetter.of? c = none := by
    simp [MergingLetter.of?, outside tifinaghRanges (by decide),
      outside secondToneRanges (by decide), outside khmerRanges (by decide), other]
  simp [Joint.ofChar, letter, isPictograph, isSkinTone, isIndicator,
    outside pictographRanges (by decide +kernel), outside alefRanges (by decide), low, other]

theorem Behind.count_lineEnd_of_le {c : Char} (narrow : c.toNat ≤ 0xA0) :
    Behind.lineEnd.count c = (1, .lineEnd) := by
  have plain : Form.ofSelector? c = none := by
    unfold Form.ofSelector?
    split
    · rename_i equal; subst equal; simp at narrow
    · split
      · rename_i equal; subst equal; simp at narrow
      · split
        · rename_i equal; subst equal; simp at narrow
        · rfl
  simp [Behind.count, Behind.chosen?, Behind.openJoint, Joint.join?, Behind.lineEnd, plain,
    charColumns_of_le narrow, Joint.ofChar_of_le narrow]

/-- A line of narrow characters takes as many columns as it has characters. -/
theorem columns_of_narrow {line : Text} (narrow : ∀ c ∈ line, c.toNat ≤ 0xA0) :
    columns line = line.length := by
  suffices counted line = ((line.length : Int), Behind.lineEnd) by simp [columns, this]
  induction line with
  | nil => rfl
  | cons c line induction =>
      have rest := induction fun d member => narrow d (List.mem_cons_of_mem c member)
      have front := Behind.count_lineEnd_of_le (narrow c List.mem_cons_self)
      unfold counted at rest ⊢
      simp [rest, front]

/-! ## Sequences -/

example : columns ['❤'] = 1 ∧ columns ['❤', '\ufe0f'] = 2 := by decide +kernel

/-- A family is as wide as one of its members, and a flag as its two letters. -/
example : columns ['👨', '\u200d', '👩', '\u200d', '👧'] = 2 ∧ columns ['🇩', '🇪'] = 2 := by
  decide +kernel

/-- Lam and alef are drawn as one letter, also with a vowel mark between them. -/
example : columns ['\u0644', '\u064b', '\u0627'] = 1 := by decide +kernel

example : columns ['\u1780', '\u17d2', '\u1780'] = 1 := by decide +kernel

end Text
end NetAdmin
