import Mathlib.Logic.Function.Basic
import Mathlib.Tactic.IntervalCases
import NetAdmin.Text.Utf8
/-!
Reading back what is written as UTF-8. The bytes of a character are read as that character, up to
their end (`readFirst_utf8EncodeChar`), and no other bytes are (`utf8EncodeChar_of_readFirst`). So
the bytes that can be read as a text are those that the text is written as
(`decode?_eq_some_iff`).
-/

namespace NetAdmin
namespace Utf8

variable {byte low high : UInt8} {bytes : Bytes} {c : Char} {text : Text}
  {part value used needed taken : Nat}

/-! ## The bytes of a character -/

theorem toNat_bounds (c : Char) :
    c.toNat < 0xD800 ∨ 0xDFFF < c.toNat ∧ c.toNat < 0x110000 :=
  c.valid

theorem utf8EncodeChar_one (small : c.toNat < 0x80) :
    String.utf8EncodeChar c = [UInt8.ofNat c.toNat] :=
  if_pos (Nat.le_of_lt_succ small)

theorem utf8EncodeChar_two (large : 0x80 ≤ c.toNat) (small : c.toNat < 0x800) :
    String.utf8EncodeChar c =
      [UInt8.ofNat (c.toNat / 64 + 0xC0), UInt8.ofNat (c.toNat % 64 + 0x80)] := by
  have lead : c.toNat / 64 % 32 = c.toNat / 64 := by omega
  conv_rhs => rw [← lead]
  exact (if_neg (Nat.not_le.mpr large)).trans (if_pos (Nat.le_of_lt_succ small))

theorem utf8EncodeChar_three (large : 0x800 ≤ c.toNat) (small : c.toNat < 0x10000) :
    String.utf8EncodeChar c =
      [UInt8.ofNat (c.toNat / 4096 + 0xE0), UInt8.ofNat (c.toNat / 64 % 64 + 0x80),
        UInt8.ofNat (c.toNat % 64 + 0x80)] := by
  have lead : c.toNat / 4096 % 16 = c.toNat / 4096 := by omega
  have notOne : ¬ c.toNat ≤ 0x7F := by omega
  conv_rhs => rw [← lead]
  exact (if_neg notOne).trans <| (if_neg (Nat.not_le.mpr large)).trans <|
    if_pos (Nat.le_of_lt_succ small)

theorem utf8EncodeChar_four (large : 0x10000 ≤ c.toNat) :
    String.utf8EncodeChar c =
      [UInt8.ofNat (c.toNat / 262144 + 0xF0), UInt8.ofNat (c.toNat / 4096 % 64 + 0x80),
        UInt8.ofNat (c.toNat / 64 % 64 + 0x80), UInt8.ofNat (c.toNat % 64 + 0x80)] := by
  have bounds := toNat_bounds c
  have lead : c.toNat / 262144 % 8 = c.toNat / 262144 := by omega
  have notOne : ¬ c.toNat ≤ 0x7F := by omega
  have notTwo : ¬ c.toNat ≤ 0x7FF := by omega
  conv_rhs => rw [← lead]
  exact (if_neg notOne).trans <| (if_neg notTwo).trans <| if_neg (Nat.not_le.mpr large)

/-! ## Reading one character -/

-- The bound is written as a numeral, which `omega` can show.
theorem toNat_ofNat_of_lt {number : Nat} (small : number < 256) :
    (UInt8.ofNat number).toNat = number :=
  UInt8.toNat_ofNat_of_lt' small

theorem continuation?_eq_some_iff :
    continuation? byte = some part ↔ part < 64 ∧ byte = UInt8.ofNat (part + 0x80) := by
  rw [continuation?]
  constructor
  · intro read
    split at read
    · next bounds =>
      have above : 0x80 ≤ byte.toNat := bounds.1
      have below : byte.toNat ≤ 0xBF := bounds.2
      have size : byte.toNat - 0x80 = part := Option.some.inj read
      refine ⟨by omega, ?_⟩
      rw [← size, Nat.sub_add_cancel above, UInt8.ofNat_toNat]
    · cases read
  · rintro ⟨small, rfl⟩
    have whole : (UInt8.ofNat (part + 0x80)).toNat = part + 0x80 := toNat_ofNat_of_lt (by omega)
    have bounds : 0x80 ≤ UInt8.ofNat (part + 0x80) ∧ UInt8.ofNat (part + 0x80) ≤ 0xBF := by
      rw [UInt8.le_iff_toNat_le, UInt8.le_iff_toNat_le, whole]
      exact ⟨Nat.le_add_left 0x80 part, Nat.le_of_lt_succ (Nat.add_lt_add_right small 0x80)⟩
    rw [if_pos bounds, whole, Nat.add_sub_cancel]

theorem readRest_zero_iff :
    readRest value used low high 0 bytes = (some c, taken) ↔
      c = Char.ofNat value ∧ taken = used := by
  rw [readRest, Prod.mk.injEq, Option.some_inj]
  exact and_congr eq_comm eq_comm

theorem readRest_succ_iff :
    readRest value used low high (needed + 1) bytes = (some c, taken) ↔
      ∃ part rest, part < 64 ∧ low.toNat ≤ part + 0x80 ∧ part + 0x80 ≤ high.toNat ∧
        bytes = UInt8.ofNat (part + 0x80) :: rest ∧
        readRest (64 * value + part) (used + 1) 0x80 0xBF needed rest = (some c, taken) := by
  constructor
  · intro read
    rcases bytes with _ | ⟨byte, bytes⟩
    · cases read
    rw [readRest] at read
    split at read
    · next part found =>
      rcases continuation?_eq_some_iff.mp found with ⟨small, rfl⟩
      split at read
      · next bounds =>
        rw [UInt8.le_iff_toNat_le, UInt8.le_iff_toNat_le, toNat_ofNat_of_lt (by omega)] at bounds
        exact ⟨part, bytes, small, bounds.1, bounds.2, rfl, read⟩
      · cases read
    · cases read
  · rintro ⟨part, rest, small, above, below, rfl, read⟩
    have whole : (UInt8.ofNat (part + 0x80)).toNat = part + 0x80 := toNat_ofNat_of_lt (by omega)
    have bounds : low ≤ UInt8.ofNat (part + 0x80) ∧ UInt8.ofNat (part + 0x80) ≤ high := by
      rw [UInt8.le_iff_toNat_le, UInt8.le_iff_toNat_le, whole]
      exact ⟨above, below⟩
    rw [readRest, continuation?_eq_some_iff.mpr ⟨small, rfl⟩]
    exact (if_pos bounds).trans read

theorem readRest_one_iff :
    readRest value used 0x80 0xBF 1 bytes = (some c, taken) ↔
      ∃ part rest, part < 64 ∧ bytes = UInt8.ofNat (part + 0x80) :: rest ∧
        c = Char.ofNat (64 * value + part) ∧ taken = used + 1 := by
  rw [readRest_succ_iff]
  constructor
  · rintro ⟨part, rest, small, -, -, shape, read⟩
    exact ⟨part, rest, small, shape, readRest_zero_iff.mp read⟩
  · rintro ⟨part, rest, small, shape, whole⟩
    have above : 0x80 ≤ part + 0x80 := Nat.le_add_left 0x80 part
    have below : part + 0x80 ≤ 0xBF := by omega
    exact ⟨part, rest, small, above, below, shape, readRest_zero_iff.mpr whole⟩

theorem readRest_two_iff :
    readRest value used low high 2 bytes = (some c, taken) ↔
      ∃ part next rest, part < 64 ∧ next < 64 ∧ low.toNat ≤ part + 0x80 ∧
        part + 0x80 ≤ high.toNat ∧
        bytes = UInt8.ofNat (part + 0x80) :: UInt8.ofNat (next + 0x80) :: rest ∧
        c = Char.ofNat (64 * (64 * value + part) + next) ∧ taken = used + 2 := by
  rw [readRest_succ_iff]
  simp only [readRest_one_iff]
  constructor
  · rintro ⟨part, _, small, above, below, rfl, next, rest, smallNext, rfl, whole⟩
    exact ⟨part, next, rest, small, smallNext, above, below, rfl, whole⟩
  · rintro ⟨part, next, rest, small, smallNext, above, below, rfl, whole⟩
    exact ⟨part, _, small, above, below, rfl, next, rest, smallNext, rfl, whole⟩

theorem readRest_three_iff :
    readRest value used low high 3 bytes = (some c, taken) ↔
      ∃ part next last rest, part < 64 ∧ next < 64 ∧ last < 64 ∧ low.toNat ≤ part + 0x80 ∧
        part + 0x80 ≤ high.toNat ∧
        bytes = UInt8.ofNat (part + 0x80) :: UInt8.ofNat (next + 0x80) ::
          UInt8.ofNat (last + 0x80) :: rest ∧
        c = Char.ofNat (64 * (64 * (64 * value + part) + next) + last) ∧ taken = used + 3 := by
  rw [readRest_succ_iff]
  simp only [readRest_two_iff]
  constructor
  · rintro ⟨part, _, small, above, below, rfl, next, last, rest, smallNext, smallLast, -, -, rfl,
      whole⟩
    exact ⟨part, next, last, rest, small, smallNext, smallLast, above, below, rfl, whole⟩
  · rintro ⟨part, next, last, rest, small, smallNext, smallLast, above, below, rfl, whole⟩
    have aboveNext : 0x80 ≤ next + 0x80 := Nat.le_add_left 0x80 next
    have belowNext : next + 0x80 ≤ 0xBF := by omega
    exact ⟨part, _, small, above, below, rfl, next, last, rest, smallNext, smallLast, aboveNext,
      belowNext, rfl, whole⟩

theorem readFirst_one (small : value < 0x80) :
    readFirst (UInt8.ofNat value) bytes = (some (Char.ofNat value), 0) := by
  rw [readFirst, toNat_ofNat_of_lt (by omega), if_pos small]

theorem readFirst_two (large : 2 ≤ value) (small : value < 32) :
    readFirst (UInt8.ofNat (value + 0xC0)) bytes = readRest value 0 0x80 0xBF 1 bytes := by
  rw [readFirst, toNat_ofNat_of_lt (by omega), if_neg (by omega), if_neg (by omega),
    if_pos (by omega), Nat.add_sub_cancel]

theorem readFirst_three (small : value < 16) :
    readFirst (UInt8.ofNat (value + 0xE0)) bytes =
      readRest value 0 (if value = 0 then UInt8.ofNat (32 + 0x80) else 0x80)
        (if value = 13 then UInt8.ofNat (31 + 0x80) else 0xBF) 2 bytes := by
  interval_cases value <;> rfl

theorem readFirst_four (small : value < 5) :
    readFirst (UInt8.ofNat (value + 0xF0)) bytes =
      readRest value 0 (if value = 0 then UInt8.ofNat (16 + 0x80) else 0x80)
        (if value = 4 then UInt8.ofNat (15 + 0x80) else 0xBF) 3 bytes := by
  interval_cases value <;> rfl

theorem readFirst_other (small : value < 256)
    (outside : 0x80 ≤ value ∧ value < 0xC2 ∨ 0xF5 ≤ value) :
    readFirst (UInt8.ofNat value) bytes = (none, 0) := by
  rw [readFirst, toNat_ofNat_of_lt small, if_neg (by omega)]
  rcases outside with ⟨-, below⟩ | above
  · rw [if_pos below]
  · rw [if_neg (by omega), if_neg (by omega), if_neg (by omega), if_neg (by omega),
      if_neg (by omega), if_neg (by omega), if_neg (by omega), if_neg (by omega)]

section Bounds

variable {condition : Prop} [Decidable condition]

theorem least_le_iff {least : Nat} (small : least < 64) :
    (if condition then UInt8.ofNat (least + 0x80) else 0x80).toNat ≤ part + 0x80 ↔
      (condition → least ≤ part) := by
  split
  · next holds =>
    rw [toNat_ofNat_of_lt (by omega), Nat.add_le_add_iff_right]
    exact ⟨fun above _ => above, fun above => above holds⟩
  · next fails =>
    exact ⟨fun _ holds => absurd holds fails, fun _ => Nat.le_add_left 0x80 part⟩

theorem le_most_iff {most : Nat} (small : part < 64) (bound : most < 64) :
    part + 0x80 ≤ (if condition then UInt8.ofNat (most + 0x80) else 0xBF).toNat ↔
      (condition → part ≤ most) := by
  split
  · next holds =>
    rw [toNat_ofNat_of_lt (by omega), Nat.add_le_add_iff_right]
    exact ⟨fun below _ => below, fun below => below holds⟩
  · next fails =>
    have below : part + 0x80 ≤ 0xBF := by omega
    exact ⟨fun _ holds => absurd holds fails, fun _ => below⟩

end Bounds

theorem toNat_charOfNat {number : Nat} (valid : number.isValidChar) :
    (Char.ofNat number).toNat = number := by
  rw [Char.ofNat, dif_pos valid]
  rfl

theorem readFirst_utf8EncodeChar (c : Char) (rest : Bytes) :
    ∃ first others, String.utf8EncodeChar c = first :: others ∧
      readFirst first (others ++ rest) = (some c, others.length) := by
  have bounds := toNat_bounds c
  by_cases one : c.toNat < 0x80
  · refine ⟨_, _, utf8EncodeChar_one one, ?_⟩
    rw [readFirst_one one, Char.ofNat_toNat]
    rfl
  by_cases two : c.toNat < 0x800
  · refine ⟨_, _, utf8EncodeChar_two (by omega) two, ?_⟩
    have whole : 64 * (c.toNat / 64) + c.toNat % 64 = c.toNat := by omega
    rw [readFirst_two (by omega) (by omega), readRest_one_iff]
    refine ⟨_, rest, by omega, rfl, ?_, rfl⟩
    rw [whole, Char.ofNat_toNat]
  by_cases three : c.toNat < 0x10000
  · refine ⟨_, _, utf8EncodeChar_three (by omega) three, ?_⟩
    have whole : 64 * (64 * (c.toNat / 4096) + c.toNat / 64 % 64) + c.toNat % 64 = c.toNat := by
      omega
    rw [readFirst_three (by omega), readRest_two_iff]
    refine ⟨_, _, rest, by omega, by omega, ?_, ?_, rfl, ?_, rfl⟩
    · exact (least_le_iff (by omega)).mpr fun _ => by omega
    · exact (le_most_iff (by omega) (by omega)).mpr fun _ => by omega
    · rw [whole, Char.ofNat_toNat]
  · refine ⟨_, _, utf8EncodeChar_four (by omega), ?_⟩
    have whole : 64 * (64 * (64 * (c.toNat / 262144) + c.toNat / 4096 % 64) + c.toNat / 64 % 64) +
        c.toNat % 64 = c.toNat := by omega
    rw [readFirst_four (by omega), readRest_three_iff]
    refine ⟨_, _, _, rest, by omega, by omega, by omega, ?_, ?_, rfl, ?_, rfl⟩
    · exact (least_le_iff (by omega)).mpr fun _ => by omega
    · exact (le_most_iff (by omega) (by omega)).mpr fun _ => by omega
    · rw [whole, Char.ofNat_toNat]

theorem utf8EncodeChar_of_readFirst (read : readFirst byte bytes = (some c, taken)) :
    ∃ others rest, String.utf8EncodeChar c = byte :: others ∧ bytes = others ++ rest ∧
      taken = others.length := by
  have size : byte.toNat < 256 := byte.toNat_lt
  have shape : byte = UInt8.ofNat byte.toNat := UInt8.ofNat_toNat.symm
  generalize byte.toNat = value at size shape
  subst shape
  -- The first byte tells how many parts follow; they are the places of the number to base 64.
  by_cases one : value < 0x80
  · have whole : (Char.ofNat value).toNat = value := toNat_charOfNat (.inl (by omega))
    cases (readFirst_one one).symm.trans read
    refine ⟨[], bytes, ?_, rfl, rfl⟩
    rw [utf8EncodeChar_one (by omega), whole]
  by_cases two : 0xC2 ≤ value ∧ value < 0xE0
  · rcases Nat.exists_eq_add_of_le' (show 0xC0 ≤ value by omega) with ⟨lead, rfl⟩
    rw [readFirst_two (by omega) (by omega), readRest_one_iff] at read
    rcases read with ⟨part, rest, small, rfl, rfl, rfl⟩
    have whole : (Char.ofNat (64 * lead + part)).toNat = 64 * lead + part :=
      toNat_charOfNat (.inl (by omega))
    refine ⟨[_], rest, ?_, rfl, rfl⟩
    rw [utf8EncodeChar_two (by omega) (by omega), whole]
    congr <;> omega
  by_cases three : 0xE0 ≤ value ∧ value < 0xF0
  · rcases Nat.exists_eq_add_of_le' three.1 with ⟨lead, rfl⟩
    rw [readFirst_three (by omega), readRest_two_iff] at read
    rcases read with ⟨part, next, rest, small, smallNext, above, below, rfl, rfl, rfl⟩
    have notOverlong : lead = 0 → 32 ≤ part := (least_le_iff (by omega)).mp above
    have noSurrogate : lead = 13 → part ≤ 31 := (le_most_iff small (by omega)).mp below
    have whole : (Char.ofNat (64 * (64 * lead + part) + next)).toNat =
        64 * (64 * lead + part) + next := toNat_charOfNat (by unfold Nat.isValidChar; omega)
    refine ⟨[_, _], rest, ?_, rfl, rfl⟩
    rw [utf8EncodeChar_three (by omega) (by omega), whole]
    congr <;> omega
  by_cases four : 0xF0 ≤ value ∧ value < 0xF5
  · rcases Nat.exists_eq_add_of_le' four.1 with ⟨lead, rfl⟩
    rw [readFirst_four (by omega), readRest_three_iff] at read
    rcases read with
      ⟨part, next, last, rest, small, smallNext, smallLast, above, below, rfl, rfl, rfl⟩
    have notOverlong : lead = 0 → 16 ≤ part := (least_le_iff (by omega)).mp above
    have notPast : lead = 4 → part ≤ 15 := (le_most_iff small (by omega)).mp below
    have whole : (Char.ofNat (64 * (64 * (64 * lead + part) + next) + last)).toNat =
        64 * (64 * (64 * lead + part) + next) + last :=
      toNat_charOfNat (by unfold Nat.isValidChar; omega)
    refine ⟨[_, _, _], rest, ?_, rfl, rfl⟩
    rw [utf8EncodeChar_four (by omega), whole]
    congr <;> omega
  · rw [readFirst_other size (by omega)] at read
    cases read

/-! ## Reading a text -/

theorem units_eq_drop (skipped : Nat) (bytes : Bytes) :
    units skipped bytes = units 0 (bytes.drop skipped) := by
  induction skipped generalizing bytes with
  | zero => rfl
  | succ skipped induction =>
      cases bytes with
      | nil => rfl
      | cons byte bytes => exact induction bytes

theorem units_eq_map_some_iff : units 0 bytes = text.map some ↔ bytes = encode text := by
  induction text generalizing bytes with
  | nil =>
      cases bytes with
      | nil => simp [units, encode]
      | cons byte bytes => simp [units, encode]
  | cons c text induction =>
      rw [encode, List.flatMap_cons, List.map_cons]
      constructor
      · intro cut
        -- The first unit has used up the bytes of `c`, and the others start behind them.
        rcases bytes with _ | ⟨byte, bytes⟩
        · cases cut
        rw [units] at cut
        rcases read : readFirst byte bytes with ⟨first, taken⟩
        rw [read] at cut
        dsimp only at cut
        rw [List.cons.injEq] at cut
        rcases cut with ⟨rfl, others⟩
        rcases utf8EncodeChar_of_readFirst read with ⟨behind, rest, written, rfl, rfl⟩
        rw [units_eq_drop, List.drop_left, induction] at others
        rw [written, others]
        rfl
      · rintro rfl
        rcases readFirst_utf8EncodeChar c (encode text) with ⟨first, others, written, read⟩
        rw [← encode, written, List.cons_append, units, read, units_eq_drop, List.drop_left,
          induction.mpr rfl]

theorem mapM_id_eq_some_iff {parts : List (Option Char)} :
    parts.mapM id = some text ↔ parts = text.map some := by
  induction parts generalizing text with
  | nil => cases text <;> simp
  | cons part parts induction =>
      rw [List.mapM_cons]
      cases part with
      | none => cases text <;> simp
      | some c =>
          cases text with
          | nil => cases parts.mapM id <;> simp
          | cons d text => cases others : parts.mapM id <;> simp [← induction, others]

/-- The bytes that can be read as a text are those that it is written as. -/
theorem decode?_eq_some_iff : decode? bytes = some text ↔ bytes = encode text := by
  rw [decode?, mapM_id_eq_some_iff, units_eq_map_some_iff]

theorem encode_injective : Function.Injective encode := by
  intro left right equal
  have read : decode? (encode left) = some left := decode?_eq_some_iff.mpr rfl
  rw [equal, decode?_eq_some_iff.mpr rfl] at read
  exact (Option.some.inj read).symm

end Utf8
end NetAdmin
