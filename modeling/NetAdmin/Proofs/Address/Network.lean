import NetAdmin.Address.Basic
/-!
The network of an address, bit by bit. The mask of either family is the vector that its name
promises, worked out without an overflow for every length that the family allows. So the
network of an address is the one address that has its first bits and zeros behind them
(`IsNetwork.unique`), and all that is said of networks of networks and of addresses with one
network follows from the bits.
-/

namespace NetAdmin
namespace Address

/-! ## Bits of addresses -/

def bit : Address → Nat → Bool
  | .v4 bits, place => bits.getMsbD place
  | .v6 bits, place => bits.getMsbD place

/-- Two addresses of one family, which their width tells, with the same first bits. -/
def Agree (length : Nat) (first second : Address) : Prop :=
  first.width = second.width ∧ ∀ place < length, first.bit place = second.bit place

theorem Agree.symm {length : Nat} {first second : Address} (agree : Agree length first second) :
    Agree length second first :=
  ⟨agree.1.symm, fun place inside => (agree.2 place inside).symm⟩

theorem Agree.trans {length : Nat} {first second third : Address}
    (agree : Agree length first second) (others : Agree length second third) :
    Agree length first third :=
  ⟨agree.1.trans others.1, fun place inside =>
    (agree.2 place inside).trans (others.2 place inside)⟩

theorem Agree.shorter {length other : Nat} {first second : Address}
    (agree : Agree length first second) (shorter : other ≤ length) : Agree other first second :=
  ⟨agree.1, fun place inside => agree.2 place (Nat.lt_of_lt_of_le inside shorter)⟩

theorem eq_of_bits {first second : Address} (family : first.width = second.width)
    (same : ∀ place, first.bit place = second.bit place) : first = second := by
  cases first with
  | v4 bits =>
      cases second with
      | v4 others => exact congrArg v4 (BitVec.eq_of_getMsbD_eq fun place _ => same place)
      | v6 others => exact absurd family (by decide : ¬ 32 = 128)
  | v6 bits =>
      cases second with
      | v4 others => exact absurd family (by decide : ¬ 128 = 32)
      | v6 others => exact congrArg v6 (BitVec.eq_of_getMsbD_eq fun place _ => same place)

/-! ## Networks -/

/-- An address of the same family with the same first bits and zeros behind them. -/
structure IsNetwork (address : Address) (length : Nat) (network : Address) : Prop where
  agree : Agree length network address
  cleared : ∀ place, length ≤ place → network.bit place = false

namespace IsNetwork

variable {address other network otherNetwork : Address} {length otherLength : Nat}

/-- Two addresses have one network exactly if they agree in its bits. -/
theorem eq_iff (isNetwork : IsNetwork address length network)
    (isOther : IsNetwork other length otherNetwork) :
    network = otherNetwork ↔ Agree length address other := by
  constructor
  · rintro rfl
    exact isNetwork.agree.symm.trans isOther.agree
  · intro agree
    have agrees := (isNetwork.agree.trans agree).trans isOther.agree.symm
    apply eq_of_bits agrees.1
    intro place
    by_cases inside : place < length
    · exact agrees.2 place inside
    · rw [isNetwork.cleared place (by omega), isOther.cleared place (by omega)]

theorem unique (isNetwork : IsNetwork address length network)
    (isOther : IsNetwork address length otherNetwork) : network = otherNetwork :=
  (isNetwork.eq_iff isOther).mpr ⟨rfl, fun _ _ => rfl⟩

theorem trans (isNetwork : IsNetwork address length network)
    (isOther : IsNetwork network otherLength otherNetwork) :
    IsNetwork address (min length otherLength) otherNetwork where
  agree := (isOther.agree.shorter (Nat.min_le_right ..)).trans
    (isNetwork.agree.shorter (Nat.min_le_left ..))
  cleared place behind := by
    by_cases inside : place < otherLength
    · rw [isOther.agree.2 place inside]
      exact isNetwork.cleared place (by omega)
    · exact isOther.cleared place (by omega)

end IsNetwork

/-! ## Masks -/

def leadingOnes (width length : Nat) : BitVec width :=
  BitVec.allOnes width <<< (width - length)

theorem getMsbD_and_leadingOnes {width length : Nat} (fits : length ≤ width)
    (bits : BitVec width) (place : Nat) :
    (bits &&& leadingOnes width length).getMsbD place =
      (bits.getMsbD place && decide (place < length)) := by
  have inside : place + (width - length) < width ↔ place < length := by omega
  rw [BitVec.getMsbD_and, leadingOnes, BitVec.getMsbD_shiftLeft, BitVec.getMsbD_allOnes,
    decide_eq_decide.mpr inside]

section Masked

variable {width length place : Nat} (fits : length ≤ width) (bits : BitVec width)
include fits

theorem getMsbD_masked_of_lt (inside : place < length) :
    (bits &&& leadingOnes width length).getMsbD place = bits.getMsbD place := by
  rw [getMsbD_and_leadingOnes fits, decide_eq_true inside, Bool.and_true]

theorem getMsbD_masked_of_le (behind : length ≤ place) :
    (bits &&& leadingOnes width length).getMsbD place = false := by
  rw [getMsbD_and_leadingOnes fits, decide_eq_false (Nat.not_lt.mpr behind), Bool.and_false]

end Masked

theorem getLsbD_ones {count : Nat} (short : count < 64) (place : Nat) :
    ((1 : BitVec 64) <<< count - 1).getLsbD place = decide (place < count) := by
  rw [← BitVec.testBit_toNat, BitVec.toNat_sub_of_le (Bits.one_le_shiftLeft short),
    Bits.toNat_one_shiftLeft short, Nat.one_shiftLeft]
  exact Nat.testBit_two_pow_sub_one count place

theorem wide_eq {length : Nat} (fits : length ≤ 32) :
    0xFFFFFFFF ^^^ ((1 : BitVec 64) <<< (32 - length) - 1) =
      (leadingOnes 32 length).setWidth 64 := by
  apply BitVec.eq_of_getLsbD_eq
  intro place inside
  have lower : (0xFFFFFFFF : BitVec 64) = (BitVec.allOnes 32).setWidth 64 := rfl
  rw [lower, BitVec.getLsbD_xor, getLsbD_ones (by omega), BitVec.getLsbD_setWidth,
    BitVec.getLsbD_setWidth, leadingOnes, BitVec.getLsbD_shiftLeft, BitVec.getLsbD_allOnes,
    BitVec.getLsbD_allOnes]
  by_cases low : place < 32 - length
  · simp [low, inside, show place < 32 by omega]
  · by_cases half : place < 32
    · simp [low, half, inside, show place - (32 - length) < 32 by omega]
    · simp [low, half, inside]

/-- The mask for the family of an address, if no operation overflows that works it out. -/
def checkedMask? : Address → Nat → Option Address
  | .v4 _, length => ((wideMask? length).bind (Bits.resize? 32)).map .v4
  | .v6 _, length => (shiftedMask? length).map .v6

theorem exists_wideMask {length : Nat} (fits : length ≤ 32) :
    ∃ wide, wideMask? length = some wide ∧
      Bits.resize? 32 wide = some (leadingOnes 32 length) := by
  let mask : BitVec 32 := leadingOnes 32 length
  refine ⟨mask.setWidth 64, by rw [wideMask?_eq fits, wide_eq fits], ?_⟩
  have back : (mask.setWidth 64).setWidth 32 = mask := by
    rw [BitVec.setWidth_setWidth_of_le mask (by decide), BitVec.setWidth_eq]
  rw [Bits.resize?, back, BitVec.toNat_setWidth_of_le (by decide)]
  exact if_pos rfl

theorem isSome_checkedMask? {address : Address} {length : Nat} (fits : length ≤ address.width) :
    (address.checkedMask? length).isSome := by
  cases address with
  | v4 bits =>
      rcases exists_wideMask fits with ⟨wide, found, narrowed⟩
      rw [checkedMask?, found, Option.bind_some, narrowed]
      rfl
  | v6 bits =>
      rw [checkedMask?, shiftedMask?_eq fits]
      rfl

theorem maskV4_eq {length : Nat} (fits : length ≤ 32) :
    maskV4 length = .ok (leadingOnes 32 length) := by
  rcases exists_wideMask fits with ⟨wide, found, narrowed⟩
  simp only [maskV4, dif_pos fits, found, Option.get_some, narrowed, Option.getD_some]

theorem maskV6_eq {length : Nat} (fits : length ≤ 128) :
    maskV6 length = .ok (leadingOnes 128 length) := by
  simp only [maskV6, dif_pos fits, shiftedMask?_eq fits, Option.get_some, leadingOnes]

/-! ## Networks of addresses -/

theorem network_of_lt {address : Address} {length : Nat} (long : address.width < length) :
    address.network length = .error (.lengthTooLarge length address.width) := by
  cases address with
  | v4 bits =>
      have noMask : maskV4 length = .error (.lengthTooLarge length 32) :=
        dif_neg (Nat.not_le.mpr long)
      rw [network, noMask]
      rfl
  | v6 bits =>
      have noMask : maskV6 length = .error (.lengthTooLarge length 128) :=
        dif_neg (Nat.not_le.mpr long)
      rw [network, noMask]
      rfl

theorem exists_network {address : Address} {length : Nat} (fits : length ≤ address.width) :
    ∃ network, address.network length = .ok network ∧ IsNetwork address length network := by
  cases address with
  | v4 bits =>
      refine ⟨.v4 (bits &&& leadingOnes 32 length), ?_, ⟨rfl, ?_⟩, ?_⟩
      · rw [network, maskV4_eq fits]
        rfl
      · exact fun place inside => getMsbD_masked_of_lt fits bits inside
      · exact fun place behind => getMsbD_masked_of_le fits bits behind
  | v6 bits =>
      refine ⟨.v6 (bits &&& leadingOnes 128 length), ?_, ⟨rfl, ?_⟩, ?_⟩
      · rw [network, maskV6_eq fits]
        rfl
      · exact fun place inside => getMsbD_masked_of_lt fits bits inside
      · exact fun place behind => getMsbD_masked_of_le fits bits behind

theorem network_eq_ok_iff {address network : Address} {length : Nat} :
    address.network length = .ok network ↔
      length ≤ address.width ∧ IsNetwork address length network := by
  constructor
  · intro found
    by_cases fits : length ≤ address.width
    · rcases exists_network fits with ⟨other, same, isNetwork⟩
      rw [same] at found
      cases found
      exact ⟨fits, isNetwork⟩
    · rw [network_of_lt (Nat.not_le.mp fits)] at found
      cases found
  · rintro ⟨fits, isNetwork⟩
    rcases exists_network fits with ⟨other, same, isOther⟩
    rw [same, isOther.unique isNetwork]

/-- A length over the width of an address is refused. With any other one nothing overflows
and the address is cut off behind its first bits, so that of two cuts the shorter one counts,
and addresses are cut to one network exactly if they agree in its bits. -/
theorem network_truncates (address : Address) (length : Nat) :
    (address.network length = .error (.lengthTooLarge length address.width) ↔
      address.width < length) ∧
    (length ≤ address.width →
      (address.checkedMask? length).isSome ∧
      ∃ network, address.network length = .ok network ∧ IsNetwork address length network ∧
        (∀ other ≤ address.width, network.network other = address.network (min length other)) ∧
        ∀ other : Address,
          address.network length = other.network length ↔ Agree length address other) := by
  refine ⟨⟨?_, network_of_lt⟩, ?_⟩
  · intro refused
    refine Nat.lt_of_not_le fun fits => ?_
    rcases exists_network fits with ⟨network, found, -⟩
    rw [found] at refused
    cases refused
  · intro fits
    rcases exists_network fits with ⟨network, found, isNetwork⟩
    refine ⟨isSome_checkedMask? fits, network, found, isNetwork, ?_, ?_⟩
    · intro other fitsOther
      have family := isNetwork.agree.1
      rcases exists_network (family ▸ fitsOther) with ⟨inner, foundInner, isInner⟩
      rw [foundInner, eq_comm, network_eq_ok_iff]
      exact ⟨Nat.le_trans (Nat.min_le_left ..) fits, isNetwork.trans isInner⟩
    · intro other
      rw [found, eq_comm, network_eq_ok_iff]
      constructor
      · rintro ⟨-, isOther⟩
        exact (isNetwork.eq_iff isOther).mp rfl
      · intro agree
        exact ⟨agree.1 ▸ fits, isNetwork.agree.trans agree, isNetwork.cleared⟩

theorem network_truncates_half :
    let address : Address := .v6 0xFE80000000000000001700FFFE001234
    64 ≤ address.width ∧ (address.checkedMask? 64).isSome ∧
      ∃ network, address.network 64 = .ok network ∧ IsNetwork address 64 network ∧
        network.network 10 = address.network 10 := by
  intro address
  have fits : 64 ≤ address.width := by decide
  rcases (network_truncates address 64).2 fits with ⟨checked, network, found, isNetwork, shorter, -⟩
  exact ⟨fits, checked, network, found, isNetwork, shorter 10 (by decide)⟩

end Address
end NetAdmin
