/-!
Arithmetic of bit vectors as numbers of a fixed width. An operation whose result
would not be right in its width overflows, and then there is no result.
-/

namespace NetAdmin
namespace Bits

variable {width : Nat}

def sub? (first second : BitVec width) : Option (BitVec width) :=
  if second.toNat ≤ first.toNat then some (first - second) else none

/-- The bits moved towards the first one; those that leave the vector are lost.
A vector cannot be moved by its whole width or more. -/
def shiftLeft? (bits : BitVec width) (count : BitVec 32) : Option (BitVec width) :=
  if count.toNat < width then some (bits <<< count.toNat) else none

def resize? (target : Nat) (bits : BitVec width) : Option (BitVec target) :=
  if (bits.setWidth target).toNat = bits.toNat then some (bits.setWidth target) else none

example : shiftLeft? (1 : BitVec 32) 31 = some 0x80000000 := by decide
example : shiftLeft? (1 : BitVec 32) 32 = none := by decide

theorem sub?_of_le {first second : BitVec width} (covered : second.toNat ≤ first.toNat) :
    sub? first second = some (first - second) :=
  if_pos covered

theorem shiftLeft?_of_lt {count : BitVec 32} (short : count.toNat < width) (bits : BitVec width) :
    shiftLeft? bits count = some (bits <<< count.toNat) :=
  if_pos short

theorem toNat_one_shiftLeft {count : Nat} (short : count < width) :
    ((1 : BitVec width) <<< count).toNat = 1 <<< count := by
  change (BitVec.ofNat width 1 <<< count).toNat = 1 <<< count
  rw [← BitVec.twoPow_eq, BitVec.toNat_twoPow_of_lt short, Nat.one_shiftLeft]

theorem one_le_shiftLeft {count : Nat} (short : count < width) :
    (1 : BitVec width) ≤ (1 : BitVec width) <<< count := by
  rw [BitVec.le_def, toNat_one_shiftLeft short, Nat.one_shiftLeft]
  exact Nat.le_trans (Nat.mod_le 1 _) Nat.one_le_two_pow

end Bits
end NetAdmin
