import NetAdmin.Bits
import NetAdmin.Error
/-!
IP addresses of both families and their networks. An address is a bit vector of
the width of its family; the network of an address keeps its first bits and
clears the others, by a mask whose first bits are ones and whose others are
zeros.
-/

namespace NetAdmin

inductive Address
  | v4 (bits : BitVec 32)
  | v6 (bits : BitVec 128)
  deriving DecidableEq, Repr

namespace Address

def width : Address → Nat
  | .v4 _ => 32
  | .v6 _ => 128

/-! ## Masks -/

def hostLength? (width : BitVec 32) (length : Nat) : Option (BitVec 32) :=
  Bits.sub? width (BitVec.ofNat 32 length)

def wideMask? (length : Nat) : Option (BitVec 64) := do
  let bound ← Bits.shiftLeft? 1 (← hostLength? 32 length)
  let cleared ← Bits.sub? bound 1
  some (0xFFFFFFFF ^^^ cleared)

def shiftedMask? (length : Nat) : Option (BitVec 128) :=
  if length = 0 then some 0
  else do Bits.shiftLeft? (BitVec.allOnes 128) (← hostLength? 128 length)

theorem exists_hostLength (width : BitVec 32) {length : Nat} (fits : length ≤ width.toNat) :
    ∃ count, hostLength? width length = some count ∧ count.toNat = width.toNat - length := by
  have whole : (BitVec.ofNat 32 length).toNat = length := by
    rw [BitVec.toNat_ofNat, Nat.mod_eq_of_lt (by omega)]
  have covered : (BitVec.ofNat 32 length).toNat ≤ width.toNat := by rwa [whole]
  refine ⟨_, Bits.sub?_of_le covered, ?_⟩
  rw [BitVec.toNat_sub_of_le covered, whole]

theorem wideMask?_eq {length : Nat} (fits : length ≤ 32) :
    wideMask? length = some (0xFFFFFFFF ^^^ ((1 : BitVec 64) <<< (32 - length) - 1)) := by
  rcases exists_hostLength 32 fits with ⟨count, found, value⟩
  change count.toNat = 32 - length at value
  have short : count.toNat < 64 := by omega
  have positive : (1 : BitVec 64) ≤ (1 : BitVec 64) <<< (32 - length) :=
    Bits.one_le_shiftLeft (by omega)
  simp only [wideMask?, found, Bits.shiftLeft?_of_lt short, value, Option.bind_eq_bind,
    Option.bind_some, Bits.sub?_of_le positive]

theorem shiftedMask?_eq {length : Nat} (fits : length ≤ 128) :
    shiftedMask? length = some (BitVec.allOnes 128 <<< (128 - length)) := by
  rcases exists_hostLength 128 fits with ⟨count, found, value⟩
  change count.toNat = 128 - length at value
  by_cases zero : length = 0
  · subst zero
    rfl
  · have short : count.toNat < 128 := by omega
    simp only [shiftedMask?, if_neg zero, found, Option.bind_eq_bind, Option.bind_some,
      Bits.shiftLeft?_of_lt short, value]

def maskV4 (length : Nat) : Except Error (BitVec 32) :=
  if fits : length ≤ 32 then
    let wide := (wideMask? length).get (by rw [wideMask?_eq fits]; rfl)
    .ok ((Bits.resize? 32 wide).getD (BitVec.allOnes 32))
  else .error (.lengthTooLarge length 32)

def maskV6 (length : Nat) : Except Error (BitVec 128) :=
  if fits : length ≤ 128 then .ok ((shiftedMask? length).get (by rw [shiftedMask?_eq fits]; rfl))
  else .error (.lengthTooLarge length 128)

def netmask (length : Nat) : Except Error Address :=
  (maskV4 length).map .v4

/-- The address with all but its first `length` bits cleared. There is none for
a length over the width of the address. -/
def network : Address → Nat → Except Error Address
  | .v4 bits, length => (maskV4 length).map fun mask => .v4 (bits &&& mask)
  | .v6 bits, length => (maskV6 length).map fun mask => .v6 (bits &&& mask)

example : netmask 22 = .ok (.v4 0xFFFFFC00) := rfl
example : network (.v4 0x0A000311) 22 = .ok (.v4 0x0A000000) := rfl
example : network (.v6 (-1)) 0 = .ok (.v6 0) := rfl

end Address
end NetAdmin
