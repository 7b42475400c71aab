import NetAdmin.Text.Basic
/-!
Decimal numerals. A numeral is a non-empty run of the ASCII digits; readers of
listings and files allow one plus sign in front of it and bound its value. The
main statement is that a written number is read back (`natural?_write`).
-/

namespace NetAdmin
namespace Decimal

def digit? (c : Char) : Option Nat :=
  if c.isDigit then some (c.toNat - '0'.toNat) else none

def readFrom (value : Nat) : Text → Option Nat
  | [] => some value
  | c :: rest => (digit? c).bind fun digit => readFrom (10 * value + digit) rest

def natural? : Text → Option Nat
  | [] => none
  | digits => readFrom 0 digits

def withoutPlus : Text → Text
  | '+' :: rest => rest
  | text => text

def below? (bound : Nat) (text : Text) : Option Nat :=
  (natural? (withoutPlus text)).bind fun value => if value < bound then some value else none

/-- The number of values of an unsigned word of 32 bits: table numbers, link
indices and rule priorities are below it. -/
def wordBound : Nat := 0x100000000

def word? (text : Text) : Option Nat :=
  below? wordBound text

/-- The value of a numeral with an optional sign that fits under a bound. A
minus sign is read, so minus zero is zero and every other such value is out of
range. -/
def signedBelow? (bound : Nat) : Text → Option Nat
  | '-' :: rest => (natural? rest).bind fun value => if value = 0 then some 0 else none
  | text => below? bound text

def write (value : Nat) : Text :=
  Nat.toDigits 10 value

example : word? "+4294967295".toList = some 4294967295 := by decide
example : word? "4294967296".toList = none ∧ word? "-1".toList = none := by decide
example : word? "+".toList = none := by decide
example : write 3260 = "3260".toList := by decide

/-! ## Writing and reading back -/

theorem digit?_digitChar {digit : Nat} (small : digit < 10) :
    digit? (Nat.digitChar digit) = some digit := by
  have all : ∀ d, d < 10 → digit? (Nat.digitChar d) = some d := by decide
  exact all digit small

theorem isDigit_digitChar {digit : Nat} (small : digit < 10) :
    (Nat.digitChar digit).isDigit = true := by
  have all : ∀ d, d < 10 → (Nat.digitChar d).isDigit = true := by decide
  exact all digit small

theorem write_of_lt {value : Nat} (small : value < 10) : write value = [Nat.digitChar value] :=
  Nat.toDigits_of_lt_base small

theorem write_of_le {value : Nat} (large : 10 ≤ value) :
    write value = write (value / 10) ++ [Nat.digitChar (value % 10)] := by
  have split := Nat.toDigits_append_toDigits (b := 10) (n := value / 10) (d := value % 10)
    (by decide) (by omega) (by omega)
  have last : Nat.toDigits 10 (value % 10) = [Nat.digitChar (value % 10)] :=
    Nat.toDigits_of_lt_base (by omega)
  rw [show 10 * (value / 10) + value % 10 = value by omega, last] at split
  exact split.symm

theorem readFrom_append (value : Nat) (left right : Text) :
    readFrom value (left ++ right) =
      (readFrom value left).bind fun value => readFrom value right := by
  induction left generalizing value with
  | nil => rfl
  | cons c left induction =>
      simp only [List.cons_append, readFrom]
      cases digit? c <;> simp [induction]

theorem readFrom_write (value : Nat) : readFrom 0 (write value) = some value := by
  induction value using Nat.strongRecOn with
  | _ value induction =>
      rcases Nat.lt_or_ge value 10 with small | large
      · rw [write_of_lt small]
        simp [readFrom, digit?_digitChar small]
      · rw [write_of_le large, readFrom_append, induction (value / 10) (by omega)]
        simp [readFrom, digit?_digitChar (show value % 10 < 10 by omega)]
        omega

theorem write_ne_nil (value : Nat) : write value ≠ [] := by
  intro empty
  have read := readFrom_write value
  rcases Nat.lt_or_ge value 10 with small | large
  · simp [write_of_lt small] at empty
  · simp [write_of_le large] at empty

theorem natural?_write (value : Nat) : natural? (write value) = some value := by
  cases written : write value with
  | nil => exact absurd written (write_ne_nil value)
  | cons c rest =>
      have read := readFrom_write value
      rw [written] at read
      exact read

theorem isDigit_of_mem_write {value : Nat} {c : Char} (member : c ∈ write value) :
    c.isDigit = true := by
  induction value using Nat.strongRecOn with
  | _ value induction =>
      rcases Nat.lt_or_ge value 10 with small | large
      · rw [write_of_lt small, List.mem_singleton] at member
        exact member ▸ isDigit_digitChar small
      · rw [write_of_le large, List.mem_append, List.mem_singleton] at member
        rcases member with member | equal
        · exact induction (value / 10) (by omega) member
        · exact equal ▸ isDigit_digitChar (by omega)

end Decimal
end NetAdmin
