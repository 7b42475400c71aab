import NetAdmin.Address.Basic
/-!
IP addresses as text. Version 4 is written as four decimal numbers with points,
version 6 as eight groups of hexadecimal digits with colons, where one run of
zero groups may be left out and the last two groups may stand as a version 4
address.

`read?` accepts the texts that are an address and nothing else; `write` gives
the one preferred form: lower case, no leading zeros, the first of the longest
runs of two or more zero groups left out.
-/

namespace NetAdmin
namespace Address

/-! ## Reading -/

def digitIn? (base : Nat) (c : Char) : Option Nat :=
  let value :=
    if c.isDigit then some (c.toNat - '0'.toNat)
    else if 'a' ≤ c ∧ c ≤ 'f' then some (c.toNat - 'a'.toNat + 10)
    else if 'A' ≤ c ∧ c ≤ 'F' then some (c.toNat - 'A'.toNat + 10)
    else none
  value.filter (· < base)

def readDigits (base : Nat) : Text → Nat → Nat → Nat × Nat × Text
  | [], value, count => (value, count, [])
  | c :: rest, value, count =>
      match digitIn? base c with
      | some digit => readDigits base rest (base * value + digit) (count + 1)
      | none => (value, count, c :: rest)

def readOctet (text : Text) : Option (Nat × Text) :=
  match readDigits 10 text 0 0 with
  | (value, count, rest) =>
      if count = 0 ∨ 3 < count ∨ (text.head? = some '0' ∧ 1 < count) ∨ 255 < value then none
      else some (value, rest)

def readGroup (text : Text) : Option (Nat × Text) :=
  match readDigits 16 text 0 0 with
  | (value, count, rest) => if count = 0 ∨ 4 < count then none else some (value, rest)

def readMark (mark : Char) : Text → Option Text
  | [] => none
  | c :: rest => if c = mark then some rest else none

def readQuad (text : Text) : Option (Nat × Text) := do
  let (first, rest) ← readOctet text
  let (second, rest) ← readOctet (← readMark '.' rest)
  let (third, rest) ← readOctet (← readMark '.' rest)
  let (fourth, rest) ← readOctet (← readMark '.' rest)
  some (((first * 256 + second) * 256 + third) * 256 + fourth, rest)

/-- Groups read from a text, whether a dotted quad ended them, and what follows. -/
structure Groups where
  values : List Nat
  dotted : Bool
  rest : Text

/-- Reads groups with colons between them until `slots` are filled or no
further one stands there. A dotted quad fills two slots and ends the groups. -/
def readGroups : (slots : Nat) → (leading : Bool) → Text → Groups
  | 0, _, text => ⟨[], false, text⟩
  | slots + 1, leading, text =>
      match if leading then some text else readMark ':' text with
      | none => ⟨[], false, text⟩
      | some start =>
          match if slots = 0 then none else readQuad start with
          | some (quad, rest) => ⟨[quad / 65536, quad % 65536], true, rest⟩
          | none =>
              match readGroup start with
              | none => ⟨[], false, text⟩
              | some (value, rest) =>
                  let others := readGroups slots false rest
                  ⟨value :: others.values, others.dotted, others.rest⟩

def ofGroups (groups : List Nat) : BitVec 128 :=
  BitVec.ofNat 128 (groups.foldl (fun value group => value * 65536 + group) 0)

/-- Reads a version 6 address: eight groups, or fewer around a double colon
that stands for at least one zero group. -/
def readV6 (text : Text) : Option (BitVec 128 × Text) :=
  let front := readGroups 8 true text
  if front.values.length = 8 then some (ofGroups front.values, front.rest)
  else if front.dotted then none
  else do
    let rest ← readMark ':' (← readMark ':' front.rest)
    let back := readGroups (7 - front.values.length) true rest
    let zeros := List.replicate (8 - front.values.length - back.values.length) 0
    some (ofGroups (front.values ++ zeros ++ back.values), back.rest)

def read? (text : Text) : Option Address :=
  match readQuad text with
  | some (bits, rest) => if rest.isEmpty then some (.v4 (BitVec.ofNat 32 bits)) else none
  | none =>
      match readV6 text with
      | some (bits, rest) => if rest.isEmpty then some (.v6 bits) else none
      | none => none

/-! ## Writing -/

def writeV4 (bits : BitVec 32) : Text :=
  Text.glue '.' ([24, 16, 8, 0].map fun shift => Decimal.write (bits.toNat >>> shift % 256))

def groupsOf (bits : BitVec 128) : List Nat :=
  [112, 96, 80, 64, 48, 32, 16, 0].map fun shift => bits.toNat >>> shift % 65536

def writeGroups (groups : List Nat) : Text :=
  Text.glue ':' (groups.map (Nat.toDigits 16))

def zeroRun (groups : List Nat) : Nat :=
  (groups.takeWhile (· == 0)).length

/-- Where the first of the longest runs of zero groups starts, and its length. -/
def longestZeroRun (groups : List Nat) : Nat × Nat :=
  (List.range groups.length).foldl
    (fun best start =>
      let run := zeroRun (groups.drop start)
      if best.2 < run then (start, run) else best)
    (0, 0)

def writeV6 (bits : BitVec 128) : Text :=
  let groups := groupsOf bits
  if groups.take 6 = [0, 0, 0, 0, 0, 0xFFFF] then
    "::ffff:".toList ++ writeV4 (bits.setWidth 32)
  else
    match longestZeroRun groups with
    | (start, run) =>
        if 1 < run then
          writeGroups (groups.take start) ++ "::".toList ++ writeGroups (groups.drop (start + run))
        else writeGroups groups

def write : Address → Text
  | .v4 bits => writeV4 bits
  | .v6 bits => writeV6 bits

example : read? "10.0.3.17".toList = some (.v4 0x0A000311) := by decide
example : read? "010.0.3.17".toList = none ∧ read? "1.2.3.4 ".toList = none := by decide
example : (read? "2001:DB8::10.0.0.1".toList).map write = some "2001:db8::a00:1".toList := by
  decide
example : (read? "::ffff:7f00:1".toList).map write = some "::ffff:127.0.0.1".toList := by decide

end Address
end NetAdmin
