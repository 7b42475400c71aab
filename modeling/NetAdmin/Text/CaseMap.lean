import NetAdmin.Text.Basic
/-!
Case mappings of characters. Most characters map to one character at a fixed
distance, and neighbours often share the distance, so a mapping is a list of
runs; the characters that map to several ones are listed apart.
-/

namespace NetAdmin
namespace Text

/-- Characters from the first to the last code point, every `step`-th of them,
each mapped to the character `shift` code points away. -/
structure CaseRun where
  first : Nat
  last : Nat
  step : Nat
  shift : Int

def CaseRun.holds (run : CaseRun) (code : Nat) : Bool :=
  run.first ≤ code && code ≤ run.last && (code - run.first) % run.step == 0

/-- A case mapping: runs of simple mappings and the characters that become
several ones. -/
structure CaseMap where
  runs : List CaseRun
  several : List (Nat × List Nat)

/-- What one character becomes. A character that no entry names stays. -/
def CaseMap.char (mapping : CaseMap) (c : Char) : Text :=
  match mapping.several.lookup c.toNat with
  | some codes => codes.map Char.ofNat
  | none =>
      match mapping.runs.find? (·.holds c.toNat) with
      | some run => [Char.ofNat (c.toNat + run.shift).toNat]
      | none => [c]

def CaseMap.run (entry : Nat × Nat × Nat × Int) : CaseRun :=
  ⟨entry.1, entry.2.1, entry.2.2.1, entry.2.2.2⟩

end Text
end NetAdmin
