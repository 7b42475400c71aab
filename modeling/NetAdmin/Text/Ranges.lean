/-!
Sets of characters given by closed ranges of code points. The tables of
Unicode properties in this library (version 17.0) have this form.
-/

namespace NetAdmin
namespace Text

def inRanges (ranges : List (Nat × Nat)) (code : Nat) : Bool :=
  ranges.any fun range => range.1 ≤ code && code ≤ range.2

theorem inRanges_of_le {ranges : List (Nat × Nat)} {bound code : Nat} (low : code ≤ bound)
    (above : ranges.all (fun range => bound < range.1) = true) : inRanges ranges code = false := by
  simp only [List.all_eq_true, decide_eq_true_eq] at above
  simp only [inRanges, List.any_eq_false, Bool.and_eq_true, decide_eq_true_eq, not_and]
  intro range member first
  have := above range member
  omega

def ascending : List (Nat × Nat) → Bool
  | [] => true
  | [range] => range.1 ≤ range.2
  | range :: next :: others => range.1 ≤ range.2 && range.2 < next.1 && ascending (next :: others)

def rangesSize (ranges : List (Nat × Nat)) : Nat :=
  ranges.foldr (fun range total => range.2 + 1 - range.1 + total) 0

end Text
end NetAdmin
