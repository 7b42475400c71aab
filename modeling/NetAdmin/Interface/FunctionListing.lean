import NetAdmin.Text.Blank
import NetAdmin.Text.Decimal
/-!
The virtual functions in the listing of a link. Each has a line that starts
with `vf` and its number; the hardware address is the word behind a marker. The
marker is `MAC` or `link/ether`, depending on who prints, and commas may follow
the number and the address.
-/

namespace NetAdmin

structure ListedFunction where
  index : Nat
  mac : Text
  deriving DecidableEq, Repr

namespace ListedFunction

def isMacMarker (word : Text) : Bool :=
  word == "MAC".toList || word == "link/ether".toList

def markedMac? : List Text → Option Text
  | marker :: mac :: words =>
      if isMacMarker marker then some mac else markedMac? (mac :: words)
  | _ => none

/-- Reads a line such as `vf 0     link/ether 02:00:00:00:00:01 brd …`. -/
def ofLine? (line : Text) : Option ListedFunction := do
  let line := Text.trim line
  if !"vf ".toList.isPrefixOf line then none
  else
    let words := Text.words line
    let index ← Decimal.word? (Text.trimEndOf ',' (← words.tail.head?))
    let mac ← markedMac? words
    some ⟨index, Text.trimEndOf ',' mac⟩

def ofListing (listing : Text) : List ListedFunction :=
  (Text.lines listing).filterMap ofLine?

example : ofLine? "    vf 1 MAC 02:00:17:00:00:01, vlan 0".toList =
    some ⟨1, "02:00:17:00:00:01".toList⟩ := by decide
example : ofLine? "vf\t1 MAC 02:00:17:00:00:01".toList = none := by decide

end ListedFunction
end NetAdmin
