import NetAdmin.Text.Blank
import NetAdmin.Text.Decimal
/-!
Listings of network namespaces and links. A listing has one item per line;
lines of another layout are skipped.
-/

namespace NetAdmin

/-- The names of network namespaces in a listing: the first word of each line. -/
def namespaceNames (listing : Text) : List Text :=
  (Text.lines listing).filterMap fun line => (Text.words line).head?

structure ListedLink where
  index : Nat
  device : Text
  deriving DecidableEq, Repr

namespace ListedLink

/-- Reads a line such as `2: veth0@if5: <UP> mtu 1500`. The name ends before
the peer that an at sign introduces. -/
def ofLine? (line : Text) : Option ListedLink :=
  match Text.words line with
  | number :: name :: _ => do
      let index ← Decimal.word? (← Text.withoutLast? ':' number)
      let device := Text.before '@' (← Text.withoutLast? ':' name)
      if device.isEmpty then none else some ⟨index, device⟩
  | _ => none

def ofListing (listing : Text) : List ListedLink :=
  (Text.lines listing).filterMap ofLine?

example : ofLine? "2: veth0@if5: <UP> mtu 1500".toList = some ⟨2, "veth0".toList⟩ := by decide
example : ofLine? "2 veth0: <UP>".toList = none := by decide

end ListedLink
end NetAdmin
