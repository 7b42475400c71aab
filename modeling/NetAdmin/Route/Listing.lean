import NetAdmin.Text.Blank
import NetAdmin.Text.Decimal
/-!
Lines of route and policy rule listings. A line of a route listing names the
route word by word. A line of a rule listing starts with the priority of the
rule and a colon; the words behind it describe the rule, except for a marker
that may stand anywhere among them.
-/

namespace NetAdmin

def routeWords (line : Text) : List Text :=
  Text.words line

structure ListedRule where
  priority : Nat
  body : List Text
  deriving DecidableEq, Repr

namespace ListedRule

/-- The word that marks a rule whose device is gone. It describes nothing. -/
def detachedMarker : Text :=
  "[detached]".toList

def splitPriority (text : Text) : Option (Text × Text) :=
  match text.dropWhile Char.isDigit with
  | ':' :: rest => some (text.takeWhile Char.isDigit, rest)
  | _ => none

/-- Reads a line such as `32765: from 10.0.0.2 lookup t1`. What follows the
colon and the blanks behind it must be one line. -/
def ofLine? (line : Text) : Option ListedRule := do
  let (digits, rest) ← splitPriority (Text.trim line)
  let priority ← (Decimal.natural? digits).filter (· < Decimal.wordBound)
  let body := Text.trimStart rest
  if body.contains '\n' then none
  else some ⟨priority, (Text.words body).filter (· != detachedMarker)⟩

example : ofLine? "32765:\tfrom 10.0.0.2 [detached] lookup t1\n".toList =
    some ⟨32765, ["from".toList, "10.0.0.2".toList, "lookup".toList, "t1".toList]⟩ := by decide
example : ofLine? "+1: from all".toList = none ∧ ofLine? "4294967296: x".toList = none := by decide

end ListedRule
end NetAdmin
