import NetAdmin.Command.Basic
import NetAdmin.Route.Listing
/-!
Removing everything that a listing shows. A flush lists first and then runs one
deletion for each selected line, whatever the earlier deletions did. It counts
the deletions that were successful and silent. A listing that fails lists
nothing; only a command that cannot be run ends a flush early.
-/

namespace NetAdmin
namespace Host

variable {σ : Type} (host : Host σ)

/-- The lines of a listing that are not blank, and none if the listing fails. -/
def listedLines (line : CommandLine) : CommandM σ (List Text) := do
  let output ← host.run line
  if output.success then
    return (Text.lines output.stdout).filter fun line => !Text.isAllBlank line
  else return []

def deleteEach : List CommandLine → CommandM σ Nat
  | [] => return 0
  | line :: others => do
      let output ← host.run line
      let count ← deleteEach others
      return if output.silentSuccess then count + 1 else count

/-! ## Command lines -/

def routeListing (device : Text) : CommandLine :=
  host.ip [] ["route".toList, "show".toList, "dev".toList, device]

def routeDeletion (line : Text) : CommandLine :=
  host.ip [] ("route".toList :: "del".toList :: routeWords line)

def tableRuleListing (table : Text) : CommandLine :=
  host.ip [] ["rule".toList, "show".toList, "lookup".toList, table]

def ruleDeletion (rule : ListedRule) : CommandLine :=
  host.ip [] ("rule".toList :: "del".toList :: rule.body)

def ruleListing : CommandLine :=
  host.ip [] ["rule".toList, "list".toList]

def priorityDeletion (rule : ListedRule) : CommandLine :=
  host.ip [] ["rule".toList, "del".toList, "pref".toList, Decimal.write rule.priority]

/-! ## Flushes -/

def flushRoutes (device : Text) : CommandM σ Nat := do
  let lines ← host.listedLines (host.routeListing device)
  host.deleteEach (lines.map host.routeDeletion)

def flushTableRules (table : Text) : CommandM σ Nat := do
  let lines ← host.listedLines (host.tableRuleListing table)
  host.deleteEach ((lines.filterMap ListedRule.ofLine?).map host.ruleDeletion)

def flushAddressRules (address : Text) : CommandM σ Nat := do
  let lines ← host.listedLines host.ruleListing
  let mentioning := lines.filter fun line => (Text.words line).contains address
  host.deleteEach ((mentioning.filterMap ListedRule.ofLine?).map host.priorityDeletion)

def removeAddress (device address : Text) (network : Option Text) : CommandM σ Unit := do
  let _ ← host.checkedRun (host.ip (network.getD [])
    ["address".toList, "delete".toList, address, "dev".toList, device])

end Host
end NetAdmin
