import NetAdmin.Address.Basic
import NetAdmin.Route.Change
/-!
What the program can be asked to do.
-/

namespace NetAdmin

inductive ReportFormat
  | table
  | json
  deriving DecidableEq, Repr

inductive Request
  | topology (format : ReportFormat)
  | interfaces (format : ReportFormat)
  | addTable (name : Text)
  | deleteTable (name : Text)
  | listTables (format : ReportFormat)
  | netmask (length : Nat)
  | probe (address : Address) (service : Nat)
  /-- Makes a change; an applied change is recorded in the script, if one is named. -/
  | change (kind : ChangeKind) (script : Option Path) (arguments : List Text)
  | flushRoutes (device : Text)
  | flushTableRules (table : Text)
  | flushAddressRules (address : Text)
  | exclude (mac : Text)
  | reinstate (mac : Text)
  | removeAddress (device address : Text) (network : Option Text)
  deriving DecidableEq, Repr

structure Invocation where
  settings : Settings
  request : Request
  deriving DecidableEq, Repr

end NetAdmin
