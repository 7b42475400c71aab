import NetAdmin.Text.Decimal
import NetAdmin.Text.Quoted
/-!
What can go wrong, as causes. `Error.message` is the one place that words them
for a reader; `Error.code` names the cause for programs and `Error.advice` says
what the reader may do about it.
-/

namespace NetAdmin

inductive FaultKind
  | notFound
  | permissionDenied
  | other
  deriving DecidableEq, Repr

structure Fault where
  kind : FaultKind
  text : Text
  deriving DecidableEq, Repr

inductive Error
  /-- A command ran and was not successful. -/
  | commandFailed (command message : Text)
  /-- A command could not be run at all. -/
  | notStarted (program : Text) (cause : Fault)
  /-- A text does not have the layout it should have. -/
  | unreadable (what message : Text)
  | io (cause : Fault)
  /-- A text is not the JSON document that was expected. -/
  | malformedJson
  /-- A network length exceeds the width of its address family. -/
  | lengthTooLarge (length limit : Nat)
  | blankMac (mac : Text)
  /-- Every table number that may be handed out is in use. -/
  | noFreeNumber (path : Text)
  | backupFailed (path : Text) (cause : Fault)
  /-- Writing failed and the previous content is back in place. -/
  | commitFailed (path : Text) (cause : Fault)
  /-- Writing failed and so did putting the previous content back. -/
  | restoreFailed (path backup : Text) (cause : Fault)
  | denied (operation : Text)
  | misconfigured (message : Text)
  deriving DecidableEq, Repr

namespace Error

/-- The failure for a fault during an operation: a refused permission is
reported by the operation, every other fault as it is. -/
def ofFault (cause : Fault) (operation : Text) : Error :=
  if cause.kind = .permissionDenied then .denied operation else .io cause

def message : Error → Text
  | .commandFailed command message =>
      "Command `".toList ++ command ++ "` failed: ".toList ++ message
  | .notStarted program cause =>
      "Failed to execute `".toList ++ program ++ "`: ".toList ++ cause.text
  | .unreadable what message => "Cannot parse ".toList ++ what ++ ": ".toList ++ message
  | .io cause => "I/O error: ".toList ++ cause.text
  | .malformedJson => "Serialization error: <json>".toList
  | .lengthTooLarge length limit =>
      "Invalid prefix length ".toList ++ Decimal.write length ++
        " (maximum ".toList ++ Decimal.write limit ++ ")".toList
  | .blankMac mac => "Invalid MAC address: ".toList ++ Text.quoted mac
  | .noFreeNumber path => "No free route table number left in ".toList ++ path
  | .backupFailed path cause => "Cannot back up ".toList ++ path ++ ": ".toList ++ cause.text
  | .commitFailed path cause =>
      "Cannot write ".toList ++ path ++ " (previous content restored): ".toList ++ cause.text
  | .restoreFailed path backup cause =>
      "Cannot write ".toList ++ path ++ " and restoring it from ".toList ++ backup ++
        " failed: ".toList ++ cause.text
  | .denied operation => "Permission denied: ".toList ++ operation
  | .misconfigured message => "Configuration error: ".toList ++ message

def code : Error → Text
  | .commandFailed .. => "hostnet::command".toList
  | .notStarted .. => "hostnet::spawn".toList
  | .unreadable .. => "hostnet::parse".toList
  | .io .. => "hostnet::io".toList
  | .malformedJson => "hostnet::serialization".toList
  | .lengthTooLarge .. => "hostnet::invalid_prefix".toList
  | .blankMac .. => "hostnet::invalid_mac".toList
  | .noFreeNumber .. => "hostnet::rt_tables::exhausted".toList
  | .backupFailed .. => "hostnet::backup".toList
  | .commitFailed .. => "hostnet::commit".toList
  | .restoreFailed .. => "hostnet::restore_failed".toList
  | .denied .. => "hostnet::permission_denied".toList
  | .misconfigured .. => "hostnet::config".toList

def advice : Error → Option Text
  | .notStarted .. => some
      ("Check that iproute2 and iptables are installed, or point ".toList ++
        "HOSTNET_IP / HOSTNET_IPTABLES at them".toList)
  | .noFreeNumber .. => some "Delete unused entries from the route table registry".toList
  | .restoreFailed .. => some "Copy the backup file over the live file by hand".toList
  | .denied .. => some "Try running with elevated privileges (sudo)".toList
  | _ => none

def causes : Error → List Text
  | .notStarted _ cause | .io cause | .backupFailed _ cause | .commitFailed _ cause
  | .restoreFailed _ _ cause => [cause.text]
  | _ => []

end Error
end NetAdmin
