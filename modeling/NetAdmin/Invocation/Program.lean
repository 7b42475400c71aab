import NetAdmin.Command.Installed
import NetAdmin.Exclusion
import NetAdmin.Invocation.Reading
import NetAdmin.Registry.Edit
import NetAdmin.Report.Document
import NetAdmin.Report.Table
import NetAdmin.Route.Flush
/-!
The program as a whole: it reads a command line, does what is asked on a
machine, and leaves a text and an exit status. A request that fails leaves no
text, but what was done before stays done.
-/

namespace NetAdmin

inductive Failure
  | ofError (error : Error)
  | scriptNotOpened (path : Path) (cause : Fault)
  /-- A change was refused, with what the command said. -/
  | changeRefused (message : Text)
  deriving DecidableEq, Repr

namespace Failure

def message : Failure → Text
  | .ofError error => error.message
  | .scriptNotOpened path _ => "Failed to open script ".toList ++ path
  | .changeRefused message => "Command failed: ".toList ++ Text.trim message

def causes : Failure → List Text
  | .ofError error => error.causes
  | .scriptNotOpened _ cause => [cause.text]
  | .changeRefused _ => []

end Failure

abbrev ProgramM (α : Type) := ExceptT Failure (StateM (Session Machine)) α

namespace ProgramM

variable {α : Type}

def command (commands : CommandM Machine α) : ProgramM α := fun session =>
  match commands session with
  | (.ok value, session) => (.ok value, session)
  | (.error error, session) => (.error (.ofError error), session)

def files (change : StoreM Tree α) : ProgramM α := fun session =>
  match change session.state.files with
  | (result, files) =>
      (result.mapError Failure.ofError, { session with state := { session.state with files } })

def appendScript (path : Path) (text : Text) : ProgramM Unit := fun session =>
  match session.state.files.appendBytes path (Utf8.encode text) with
  | .ok files => (.ok (), { session with state := { session.state with files } })
  | .error refusal => (.error (.scriptNotOpened path refusal.fault), session)

end ProgramM

/-- What the program works on: the places of a host, the programs installed
there, and which services answer at an address. -/
structure Surroundings where
  settings : Settings
  installation : Installation
  answers : Address → Nat → Bool

namespace Surroundings

variable (surroundings : Surroundings)

def host : Host Machine where
  settings := surroundings.settings
  runner := Runner.installed surroundings.installation

def registry : Registry :=
  Registry.ofPath surroundings.settings.registry

def exclusions : Exclusions :=
  ⟨surroundings.settings.exclusions⟩

/-! ## Requests -/

def shown {α : Type} (format : ReportFormat) (document : α → Json) (table : α → Text) (found : α) :
    Text :=
  match format with
  | .json => (document found).write
  | .table => table found

/-- Makes a change that is recorded in a script. The script exists afterwards,
even if the change is not applied. -/
def changeInScript (kind : ChangeKind) (path : Path) (arguments : List Text) :
    ProgramM ChangeStatus := do
  ProgramM.appendScript path []
  let (status, sink) ← ProgramM.command
    (surroundings.host.changeRecorded kind arguments (some (.growing [])))
  ProgramM.appendScript path ((sink.map Sink.content).getD [])
  return status

def change (kind : ChangeKind) (script : Option Path) (arguments : List Text) : ProgramM Unit := do
  let status ← match script with
    | some path => surroundings.changeInScript kind path arguments
    | none => ProgramM.command (surroundings.host.change kind arguments)
  match status with
  | .applied => return ()
  | .failed message => throw (.changeRefused message)

def flush (count : CommandM Machine Nat) (what object : Text) : ProgramM Text := do
  let number ← ProgramM.command count
  return "Removed ".toList ++ Decimal.write number ++ what ++ object

def carryOut : Request → ProgramM (Option Text)
  | .topology format => do
      let topology ← ProgramM.command surroundings.host.inspect
      return some (shown format Topology.toJson Topology.table topology)
  | .interfaces format => do
      let view := (← get).state.files.view
      let interfaces ← ProgramM.command (surroundings.host.interfaces view)
      return some (shown format Interface.tableToJson Interface.table interfaces)
  | .addTable name => do
      let entry ← ProgramM.files (surroundings.registry.add FileStore.tree name)
      return some ("Table ".toList ++ entry.name ++ " registered as ".toList ++
        Decimal.write entry.number)
  | .deleteTable name => do
      let count ← ProgramM.files (surroundings.registry.delete FileStore.tree name)
      return some ("Removed ".toList ++ Decimal.write count ++ " entr(ies) named ".toList ++ name)
  | .listTables format => do
      let entries ← ProgramM.files (surroundings.registry.entries FileStore.tree)
      return some (shown format TableEntry.listToJson TableEntry.table entries)
  | .netmask length =>
      match Address.netmask length with
      | .ok mask => return some mask.write
      | .error error => throw (.ofError error)
  | .probe address service =>
      return some (address.write ++ ':' :: Decimal.write service ++
        (if surroundings.answers address service then " is reachable".toList
          else " is not reachable".toList))
  | .change kind script arguments => do
      surroundings.change kind script arguments
      return none
  | .flushRoutes device =>
      some <$> flush (surroundings.host.flushRoutes device) " route(s) from ".toList device
  | .flushTableRules table =>
      some <$> flush (surroundings.host.flushTableRules table) " rule(s) using table ".toList table
  | .flushAddressRules address =>
      some <$> flush (surroundings.host.flushAddressRules address) " rule(s) for ".toList address
  | .exclude mac => do
      let path ← ProgramM.files (surroundings.exclusions.exclude FileStore.tree mac)
      return some ("Wrote ".toList ++ path)
  | .reinstate mac => do
      if ← ProgramM.files (surroundings.exclusions.reinstate FileStore.tree mac) then
        return some ("Device ".toList ++ mac ++ " handed back to NetworkManager".toList)
      else return some ("Device ".toList ++ mac ++ " was not excluded".toList)
  | .removeAddress device address network => do
      ProgramM.command (surroundings.host.removeAddress device address network)
      return some ("Address ".toList ++ address ++ " removed from ".toList ++ device)

end Surroundings

inductive Ending
  | done
  | failed (failure : Failure)
  | stopped (stop : UsageStop)
  deriving DecidableEq, Repr

namespace Ending

def exitStatus : Ending → Nat
  | .done => 0
  | .failed _ => 1
  | .stopped stop => stop.exitStatus

end Ending

structure Outcome where
  stdout : Text
  ending : Ending
  machine : Machine
  deriving DecidableEq, Repr

namespace Invocation

def perform (invocation : Invocation) (installation : Installation)
    (answers : Address → Nat → Bool) (machine : Machine) : Outcome :=
  let surroundings : Surroundings := { settings := invocation.settings, installation, answers }
  match surroundings.carryOut invocation.request ⟨machine, []⟩ with
  | (.ok line, session) =>
      ⟨(line.map (· ++ ['\n'])).getD [], .done, session.state⟩
  | (.error failure, session) => ⟨[], .failed failure, session.state⟩

def stopText : UsageStop → Text
  | .version text => text
  | _ => []

def run (environment : Environment) (arguments : List Text) (installation : Installation)
    (answers : Address → Nat → Bool) (machine : Machine) : Outcome :=
  match ofArguments environment arguments with
  | .ok invocation => invocation.perform installation answers machine
  | .error stop => ⟨stopText stop, .stopped stop, machine⟩

end Invocation
end NetAdmin
