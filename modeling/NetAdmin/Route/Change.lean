import NetAdmin.Command.Basic
/-!
Adding routes, policy rules and firewall rules, and removing firewall rules.
The arguments of a change go to its program as they are. The programs are
silent when they succeed, so any output means that the change failed.

A change may be recorded: its command line is appended to a sink when the
change was applied.
-/

namespace NetAdmin

inductive ChangeStatus
  | applied
  | failed (message : Text)
  deriving DecidableEq, Repr

namespace ChangeStatus

def code : ChangeStatus → Nat
  | .applied => 0
  | .failed _ => 1

def message : ChangeStatus → Text
  | .applied => []
  | .failed message => message

def display : ChangeStatus → Text
  | .applied => "ok".toList
  | .failed message => "failed: ".toList ++ Text.trim message

/-- The status that an output stands for. The message of a failed change is
what was printed, as it is, unless that is blank. -/
def ofOutput (output : Output) : ChangeStatus :=
  if output.silentSuccess then .applied
  else if Text.isAllBlank output.combined then .failed output.failureMessage
  else .failed output.combined

end ChangeStatus

/-- Where applied changes are recorded: a text that grows, or something that
refuses every write. -/
inductive Sink
  | growing (content : Text)
  | refusing (cause : Fault)
  deriving DecidableEq, Repr

namespace Sink

def append (text : Text) : Sink → Except Fault Sink
  | .growing content => .ok (.growing (content ++ text))
  | .refusing cause => .error cause

def content : Sink → Text
  | .growing content => content
  | .refusing _ => []

end Sink

inductive ChangeKind
  | addRoute
  | addRule
  | addFirewallRule
  | removeFirewallRule
  deriving DecidableEq, Repr

namespace ChangeKind

def isRecorded : ChangeKind → Bool
  | .removeFirewallRule => false
  | _ => true

end ChangeKind

namespace Host

variable {σ : Type} (host : Host σ)

def changeLine (kind : ChangeKind) (arguments : List Text) : CommandLine :=
  match kind with
  | .addRoute => host.ip [] ("route".toList :: "add".toList :: arguments)
  | .addRule => host.ip [] ("rule".toList :: "add".toList :: arguments)
  | .addFirewallRule | .removeFirewallRule => host.iptables arguments

def change (kind : ChangeKind) (arguments : List Text) : CommandM σ ChangeStatus := do
  return ChangeStatus.ofOutput (← host.run (host.changeLine kind arguments))

/-- Makes a change and records it in the sink, if there is one, the kind of
change is recorded at all, and the change was applied. -/
def changeRecorded (kind : ChangeKind) (arguments : List Text) (sink : Option Sink) :
    CommandM σ (ChangeStatus × Option Sink) := do
  let status ← host.change kind arguments
  match sink with
  | some sink =>
      if kind.isRecorded && status = .applied then
        match sink.append ((host.changeLine kind arguments).display ++ ['\n']) with
        | .ok sink => return (status, some sink)
        | .error cause => throw (.io cause)
      else return (status, some sink)
  | none => return (status, none)

end Host
end NetAdmin
