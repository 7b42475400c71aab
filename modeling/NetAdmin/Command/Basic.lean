import NetAdmin.Error
import NetAdmin.Settings
import NetAdmin.Text.Blank
/-!
Running external commands. A command line is a list of words, program first. A
`Runner` answers command lines: it may keep a state of its own, so what it
answers may depend on everything that was run before. A `Session` holds that
state and the command lines run so far, and `CommandM` is a computation in a
session that may fail.
-/

namespace NetAdmin

abbrev CommandLine := List Text

namespace CommandLine

def display (line : CommandLine) : Text :=
  Text.glue ' ' line

/-- The words that take the `ip` program to a network namespace. The empty name
is the namespace it is in already. -/
def inNetwork (network : Text) : List Text :=
  if network.isEmpty then [] else ["-netns".toList, network]

end CommandLine

/-- What a command left behind: its exit status, unless a signal ended it, and
what it printed. -/
structure Output where
  status : Option Int
  stdout : Text
  stderr : Text
  deriving DecidableEq, Repr

namespace Output

def success (output : Output) : Bool :=
  output.status = some 0

def combined (output : Output) : Text :=
  output.stdout ++ output.stderr

def silentSuccess (output : Output) : Bool :=
  output.success && Text.isAllBlank output.combined

def writeStatus : Int → Text
  | .ofNat value => Decimal.write value
  | .negSucc value => '-' :: Decimal.write (value + 1)

def failureMessage (output : Output) : Text :=
  match Text.trim output.combined, output.status with
  | [], some status => "exit status ".toList ++ writeStatus status
  | [], none => "terminated by signal".toList
  | printed, _ => printed

end Output

/-- Whatever runs commands. The state may record anything; a command that
cannot be run at all is an error. -/
structure Runner (σ : Type) where
  answer : CommandLine → σ → Except Error Output × σ

structure Session (σ : Type) where
  state : σ
  calls : List CommandLine

/-- Computations that run commands and may fail. What was run before a failure
stays run. -/
abbrev CommandM (σ α : Type) := ExceptT Error (StateM (Session σ)) α

structure Host (σ : Type) where
  settings : Settings
  runner : Runner σ

namespace Host

variable {σ : Type}

def ip (host : Host σ) (network : Text) (arguments : List Text) : CommandLine :=
  host.settings.ip :: CommandLine.inNetwork network ++ arguments

def iptables (host : Host σ) (arguments : List Text) : CommandLine :=
  host.settings.iptables :: arguments

def run (host : Host σ) (line : CommandLine) : CommandM σ Output := fun session =>
  match host.runner.answer line session.state with
  | (result, state) => (result, { state, calls := session.calls ++ [line] })

/-- Runs a command and gives its standard output. A command that is not
successful is an error. -/
def checkedRun (host : Host σ) (line : CommandLine) : CommandM σ Text := do
  let output ← host.run line
  if output.success then return output.stdout
  else throw (.commandFailed line.display output.failureMessage)

end Host
end NetAdmin
