import NetAdmin.Command.Basic
import NetAdmin.Text.Utf8
/-!
Runners whose answers are known in advance: a script lists what commands leave
behind, by their command line.
-/

namespace NetAdmin

inductive Reply
  | leaves (output : Output)
  | cannotStart (reason : Text)
  deriving DecidableEq, Repr

abbrev Script := List (Text × Reply)

namespace Script

/-- The reply to a command line: the first one with its display form. A command
that the script does not know is successful and prints nothing. -/
def reply (script : Script) (line : CommandLine) : Reply :=
  (script.lookup line.display).getD (.leaves ⟨some 0, [], []⟩)

def answer (script : Script) (line : CommandLine) : Except Error Output :=
  match script.reply line with
  | .leaves output => .ok output
  | .cannotStart reason => .error (.notStarted (line.headD []) ⟨.other, reason⟩)

end Script

namespace Runner

def ofFunction (answer : CommandLine → Except Error Output) : Runner Unit where
  answer := fun line state => (answer line, state)

def scripted (script : Script) : Runner Unit :=
  ofFunction script.answer

end Runner
end NetAdmin
