import NetAdmin.Command.Scripted
import NetAdmin.Files.Tree
/-!
Programs that are installed on a machine. A command can be started only if its
program is one of the installed files; what a started command leaves behind is
known from a script, as bytes.
-/

namespace NetAdmin

namespace Output

def ofBytes (status : Option Int) (stdout stderr : Utf8.Bytes) : Output where
  status := status
  stdout := Utf8.decodeReplacing stdout
  stderr := Utf8.decodeReplacing stderr

end Output

structure Machine where
  files : Tree
  started : List CommandLine
  deriving DecidableEq, Repr

/-- The programs that are installed, by the locations of their files, and what
they leave behind. -/
structure Installation where
  programs : List Location
  script : Script
  deriving DecidableEq, Repr

namespace Installation

/-- What a search of the directories of the system says of a name. They hold none
of the installed programs, and the dots name these directories themselves. -/
def searched (name : Text) : Refusal :=
  if name = ['.'] || name = ['.', '.'] then .accessDenied
  else if Tree.nameLimit < (Utf8.encode name).length then .nameTooLong
  else .notFound

/-- Why a program cannot be started, if it cannot. A program is named by a path
with a slash in it; a name without one is searched for. -/
def obstacle? (installation : Installation) (files : Tree) (program : Path) : Option Refusal :=
  if !program.contains '/' then some (searched program)
  else
    match files.place .node program with
    | .error refusal => some refusal
    | .ok (.free _) => some .notFound
    | .ok (.taken location (.file _)) =>
        if installation.programs.contains location then none else some .accessDenied
    | .ok (.taken _ _) => some .accessDenied

def nulInLine : Fault :=
  ⟨.other, "nul byte found in provided data".toList⟩

def start (installation : Installation) (line : CommandLine) (machine : Machine) :
    Except Error Output × Machine :=
  match line with
  | [] => (.error (.misconfigured "empty command line".toList), machine)
  | program :: _ =>
      if line.any (·.contains '\x00') then (.error (.notStarted program nulInLine), machine)
      else
        match installation.obstacle? machine.files program with
        | some refusal => (.error (.notStarted program refusal.fault), machine)
        | none =>
            (installation.script.answer line, { machine with started := machine.started ++ [line] })

end Installation

namespace Runner

def installed (installation : Installation) : Runner Machine where
  answer := installation.start

end Runner
end NetAdmin
