import NetAdmin.Address.Literal
import NetAdmin.Invocation.Request
/-!
Arguments on a command line and the rules for their values. Every command of
the program has options, which start with dashes, and either operands in a fixed
order, or a list of words that are passed on, or further commands.

A command line that asks for nothing the program can do ends in a `UsageStop`.
-/

namespace NetAdmin

inductive UsageStop
  | missingOperand
  | unknownArgument
  | unknownCommand
  | missingCommand
  /-- A value is missing, or is none of the possible ones. -/
  | unacceptableValue
  /-- A value cannot be read as what it should be. -/
  | unreadableValue
  | repeatedOption
  /-- A switch is given a value. -/
  | unexpectedValue
  | help
  /-- Help is shown because nothing at all was asked for. -/
  | helpForNothing
  | version (text : Text)
  deriving DecidableEq, Repr

namespace UsageStop

def exitStatus : UsageStop → Nat
  | .help | .version _ => 0
  | _ => 2

end UsageStop

inductive ValueKind
  | text
  | path
  | format
  /-- A network length: a number below 256. -/
  | length
  /-- The number of a service: a number below 65536. -/
  | service
  | address
  deriving DecidableEq, Repr

inductive Value
  | text (text : Text)
  | format (format : ReportFormat)
  | number (number : Nat)
  | address (address : Address)
  /-- The value of a switch that is given. -/
  | on
  deriving DecidableEq, Repr

namespace ValueKind

def readNumber (bound : Nat) (text : Text) : Except UsageStop Value :=
  match Decimal.signedBelow? bound text with
  | some number => .ok (.number number)
  | none => .error .unreadableValue

def read (kind : ValueKind) (text : Text) : Except UsageStop Value :=
  match kind with
  | .text => .ok (.text text)
  | .path => if text.isEmpty then .error .unacceptableValue else .ok (.text text)
  | .format =>
      if text = "table".toList then .ok (.format .table)
      else if text = "json".toList then .ok (.format .json)
      else .error .unacceptableValue
  | .length => readNumber 256 text
  | .service => readNumber 65536 text
  | .address =>
      match Address.read? text with
      | some value => .ok (.address value)
      | none => .error .unreadableValue

end ValueKind

structure ValueRule where
  name : Text
  kind : ValueKind
  deriving DecidableEq, Repr

inductive OptionUse
  | value (kind : ValueKind)
  | switch
  | help
  | version
  deriving DecidableEq, Repr

/-- An option: its name behind two dashes, perhaps a letter behind one dash, and
perhaps an environment variable that stands in for it. -/
structure OptionRule where
  name : Text
  letter : Option Char
  use : OptionUse
  substitute : Option Text
  deriving DecidableEq, Repr

/-- What was given to a command: values by the name of their argument, and the
words to pass on. -/
structure Given where
  values : List (Text × Value)
  words : List Text
  deriving DecidableEq, Repr

namespace Given

def empty : Given :=
  ⟨[], []⟩

def text? (given : Given) (name : String) : Option Text :=
  match given.values.lookup name.toList with
  | some (.text text) => some text
  | _ => none

def number? (given : Given) (name : String) : Option Nat :=
  match given.values.lookup name.toList with
  | some (.number number) => some number
  | _ => none

def address? (given : Given) (name : String) : Option Address :=
  match given.values.lookup name.toList with
  | some (.address address) => some address
  | _ => none

def format (given : Given) : ReportFormat :=
  match given.values.lookup "format".toList with
  | some (.format format) => format
  | _ => .table

def words? (given : Given) : Option (List Text) :=
  if given.words.isEmpty then none else some given.words

end Given

inductive Operands
  /-- One value for each rule, in this order. -/
  | values (rules : List ValueRule)
  /-- Words that are passed on. The first one ends the options, and a word that
  is no option may stand there although it starts with a dash. -/
  | words
  deriving DecidableEq, Repr

/-- How a command is used: as an action, with the request it stands for unless
an operand is missing, or as a group of commands by name. -/
inductive Usage
  | action (options : List OptionRule) (operands : Operands) (request : Given → Option Request)
  | group (commands : List (Text × Usage))

namespace Usage

def options : Usage → List OptionRule
  | .action options _ _ => options
  | .group _ => []

def commands : Usage → List (Text × Usage)
  | .action _ _ _ => []
  | .group commands => commands

def passesWords : Usage → Bool
  | .action _ .words _ => true
  | _ => false

def valueRules : Usage → List ValueRule
  | .action _ (.values rules) _ => rules
  | _ => []

def isGroup : Usage → Bool
  | .action _ _ _ => false
  | .group _ => true

end Usage
end NetAdmin
