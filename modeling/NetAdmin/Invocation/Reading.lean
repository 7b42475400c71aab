import NetAdmin.Invocation.Commands
/-!
Reading a command line. Arguments are read from left to right. An option that
needs a value takes the next argument; a value is checked when the next option
or operand is met, or at the end. The name of a command in a group hands the
remaining arguments to that command, which reads all of them before the group
checks what is still open.

Options that name places are given at any level. The innermost one counts; an
environment variable stands in for one that is given nowhere.
-/

namespace NetAdmin

abbrev Environment := List (Text × Text)

def programName : Text :=
  "hostnet".toList

def programVersion : Text :=
  "0.1.0".toList

/-- A value that is not checked yet. An option may still wait for its value. -/
structure PendingValue where
  rule : ValueRule
  text : Option Text
  deriving DecidableEq, Repr

structure Level where
  /-- The names of the commands down to this one, the program first. -/
  path : List Text
  usage : Usage
  given : Given
  pending : Option PendingValue
  /-- The rules of the operands to come. -/
  operands : List ValueRule
  /-- Whether every further argument is an operand. -/
  ended : Bool

namespace Level

def start (path : List Text) (usage : Usage) : Level where
  path := path
  usage := usage
  given := Given.empty
  pending := none
  operands := usage.valueRules
  ended := false

def options (level : Level) : List OptionRule :=
  level.usage.options ++ Usage.commonOptions

def named? (level : Level) (name : Text) : Option OptionRule :=
  level.options.find? (·.name == name)

def lettered? (level : Level) (letter : Char) : Option OptionRule :=
  level.options.find? (·.letter == some letter)

def isWaiting (level : Level) : Bool :=
  !level.ended &&
    match level.pending with
    | some pending => pending.text.isNone
    | none => false

/-! ## Values -/

def keep (level : Level) (name : Text) (value : Except UsageStop Value) :
    Except UsageStop Level :=
  if (level.given.values.lookup name).isSome then .error .repeatedOption
  else do
    let value ← value
    let values := level.given.values ++ [(name, value)]
    return { level with given := { level.given with values } }

def settle (level : Level) : Except UsageStop Level :=
  match level.pending with
  | none => .ok level
  | some ⟨_, none⟩ => .error .unacceptableValue
  | some ⟨rule, some text⟩ => { level with pending := none }.keep rule.name (rule.kind.read text)

def wantValue (level : Level) (rule : ValueRule) (attached : Option Text) :
    Except UsageStop Level := do
  let level ← level.settle
  match attached with
  | some text => level.keep rule.name (rule.kind.read text)
  | none => return { level with pending := some ⟨rule, none⟩ }

def versionText (level : Level) : Text :=
  Text.glue '-' level.path ++ ' ' :: programVersion ++ ['\n']

def meet (level : Level) (rule : OptionRule) (attached : Option Text) :
    Except UsageStop Level :=
  match rule.use with
  | .value kind => level.wantValue ⟨rule.name, kind⟩ attached
  | use =>
      if attached.isSome then .error .unexpectedValue
      else do
        let level ← level.settle
        match use with
        | .help => .error .help
        | .version => .error (.version level.versionText)
        | _ => level.keep rule.name (.ok .on)

/-! ## Arguments -/

def splitValue (text : Text) : Text × Option Text :=
  match text.dropWhile (· != '=') with
  | _ :: value => (Text.before '=' text, some value)
  | [] => (text, none)

/-- Reads letters behind one dash. An option that needs a value takes the
letters behind it, without an equals sign in front of them. -/
def readLetters (level : Level) : Text → Except UsageStop Level
  | [] => .ok level
  | letter :: others =>
      match level.lettered? letter with
      | none => .error .unknownArgument
      | some rule =>
          match rule.use, others with
          | .value _, [] => level.meet rule none
          | .value _, '=' :: value => level.meet rule (some value)
          | .value _, value => level.meet rule (some value)
          | _, others => do readLetters (← level.meet rule none) others

/-- Reads an argument as options, if it has the form of options and is not a
word to pass on. -/
def readOptions? (level : Level) : Text → Option (Except UsageStop Level)
  | '-' :: '-' :: text =>
      let (name, attached) := splitValue text
      match level.named? name with
      | some rule => some (level.meet rule attached)
      | none => if level.usage.passesWords then none else some (.error .unknownArgument)
  | '-' :: letter :: letters =>
      let known := (letter :: letters).all fun c => (level.lettered? c).isSome
      if level.usage.passesWords && !known then none
      else some (level.readLetters (letter :: letters))
  | _ => none

def helpName : Text :=
  "help".toList

def hasCommand (level : Level) (name : Text) : Bool :=
  level.usage.isGroup && (name == helpName || (level.usage.commands.lookup name).isSome)

def readOperand (level : Level) (argument : Text) : Except UsageStop Level :=
  if level.usage.passesWords then do
    let level ← level.settle
    return { level with
      ended := true
      given := { level.given with words := level.given.words ++ [argument] } }
  else
    match level.operands with
    | rule :: others => do
        let level ← level.settle
        return { level with pending := some ⟨rule, some argument⟩, operands := others }
    | [] =>
        if level.usage.isGroup && !(level.ended && level.hasCommand argument) then
          .error .unknownCommand
        else .error .unknownArgument

def read (level : Level) (argument : Text) : Except UsageStop Level :=
  if level.ended then level.readOperand argument
  else if argument = ['-', '-'] then .ok { level with ended := true }
  else
    match level.readOptions? argument with
    | some result => result
    | none =>
        match level.isWaiting, level.pending with
        | true, some pending =>
            .ok { level with pending := some { pending with text := some argument } }
        | _, _ => level.readOperand argument

/-! ## The end of a level -/

def standIn? (environment : Environment) (rule : OptionRule) : Option Text :=
  rule.substitute.bind fun name => environment.lookup name

/-- The values that variables give to options that are not given here. -/
def standIns (environment : Environment) (level : Level) : List Text :=
  (level.options.filter fun rule => (level.given.values.lookup rule.name).isNone).filterMap
    (standIn? environment)

/-- Checks what is still open and gives what was given. No variable may give an
empty value. -/
def close (environment : Environment) (level : Level) : Except UsageStop Level := do
  let level ← level.settle
  if (level.standIns environment).any List.isEmpty then throw .unacceptableValue
  return level

def endGroup (environment : Environment) (level : Level) : UsageStop :=
  if level.given.values.isEmpty && (level.standIns environment).isEmpty then .helpForNothing
  else .missingCommand

end Level

/-- A command line as it was read: the request, and what was given at each
level, innermost first. -/
structure CommandReading where
  request : Request
  levels : List Given
  deriving DecidableEq, Repr

namespace CommandReading

def ofLevel (environment : Environment) (level : Level) : Except UsageStop CommandReading := do
  let level ← level.close environment
  match level.usage with
  | .group _ => throw (level.endGroup environment)
  | .action _ _ request =>
      match request level.given with
      | some request => return { request, levels := [level.given] }
      | none => throw .missingOperand

def helpOn : Usage → List Text → UsageStop
  | _, [] => .help
  | usage, name :: names =>
      match usage.commands.lookup name with
      | some usage => helpOn usage names
      | none =>
          if usage.isGroup && name = Level.helpName && names.isEmpty then .help
          else .unknownCommand

def ofArguments (environment : Environment) :
    Level → List Text → Except UsageStop CommandReading
  | level, [] => ofLevel environment level
  | level, argument :: arguments =>
      if !level.ended && !level.isWaiting && level.hasCommand argument then
        match level.usage.commands.lookup argument with
        | none => .error (helpOn level.usage arguments)
        | some usage => do
            let reading ← ofArguments environment
              (Level.start (level.path ++ [argument]) usage) arguments
            let level ← level.close environment
            return { reading with levels := reading.levels ++ [level.given] }
      else do ofArguments environment (← level.read argument) arguments

/-- The place that an option names: by the innermost option, or else by its
variable, or else the given one. -/
def place (reading : CommandReading) (environment : Environment) (rule : OptionRule)
    (standard : Path) : Path :=
  match reading.levels.findSome? fun given : Given => given.values.lookup rule.name with
  | some (.text path) => path
  | _ => (Level.standIn? environment rule).getD standard

def settings (reading : CommandReading) (environment : Environment) : Settings :=
  let place := reading.place environment
  { ip := place Usage.ipOption Settings.standard.ip
    iptables := place Usage.iptablesOption Settings.standard.iptables
    registry := place Usage.registryOption Settings.standard.registry
    exclusions := place Usage.exclusionsOption Settings.standard.exclusions
    devices := place Usage.devicesOption Settings.standard.devices }

end CommandReading

namespace Invocation

def ofArguments (environment : Environment) (arguments : List Text) :
    Except UsageStop Invocation := do
  let reading ← CommandReading.ofArguments environment
    (Level.start [programName] Usage.all) arguments
  return { settings := reading.settings environment, request := reading.request }

end Invocation
end NetAdmin
