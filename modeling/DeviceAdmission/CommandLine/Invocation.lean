import DeviceAdmission.Config.Basic
import DeviceAdmission.Text.Numeral

/-!
# What the program is called with

The first argument names a command and the others give its options. An option has a long and a short
form, and its value stands behind the name or in the next argument: `--port 80`, `--port=80`, `-p
80`, `-p80` and `-p=80` say the same. Arguments are read from left to right, so the first fault
counts.
-/

namespace DeviceAdmission.CommandLine

inductive Command where
  | serve
  | checkConfig
  | sign
  deriving DecidableEq, Repr

inductive Parameter where
  | config
  | port
  | key
  | file
  deriving DecidableEq, Repr

/-- A call of the program. -/
inductive Invocation where
  | serve (config : Option String) (port : Option Nat)
  | checkConfig (config : Option String)
  /-- Without a file the standard input is signed. -/
  | sign (key : String) (file : Option String)
  | version
  | help
  deriving DecidableEq, Repr

inductive UsageFault where
  | commandMissing
  | commandUnknown (name : String)
  | unexpected (argument : String)
  | valueMissing (parameter : Parameter)
  | valueInvalid (parameter : Parameter) (value : String)
  | repeated (parameter : Parameter)
  | required (parameter : Parameter)
  deriving DecidableEq, Repr

namespace Command

def name : Command → String
  | serve => "serve"
  | checkConfig => "check-config"
  | sign => "sign"

def all : List Command := [serve, checkConfig, sign]

def ofName? (s : String) : Option Command :=
  all.find? (·.name = s)

/-- What a command can be given. -/
def parameters : Command → List Parameter
  | serve => [.config, .port]
  | checkConfig => [.config]
  | sign => [.key, .file]

end Command

namespace Parameter

def long : Parameter → String
  | config => "config"
  | port => "port"
  | key => "key"
  | file => "file"

/-- The short form is the first letter. -/
def short : Parameter → Char
  | config => 'c'
  | port => 'p'
  | key => 'k'
  | file => 'f'

end Parameter

def UsageFault.message : UsageFault → String
  | commandMissing => "a command is missing"
  | commandUnknown name => "unknown command: " ++ name
  | unexpected argument => "unexpected argument: " ++ argument
  | valueMissing parameter => "a value is missing for --" ++ parameter.long
  | valueInvalid parameter value => "invalid value for --" ++ parameter.long ++ ": " ++ value
  | repeated parameter => "--" ++ parameter.long ++ " is given more than once"
  | required parameter => "--" ++ parameter.long ++ " is required"

/-! ## Values -/

/-- The number of a port, with or without a sign. -/
def readPort? : List Char → Option Nat
  | '-' :: digits => Numeral.readUpTo? 0 ('+' :: digits)
  | cs => Numeral.readUpTo? Config.maxPort cs

/-- Whether a parameter can have a value. A path is not empty. -/
def Parameter.admits (p : Parameter) (value : String) : Bool :=
  match p with
  | .port => (readPort? value.toList).isSome
  | .config | .key | .file => !value.isEmpty

/-! ## Arguments -/

/-- What an argument of a command says. -/
inductive Word where
  | help
  /-- An option, with its value if that stands in the same argument. -/
  | option (parameter : Parameter) (attached : Option String)
  /-- Nothing but options can stand before this mark, and nothing behind it. -/
  | endOfOptions
  | other
  deriving DecidableEq, Repr

/-- The value of an option in its long form, if it stands behind the name. -/
def attachedToLong? : List Char → Option String
  | '=' :: value => some (String.ofList value)
  | _ => none

/-- The value of an option in its short form, if it stands behind the name. -/
def attachedToShort? : List Char → Option String
  | [] => none
  | '=' :: value => some (String.ofList value)
  | value => some (String.ofList value)

/-- An option in its long form, without the dashes. -/
def longWord (c : Command) (cs : List Char) : Word :=
  let name := String.ofList (cs.takeWhile (· ≠ '='))
  let attached := attachedToLong? (cs.dropWhile (· ≠ '='))
  match c.parameters.find? (·.long = name) with
  | some p => .option p attached
  | none => if name = "help" ∧ attached = none then .help else .other

/-- An option in its short form, without the dash. -/
def shortWord (c : Command) (letter : Char) (behind : List Char) : Word :=
  match c.parameters.find? (·.short = letter) with
  | some p => .option p (attachedToShort? behind)
  | none => if letter = 'h' then .help else .other

def wordOf (c : Command) : List Char → Word
  | ['-', '-'] => .endOfOptions
  | '-' :: '-' :: cs => longWord c cs
  | '-' :: letter :: behind => shortWord c letter behind
  | _ => .other

/-- Whether an argument can be the value of the option before it. -/
def isValue (argument : String) : Bool :=
  argument = "-" || !argument.startsWith "-"

/-- The parameters that were given, with their values. -/
abbrev Given := List (Parameter × String)

def Given.get? (given : Given) (p : Parameter) : Option String :=
  (given.find? (·.1 = p)).map (·.2)

/-- Give a parameter a value that it admits, once. -/
def Given.add (given : Given) (p : Parameter) (value : String) : Except UsageFault Given :=
  if !p.admits value then .error (.valueInvalid p value)
  else if (given.get? p).isSome then .error (.repeated p)
  else .ok ((p, value) :: given)

/-- The call of a command with what it was given. -/
def Command.invoke (c : Command) (given : Given) : Except UsageFault Invocation :=
  match c with
  | .serve =>
    .ok (.serve (given.get? .config) ((given.get? .port).bind fun text => readPort? text.toList))
  | .checkConfig => .ok (.checkConfig (given.get? .config))
  | .sign =>
    match given.get? .key with
    | some key => .ok (.sign key (given.get? .file))
    | none => .error (.required .key)

/-- Read the arguments of a command behind those that gave something. -/
def readOptions (c : Command) (given : Given) : List String → Except UsageFault Invocation
  | [] => c.invoke given
  | argument :: rest =>
    match wordOf c argument.toList, rest with
    | .help, _ => .ok .help
    | .option p (some value), rest => do
      let given ← given.add p value
      readOptions c given rest
    | .option p none, value :: rest =>
      if isValue value then do
        let given ← given.add p value
        readOptions c given rest
      else .error (.valueMissing p)
    | .option p none, [] => .error (.valueMissing p)
    | .endOfOptions, [] => c.invoke given
    | .endOfOptions, next :: _ => .error (.unexpected next)
    | .other, _ => .error (.unexpected argument)

/-- Whether the names of commands follow the word `help`. -/
def helpTopics : List String → Except UsageFault Invocation
  | [] | ["help"] => .ok .help
  | [name] => if (Command.ofName? name).isSome then .ok .help else .error (.commandUnknown name)
  | name :: next :: _ =>
    .error (.commandUnknown (if (Command.ofName? name).isSome then next else name))

/-- What the program is called with. -/
def Invocation.ofArguments : List String → Except UsageFault Invocation
  | [] => .error .commandMissing
  | "--version" :: _ => .ok .version
  | "--help" :: _ => .ok .help
  | "help" :: topics => helpTopics topics
  | name :: arguments =>
    match Command.ofName? name, name.toList with
    | some c, _ => readOptions c [] arguments
    | none, '-' :: 'V' :: _ => .ok .version
    | none, '-' :: 'h' :: _ => .ok .help
    | none, _ => .error (.commandUnknown name)

end DeviceAdmission.CommandLine
