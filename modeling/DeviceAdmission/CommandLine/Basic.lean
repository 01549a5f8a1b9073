import DeviceAdmission.CommandLine.Invocation
import DeviceAdmission.CommandLine.Transcript
import DeviceAdmission.Config.File
import DeviceAdmission.Config.Preparation
import DeviceAdmission.Crypto.RequestSignature
import DeviceAdmission.Release
import DeviceAdmission.Startup

/-!
# The commands

`serve` starts the service, `check-config` reports on a configuration without starting anything, and
`sign` prints the signature of a request. Each runs on any host.
-/

namespace DeviceAdmission.CommandLine

variable {m : Type → Type} [Monad m] [Host m]

/-! ## The configuration -/

/-- A name behind a directory. -/
def joinPath (directory name : String) : String :=
  if directory.isEmpty then name
  else if directory.endsWith "/" then directory ++ name
  else directory ++ "/" ++ name

/-- The directory of the user's configurations, if the variables name one. -/
def userDirectory? (shared home : Option String) : Option String :=
  match shared.filter (·.startsWith "/") with
  | some directory => some directory
  | none => (home.filter (!·.isEmpty)).map (joinPath · ".config")

/-- The directory of the configuration: the one that is set, or the user's. -/
def configDirectory (given shared home : Option String) : String :=
  match given, userDirectory? shared home with
  | some directory, _ => directory
  | none, some directory => joinPath directory serviceName
  | none, none => "."

/-- The path of the configuration: the one given, the one that a variable holds, or the default. -/
def configPath (given : Option String) : m String := do
  let named ← Host.readVariable "DEVAUTH_CONFIG"
  let directory ← Host.readVariable "DEVAUTH_CONFIG_DIR"
  let shared ← Host.readVariable "XDG_CONFIG_HOME"
  let home ← Host.readVariable "HOME"
  pure <| (given <|> named.filter (!Text.isBlankText ·)).getD
    (joinPath (configDirectory directory shared home) "config.yaml")

/-- The configuration of a tree, in the host's environment. -/
def prepare (tree : Json.Value) : CommandT m Config := do
  let names := Substitution.mentioned tree ++ Config.overridingVariables
  let env ← ask (Host.readVariables names)
  settle Config.PreparationFault.causes (Config.prepare env tree)

/-- How many errors a configuration has. -/
def errorCount (path : String) (c : Config) : String :=
  String.ofList (Numeral.write c.errors.length) ++ " config error(s) in " ++ path

def settingsOf (c : Config) : CommandT m Settings :=
  settle (fun fault => [fault.message]) (Settings.ofConfig c)

/-! ## Checking -/

/-- What is said of settings that can be used. -/
def validNote (s : Settings) (address : SocketAddress) : String :=
  let store := match s.backend with
    | .tables => "Sqlite"
    | .memory => "Memory"
  "Config valid: listening on " ++ address.write ++ ", " ++ store ++ " storage, " ++
    s.tenancyMode.title ++ " tenancy"

/-- Print the findings, errors first. -/
def printFindings (c : Config) : CommandT m Unit := do
  c.errors.forM fun f => printNote .error f.message
  c.warnings.forM fun f => printNote .warning f.message

/-- Report on a configuration. -/
def checkConfig (given : Option String) : CommandT m Unit := do
  let path ← ask (configPath given)
  printNote .info ("Checking " ++ path)
  let tree ← askFor Config.ConfigFileFault.causes (Config.readTree path)
  let mentioned := Substitution.mentioned tree
  unless mentioned.isEmpty do
    printNote .info ("Environment variables referenced: " ++ ", ".intercalate mentioned)
  let config ← prepare tree
  printFindings config
  unless config.isValid do throw [errorCount path config]
  let settings ← settingsOf config
  let address ← settle ListenFault.causes settings.listenAddress
  printNote .success (validNote settings address)

/-! ## Signing -/

/-- The body to sign, from a file or from the input. -/
def bodyToSign : (file : Option String) → CommandT m Bytes
  | some path =>
    askFor (fun fault : FileFault => ["Failed to read request body from " ++ path, fault.message])
      (Host.readFile path)
  | none => ask Host.readInput

/-- Print the signature of a request, exactly as its bytes are. -/
def sign (keyPath : String) (file : Option String) : CommandT m Unit := do
  let key ← askFor
    (fun fault : FileFault => ["Failed to read device key from " ++ keyPath, fault.message])
    (Host.readText keyPath)
  let body ← bodyToSign file
  printLine (← settle RequestSigningFault.causes (signRequest body key))

/-! ## Serving -/

/-- Make the directory that logs go to, if there is one. -/
def makeLogDirectory : Option String → CommandT m Unit
  | some path =>
    askFor (fun fault : FileFault => ["Failed to create log directory " ++ path, fault.message])
      (Host.makeDirectory path)
  | none => pure ()

/-- Start the service. -/
def startService (given : Option String) (port : Option Nat) :
    CommandT m (SocketAddress × Gateway × FoundStore) := do
  let path ← ask (configPath given)
  let tree ← askFor Config.ConfigFileFault.causes (Config.readTree path)
  let config ← prepare tree
  match config.errors with
  | [] => pure ()
  | first :: _ => throw [errorCount path config ++ "; first: " ++ first.message]
  let settings ← settingsOf config
  let settings := { settings with port := port.getD settings.port }
  makeLogDirectory settings.logDirectory
  let address ← settle ListenFault.causes settings.listenAddress
  let started ← askFor StartFault.causes (Startup.start settings).run
  pure (address, started)

/-! ## The program -/

/-- How the program is called. -/
def usageLines : List String :=
  ["Usage: devauth <COMMAND>", "",
    "Commands:",
    "  serve [--config <FILE>] [--port <PORT>]   Start the service",
    "  check-config [--config <FILE>]            Check a configuration without starting anything",
    "  sign --key <FILE> [--file <FILE>]         Sign a request with the private key of a device"]

/-- Carry out a call of the program. -/
def perform : Invocation → CommandT m Unit
  | .serve config port => do
    let _ ← startService config port
  | .checkConfig config => checkConfig config
  | .sign key file => sign key file
  | .version => printLine (serviceName ++ " " ++ version)
  | .help => usageLines.forM printLine

/-- Run the program with its arguments. -/
def run (arguments : List String) : m Outcome :=
  match Invocation.ofArguments arguments with
  | .ok invocation => (perform invocation).outcome
  | .error fault => pure ⟨2, "", joinedLines (("error: " ++ fault.message) :: "" :: usageLines)⟩

end DeviceAdmission.CommandLine
