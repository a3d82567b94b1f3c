import LendingGateway.Http.Gateway
import LendingGateway.Json.Tree
import LendingGateway.Log.Filter
import LendingGateway.Registry.Assembly
import LendingGateway.Registry.Source
import LendingGateway.Startup.Dotenv
import LendingGateway.Startup.Settings

namespace LendingGateway
namespace Startup

open Registry

/-!
# Starting the gateway

The gateway starts in a fixed order: settings, provider file, registry, listening.  The
first thing that fails ends the start, and the report of the failure names what lies
behind it.
-/

/-- The target of events about loading the provider file. -/
def loadingTarget : String := "lendgate_server::main_lib"

def loadingEvent (path : String) : Log.Event :=
  ⟨.info, loadingTarget, "Loading lending providers from " ++ path⟩

/-- The event of a provider file that may be missing and is. -/
def missingEvent (path : String) : Log.Event :=
  ⟨.warn, loadingTarget,
    "Provider config " ++ path ++ " not found, starting with no lending providers"⟩

/-- The registry of a provider file, and the events of assembling it.  A file that was not
asked for may be missing. -/
def loadRegistry (transport : Web.Transport) (path : String) (required : Bool)
    (file : Source) : Except AssemblyError Registry × List Log.Event :=
  if !required && !file.exists then (.ok .empty, [missingEvent path])
  else
    match Configuration.load path file >>= ofConfiguration transport with
    | .ok registry => (.ok registry, [loadingEvent path, registeredEvent registry])
    | .error error => (.error error, [loadingEvent path])

/-! ## Failures -/

/-- Why the gateway cannot listen on an address. -/
inductive BindError where
  /-- The port is for privileged programs. -/
  | denied
  | inUse
  | notAvailable
deriving DecidableEq, Repr

def BindError.message : BindError → String
  | .denied => "Permission denied (os error 13)"
  | .inUse => "Address already in use (os error 98)"
  | .notAvailable => "Cannot assign requested address (os error 99)"

/-- Why the gateway does not start. -/
inductive StartError where
  | settings (error : SettingsError)
  | registry (error : AssemblyError)
  | bind (error : BindError)

def StartError.message : StartError → String
  | .settings error => error.message
  | .registry error => error.message
  | .bind error => error.message

/-- The message of what lies behind a failure. -/
def StartError.source? : StartError → Option String
  | .settings error => some error.source
  | .registry error => error.source?
  | .bind _ => none

/-- A text with every line indented. -/
def indented (text : String) : String :=
  String.intercalate "\n"
    ((Text.splitAt '\n' text.toList).map fun line => "    " ++ String.ofList line)

def StartError.report (error : StartError) : String :=
  "Error: " ++ error.message
    ++ (error.source?.elim "" fun source => "\n\nCaused by:\n" ++ indented source) ++ "\n"

/-! ## The start -/

/-- What the gateway finds when it starts. -/
structure Surroundings where
  environment : Environment
  /-- The text of the file of variables, if there is one. -/
  dotenv : Option String
  /-- What stands at a path. -/
  file : String → Source
  /-- What keeps the gateway from listening on an address, if anything. -/
  bindError? : Web.SocketAddress → Option BindError
  transport : Web.Transport

/-- The environment with the variables of the file. -/
def Surroundings.effective (surroundings : Surroundings) : Environment :=
  surroundings.dotenv.elim surroundings.environment (Dotenv.load surroundings.environment)

def filterOf (environment : Environment) : Log.Filter :=
  ((environment.text? "RUST_LOG").bind Log.Filter.read?).getD .standard

def listeningEvent (address : Web.SocketAddress) : Log.Event :=
  ⟨.info, "lendgate_server", "Listening on " ++ address.render⟩

/-- What a start leads to: a gateway and its address, or a failure, and the events that
the log filter shows. -/
structure Launch where
  outcome : Except StartError (Http.Gateway × Web.SocketAddress)
  events : List Log.Event

/-- Start with settings, before the log filter is applied. -/
def launchWith (surroundings : Surroundings) (settings : Settings) : Launch :=
  let (assembled, events) :=
    loadRegistry surroundings.transport settings.providersFile settings.providersFileRequired
      (surroundings.file settings.providersFile)
  match assembled with
  | .error error => ⟨.error (.registry error), events⟩
  | .ok registry =>
    let gateway := Http.Gateway.make registry settings.origins settings.timeout
    let events := events ++ Http.originEvents settings.origins ++ [listeningEvent settings.listen]
    match surroundings.bindError? settings.listen with
    | some error => ⟨.error (.bind error), events⟩
    | none => ⟨.ok (gateway, settings.listen), events⟩

def launch (surroundings : Surroundings) : Launch :=
  let effective := surroundings.effective
  match Settings.ofEnvironment effective with
  | .error error => ⟨.error (.settings error), []⟩
  | .ok settings =>
    let launch := launchWith surroundings settings
    ⟨launch.outcome, launch.events.filter (filterOf effective).shows⟩

/-- A log line: an event as a document. -/
def logTree (event : Log.Event) : Json.Tree :=
  .object [("level", .text event.level.name),
    ("fields", .object [("message", .text event.message)]),
    ("target", .text event.target)]

end Startup
end LendingGateway
