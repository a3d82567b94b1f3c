import LendingGateway.Service.Timeout
import LendingGateway.Startup.Environment
import LendingGateway.Text.Blank
import LendingGateway.Web.SocketAddress

namespace LendingGateway
namespace Startup

/-!
# Settings

The settings of the gateway come from the environment.  Only the address to listen on
can be wrong: a timeout that cannot be read is replaced by the standard one, and of the
origins whatever is blank is dropped.
-/

/-- The settings of the gateway. -/
structure Settings where
  listen : Web.SocketAddress
  origins : List String
  timeout : Timeout
  providersFile : String
  /-- Whether the provider file was named, so that it must be there. -/
  providersFileRequired : Bool

/-- What can be wrong with the settings. -/
inductive SettingsError where
  | badListenAddress
deriving DecidableEq, Repr

def SettingsError.message : SettingsError → String
  | .badListenAddress => "Invalid LG_LISTEN_ADDR"

/-- What lies behind an error. -/
def SettingsError.source : SettingsError → String
  | .badListenAddress => "invalid socket address syntax"

/-- The timeout of requests when none is given, in milliseconds. -/
def standardTimeout : Nat := 30000

/-- The provider file when none is named. -/
def standardProvidersFile : String := "./providers.json"

/-- A number of milliseconds that fits in sixty-four bits; it may have a plus sign. -/
def readMillis? (text : String) : Option Nat :=
  match text.toList with
  | '+' :: digits => Text.readBounded? UInt64.size digits
  | digits => Text.readBounded? UInt64.size digits

/-- The origins between commas, without the white space around them. -/
def readOrigins (text : String) : List String :=
  ((Text.splitAt ',' text.toList).map fun piece => Text.trim (String.ofList piece)).filter (· ≠ "")

def Settings.ofEnvironment (environment : Environment) : Except SettingsError Settings :=
  let listenText := (environment.text? "LG_LISTEN_ADDR").getD "0.0.0.0:8080"
  match Web.SocketAddress.read? listenText with
  | none => .error .badListenAddress
  | some listen =>
    let millis? := (environment.text? "LG_REQUEST_TIMEOUT_MS").bind readMillis?
    let file? := environment.text? "LG_PROVIDERS_FILE"
    .ok {
      listen
      origins := readOrigins ((environment.text? "LG_CORS_ALLOW_ORIGINS").getD "*")
      timeout := .ofMillis (millis?.getD standardTimeout)
      providersFile := file?.getD standardProvidersFile
      providersFileRequired := file?.isSome }

end Startup
end LendingGateway
