import LendingGateway.Startup.Launch

namespace LendingGateway
namespace Program

open Http Startup

/-!
# The program

The program starts the gateway from its environment and then answers the requests that
stand on its standard input, one in a line: a method, a target, and what is left of the
line as the body.  Everything it does with them is done by the library.
-/

/-- The variables that matter to the gateway. -/
def variableNames : List String :=
  ["LG_LISTEN_ADDR", "LG_CORS_ALLOW_ORIGINS", "LG_REQUEST_TIMEOUT_MS", "LG_PROVIDERS_FILE",
    "RUST_LOG"]

def readEnvironment : IO Environment := do
  let mut environment : Environment := []
  for name in variableNames do
    if let some text ← IO.getEnv name then
      environment := environment.set name text
  return environment

def readSource (path : String) : IO Registry.Source := do
  try
    return .contents (← IO.FS.readBinFile path).toList
  catch
    | .noFileOrDirectory .. => return .missing
    | .inappropriateType _ 20 _ => return .throughFile
    | .invalidArgument _ 36 _ => return .longName
    | _ => return .directory

def readVariables : IO (Option String) := do
  match ← readSource ".env" with
  | .contents octets => return Text.ofOctets? octets
  | .missing | .directory | .throughFile | .longName => return none

/-- What the gateway finds when it starts.  The program has no network: it can always
listen, and no other gateway answers it. -/
def readSurroundings : IO Surroundings := do
  let environment ← readEnvironment
  let dotenv ← readVariables
  let effective := dotenv.elim environment (Dotenv.load environment)
  let path := (effective.text? "LG_PROVIDERS_FILE").getD standardProvidersFile
  let source ← readSource path
  return {
    environment
    dotenv
    file := fun _ => source
    bindError? := fun _ => none
    transport := fun _ => .broken 0 }

def requestOfLine (line : String) : Except RequestError Request :=
  let chars := line.toList
  let rest := (chars.dropWhile (· != ' ')).drop 1
  let body := (rest.dropWhile (· != ' ')).drop 1
  Request.make (String.ofList (chars.takeWhile (· != ' ')))
    (String.ofList (rest.takeWhile (· != ' '))) [("content-type", "application/json")]
    (Text.octets (String.ofList body))

/-- A line of output for a line of input, and the events on the way. -/
def answerLine (gateway : Gateway) (line : String) : String × List Log.Event :=
  match requestOfLine line with
  | .error error => (error.message, [])
  | .ok request =>
    let served := gateway.serve request
    (describeStatus served.response.status ++ " " ++ served.response.body, served.events)

def printEvents (filter : Log.Filter) (events : List Log.Event) : IO Unit := do
  for event in events do
    if filter.shows event then IO.eprintln (logTree event).render

/-- Answer lines until the input ends. -/
partial def serveLines (gateway : Gateway) (filter : Log.Filter) : IO Unit := do
  let line ← (← IO.getStdin).getLine
  if line.isEmpty then return
  let (answer, events) := answerLine gateway (String.ofList (Dotenv.dropLineEnd line.toList))
  printEvents filter events
  IO.println answer
  (← IO.getStdout).flush
  serveLines gateway filter

end Program
end LendingGateway

open LendingGateway in
/-- Start the gateway and serve; a failure to start is reported and ends the program. -/
def main : IO UInt32 := do
  let surroundings ← Program.readSurroundings
  let launch := Startup.launch surroundings
  for event in launch.events do
    IO.println (Startup.logTree event).render
  match launch.outcome with
  | .error error =>
    IO.eprint error.report
    return 1
  | .ok (gateway, _) =>
    Program.serveLines gateway (Startup.filterOf surroundings.effective)
    return 0
