import LendingGateway.Registry.Configuration
import LendingGateway.Registry.AssemblyError

namespace LendingGateway
namespace Registry

/-!
# Reading the provider file

The file must be there, it must be text, and the text must hold a document of the
right shape.
-/

/-- What stands where a file is looked for. -/
inductive Source where
  | missing
  | directory
  /-- The path leads on from something that is no directory. -/
  | throughFile
  /-- A name in the path is too long, or the path itself. -/
  | longName
  | contents (octets : List UInt8)

/-- Whether anything stands there at all. -/
def Source.exists : Source → Bool
  | .missing | .throughFile | .longName => false
  | .directory | .contents _ => true

def Source.text : Source → Except ReadError String
  | .missing => .error .missing
  | .directory => .error .directory
  | .throughFile => .error .notDirectory
  | .longName => .error .longName
  | .contents octets =>
    match Text.ofOctets? octets with
    | some text => .ok text
    | none => .error .notText

namespace Configuration

def parse (text : String) : Except AssemblyError Configuration :=
  match Json.Wire.decode Configuration (Text.octets text) with
  | .ok configuration => .ok configuration
  | .error fault => .error (.malformed fault)

def load (path : String) (file : Source) : Except AssemblyError Configuration :=
  match file.text with
  | .ok text => parse text
  | .error reason => .error (.unreadable path reason)

/-- The identifiers of the providers, in the order of the file. -/
def ids (configuration : Configuration) : List String :=
  configuration.providers.map Entry.id

end Configuration

end Registry
end LendingGateway
