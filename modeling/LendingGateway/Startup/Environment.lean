import LendingGateway.Text.Utf8

namespace LendingGateway
namespace Startup

/-!
# The environment

The gateway is set up by environment variables.  A variable that is not text counts as
one that is not set.
-/

/-- The variables that are set, the ones set last in front. -/
abbrev Environment := List (String × List UInt8)

def Environment.text? (environment : Environment) (name : String) : Option String :=
  (List.lookup name environment).bind Text.ofOctets?

def Environment.set (environment : Environment) (name text : String) : Environment :=
  (name, Text.octets text) :: environment

/-- The environment with a variable set, unless it is set already. -/
def Environment.setDefault (environment : Environment) (name text : String) : Environment :=
  match environment.text? name with
  | some _ => environment
  | none => environment.set name text

end Startup
end LendingGateway
