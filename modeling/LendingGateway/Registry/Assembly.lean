import LendingGateway.Backend.Catalog
import LendingGateway.Backend.Remote
import LendingGateway.Registry.Basic
import LendingGateway.Text.Quoted

namespace LendingGateway
namespace Registry

open Backend

/-!
# Assembling the registry

Every entry of the provider file becomes a backend.  Entries are checked one by one in
the order of the file, and only when all of them are sound are their identifiers
compared.
-/

def Entry.toBackend (transport : Web.Transport) : Entry → Except EntryError Backend
  | .catalog provider positions => do
    let catalog ← Catalog.make provider positions
    .ok catalog.toBackend
  | .remote id baseUrl timeout => do
    let remote ← Remote.make id baseUrl (timeout.elim defaultTimeout UInt64.toNat)
    .ok (remote.toBackend transport)

def registeredEvent (registry : Registry) : Log.Event where
  level := .info
  target := "lendgate_lending::registry::provider_registry"
  message := "Registered " ++ toString registry.size ++ " lending providers: "
    ++ Text.quotedList registry.ids

def ofConfiguration (transport : Web.Transport) (configuration : Configuration) :
    Except AssemblyError Registry :=
  match configuration.providers.mapM (Entry.toBackend transport) with
  | .error reason => .error (.invalidEntry reason)
  | .ok backends => ofBackends backends

end Registry
end LendingGateway
