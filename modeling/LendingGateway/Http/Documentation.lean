import LendingGateway.Json.Tree

namespace LendingGateway
namespace Http

open Json

/-!
# The gateway's description of itself

The gateway publishes a document that says which operations there are, what they take
and how they may answer.
-/

/-- An operation as it is described to callers. -/
structure Described where
  path : String
  method : String
  /-- The group of operations it belongs to. -/
  group : String
  name : String
  summary : Option String
  /-- Whether the path ends in the identifier of a provider. -/
  ofProvider : Bool
  /-- The statuses it may answer with, and what they mean. -/
  answers : List (String × String)

/-- The operations by ascending path. -/
def describedOperations : List Described := [
  ⟨"/api/v1/healthz", "get", "health", "healthz", none, false, [("200", "OK")]⟩,
  ⟨"/api/v1/lending/account/\x7bprovider\x7d", "post", "lending", "get_accounts",
    some "Lending contracts held by one or more addresses at one provider.", true,
    [("200", "Contracts per requested address"),
      ("400", "Invalid request, address or asset"),
      ("404", "Unknown provider"),
      ("502", "Provider unavailable")]⟩,
  ⟨"/api/v1/lending/providers", "get", "lending", "list_providers",
    some "Lending providers, their info and supported assets.", false,
    [("200", "Providers that answered, sorted by id")]⟩,
  ⟨"/api/v1/lending/rates/\x7bprovider\x7d", "post", "lending", "get_rates",
    some "Lending rates of one provider for one or more assets.", true,
    [("200", "Rates for the requested assets"),
      ("400", "Invalid request or asset"),
      ("404", "Unknown provider"),
      ("502", "Provider unavailable")]⟩,
  ⟨"/api/v1/readyz", "get", "health", "readyz", none, false, [("200", "Ready")]⟩]

def providerParameter : Tree :=
  .object [("name", .text "provider"), ("in", .text "path"),
    ("description", .text "Lending provider id"), ("required", .boolean true),
    ("schema", .object [("type", .text "string")])]

def Described.toTree (operation : Described) : Tree :=
  .object <|
    [("tags", .list [.text operation.group])]
      ++ (operation.summary.toList.map fun summary => ("summary", .text summary))
      ++ [("operationId", .text operation.name)]
      ++ (if operation.ofProvider then [("parameters", .list [providerParameter])] else [])
      ++ [("responses", .object (operation.answers.map fun (status, meaning) =>
        (status, .object [("description", .text meaning)])))]

/-- The description of the gateway. -/
def documentation : Tree :=
  .object [
    ("openapi", .text "3.0.3"),
    ("info", .object [("title", .text "lendgate-server"), ("description", .text ""),
      ("license", .object [("name", .text "")]), ("version", .text "0.1.0")]),
    ("paths", .object (describedOperations.map fun operation =>
      (operation.path, .object [(operation.method, operation.toTree)]))),
    ("tags", .list [.object [("name", .text "lending")]])]

end Http
end LendingGateway
