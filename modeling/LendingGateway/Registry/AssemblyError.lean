import LendingGateway.Json.Fault

namespace LendingGateway
namespace Registry

/-!
# Why the gateway cannot start

The registry of providers is assembled once.  Anything wrong with the provider file or
with one of its entries keeps the gateway from starting.
-/

/-- What is wrong with an entry of the provider file. -/
inductive EntryError where
  | blankCatalogId
  | blankRemoteId
  /-- A deposit is of an asset that the catalog does not have. -/
  | unknownAsset (provider address symbol : String)
  /-- The address of another gateway is no web address with a host. -/
  | unusableBaseUrl (provider baseUrl : String)
deriving DecidableEq, Repr

def EntryError.message : EntryError → String
  | .blankCatalogId => "static provider id must not be empty"
  | .blankRemoteId => "remote provider id must not be empty"
  | .unknownAsset provider address symbol =>
    "provider '" ++ provider ++ "': position of " ++ address ++ " references unknown asset "
      ++ symbol
  | .unusableBaseUrl provider baseUrl =>
    "provider '" ++ provider ++ "': base_url must be an http(s) URL with a host, got '"
      ++ baseUrl ++ "'"

/-- Why a file cannot be read as text. -/
inductive ReadError where
  | missing
  | directory
  /-- The path leads on from something that is no directory. -/
  | notDirectory
  /-- A name in the path is too long, or the path itself. -/
  | longName
  | notText
deriving DecidableEq, Repr

def ReadError.message : ReadError → String
  | .missing => "No such file or directory (os error 2)"
  | .directory => "Is a directory (os error 21)"
  | .notDirectory => "Not a directory (os error 20)"
  | .longName => "File name too long (os error 36)"
  | .notText => "stream did not contain valid UTF-8"

/-- Why a registry cannot be assembled. -/
inductive AssemblyError where
  | duplicateProvider (id : String)
  | unreadable (path : String) (reason : ReadError)
  | malformed (fault : Json.Fault)
  | invalidEntry (reason : EntryError)

def AssemblyError.message : AssemblyError → String
  | .duplicateProvider id => "Duplicate provider id: " ++ id
  | .unreadable path reason => "Failed to read provider config " ++ path ++ ": " ++ reason.message
  | .malformed fault => "Failed to parse provider config: " ++ fault.message
  | .invalidEntry reason => "Invalid provider config: " ++ reason.message

/-- The message of what lies behind an error, if that is an error of its own. -/
def AssemblyError.source? : AssemblyError → Option String
  | .unreadable _ reason => some reason.message
  | .malformed fault => some fault.message
  | .duplicateProvider _ | .invalidEntry _ => none

end Registry
end LendingGateway
