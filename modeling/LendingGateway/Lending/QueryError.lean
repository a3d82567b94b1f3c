namespace LendingGateway
namespace Lending

/-!
# Why a query fails

A query fails because of what the caller asked for, or because a provider could not
answer.  Every error names the provider that the caller asked.
-/

inductive QueryError where
  /-- No provider is registered under the name. -/
  | unknownProvider (provider : String)
  /-- The provider cannot be reached, or its answer cannot be used. -/
  | unavailable (provider reason : String)
  /-- The provider refuses an asset; the detail is its symbol or the provider's words. -/
  | invalidAsset (provider detail : String)
  /-- The provider refuses an address; the detail is the address or the provider's words. -/
  | invalidAddress (provider detail : String)
deriving DecidableEq, Repr

def QueryError.provider : QueryError → String
  | .unknownProvider provider => provider
  | .unavailable provider _ => provider
  | .invalidAsset provider _ => provider
  | .invalidAddress provider _ => provider

def QueryError.message : QueryError → String
  | .unknownProvider provider => "Unknown provider " ++ provider
  | .unavailable provider reason => "Provider unavailable: " ++ provider ++ " - " ++ reason
  | .invalidAsset provider detail => "Invalid asset for " ++ provider ++ ": " ++ detail
  | .invalidAddress provider detail => "Invalid address for " ++ provider ++ ": " ++ detail

/-- Whether the caller is to blame rather than the provider. -/
def QueryError.isCallersFault : QueryError → Bool
  | .unknownProvider _ | .invalidAsset .. | .invalidAddress .. => true
  | .unavailable .. => false

end Lending
end LendingGateway
