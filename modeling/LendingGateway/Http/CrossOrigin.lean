import LendingGateway.Http.Message
import LendingGateway.Log.Event

namespace LendingGateway
namespace Http

/-!
# Requests from other origins

A page of another origin may read a response only if the response allows its origin.
Either every origin is allowed, or the ones on a list are: the origin of the request is
then repeated in the response if it is on the list.
-/

/-- Which origins are allowed. -/
inductive OriginPolicy where
  | any
  | listed (origins : List String)
deriving DecidableEq, Repr

/-- The policy that lists some origins.  A star is none, so a list that holds one is refused. -/
def OriginPolicy.list? (origins : List String) : Option OriginPolicy :=
  if origins.contains "*" then none else some (.listed origins)

/-- The policy of the origins that are set, unless their list is refused.  A star allows every
origin; an origin that cannot stand in a header allows none. -/
def OriginPolicy.build? (origins : List String) : Option OriginPolicy :=
  if origins.contains "*" then some .any
  else OriginPolicy.list? (origins.filter isHeaderValue)

/-- No list is refused, because none is made when a star is set. -/
theorem OriginPolicy.isSome_build? (origins : List String) :
    (OriginPolicy.build? origins).isSome = true := by
  by_cases star : origins.contains "*" = true
  · rw [build?, if_pos star]
    rfl
  · have starless : ¬ (origins.filter isHeaderValue).contains "*" = true := by
      rw [List.contains_iff_mem] at star ⊢
      exact fun kept => star (List.mem_filter.mp kept).1
    rw [build?, if_neg star, list?, if_neg starless]
    rfl

def OriginPolicy.ofList (origins : List String) : OriginPolicy :=
  (OriginPolicy.build? origins).get (OriginPolicy.isSome_build? origins)

def originEvents (origins : List String) : List Log.Event :=
  if origins.contains "*" then []
  else
    (origins.filter fun origin => !isHeaderValue origin).map fun origin =>
      ⟨.warn, "lendgate_server::api", "Ignoring invalid CORS origin '" ++ origin ++ "'"⟩

/-- The origin that a response allows, if any. -/
def OriginPolicy.allowed? (policy : OriginPolicy) (request : Request) : Option String :=
  match policy with
  | .any => some "*"
  | .listed origins => (header? "origin" request.headers).filter origins.contains

/-- The headers that tell a page whether it may read a response. -/
def OriginPolicy.headers (policy : OriginPolicy) (request : Request) : List Header :=
  (policy.allowed? request).toList.map (fun origin => ("access-control-allow-origin", origin))
    ++ [("vary",
      "origin, access-control-request-method, access-control-request-headers")]

end Http
end LendingGateway
