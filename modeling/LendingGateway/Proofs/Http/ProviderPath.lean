import LendingGateway.Http.Route
import LendingGateway.Proofs.Text.Split

namespace LendingGateway
namespace Http

/-!
# Paths that name a provider

A segment without a slash stands alone behind the fixed part of a path, so whatever
identifier it encodes reaches the operation that the fixed part names.
-/

/-- The segments of a path that names an operation on a provider. -/
private theorem segments_of_providerPath (operation : String) {segment : String}
    (plain : '/' ∉ operation.toList) (single : '/' ∉ segment.toList) :
    (Text.splitAt '/' ("/api/v1/lending/" ++ operation ++ "/" ++ segment).toList).map
      String.ofList = ["", "api", "v1", "lending", operation, segment] := by
  have joined : ("/api/v1/lending/" ++ operation ++ "/" ++ segment).toList =
      [[], "api".toList, "v1".toList, "lending".toList, operation.toList].foldr
        (fun piece text => piece ++ '/' :: text) segment.toList := by
    rw [String.toList_append, String.toList_append, String.toList_append, List.append_assoc,
      List.append_assoc]
    rfl
  have free : ∀ piece ∈ [[], "api".toList, "v1".toList, "lending".toList, operation.toList],
      '/' ∉ piece := by
    intro piece member
    simp only [List.mem_cons, List.not_mem_nil, or_false] at member
    rcases member with rfl | rfl | rfl | rfl | rfl
    · decide
    · decide
    · decide
    · decide
    · exact plain
  rw [joined, Text.splitAt_joined _ free single]
  simp only [List.cons_append, List.nil_append, List.map_cons, List.map_nil,
    String.ofList_toList]

theorem ofPath?_rates {segment : String} (single : '/' ∉ segment.toList)
    (nonempty : segment ≠ "") :
    Route.ofPath? ("/api/v1/lending/rates/" ++ segment) = some (.rates segment) := by
  have segments := segments_of_providerPath "rates" (by decide) single
  have whole : "/api/v1/lending/rates/" = "/api/v1/lending/" ++ "rates" ++ "/" := rfl
  unfold Route.ofPath?
  rw [whole, segments]
  exact if_neg nonempty

theorem ofPath?_account {segment : String} (single : '/' ∉ segment.toList)
    (nonempty : segment ≠ "") :
    Route.ofPath? ("/api/v1/lending/account/" ++ segment) = some (.account segment) := by
  have segments := segments_of_providerPath "account" (by decide) single
  have whole : "/api/v1/lending/account/" = "/api/v1/lending/" ++ "account" ++ "/" := rfl
  unfold Route.ofPath?
  rw [whole, segments]
  exact if_neg nonempty

end Http
end LendingGateway
