import LendingGateway.Proofs.Http.ProviderQuery
import LendingGateway.Proofs.Service.ListingTime
import LendingGateway.Proofs.Service.StoredTime

namespace LendingGateway
namespace Http

open Lending Backend

/-!
# Listings within the time of a request

A listing gives every backend four fifths of the time of its request.  The clock ticks once
a millisecond, so both times are up at the same tick if the request has fewer than five
milliseconds, and the request is then given up first.  From five milliseconds on a listing
is always handed out.
-/

/-- The deadline of a listing takes effect before its request is given up if the request
has five milliseconds or more. -/
theorem listingDeadline_ticks_lt_iff {millis : Nat} :
    (listingDeadline (.ofMillis millis)).ticks < millis ↔ 5 ≤ millis := by
  simp only [listingDeadline, Timeout.fourFifths, Timeout.ticks, Timeout.ofMillis]
  omega

theorem le_listingDeadline_ticks {millis : Nat} (short : millis < 5) :
    millis ≤ (listingDeadline (.ofMillis millis)).ticks := by
  simp only [listingDeadline, Timeout.fourFifths, Timeout.ticks, Timeout.ofMillis]
  omega

theorem dispatch_providers {service : Service} {request : Request}
    (get : request.method = "GET") (path : request.path = "/api/v1/lending/providers") :
    dispatch service request = .ofListing service.list := by
  have routed : Route.ofPath? "/api/v1/lending/providers" = some .providers := by decide
  have accepted : Route.providers.accepts "GET" = true := by decide
  have whole : ∀ response : Response, response.trimFor "GET" = response :=
    fun _ => if_neg (by decide)
  unfold dispatch
  rw [path, routed, get, if_neg (by decide)]
  simp only [accepted, if_true, whole, Option.map_id']
  rfl

/-- A listing is handed out exactly if it takes less than the time of its request. -/
theorem serve_list {gateway : Gateway} (positive : 0 < gateway.timeout.micros)
    {request : Request} (get : request.method = "GET")
    (path : request.path = "/api/v1/lending/providers") :
    (gateway.service.list.ticks < gateway.timeout.ticks →
      HandsOut (gateway.serve request).response gateway.service.list.providers) ∧
    (gateway.timeout.ticks ≤ gateway.service.list.ticks →
      (gateway.serve request).response = timedOut) := by
  have dispatched : dispatch gateway.service request = .ofListing gateway.service.list :=
    dispatch_providers get path
  constructor
  · intro inTime
    rw [serve_in_time dispatched inTime]
    exact handsOut_docsResponse _
  · intro late
    apply serve_late positive
    intro finished finishes
    rw [dispatched] at finishes
    cases finishes
    exact late

/-- The deadline of a listing can be taken of every number of milliseconds, and it is below
the time of the request.  The listing is handed out if the request has five milliseconds or
more, or if all backends answer before its last tick; otherwise the request is given up. -/
theorem serve_providers (registry : Registry) (origins : List String) (millis : UInt64)
    (positive : 0 < millis.toNat) (request : Request) (get : request.method = "GET")
    (path : request.path = "/api/v1/lending/providers") :
    let gateway := Gateway.make registry origins (.ofMillis millis.toNat)
    (∃ multiple, (StoredTime.ofMillis millis).times? 4 = some multiple ∧
      (multiple.part 5 (by decide)).totalNanos = gateway.service.deadline.micros * 1000) ∧
    gateway.service.deadline.micros < gateway.timeout.micros ∧
    (5 ≤ millis.toNat ∨
        (∀ backend ∈ registry.backends, Service.AnswersBefore millis.toNat backend) →
      HandsOut (gateway.serve request).response gateway.service.list.providers) ∧
    (millis.toNat < 5 ∧
        (∃ backend ∈ registry.backends, ¬ Service.AnswersBefore millis.toNat backend) →
      (gateway.serve request).response = timedOut) := by
  intro gateway
  have timed : 0 < gateway.timeout.micros := Nat.mul_pos positive (by decide)
  have limit : gateway.timeout.ticks = millis.toNat := Timeout.ticks_ofMillis millis.toNat
  have served := serve_list timed get path
  rw [limit] at served
  refine ⟨StoredTime.fourFifths_ofMillis millis, Timeout.fourFifths_micros_lt timed, ?_, ?_⟩
  · rintro (long | early)
    · apply served.1
      exact Nat.lt_of_le_of_lt gateway.service.ticks_list_le
        (listingDeadline_ticks_lt_iff.mpr long)
    · apply served.1
      refine gateway.service.ticks_list_lt_iff.mpr ⟨positive, fun backend member => ?_⟩
      by_cases short : millis.toNat < 5
      · exact (Service.ticks_hear_lt_iff (le_listingDeadline_ticks short) backend).mpr
          (early backend member)
      · exact Nat.lt_of_le_of_lt (gateway.service.ticks_hear_le backend)
          (listingDeadline_ticks_lt_iff.mpr (Nat.not_lt.mp short))
  · rintro ⟨short, backend, member, silent⟩
    apply served.2
    apply Nat.not_lt.mp
    intro inTime
    have heard := (gateway.service.ticks_list_lt_iff.mp inTime).2 backend member
    exact silent
      ((Service.ticks_hear_lt_iff (le_listingDeadline_ticks short) backend).mp heard)

/-- With five milliseconds, the listing of a backend that never answers is handed out. -/
theorem serve_providers_silent :
    let gateway := Gateway.make ⟨[mute "slow"], by decide⟩ ["*"] (.ofMillis 5)
    let request : Request := ⟨"GET", "/api/v1/lending/providers", [], [], none⟩
    0 < (5 : UInt64).toNat ∧ request.method = "GET" ∧
      request.path = "/api/v1/lending/providers" ∧
        HandsOut (gateway.serve request).response gateway.service.list.providers := by
  intro gateway request
  have answered := serve_providers ⟨[mute "slow"], by decide⟩ ["*"] 5 (by decide) request rfl rfl
  exact ⟨by decide, rfl, rfl, answered.2.2.1 (Or.inl (by decide))⟩

/-- With one millisecond the deadline of the listing is still below it, and yet the request
is given up. -/
theorem listing_gives_up :
    let gateway := Gateway.make ⟨[mute "slow"], by decide⟩ ["*"] (.ofMillis 1)
    let request : Request := ⟨"GET", "/api/v1/lending/providers", [], [], none⟩
    0 < gateway.timeout.micros ∧ gateway.service.deadline.micros < gateway.timeout.micros ∧
      (gateway.serve request).response.status = 408 := by
  decide

end Http
end LendingGateway
