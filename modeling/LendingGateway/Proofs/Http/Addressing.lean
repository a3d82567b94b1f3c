import LendingGateway.Proofs.Http.ProviderListing
import LendingGateway.Proofs.Service.Listing
import LendingGateway.Proofs.Service.Provenance
import LendingGateway.Proofs.Text.Percent
import Mathlib.Data.List.TakeWhile

namespace LendingGateway
namespace Http

open Lending Backend

/-!
# Listed providers can be asked

A listing tells the identifiers under which queries can be made.  An identifier may hold
any characters, so a caller encodes each of its octets.  The segment that comes out holds
no slash, decodes to the identifier, and leads to the very backend that is listed under
it.  Identifiers are never empty, so the segment is not missing either.
-/

/-! ## Targets of encoded octets -/

/-- A path of plain characters is read as it stands. -/
theorem readTarget_of_path {path : List Char} (slash : path.head? = some '/')
    (plain : ∀ c ∈ path, isPathChar c = true ∧ c ≠ '#' ∧ c ≠ '?')
    (short : (String.ofList path).utf8ByteSize ≤ targetLimit) :
    readTarget (String.ofList path) = .ok (String.ofList path) := by
  have whole : readPathAndQuery path = .ok (String.ofList path) := by
    have kept : path.takeWhile (· != '#') = path :=
      List.takeWhile_eq_self_iff.mpr fun c member => bne_iff_ne.mpr (plain c member).2.1
    have read : path.takeWhile (· != '?') = path :=
      List.takeWhile_eq_self_iff.mpr fun c member => bne_iff_ne.mpr (plain c member).2.2
    have queryless : path.dropWhile (· != '?') = [] :=
      List.dropWhile_eq_nil_iff.mpr fun c member => bne_iff_ne.mpr (plain c member).2.2
    have admitted : path.all isPathChar = true :=
      List.all_eq_true.mpr fun c member => (plain c member).1
    have nonempty : path.isEmpty = false := by
      cases path with
      | nil => cases slash
      | cons => rfl
    unfold readPathAndQuery
    simp only [kept, read, queryless, admitted, nonempty, List.drop_nil, List.all_nil,
      Bool.and_true, if_true, Bool.false_eq_true, if_false]
  unfold readTarget
  rw [if_neg (Nat.not_lt.mpr short), String.toList_ofList]
  cases path with
  | nil => cases slash
  | cons first rest =>
    cases slash
    exact whole

/-- A request to a readable target can be made with any headers that can be sent. -/
theorem make_post {target : String} (read : readTarget target = .ok target)
    {headers : List Header} (sendable : headers.forM checkHeader = .ok ()) (body : List UInt8) :
    Request.make "POST" target headers body = .ok ⟨"POST", target, headers, body, none⟩ := by
  have token : isToken "POST" = true := by decide
  unfold Request.make
  rw [token, if_neg (by decide), read]
  simp only [bind, Except.bind, sendable]

theorem readTarget_of_percentEncodes {front segment : String} {bytes : List UInt8}
    (slash : front.toList.head? = some '/')
    (plain : ∀ c ∈ front.toList, isPathChar c = true ∧ c ≠ '#' ∧ c ≠ '?')
    (encodes : Text.PercentEncodes segment.toList bytes)
    (short : (front ++ segment).utf8ByteSize ≤ targetLimit) :
    readTarget (front ++ segment) = .ok (front ++ segment) := by
  have digits : ∀ c ∈ "%0123456789ABCDEFabcdef".toList,
      isPathChar c = true ∧ c ≠ '#' ∧ c ≠ '?' := by simp [isPathChar]
  have joined : front ++ segment = String.ofList (front.toList ++ segment.toList) := by
    rw [String.ofList_append, String.ofList_toList, String.ofList_toList]
  rw [joined] at short ⊢
  apply readTarget_of_path _ _ short
  · cases characters : front.toList with
    | nil =>
      rw [characters] at slash
      cases slash
    | cons first rest =>
      rw [characters] at slash
      exact slash
  · intro c member
    rcases List.mem_append.mp member with fixed | encoded
    · exact plain c fixed
    · exact digits c (encodes.chars c encoded)

/-- The segment of an encoded identifier is a segment, and decodes to it. -/
theorem decodeSegment?_of_percentEncodes {segment id : String}
    (encodes : Text.PercentEncodes segment.toList (Text.octets id)) (named : id ≠ "") :
    '/' ∉ segment.toList ∧ segment ≠ "" ∧ decodeSegment? segment = some id := by
  refine ⟨?_, ?_, ?_⟩
  · intro slash
    exact absurd (encodes.chars '/' slash) (by decide)
  · rintro rfl
    cases octets : Text.octets id with
    | nil =>
      have whole := Text.ofOctets?_octets id
      rw [octets] at whole
      exact named (Option.some.inj whole).symm
    | cons octet rest =>
      rw [octets] at encodes
      exact encodes.ne_nil (List.cons_ne_nil _ _) rfl
  · have decoded := encodes.decode
    rw [String.ofList_toList] at decoded
    rw [decodeSegment?, decoded, Text.ofOctets?_octets]

theorem percentEncodes_encodeSegment (id : String) :
    Text.PercentEncodes (encodeSegment id).toList (Text.octets id) := by
  rw [encodeSegment, String.toList_ofList]
  exact Text.percentEncodes_percentEncode (Text.octets id)

/-! ## Asking a backend -/

/-- Queries to a target reach a backend: requests to the target can be made, the target
is that of the operation, and the bodies that can be read are put to the backend alone.
The response is then never that of something unknown. -/
structure Reaches {α β : Type} [Json.Wire α] [Json.Wire β] (gateway : Gateway) (target : String)
    (route : Route) (backend : Backend) (question : Service.Question)
    (reply : Backend → α → Reply β) : Prop where
  made : target.utf8ByteSize ≤ targetLimit → ∀ headers body,
    headers.forM checkHeader = .ok () →
      Request.make "POST" target headers body = .ok ⟨"POST", target, headers, body, none⟩
  routed : Route.ofPath? target = some route
  dispatched : ∀ headers body value, HoldsBody α ⟨"POST", target, headers, body⟩ value →
    dispatch gateway.service ⟨"POST", target, headers, body⟩ =
      .ofAsked ⟨reply backend value, [⟨backend.id, question⟩]⟩
  called : ∀ headers body value, HoldsBody α ⟨"POST", target, headers, body⟩ value →
    (gateway.serve ⟨"POST", target, headers, body⟩).calls = [⟨backend.id, question⟩]
  known : ∀ headers body value, HoldsBody α ⟨"POST", target, headers, body⟩ value →
    (gateway.serve ⟨"POST", target, headers, body⟩).response.status ≠ 404

/-- A response is that of its operation, or says that it came too late. -/
theorem status_serve (gateway : Gateway) (request : Request) :
    (gateway.serve request).response.status = 408 ∨
      ∃ finished, (dispatch gateway.service request).finished = some finished ∧
        (gateway.serve request).response.status = finished.response.status := by
  unfold Gateway.serve
  split
  · exact Or.inl rfl
  · cases finishes : (dispatch gateway.service request).finished with
    | none => exact Or.inl (by simp only [finishes]; rfl)
    | some finished =>
      simp only [finishes]
      split
      · exact Or.inr ⟨finished, rfl, rfl⟩
      · exact Or.inl rfl

/-- No query to a backend is answered as something unknown if the backend's own errors
never say so. -/
theorem status_ofAsked_ne {β : Type} [Json.Wire β] {reply : Reply β} {calls : List Service.Call}
    (known : ∀ error, reply.Gives (.error error) → ∀ name, error ≠ .unknownProvider name)
    {finished : Finished}
    (finishes : (Operation.ofAsked ⟨reply, calls⟩).finished = some finished) :
    finished.response.status ≠ 404 := by
  cases replied : reply with
  | never =>
    simp only [Operation.ofAsked, replied] at finishes
    cases finishes
  | after ticks outcome events =>
    cases outcome with
    | ok docs =>
      simp only [Operation.ofAsked, replied] at finishes
      cases finishes
      exact (by decide : 200 ≠ 404)
    | error error =>
      have never := known error ⟨ticks, events, replied⟩
      simp only [Operation.ofAsked, replied] at finishes
      cases finishes
      cases error with
      | unknownProvider name => exact absurd rfl (never name)
      | unavailable => exact (by decide : 502 ≠ 404)
      | invalidAsset => exact (by decide : 400 ≠ 404)
      | invalidAddress => exact (by decide : 400 ≠ 404)

theorem reaches_of_registered {α β : Type} [Json.Wire α] [Json.Wire β] {gateway : Gateway}
    (positive : 0 < gateway.timeout.micros) {target segment : String} {route : Route}
    {backend : Backend} (read : target.utf8ByteSize ≤ targetLimit → readTarget target = .ok target)
    (routed : Route.ofPath? target = some route) (takesBody : route.takesBody = true)
    (decoded : decodeSegment? segment = some backend.id)
    (registered : gateway.service.registry.get? backend.id = some backend)
    (question : Service.Question) (query : α → Query β)
    (puts : ∀ value, .ofQuery (query value) = question)
    (asks : ∀ request, operation gateway.service request route =
      operationOn segment request fun id value => gateway.service.ask id (query value))
    (known : ∀ value error, (backend.answer (query value)).Gives (.error error) →
      ∀ name, error ≠ .unknownProvider name) :
    Reaches gateway target route backend question fun backend value =>
      backend.answer (query value) := by
  have dispatched : ∀ headers body value, HoldsBody α ⟨"POST", target, headers, body⟩ value →
      dispatch gateway.service ⟨"POST", target, headers, body⟩ =
        .ofAsked ⟨backend.answer (query value), [⟨backend.id, question⟩]⟩ := by
    intro headers body value holds
    rw [dispatch_post rfl routed takesBody, asks, operationOn, decoded]
    simp only [readBody_of_holds holds, Service.ask, registered, Service.put, puts]
  refine ⟨?_, routed, dispatched, ?_, ?_⟩
  · exact fun short headers body sendable => make_post (read short) sendable body
  · intro headers body value holds
    rw [calls_serve positive, dispatched headers body value holds]
    rfl
  · intro headers body value holds
    rcases status_serve gateway ⟨"POST", target, headers, body⟩ with late | ⟨finished, ends, same⟩
    · rw [late]
      decide
    · rw [dispatched headers body value holds] at ends
      rw [same]
      exact status_ofAsked_ne (known value) ends

/-! ## Asking a listed provider -/

theorem id_ne_of_sound {entry : Registry.Entry} (sound : entry.Sound) : entry.id ≠ "" := by
  have telling : Registry.SaysSomething entry.id := by
    cases entry with
    | catalog provider positions => exact sound.1
    | remote id baseUrl timeout => exact sound.1
  intro empty
  rw [empty] at telling
  rcases telling with ⟨c, member, _⟩
  exact absurd member List.not_mem_nil

theorem ne_unknownProvider {error : QueryError} {id : String}
    (own : error.provider = id ∧ error ≠ .unknownProvider id) (name : String) :
    error ≠ .unknownProvider name := by
  rintro rfl
  exact own.2 (congrArg QueryError.unknownProvider own.1)

/-- The entries of a listing are those of registered backends. -/
theorem backend_of_listed {service : Service} {provider : Provider}
    (member : provider ∈ service.list.providers) :
    ∃ backend ∈ service.registry.backends, service.listed? backend = some provider := by
  rw [Service.list_providers_eq, Registry.mem_sortBy] at member
  exact List.mem_filterMap.mp member

/-- Whatever a listing hands out is an entry of a backend, and queries under the entry's
identifier reach that backend, with any encoding of each of its octets.  A listing is
handed out only if requests may take some time at all. -/
theorem listed_provider_is_reached {transport : Web.Transport} {configuration : Registry.Configuration}
    {gateway : Gateway}
    (assembled : Registry.ofConfiguration transport configuration = .ok gateway.service.registry)
    {listing : Request} (get : listing.method = "GET")
    (path : listing.path = "/api/v1/lending/providers")
    (listed : (gateway.serve listing).response.status = 200) :
    HandsOut (gateway.serve listing).response gateway.service.list.providers ∧
    ∀ provider ∈ gateway.service.list.providers,
      ∃ backend ∈ gateway.service.registry.backends,
        gateway.service.listed? backend = some provider ∧ backend.id = provider.id ∧
        ∀ segment, Text.PercentEncodes segment.toList (Text.octets provider.id) →
          Reaches gateway ("/api/v1/lending/rates/" ++ segment) (.rates segment) backend .rates
            (fun backend (query : RatesQuery) => backend.rates query.assets) ∧
          Reaches gateway ("/api/v1/lending/account/" ++ segment) (.account segment) backend
            .accounts (fun backend (query : AccountsQuery) => backend.accounts query) := by
  have positive : 0 < gateway.timeout.micros := by
    apply Nat.pos_of_ne_zero
    intro none
    have instant : gateway.timeout.ticks = 0 := by
      unfold Timeout.ticks
      rw [none]
    unfold Gateway.serve at listed
    rw [if_pos instant] at listed
    exact absurd listed (by decide)
  constructor
  · rcases serve_list positive get path with ⟨inTime, late⟩
    rcases Nat.lt_or_ge gateway.service.list.ticks gateway.timeout.ticks with early | tardy
    · exact inTime early
    · rw [late tardy] at listed
      exact absurd listed (by decide)
  · intro provider member
    rcases backend_of_listed member with ⟨backend, held, entry⟩
    have same : backend.id = provider.id := (Service.id_of_listed? entry).symm
    refine ⟨backend, held, entry, same, fun segment encodes => ?_⟩
    have registered := Registry.get?_eq_some_iff.mpr ⟨held, rfl⟩
    rcases Registry.entry_of_get? assembled registered with ⟨source, inFile, own, described⟩
    have named : provider.id ≠ "" := by
      rw [← same, ← own]
      exact id_ne_of_sound ((Registry.sound_of_ofConfiguration assembled).1 _ inFile)
    rcases decodeSegment?_of_percentEncodes encodes named with ⟨single, nonempty, decoded⟩
    rw [← same] at decoded
    constructor
    · refine reaches_of_registered positive
        (readTarget_of_percentEncodes rfl (by simp [isPathChar]) encodes) (ofPath?_rates single nonempty) rfl
        decoded registered .rates Query.rates (fun _ => rfl) (fun _ => rfl) ?_
      intro query error failed
      exact ne_unknownProvider (Registry.provider_of_ratesError
        (Registry.ratesError_of_describes described failed))
    · refine reaches_of_registered positive
        (readTarget_of_percentEncodes rfl (by simp [isPathChar]) encodes) (ofPath?_account single nonempty)
        rfl decoded registered .accounts Query.accounts (fun _ => rfl) (fun _ => rfl) ?_
      intro query error failed
      exact ne_unknownProvider (Registry.provider_of_accountsError
        (Registry.accountsError_of_describes described failed))

/-- A provider whose identifier holds a slash, a space and what looks like an encoded octet. -/
def awkwardEntry : Registry.Entry :=
  .catalog ⟨"a/b %41", ⟨"inner", "", "", ""⟩, .lending, []⟩ Json.Dictionary.empty

/-- It is listed, and the encoding of its identifier leads to it. -/
theorem listed_provider_is_reached_awkward :
    let transport : Web.Transport := fun _ => .silent
    let listing : Request := ⟨"GET", "/api/v1/lending/providers", [], [], none⟩
    let segment := "%61%2F%62%20%25%34%31"
    ∃ registry, Registry.ofConfiguration transport ⟨[awkwardEntry]⟩ = .ok registry ∧
      let gateway := Gateway.make registry ["*"] (.ofMillis 40)
      listing.method = "GET" ∧ listing.path = "/api/v1/lending/providers" ∧
      (gateway.serve listing).response.status = 200 ∧ encodeSegment "a/b %41" = segment ∧
      ∃ provider ∈ gateway.service.list.providers, provider.id = "a/b %41" ∧
        ∃ backend ∈ gateway.service.registry.backends,
          gateway.service.listed? backend = some provider ∧
          Reaches gateway ("/api/v1/lending/rates/" ++ segment) (.rates segment) backend .rates
            (fun backend (query : RatesQuery) => backend.rates query.assets) := by
  intro transport listing segment
  refine ⟨_, rfl, ?_⟩
  intro gateway
  have assembled : Registry.ofConfiguration transport ⟨[awkwardEntry]⟩ =
      .ok gateway.service.registry := rfl
  have inTime : gateway.service.list.ticks < gateway.timeout.ticks := by decide
  have positive : 0 < gateway.timeout.micros := by decide
  have path : listing.path = "/api/v1/lending/providers" := rfl
  have served := (serve_list positive rfl path).1 inTime
  have listed : gateway.service.list.providers =
      [⟨"a/b %41", ⟨"inner", "", "", ""⟩, .lending, []⟩] := by
    rw [Service.list_providers_eq]
    have entries : gateway.service.registry.backends.filterMap gateway.service.listed? =
        [⟨"a/b %41", ⟨"inner", "", "", ""⟩, .lending, []⟩] := rfl
    rw [entries, Registry.sortBy, List.mergeSort_singleton]
  rcases (listed_provider_is_reached assembled rfl rfl served.1).2 _
    (listed ▸ List.mem_singleton_self _) with ⟨backend, held, entry, _, reached⟩
  have written : encodeSegment "a/b %41" = segment := by decide
  refine ⟨rfl, rfl, served.1, written, _, listed ▸ List.mem_singleton_self _, rfl, backend,
    held, entry, (reached segment ?_).1⟩
  rw [← written]
  exact percentEncodes_encodeSegment "a/b %41"

end Http
end LendingGateway
