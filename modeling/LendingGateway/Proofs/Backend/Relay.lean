import LendingGateway.Backend.Remote
import LendingGateway.Proofs.Documents
import LendingGateway.Proofs.Text.Lossy
import LendingGateway.Proofs.Web.Endpoint

namespace LendingGateway
namespace Backend

open Json Lending Web

/-!
# Remote providers stand for the backends behind them

A gateway in front of a backend answers a request by the document of what the backend
yields, or by a rejection with the words of its error.  A remote provider that asks such a
gateway is therefore as good as the backend itself: it hands out the same values at the
same time, and it refuses what the backend refuses, in its own name and in the words of
the backend.  All that is asked of the network is that it carries the answers in time, and
of the base address that requests can be sent below it.
-/

/-! ## Base addresses -/

/-- A base address as one writes it: nothing in it is dropped or carried off into a query
or a fragment, and requests can be sent to what lies below it. -/
structure Plain (base : String) (url : Url) : Prop where
  visible : ∀ c ∈ base.toList, 0x20 < c.toNat
  read : Url.read? base = some url
  noQuery : url.query = none
  noFragment : url.fragment = none
  host : url.host.render.toList.all Http.isAuthorityChar = true
  /-- There is room for the longest endpoint in the target of a request. -/
  room : url.withoutUser.render.utf8ByteSize + "/account".utf8ByteSize ≤ Http.targetLimit

theorem withoutUser_path (url : Url) (path : List String) :
    ({ url with path := path } : Url).withoutUser = { url.withoutUser with path := path } := by
  unfold Url.withoutUser
  dsimp only
  cases decodeText? url.username with
  | none => rfl
  | some username =>
    by_cases anonymous : username = "" ∧ url.password.bind decodeText? = none
    · simp only [if_pos anonymous]
    · simp only [if_neg anonymous]

theorem path_withoutUser (url : Url) : url.withoutUser.path = url.path :=
  (congrArg Url.path (withoutUser_path url url.path) :)

theorem renderPath_concat (url : Url) (path : List String) (name : String) :
    ({ url with path := path ++ [name] } : Url).renderPath =
      ({ url with path := path } : Url).renderPath ++ ("/" ++ name) := by
  simp only [Url.renderPath, List.map_append, String.join_append, List.map_cons, List.map_nil,
    String.join_cons, String.join_nil, String.append_empty]

theorem size_renderPath_concat (url : Url) (kept : List String) (name : String) :
    ({ url with path := kept ++ [name] } : Url).renderPath.utf8ByteSize =
      ({ url with path := kept } : Url).renderPath.utf8ByteSize + ("/" ++ name).utf8ByteSize := by
  rw [renderPath_concat, String.utf8ByteSize_append]

/-- An address grows by no more than the segment that is put behind its path. -/
theorem size_render_concat {url : Url} {kept : List String}
    (before : url.path = kept ∨ url.path = kept ++ [""]) (name : String) :
    ({ url with path := kept ++ [name] } : Url).render.utf8ByteSize ≤
      url.render.utf8ByteSize + ("/" ++ name).utf8ByteSize := by
  have shrinks : ({ url with path := kept } : Url).renderPath.utf8ByteSize ≤
      url.renderPath.utf8ByteSize := by
    -- The empty segment that points leave at the end of a path is given up.
    rcases before with same | longer
    · rw [← same]
    · have grown := size_renderPath_concat url kept ""
      rw [← longer] at grown
      exact Nat.le.intro grown.symm
  have grown := size_renderPath_concat url kept name
  have user : ({ url with path := kept ++ [name] } : Url).renderUser = url.renderUser := rfl
  simp only [Url.render, String.utf8ByteSize_append, user] at grown ⊢
  omega

theorem Plain.endpoint {base : String} {url : Url} (plain : Plain base url) {name : String}
    (segment : IsSegment name) (short : ("/" ++ name).utf8ByteSize ≤ "/account".utf8ByteSize) :
    ∃ target, Url.read? (base ++ ("/" ++ name)) = some target ∧
      Remote.isTarget target = true ∧ target.path.getLast? = some name := by
  rcases read?_append plain.visible plain.read plain.noQuery plain.noFragment segment with
    ⟨kept, before, read⟩
  rw [String.append_assoc] at read
  refine ⟨_, read, ?_, List.getLast?_concat⟩
  rw [← path_withoutUser] at before
  rw [Remote.isTarget, withoutUser_path, Bool.and_eq_true, decide_eq_true_eq]
  refine ⟨plain.host, ?_⟩
  calc
    _ ≤ url.withoutUser.render.utf8ByteSize + ("/" ++ name).utf8ByteSize :=
      size_render_concat before name
    _ ≤ url.withoutUser.render.utf8ByteSize + "/account".utf8ByteSize :=
      Nat.add_le_add_left short _
    _ ≤ Http.targetLimit := plain.room

theorem isSegment_info : IsSegment "info" :=
  ⟨by simp, by simp [endsAuthority], rfl⟩

theorem isSegment_rates : IsSegment "rates" :=
  ⟨by simp, by simp [endsAuthority], rfl⟩

theorem isSegment_account : IsSegment "account" :=
  ⟨by simp, by simp [endsAuthority], rfl⟩

/-! ## A gateway in front of a backend -/

/-- What a gateway in front of a backend answers to a question: the document of the value,
or a rejection with the words of the error. -/
def Reply.exchange {α : Type} [Wire α] : Reply α → Exchange
  | .after ticks (.ok value) _ => .answered ticks ⟨200, Text.octets (Wire.encode value), true⟩
  | .after ticks (.error error) _ => .answered ticks ⟨400, Text.octets error.message, true⟩
  | .never => .silent

/-- A network on which a gateway in front of a backend answers below a base address.  A body
is read as the request it should be; how other requests are answered is left open. -/
structure Fronts (transport : Transport) (base : String) (backend : Backend) : Prop where
  info : ∀ url, Url.read? (base ++ "/info") = some url →
    transport (.get url) = backend.info.exchange
  rates : ∀ url body query, Url.read? (base ++ "/rates") = some url →
    Wire.decode RatesQuery (Text.octets body) = .ok query →
      transport (.post url body) = (backend.rates query.assets).exchange
  accounts : ∀ url body query, Url.read? (base ++ "/account") = some url →
    Wire.decode AccountsQuery (Text.octets body) = .ok query →
      transport (.post url body) = (backend.accounts query).exchange

/-- The yields in whatever a backend answers read back from their literals. -/
structure YieldsReadBack (backend : Backend) : Prop where
  info : ∀ ticks provider events, backend.info = .after ticks (.ok provider) events →
    ∀ asset ∈ provider.assets, ReadsBack asset.apy
  rates : ∀ symbols ticks rates events,
    backend.rates symbols = .after ticks (.ok rates) events →
      ∀ rate ∈ rates, ReadsBack rate.apy
  accounts : ∀ request ticks accounts events,
    backend.accounts request = .after ticks (.ok accounts) events →
      ∀ account ∈ accounts, ∀ contract ∈ account.contracts, ReadsBack contract.asset.apy

/-- The answer to a body: that to the request it is read as, or a rejection. -/
def answerTo (α : Type) {β : Type} [Wire α] [Wire β] (reply : α → Reply β) (body : String) :
    Exchange :=
  match Wire.decode α (Text.octets body) with
  | .ok query => (reply query).exchange
  | .error _ => .answered 0 ⟨400, [], true⟩

/-- The network with nothing on it but a gateway in front of a backend. -/
def gatewayAt (base : String) (backend : Backend) : Transport
  | .get url =>
    if Url.read? (base ++ "/info") = some url then backend.info.exchange
    else .answered 0 ⟨404, [], true⟩
  | .post url body =>
    if Url.read? (base ++ "/rates") = some url then
      answerTo RatesQuery (fun query => backend.rates query.assets) body
    else if Url.read? (base ++ "/account") = some url then
      answerTo AccountsQuery backend.accounts body
    else .answered 0 ⟨404, [], true⟩

theorem answerTo_decoded {α β : Type} [Wire α] [Wire β] {reply : α → Reply β} {body : String}
    {query : α} (decoded : Wire.decode α (Text.octets body) = .ok query) :
    answerTo α reply body = (reply query).exchange := by
  rw [answerTo, decoded]

/-- Below a plain base address a gateway can answer for any backend, since the endpoints have
addresses of their own. -/
theorem fronts_gatewayAt {base : String} {url : Url} (plain : Plain base url)
    (backend : Backend) : Fronts (gatewayAt base backend) base backend := by
  refine ⟨?_, ?_, ?_⟩
  · intro url read
    exact if_pos read
  · intro url body query read decoded
    exact (if_pos read).trans (answerTo_decoded decoded)
  · intro url body query read decoded
    -- The last segments tell the two addresses apart.
    have other : Url.read? (base ++ "/rates") ≠ some url := by
      rcases plain.endpoint isSegment_rates (by decide) with ⟨rates, ratesRead, _, ratesLast⟩
      rcases plain.endpoint isSegment_account (by decide) with
        ⟨account, accountRead, _, accountLast⟩
      intro same
      have ratesUrl : rates = url := Option.some.inj (ratesRead.symm.trans same)
      have accountUrl : account = url := Option.some.inj (accountRead.symm.trans read)
      rw [ratesUrl] at ratesLast
      rw [accountUrl, ratesLast] at accountLast
      exact absurd (Option.some.inj accountLast) (by decide)
    exact (if_neg other).trans ((if_pos read).trans (answerTo_decoded decoded))

/-! ## What becomes of a reply -/

/-- A reply near by passes on a reply far away.  A value that comes in time is handed out as
it is, and there are no others; an error that comes in time is refused in its words; and
when nothing comes in time, the provider is unavailable as soon as the time is up. -/
structure Relays {α : Type} (remote : Remote) (rejected : String → QueryError)
    (near far : Reply α) : Prop where
  value : ∀ ticks value, (∃ events, near = .after ticks (.ok value) events) ↔
    ticks ≤ remote.timeout ∧ ∃ events, far = .after ticks (.ok value) events
  refused : ∀ ticks error events, far = .after ticks (.error error) events →
    ticks ≤ remote.timeout →
      ∃ events, near = .after ticks (.error (rejected error.message)) events
  late : (∀ ticks outcome events, far = .after ticks outcome events → remote.timeout < ticks) →
    ∃ reason events, near = .after remote.timeout (.error (.unavailable remote.id reason)) events

section Relaying

variable {α : Type} {remote : Remote} {rejected : String → QueryError} {near far : Reply α}

theorem Relays.of_late {reason : String} {events : List Log.Event}
    (late : ∀ ticks outcome events, far = .after ticks outcome events → remote.timeout < ticks)
    (unavailable : near = .after remote.timeout (.error (.unavailable remote.id reason)) events) :
    Relays remote rejected near far := by
  subst unavailable
  refine ⟨fun ticks value => iff_of_false ?_ ?_, ?_, fun _ => ⟨reason, events, rfl⟩⟩
  · rintro ⟨_, ⟨⟩⟩
  · rintro ⟨inTime, events, replied⟩
    exact absurd inTime (Nat.not_le.mpr (late ticks _ events replied))
  · intro ticks error events replied inTime
    exact absurd inTime (Nat.not_le.mpr (late ticks _ events replied))

theorem Relays.of_in_time {ticks : Nat} {outcome : Except QueryError α}
    {events farEvents : List Log.Event} (inTime : ticks ≤ remote.timeout)
    (heard : near = .after ticks (outcome.mapError fun error => rejected error.message) events) :
    Relays remote rejected near (.after ticks outcome farEvents) := by
  subst heard
  have onTime : ¬ remote.timeout < ticks := Nat.not_lt.mpr inTime
  cases outcome with
  | ok value =>
    refine ⟨?_, ?_, fun late => absurd (late _ _ _ rfl) onTime⟩
    · intro other otherValue
      constructor
      · rintro ⟨_, ⟨⟩⟩
        exact ⟨inTime, farEvents, rfl⟩
      · rintro ⟨_, _, ⟨⟩⟩
        exact ⟨events, rfl⟩
    · rintro _ _ _ ⟨⟩
  | error error =>
    refine ⟨fun other value => iff_of_false ?_ ?_, ?_, fun late => absurd (late _ _ _ rfl) onTime⟩
    · rintro ⟨_, ⟨⟩⟩
    · rintro ⟨_, _, ⟨⟩⟩
    · rintro _ _ _ ⟨⟩ _
      exact ⟨events, rfl⟩

/-! ## How a remote provider hears a reply -/

variable {transport : Transport} {name : String} {request : Url → Outgoing} {target : Url}
  {decode : List UInt8 → Option α}

theorem Remote.endpoint_eq (remote : Remote) (name : String) :
    remote.endpoint name = remote.baseUrl ++ ("/" ++ name) :=
  String.append_assoc

theorem Remote.fetch_in_time (read : Url.read? (remote.baseUrl ++ ("/" ++ name)) = some target)
    (sendable : Remote.isTarget target = true) {ticks : Nat} {received : Received}
    (answered : transport (request target) = .answered ticks received)
    (inTime : ticks ≤ remote.timeout) :
    remote.fetch transport name request rejected decode =
      .after ticks (remote.judge rejected decode received).1
        (remote.judge rejected decode received).2 := by
  simp only [Remote.fetch, Remote.endpoint_eq, read, sendable, if_true, answered, inTime]

theorem Remote.fetch_late (read : Url.read? (remote.baseUrl ++ ("/" ++ name)) = some target)
    (sendable : Remote.isTarget target = true)
    (late : transport (request target) = .silent ∨ ∃ ticks received,
      transport (request target) = .answered ticks received ∧ remote.timeout < ticks) :
    ∃ reason events, remote.fetch transport name request rejected decode =
      .after remote.timeout (.error (.unavailable remote.id reason)) events := by
  rcases late with silent | ⟨ticks, received, answered, tooLate⟩
  · simp only [Remote.fetch, Remote.endpoint_eq, read, sendable, if_true, silent]
    exact ⟨_, _, rfl⟩
  · simp only [Remote.fetch, Remote.endpoint_eq, read, sendable, if_true, answered,
      Nat.not_le.mpr tooLate, if_false]
    exact ⟨_, _, rfl⟩

theorem Remote.judge_document [Wire α] {value : α} (faithful : Wire.RoundTrips value) :
    (remote.judge rejected (Remote.decodeBody α)
      ⟨200, Text.octets (Wire.encode value), true⟩).1 = .ok value := by
  have decoded : Remote.decodeBody α (Text.octets (Wire.encode value)) = some value := by
    rw [Remote.decodeBody, faithful]
    rfl
  simp only [Remote.judge, Http.isSuccess, decoded]
  rfl

theorem Remote.judge_rejection (words : String) :
    (remote.judge rejected decode ⟨400, Text.octets words, true⟩).1 =
      .error (rejected words) := by
  simp only [Remote.judge, if_true, Text.ofOctetsLossy_octets]

/-- What a gateway answers for a backend is heard as what the backend replies. -/
theorem Remote.relays [Wire α] (read : Url.read? (remote.baseUrl ++ ("/" ++ name)) = some target)
    (sendable : Remote.isTarget target = true)
    (answered : transport (request target) = far.exchange)
    (faithful : ∀ ticks value events, far = .after ticks (.ok value) events →
      Wire.RoundTrips value) :
    Relays remote rejected
      (remote.fetch transport name request rejected (Remote.decodeBody α)) far := by
  cases far with
  | never =>
    rcases Remote.fetch_late read sendable (Or.inl answered) with ⟨reason, events, near⟩
    exact Relays.of_late (fun _ _ _ replied => by cases replied) near
  | after ticks outcome farEvents =>
    by_cases inTime : ticks ≤ remote.timeout
    · cases outcome with
      | ok value =>
        apply Relays.of_in_time inTime
        rw [Remote.fetch_in_time read sendable answered inTime,
          Remote.judge_document (faithful ticks value farEvents rfl)]
        rfl
      | error error =>
        apply Relays.of_in_time inTime
        rw [Remote.fetch_in_time read sendable answered inTime, Remote.judge_rejection]
        rfl
    · have tooLate := Nat.not_le.mp inTime
      have late : ∃ late received, transport (request target) = .answered late received ∧
          remote.timeout < late := by
        cases outcome with
        | ok value => exact ⟨ticks, _, answered, tooLate⟩
        | error error => exact ⟨ticks, _, answered, tooLate⟩
      rcases Remote.fetch_late read sendable (Or.inr late) with ⟨reason, events, near⟩
      refine Relays.of_late ?_ near
      rintro _ _ _ ⟨⟩
      exact tooLate

/-- A reply over a network rests on what becomes of a single request. -/
def RestsOn (reply : Transport → Reply α) (sent : Outgoing) : Prop :=
  ∀ transport other : Transport, transport sent = other sent → reply transport = reply other

theorem Remote.fetch_restsOn (read : Url.read? (remote.baseUrl ++ ("/" ++ name)) = some target) :
    RestsOn (fun transport => remote.fetch transport name request rejected decode)
      (request target) := by
  intro transport other same
  simp only [Remote.fetch, Remote.endpoint_eq, read, same]

end Relaying

/-! ## Transparency -/

theorem Remote.info_toBackend (remote : Remote) (transport : Transport) :
    (remote.toBackend transport).info = remote.fetch transport "info" .get
      (fun words => .unavailable remote.id ("upstream rejected info request: " ++ words))
      (Remote.decodeBody Provider) := by
  rw [Remote.toBackend]

theorem Remote.rates_toBackend (remote : Remote) (transport : Transport)
    (symbols : List String) :
    (remote.toBackend transport).rates symbols = remote.fetch transport "rates"
      (fun url => .post url (Wire.encode (RatesQuery.mk symbols))) (.invalidAsset remote.id)
      (Remote.decodeBody (List Rate)) := by
  rw [Remote.toBackend]

theorem Remote.accounts_toBackend (remote : Remote) (transport : Transport)
    (request : AccountsQuery) :
    (remote.toBackend transport).accounts request = remote.fetch transport "account"
      (fun url => .post url (Wire.encode request)) (.invalidAddress remote.id)
      (Remote.decodeBody (List Account)) := by
  rw [Remote.toBackend]

/-- A remote provider below whose base address a gateway answers for a backend replies as
the backend does, and what is asked of the backend is what the remote provider is asked. -/
theorem Remote.stands_for (remote : Remote) {url : Url} (plain : Plain remote.baseUrl url)
    {backend : Backend} (yields : YieldsReadBack backend) {transport : Transport}
    (fronts : Fronts transport remote.baseUrl backend) :
    Relays remote
      (fun words => .unavailable remote.id ("upstream rejected info request: " ++ words))
      (remote.toBackend transport).info backend.info ∧
    (∀ symbols, Relays remote (.invalidAsset remote.id)
      ((remote.toBackend transport).rates symbols) (backend.rates symbols)) ∧
    (∀ request, Relays remote (.invalidAddress remote.id)
      ((remote.toBackend transport).accounts request) (backend.accounts request)) ∧
    (∀ symbols, ∃ target body, Url.read? (remote.baseUrl ++ "/rates") = some target ∧
      Wire.decode RatesQuery (Text.octets body) = .ok ⟨symbols⟩ ∧
        RestsOn (fun network => (remote.toBackend network).rates symbols)
          (.post target body)) ∧
    (∀ request, ∃ target body, Url.read? (remote.baseUrl ++ "/account") = some target ∧
      Wire.decode AccountsQuery (Text.octets body) = .ok request ∧
        RestsOn (fun network => (remote.toBackend network).accounts request)
          (.post target body)) := by
  rcases plain.endpoint isSegment_info (by decide) with ⟨infoUrl, infoRead, infoSendable, _⟩
  rcases plain.endpoint isSegment_rates (by decide) with ⟨ratesUrl, ratesRead, ratesSendable, _⟩
  rcases plain.endpoint isSegment_account (by decide) with
    ⟨accountUrl, accountRead, accountSendable, _⟩
  have asksRates : ∀ symbols, Wire.RoundTrips (RatesQuery.mk symbols) := fun symbols =>
    Wire.roundTrips_of_shape (by decide) (by decide) (Shape.everyReal_of_none rfl _)
  have asksAccounts : ∀ request : AccountsQuery, Wire.RoundTrips request := fun request =>
    Wire.roundTrips_of_shape (by decide) (by decide) (Shape.everyReal_of_none rfl _)
  refine ⟨?_, fun symbols => ?_, fun request => ?_, fun symbols => ?_, fun request => ?_⟩
  · rw [Remote.info_toBackend]
    apply Remote.relays infoRead infoSendable (fronts.info infoUrl infoRead)
    intro ticks provider events replied
    exact Wire.roundTrips_of_shape (by decide) (by decide)
      (everyReal_provider (yields.info ticks provider events replied))
  · rw [Remote.rates_toBackend]
    apply Remote.relays ratesRead ratesSendable
      (fronts.rates ratesUrl _ (RatesQuery.mk symbols) ratesRead (asksRates symbols))
    intro ticks rates events replied
    exact Wire.roundTrips_of_shape (by decide) (by decide)
      (everyReal_rates (yields.rates symbols ticks rates events replied))
  · rw [Remote.accounts_toBackend]
    apply Remote.relays accountRead accountSendable
      (fronts.accounts accountUrl _ request accountRead (asksAccounts request))
    intro ticks accounts events replied
    exact Wire.roundTrips_of_shape (by decide) (by decide)
      (everyReal_accounts (yields.accounts request ticks accounts events replied))
  · refine ⟨ratesUrl, Wire.encode (RatesQuery.mk symbols), ratesRead, asksRates symbols, ?_⟩
    simp only [Remote.rates_toBackend]
    exact Remote.fetch_restsOn ratesRead
  · refine ⟨accountUrl, Wire.encode request, accountRead, asksAccounts request, ?_⟩
    simp only [Remote.accounts_toBackend]
    exact Remote.fetch_restsOn accountRead

/-- A backend that knows a rate of every asset and no address. -/
def clerk : Backend where
  id := "ledger"
  info := .never
  rates symbols := .after 3 (.ok (symbols.map fun symbol => ⟨symbol, 0.05, 0, -1⟩)) []
  accounts _ := .after 5 (.error (.invalidAddress "ledger" "")) []

/-- A remote provider in front of the clerk hands out the rates of any assets, also of none
and of one without a name, and refuses every address in its own name. -/
theorem Remote.stands_for_clerk :
    let remote : Remote := ⟨"far", "http://upstream:9000/v1", 10000⟩
    let url : Url := ⟨.http, "", none, .name "upstream", some 9000, ["v1"], none, none⟩
    let near := remote.toBackend (gatewayAt remote.baseUrl clerk)
    Remote.make "far" "http://upstream:9000/v1/" 10000 = .ok remote ∧
      Plain remote.baseUrl url ∧ YieldsReadBack clerk ∧
      Fronts (gatewayAt remote.baseUrl clerk) remote.baseUrl clerk ∧
      (∀ symbols, ∃ events, near.rates symbols =
        .after 3 (.ok (symbols.map fun symbol => ⟨symbol, 0.05, 0, -1⟩)) events) ∧
      (∀ request, ∃ events, near.accounts request =
        .after 5 (.error (.invalidAddress "far" "Invalid address for ledger: ")) events) := by
  intro remote url near
  have plain : Plain remote.baseUrl url :=
    ⟨by simp [remote], by decide +kernel, rfl, rfl, by decide, by decide +kernel⟩
  have made : Remote.make "far" "http://upstream:9000/v1/" 10000 = .ok remote := by
    have trimmed : Text.trimEnd '/' "http://upstream:9000/v1/" = remote.baseUrl := by decide
    have named : Text.isBlank "far" = false := by decide
    simp only [Remote.make, trimmed, named, plain.read, Option.isSome_some, if_true]
    rfl
  have fronts := fronts_gatewayAt plain clerk
  have readBack : ReadsBack 0.05 := by decide +kernel
  have yields : YieldsReadBack clerk := by
    refine ⟨?_, ?_, ?_⟩
    · rintro _ _ _ ⟨⟩
    · rintro symbols _ _ _ ⟨⟩ rate member
      rcases List.mem_map.mp member with ⟨symbol, _, rfl⟩
      exact readBack
    · rintro _ _ _ _ ⟨⟩
  rcases Remote.stands_for remote plain yields fronts with ⟨_, rates, accounts, _, _⟩
  refine ⟨made, plain, yields, fronts, fun symbols => ?_, fun request => ?_⟩
  · exact ((rates symbols).value 3 _).mpr ⟨by decide, [], rfl⟩
  · exact (accounts request).refused 5 _ [] rfl (by decide)

end Backend
end LendingGateway
