import LendingGateway.Proofs.Backend.Relay
import LendingGateway.Proofs.Registry.Assembly

namespace LendingGateway
namespace Backend

open Json Lending Web Registry

/-!
# Base addresses and the endpoints below them

The base address of a remote provider is read when the provider is set up, and the name of
an endpoint is written behind its text when the endpoint is asked.  The two readings go to
the same host, unless a character that is dropped follows it.  But a name finds its place in
the path only if the path is what the text ends in: a query or a fragment swallows it, and what
is dropped at the end of the base, or counts as a slash there, is read differently before the
name.
-/

/-- The names of the endpoints. -/
def endpoints : List String :=
  ["info", "rates", "account"]

section Asking

variable {α : Type} {remote : Remote} {name : String} {request : Url → Outgoing}
  {rejected : String → QueryError} {decode : List UInt8 → Option α}

/-- A reply over a network is got by one request to an endpoint.  Nothing else that the network
does makes a difference, and an answer that is early enough is taken when it comes. -/
structure AsksAt (remote : Remote) (name : String) (request : Url → Outgoing)
    (reply : Transport → Reply α) : Prop where
  alone : ∀ network other : Transport,
    (∀ target, Url.read? (remote.endpoint name) = some target →
      network (request target) = other (request target)) → reply network = reply other
  heard : ∀ target, Url.read? (remote.endpoint name) = some target →
    Remote.isTarget target = true → ∀ (network : Transport) (ticks : Nat) (received : Received),
      network (request target) = .answered ticks received → ticks ≤ remote.timeout →
        ∃ outcome events, reply network = .after ticks outcome events

theorem fetch_congr {network other : Transport}
    (agree : ∀ target, Url.read? (remote.endpoint name) = some target →
      network (request target) = other (request target)) :
    remote.fetch network name request rejected decode =
      remote.fetch other name request rejected decode := by
  cases read : Url.read? (remote.endpoint name) with
  | none => simp only [Remote.fetch, read]
  | some target => simp only [Remote.fetch, read, agree target read]

theorem asksAt_fetch : AsksAt remote name request fun network =>
    remote.fetch network name request rejected decode where
  alone _ _ agree := fetch_congr agree
  heard target read sendable network ticks received answered inTime := by
    rw [Remote.endpoint_eq] at read
    exact ⟨_, _, Remote.fetch_in_time read sendable answered inTime⟩

/-- Each of the three queries to a remote provider is one request to the endpoint for it. -/
structure AsksEndpoints (remote : Remote) : Prop where
  info : AsksAt remote "info" .get fun network => (remote.toBackend network).info
  rates : ∀ symbols, AsksAt remote "rates"
    (fun url => .post url (Wire.encode (RatesQuery.mk symbols)))
    fun network => (remote.toBackend network).rates symbols
  account : ∀ query : AccountsQuery, AsksAt remote "account"
    (fun url => .post url (Wire.encode query))
    fun network => (remote.toBackend network).accounts query

theorem asksEndpoints (remote : Remote) : AsksEndpoints remote where
  info := asksAt_fetch
  rates _ := asksAt_fetch
  account _ := asksAt_fetch

end Asking

/-- What the host is asked for by a request to an address.  A fragment is not sent. -/
def requestTarget (url : Url) : String :=
  url.renderPath ++ url.query.elim "" ("?" ++ ·)

/-- Another address has the same scheme, host and port. -/
structure SameOrigin (url other : Url) : Prop where
  scheme : other.scheme = url.scheme
  host : other.host = url.host
  port : other.port = url.port

/-- The endpoints of a remote provider lie below its base address: the path of each is that
of the base without the slashes at its end and with the name, and no two get the same
request. -/
structure LiesBelow (remote : Remote) (url : Url) : Prop where
  reached : ∀ name ∈ endpoints, ∃ target, Url.read? (remote.endpoint name) = some target ∧
    SameOrigin url target ∧ target.path = withoutTrailing url.path ++ [name]
  apart : ∀ name ∈ endpoints, ∀ other ∈ endpoints, ∀ target otherTarget,
    Url.read? (remote.endpoint name) = some target →
      Url.read? (remote.endpoint other) = some otherTarget →
        requestTarget target = requestTarget otherTarget → name = other

/-! ## Where a name finds its place -/

theorem isSegment_endpoint {name : String} (member : name ∈ endpoints) : IsSegment name := by
  simp only [endpoints, List.mem_cons, List.not_mem_nil, or_false] at member
  rcases member with rfl | rfl | rfl
  · exact isSegment_info
  · exact isSegment_rates
  · exact isSegment_account

section Reading

variable {remote : Remote} {url : Url} {last : Char}

/-- Names have no character that is encoded in a query or a fragment. -/
theorem encodeSet_endpoint {name : String} (member : name ∈ endpoints) :
    encodeSet inQuerySet ('/' :: name.toList) = "/" ++ name ∧
      encodeSet inFragmentSet ('/' :: name.toList) = "/" ++ name := by
  simp only [endpoints, List.mem_cons, List.not_mem_nil, or_false] at member
  rcases member with rfl | rfl | rfl <;> decide

/-- An address with a query or a fragment has something behind its host. -/
theorem behindHost_ne_nil (read : Url.read? remote.baseUrl = some url)
    (marked : url.query ≠ none ∨ url.fragment ≠ none) : behindHost remote.baseUrl ≠ [] := by
  intro empty
  have tail := readTail_behindHost read
  have nothing : readTail [] = ([""], none, none) := rfl
  rw [empty, nothing, Prod.mk.injEq, Prod.mk.injEq] at tail
  exact marked.elim (fun query => query tail.2.1.symm) fun fragment => fragment tail.2.2.symm

/-- A fragment takes the name to itself, and before it what was dropped at the end. -/
theorem read?_endpoint_fragment (read : Url.read? remote.baseUrl = some url) {fragment : String}
    (ends : url.fragment = some fragment) {name : String} (member : name ∈ endpoints) :
    Url.read? (remote.endpoint name) = some { url with
      fragment := some (fragment ++
        (encodeSet inFragmentSet (loose remote.baseUrl.toList) ++ ("/" ++ name))) } := by
  have tail := readTail_behindHost read
  have inside := behindHost_ne_nil read (Or.inr (by simp [ends]))
  rw [Remote.endpoint, read?_append_loose read (Or.inl inside) (isSegment_endpoint member),
    readTail_append_fragment (by rw [tail, ends]), tail, encodeSet_append,
    (encodeSet_endpoint member).2]
  rfl

/-- A query that no fragment follows does the same. -/
theorem read?_endpoint_query (read : Url.read? remote.baseUrl = some url) {query : String}
    (ends : url.query = some query) (noFragment : url.fragment = none) {name : String}
    (member : name ∈ endpoints) :
    Url.read? (remote.endpoint name) = some { url with
      query := some (query ++
        (encodeSet inQuerySet (loose remote.baseUrl.toList) ++ ("/" ++ name))) } := by
  have tail := readTail_behindHost read
  have inside := behindHost_ne_nil read (Or.inl (by simp [ends]))
  have segment := isSegment_endpoint member
  have free : ∀ c ∈ loose remote.baseUrl.toList ++ '/' :: name.toList, c ≠ '#' :=
    List.forall_mem_append.mpr
      ⟨fun _ dropped => Text.ne_of_low (low_of_mem_loose dropped) (by decide),
        fun c member => (segment.unmarked c member).2⟩
  rw [Remote.endpoint, read?_append_loose read (Or.inl inside) segment,
    readTail_append_query (by rw [tail, ends]) (by rw [tail, noFragment]) free, tail,
    encodeSet_append, (encodeSet_endpoint member).1]
  cases url
  cases noFragment
  rfl

/-- Endpoints that all keep the path of the base do not lie below it. -/
theorem not_liesBelow_of_path (kept : ∀ name ∈ endpoints, ∃ target,
    Url.read? (remote.endpoint name) = some target ∧ target.path = url.path) :
    ¬ LiesBelow remote url := by
  intro below
  have longer : ∀ name ∈ endpoints, url.path = withoutTrailing url.path ++ [name] := by
    intro name member
    rcases kept name member with ⟨target, read, same⟩
    rcases below.reached name member with ⟨other, otherRead, _, path⟩
    rw [read] at otherRead
    rw [← Option.some.inj otherRead, same] at path
    exact path
  -- The path would end in two names at once.
  have info := longer "info" (by decide)
  have rates := longer "rates" (by decide)
  have names := List.append_cancel_left (info.symm.trans rates)
  exact absurd names (by decide)

/-- If what is dropped at the end of the base follows its host and port, no endpoint has an
address. -/
theorem read?_endpoint_bare (read : Url.read? remote.baseUrl = some url)
    (left : loose remote.baseUrl.toList ≠ []) (bare : behindHost remote.baseUrl = [])
    (name : String) (member : name ∈ endpoints) : Url.read? (remote.endpoint name) = none := by
  rw [Remote.endpoint_eq]
  exact read?_behind_loose read (isSegment_endpoint member).visible_behind left bare
    (toList_slash_append name) (by decide)

/-- What is dropped at the end of the base is not dropped before a name. -/
theorem not_liesBelow_of_loose (read : Url.read? remote.baseUrl = some url)
    (left : loose remote.baseUrl.toList ≠ []) (noQuery : url.query = none)
    (noFragment : url.fragment = none) : ¬ LiesBelow remote url := by
  intro below
  have member : "info" ∈ endpoints := by decide
  rcases below.reached "info" member with ⟨target, targetRead, _, path⟩
  rcases behindHost_begins remote.baseUrl with bare | ⟨first, rest, begins, stop⟩
  · rw [read?_endpoint_bare read left bare "info" member] at targetRead
    cases targetRead
  · have alone := readTail_behindHost read
    rw [noQuery, noFragment, begins] at alone
    rcases readTail_append_low (isSegment_endpoint member) stop alone left
      (fun _ => low_of_mem_loose) with ⟨before, after, apart⟩
    have inside : behindHost remote.baseUrl ≠ [] := begins ▸ List.cons_ne_nil first rest
    rw [Remote.endpoint, read?_append_loose read (Or.inl inside) (isSegment_endpoint member),
      begins, after] at targetRead
    rw [← Option.some.inj targetRead] at path
    exact apart (List.append_cancel_right path).symm

/-- The endpoints of a base that ends visibly and has a path alone. -/
theorem liesBelow_iff_of_path {last : Char} (read : Url.read? remote.baseUrl = some url)
    (seen : lastSeen? remote.baseUrl.toList = some last) (visible : 0x20 < last.toNat)
    (noQuery : url.query = none) (noFragment : url.fragment = none) :
    LiesBelow remote url ↔ isSlash last = false ∧ ¬ ["", ""] <:+ url.path := by
  have path : ∀ name ∈ endpoints, ∃ kept,
      Url.read? (remote.endpoint name) = some { url with path := kept ++ [name] } ∧
        (withoutTrailing url.path = kept ↔ isSlash last = false ∧ ¬ ["", ""] <:+ url.path) := by
    intro name member
    rcases read?_append_path read seen visible noQuery noFragment (isSegment_endpoint member)
      with ⟨kept, _, further, exactly⟩
    exact ⟨kept, further, exactly⟩
  constructor
  · intro below
    rcases path "info" (by decide) with ⟨kept, further, exactly⟩
    rcases below.reached "info" (by decide) with ⟨target, targetRead, _, targetPath⟩
    rw [further] at targetRead
    rw [← Option.some.inj targetRead] at targetPath
    exact exactly.mp (List.append_cancel_right targetPath).symm
  · intro plain
    have placed : ∀ name ∈ endpoints, Url.read? (remote.endpoint name) =
        some { url with path := withoutTrailing url.path ++ [name] } := by
      intro name member
      rcases path name member with ⟨kept, further, exactly⟩
      rw [exactly.mpr plain]
      exact further
    refine ⟨fun name member => ⟨_, placed name member, ⟨rfl, rfl, rfl⟩, rfl⟩, ?_⟩
    intro name member other otherMember target otherTarget targetRead otherRead same
    rw [placed name member] at targetRead
    rw [placed other otherMember] at otherRead
    rw [← Option.some.inj targetRead, ← Option.some.inj otherRead, requestTarget,
      requestTarget, renderPath_concat, renderPath_concat, String.append_left_inj,
      String.append_right_inj, String.append_right_inj] at same
    exact same

end Reading

/-! ## Accepted base addresses -/

/-- The last character of a text, tabs and line ends apart, is none up to the space, U+0020. -/
def EndsVisibly (text : String) : Prop :=
  ∃ last, lastSeen? text.toList = some last ∧ 0x20 < last.toNat

section Accepted

variable {remote : Remote} {url : Url}

theorem loose_eq_nil_iff_endsVisibly (read : Url.read? remote.baseUrl = some url) :
    loose remote.baseUrl.toList = [] ↔ EndsVisibly remote.baseUrl := by
  refine loose_eq_nil_iff fun empty => ?_
  rw [Url.read?_eq, empty] at read
  cases read

theorem liesBelow_iff (read : Url.read? remote.baseUrl = some url) :
    LiesBelow remote url ↔ url.query = none ∧ url.fragment = none ∧
      EndsVisibly remote.baseUrl ∧
        (∀ last, lastSeen? remote.baseUrl.toList = some last → isSlash last = false) ∧
          ¬ ["", ""] <:+ url.path := by
  cases fragmentEnds : url.fragment with
  | some fragment =>
    refine iff_of_false (not_liesBelow_of_path fun name member => ?_) (by simp)
    exact ⟨_, read?_endpoint_fragment read fragmentEnds member, rfl⟩
  | none =>
    cases queryEnds : url.query with
    | some query =>
      refine iff_of_false (not_liesBelow_of_path fun name member => ?_) (by simp)
      exact ⟨_, read?_endpoint_query read queryEnds fragmentEnds member, rfl⟩
    | none =>
      simp only [true_and]
      rw [← loose_eq_nil_iff_endsVisibly read]
      by_cases left : loose remote.baseUrl.toList = []
      · rcases (loose_eq_nil_iff_endsVisibly read).mp left with ⟨last, seen, visible⟩
        rw [liesBelow_iff_of_path read seen visible queryEnds fragmentEnds, seen]
        simp [left]
      · exact iff_of_false (not_liesBelow_of_loose read left queryEnds fragmentEnds)
          fun visible => left visible.1

theorem sameOrigin_reach (url : Url) (tail : List String × Option String × Option String) :
    SameOrigin url (url.reach tail) :=
  ⟨rfl, rfl, rfl⟩

/-- The host of a base is ended by what stands behind it or by the name of an endpoint, unless
a character up to the space, U+0020, comes between the two. -/
theorem sameOrigin_iff (read : Url.read? remote.baseUrl = some url) :
    (∀ name ∈ endpoints, ∃ target,
        Url.read? (remote.endpoint name) = some target ∧ SameOrigin url target) ↔
      behindHost remote.baseUrl ≠ [] ∨ EndsVisibly remote.baseUrl := by
  rw [← loose_eq_nil_iff_endsVisibly read]
  constructor
  · intro reached
    by_contra neither
    rw [not_or, not_not] at neither
    rcases reached "info" (by decide) with ⟨target, targetRead, _⟩
    rw [read?_endpoint_bare read neither.2 neither.1 "info" (by decide)] at targetRead
    cases targetRead
  · intro ended name member
    rw [Remote.endpoint]
    exact ⟨_, read?_append_loose read ended (isSegment_endpoint member), sameOrigin_reach url _⟩

end Accepted

theorem make_of_read {id text base : String} {url : Url} (timeout : Nat)
    (named : Text.isBlank id = false) (trimmed : Text.trimEnd '/' text = base)
    (read : Url.read? base = some url) : Remote.make id text timeout = .ok ⟨id, base, timeout⟩ := by
  simp only [Remote.make, trimmed, named, read, Option.isSome_some, if_true]
  rfl

/-- The endpoints of an accepted base address.  The base is the given text without the slashes
at its end, and what is asked for are the endpoints below it, one for each query.  They are
addresses, and have the scheme, the host and the port of the base, exactly if something ends
these in its text or the text ends visibly.  They lie below the base exactly if it has neither
query nor fragment, ends visibly but in no slash, and has a path that does not end in two.  A
query or a fragment takes the names to itself. -/
theorem endpoints_of_base {id baseUrl : String} {timeout : Nat} {remote : Remote}
    (made : Remote.make id baseUrl timeout = .ok remote) :
    remote.baseUrl = Text.trimEnd '/' baseUrl ∧ AsksEndpoints remote ∧
    ∃ url, Url.read? remote.baseUrl = some url ∧
      ((∀ name ∈ endpoints, ∃ target,
          Url.read? (remote.endpoint name) = some target ∧ SameOrigin url target) ↔
        behindHost remote.baseUrl ≠ [] ∨ EndsVisibly remote.baseUrl) ∧
      (LiesBelow remote url ↔ url.query = none ∧ url.fragment = none ∧
        EndsVisibly remote.baseUrl ∧
          (∀ last, lastSeen? remote.baseUrl.toList = some last → isSlash last = false) ∧
            ¬ ["", ""] <:+ url.path) ∧
      ∀ name ∈ endpoints,
        (∀ query, url.query = some query → url.fragment = none →
          Url.read? (remote.endpoint name) = some { url with
            query := some (query ++
              (encodeSet inQuerySet (loose remote.baseUrl.toList) ++ ("/" ++ name))) }) ∧
        (∀ fragment, url.fragment = some fragment →
          Url.read? (remote.endpoint name) = some { url with
            fragment := some (fragment ++
              (encodeSet inFragmentSet (loose remote.baseUrl.toList) ++ ("/" ++ name))) }) := by
  rcases remote_of_make made with ⟨_, ⟨url, readable⟩, accepted⟩
  have trimmed : remote.baseUrl = Text.trimEnd '/' baseUrl := congrArg Remote.baseUrl accepted
  have read : Url.read? remote.baseUrl = some url := trimmed ▸ readable
  refine ⟨trimmed, asksEndpoints remote, url, read, sameOrigin_iff read, liesBelow_iff read,
    fun name member => ⟨?_, ?_⟩⟩
  · intro query ends noFragment
    exact read?_endpoint_query read ends noFragment member
  · intro fragment ends
    exact read?_endpoint_fragment read ends member

/-- A base whose path ends in points and whose text ends in a tab, which are both gone below it,
and in a slash, which is gone before. -/
theorem endpoints_of_base_points :
    let base := "http://upstream:9000/a/b/..\t"
    let url : Url := ⟨.http, "", none, .name "upstream", some 9000, ["a", ""], none, none⟩
    let remote : Remote := ⟨"far", base, 10000⟩
    let asked : Outgoing :=
      .post { url with path := ["a", "rates"] } (Wire.encode (RatesQuery.mk []))
    Remote.make "far" (base ++ "/") 10000 = .ok remote ∧ Url.read? base = some url ∧
      EndsVisibly base ∧ LiesBelow remote url ∧
      (∀ name ∈ endpoints, ∃ target,
        Url.read? (base ++ "/" ++ name) = some target ∧ SameOrigin url target) ∧
      ∀ (network : Transport) (received : Received), network asked = .answered 7 received →
        ∃ outcome events, (remote.toBackend network).rates [] = .after 7 outcome events := by
  intro base url remote asked
  have read : Url.read? base = some url := by decide +kernel
  have seen : lastSeen? base.toList = some '.' := by decide +kernel
  have visible : EndsVisibly base := ⟨'.', seen, by decide⟩
  have made : Remote.make "far" (base ++ "/") 10000 = .ok remote :=
    make_of_read 10000 (by decide) (by decide +kernel) read
  rcases endpoints_of_base made with ⟨_, asks, same, sameRead, origin, exactly, _⟩
  cases Option.some.inj (read.symm.trans sameRead)
  have noSlash : ∀ last, lastSeen? base.toList = some last → isSlash last = false := by
    rw [seen]
    simp [isSlash]
  have below := exactly.mpr ⟨rfl, rfl, visible, noSlash, by decide⟩
  refine ⟨made, read, visible, below, origin.mpr (Or.inr visible), ?_⟩
  intro network received answered
  exact (asks.rates []).heard { url with path := ["a", "rates"] } (by decide +kernel)
    (by decide +kernel) network 7 received answered (by decide)

/-- A base address that is accepted and that the endpoints do not lie below. -/
def LeadsAstray (base : String) : Prop :=
  ∃ url, Remote.make "far" base 10000 = .ok ⟨"far", base, 10000⟩ ∧ Url.read? base = some url ∧
    ¬ LiesBelow ⟨"far", base, 10000⟩ url

theorem leadsAstray_of_target {base : String} (url : Url)
    (trimmed : Text.trimEnd '/' base = base) (read : Url.read? base = some url)
    (wrong : (Url.read? (base ++ "/" ++ "info")).all
      (fun target => target.path != withoutTrailing url.path ++ ["info"]) = true) :
    LeadsAstray base := by
  refine ⟨url, make_of_read 10000 (by decide) trimmed read, read, ?_⟩
  intro below
  rcases below.reached "info" (by decide) with ⟨target, targetRead, _, path⟩
  rw [Remote.endpoint] at targetRead
  rw [targetRead, Option.all_some, bne_iff_ne] at wrong
  exact wrong path

/-- There are such base addresses: with a query, with a fragment, with a space at the end of the
path and of the port, with a slash before a tab, and with two slashes before a point. -/
theorem endpoints_go_astray :
    LeadsAstray "http://127.0.0.1:9/v1?k=1" ∧ LeadsAstray "http://127.0.0.1:9/v1#f" ∧
      LeadsAstray "http://127.0.0.1:9/v1 " ∧ LeadsAstray "http://127.0.0.1:9 " ∧
        LeadsAstray "http://127.0.0.1:9/v1/\t" ∧ LeadsAstray "http://127.0.0.1:9/v1//." := by
  let near := Url.mk .http "" none (.ipv4 [127, 0, 0, 1]) (some 9)
  refine ⟨?query, ?fragment, ?space, ?port, ?tab, ?point⟩
  case query =>
    exact leadsAstray_of_target (near ["v1"] (some "k=1") none) (by decide +kernel)
      (by decide +kernel) (by decide +kernel)
  case fragment =>
    exact leadsAstray_of_target (near ["v1"] none (some "f")) (by decide +kernel)
      (by decide +kernel) (by decide +kernel)
  case space =>
    exact leadsAstray_of_target (near ["v1"] none none) (by decide +kernel)
      (by decide +kernel) (by decide +kernel)
  case port =>
    exact leadsAstray_of_target (near [""] none none) (by decide +kernel)
      (by decide +kernel) (by decide +kernel)
  case tab =>
    exact leadsAstray_of_target (near ["v1", ""] none none) (by decide +kernel)
      (by decide +kernel) (by decide +kernel)
  case point =>
    exact leadsAstray_of_target (near ["v1", "", ""] none none) (by decide +kernel)
      (by decide +kernel) (by decide +kernel)

end Backend
end LendingGateway
