import LendingGateway.Proofs.Http.AllowedOrigins
import LendingGateway.Proofs.Text.Trim
import LendingGateway.Startup.Launch

namespace LendingGateway
namespace Startup

open Http

/-!
# The origins that are set

The origins are set as one text.  What a gateway allows to a request in time is told here by
that text: everything if it names a star, and otherwise the origin of the request if the text
names it.  No text keeps the gateway from being made, and a name that cannot stand in a header
is as good as left out.
-/

/-! ## Names in a text -/

/-- A text names an origin: there is a piece between commas of which the origin is left without
the white space around it. -/
def NamesOrigin (text origin : String) : Prop :=
  origin ≠ "" ∧ ∃ piece ∈ text.toList.splitOn ',', Text.Trims Text.isSpace piece origin.toList

/-- What is left of each of some pieces, unless that is nothing. -/
def keptOf (pieces : List (List Char)) : List String :=
  (pieces.map fun piece => Text.trim (String.ofList piece)).filter (· ≠ "")

theorem readOrigins_eq_keptOf (text : String) :
    readOrigins text = keptOf (text.toList.splitOn ',') := by
  rw [readOrigins, Text.splitAt_eq_splitOn]
  rfl

theorem trim_ofList_eq_iff {piece : List Char} {origin : String} :
    Text.trim (String.ofList piece) = origin ↔ Text.Trims Text.isSpace piece origin.toList := by
  rw [Text.trims_iff, Text.trim, String.toList_ofList, ← String.toList_inj, String.toList_ofList]

theorem mem_readOrigins_iff {text origin : String} :
    origin ∈ readOrigins text ↔ NamesOrigin text origin := by
  rw [readOrigins_eq_keptOf, keptOf, List.mem_filter, List.mem_map, and_comm, decide_eq_true_eq,
    NamesOrigin]
  simp only [trim_ofList_eq_iff]

/-! ## Pieces that do not count -/

theorem keptOf_append (front back : List (List Char)) :
    keptOf (front ++ back) = keptOf front ++ keptOf back := by
  rw [keptOf, List.map_append, List.filter_append]
  rfl

/-- A piece of which nothing is left that can stand in a header does not count. -/
theorem filter_keptOf_cons {piece : List Char} {useless : String}
    (trims : Text.Trims Text.isSpace piece useless.toList)
    (unfit : isHeaderValue useless = false) (back : List (List Char)) :
    (keptOf (piece :: back)).filter isHeaderValue = (keptOf back).filter isHeaderValue := by
  rw [keptOf, List.map_cons, trim_ofList_eq_iff.mpr trims, List.filter_cons]
  split
  · rw [List.filter_cons, unfit]
    rfl
  · rfl

theorem ofList_readOrigins_of_unfit {text other useless : String}
    {front back : List (List Char)} {piece : List Char}
    (whole : text.toList.splitOn ',' = front ++ piece :: back)
    (without : other.toList.splitOn ',' = front ++ back)
    (trims : Text.Trims Text.isSpace piece useless.toList)
    (unfit : isHeaderValue useless = false) :
    OriginPolicy.ofList (readOrigins text) = OriginPolicy.ofList (readOrigins other) := by
  rw [← OriginPolicy.ofList_filter (readOrigins text), readOrigins_eq_keptOf text, whole,
    keptOf_append, List.filter_append, filter_keptOf_cons trims unfit, ← List.filter_append,
    ← keptOf_append, ← without, ← readOrigins_eq_keptOf, OriginPolicy.ofList_filter]

/-! ## What is allowed -/

/-- A gateway allows the origins that a text names, to every request that it answers in time. -/
structure AllowsNamed (text : String) (gateway : Gateway) : Prop where
  everyone : NamesOrigin text "*" → ∀ request, gateway.AnswersInTime request →
    (gateway.serve request).response.allowedOrigins = ["*"]
  named : ¬ NamesOrigin text "*" → ∀ request, gateway.AnswersInTime request →
    ∀ origin, header? "origin" request.headers = some origin → isHeaderValue origin = true →
      ((gateway.serve request).response.allowedOrigins = [origin] ↔ NamesOrigin text origin)
  others : ¬ NamesOrigin text "*" → ∀ request, gateway.AnswersInTime request →
    (∀ origin, header? "origin" request.headers = some origin → ¬ NamesOrigin text origin) →
      (gateway.serve request).response.allowedOrigins = []

theorem allowed?_of_star {text : String} (star : NamesOrigin text "*") (request : Request) :
    (OriginPolicy.ofList (readOrigins text)).allowed? request = some "*" := by
  rw [OriginPolicy.ofList_of_star (mem_readOrigins_iff.mpr star)]
  rfl

theorem allowed?_of_starless {text : String} (starless : ¬ NamesOrigin text "*")
    (request : Request) (origin : String) :
    (OriginPolicy.ofList (readOrigins text)).allowed? request = some origin ↔
      header? "origin" request.headers = some origin ∧ NamesOrigin text origin ∧
        isHeaderValue origin = true := by
  rw [OriginPolicy.ofList_of_starless fun member => starless (mem_readOrigins_iff.mp member),
    OriginPolicy.allowed?, Option.filter_eq_some_iff, List.contains_iff_mem, List.mem_filter,
    mem_readOrigins_iff]

theorem allowsNamed_make (text : String) (registry : Registry) (timeout : Timeout) :
    AllowsNamed text (Gateway.make registry (readOrigins text) timeout) where
  everyone star request inTime := by
    rw [allowedOrigins_serve inTime]
    exact congrArg Option.toList (allowed?_of_star star request)
  named starless request inTime origin asks fit := by
    rw [allowedOrigins_serve inTime, Option.toList_eq_singleton_iff]
    refine (allowed?_of_starless starless request origin).trans ?_
    exact ⟨fun allowed => allowed.2.1, fun named => ⟨asks, named, fit⟩⟩
  others starless request inTime unnamed := by
    rw [allowedOrigins_serve inTime, Option.toList_eq_nil_iff, Option.eq_none_iff_forall_ne_some]
    intro origin allowed
    rcases (allowed?_of_starless starless request origin).mp allowed with ⟨asks, named, _⟩
    exact unnamed origin asks named

/-- A gateway that has started is made from the origins that its environment sets. -/
theorem exists_make_of_launch {surroundings : Surroundings} {gateway : Gateway}
    {address : Web.SocketAddress} {text : String}
    (given : surroundings.effective.text? "LG_CORS_ALLOW_ORIGINS" = some text)
    (started : (launch surroundings).outcome = .ok (gateway, address)) :
    ∃ registry timeout, gateway = Gateway.make registry (readOrigins text) timeout := by
  unfold launch at started
  dsimp only at started
  split at started
  · cases started
  rename_i settings set
  have origins : settings.origins = readOrigins text := by
    unfold Settings.ofEnvironment at set
    dsimp only at set
    split at set
    · cases set
    · cases set
      rw [given]
      rfl
  unfold launchWith at started
  dsimp only at started
  split at started
  · cases started
  split at started
  · cases started
  · cases started
    exact ⟨_, settings.timeout, by rw [origins]⟩

/-- A gateway is made for every text of origins; once it has started with that text, it allows
what the text names, and what cannot stand in a header does not count. -/
theorem named_origins_allowed (text : String) :
    (∃ policy, OriginPolicy.build? (readOrigins text) = some policy ∧
      ∀ registry timeout, (Gateway.make registry (readOrigins text) timeout).origins = policy) ∧
    (∀ surroundings gateway address,
      surroundings.effective.text? "LG_CORS_ALLOW_ORIGINS" = some text →
        (launch surroundings).outcome = .ok (gateway, address) → AllowsNamed text gateway) ∧
    ∀ other front back piece useless, text.toList.splitOn ',' = front ++ piece :: back →
      other.toList.splitOn ',' = front ++ back →
        Text.Trims Text.isSpace piece (String.toList useless) → isHeaderValue useless = false →
          ∀ registry timeout, Gateway.make registry (readOrigins text) timeout =
            Gateway.make registry (readOrigins other) timeout := by
  refine ⟨⟨OriginPolicy.ofList (readOrigins text), ?_, fun _ _ => rfl⟩, ?_, ?_⟩
  · exact (Option.some_get _).symm
  · intro surroundings gateway address given started
    rcases exists_make_of_launch given started with ⟨registry, timeout, rfl⟩
    exact allowsNamed_make text registry timeout
  · intro other front back piece useless whole without trims unfit registry timeout
    rw [Gateway.make, Gateway.make, ofList_readOrigins_of_unfit whole without trims unfit]

/-- Four origins: one within white space, one that has a star in it but is none, one that is
empty, and one that cannot stand in a header. -/
def mixedOrigins : String := " https://a.com ,*.b.com,,a\nb"

/-- An environment that sets the origins and nothing else. -/
def originsOnly (text : String) : Surroundings where
  environment := Environment.set [] "LG_CORS_ALLOW_ORIGINS" text
  dotenv := none
  file _ := .missing
  bindError? _ := none
  transport _ := .broken 0

def askFrom (origin : String) : Request :=
  ⟨"GET", "/api/v1/healthz", [("Origin", origin)], [], none⟩

/-- With the mixed origins set, the gateway starts and answers the first of them with itself and
an origin that is not named with nothing, as if the last piece were not there. -/
theorem named_origins_allowed_mixed :
    let gateway := Gateway.make .empty (readOrigins mixedOrigins) (.ofMillis standardTimeout)
    ((originsOnly mixedOrigins).effective.text? "LG_CORS_ALLOW_ORIGINS" = some mixedOrigins ∧
      (launch (originsOnly mixedOrigins)).outcome =
        .ok (gateway, Web.SocketAddress.ipv4 [0, 0, 0, 0] 8080)) ∧
    (gateway.serve (askFrom "https://a.com")).response.allowedOrigins = ["https://a.com"] ∧
    (gateway.serve (askFrom "https://c.com")).response.allowedOrigins = [] ∧
    gateway = Gateway.make .empty (readOrigins " https://a.com ,*.b.com,")
      (.ofMillis standardTimeout) := by
  intro gateway
  have given : (originsOnly mixedOrigins).effective.text? "LG_CORS_ALLOW_ORIGINS" =
      some mixedOrigins := rfl
  have started : (launch (originsOnly mixedOrigins)).outcome =
      .ok (gateway, Web.SocketAddress.ipv4 [0, 0, 0, 0] 8080) := rfl
  rcases named_origins_allowed mixedOrigins with ⟨_, allows, unfit⟩
  have allowed := allows _ _ _ given started
  have starless : ¬ NamesOrigin mixedOrigins "*" :=
    fun named => absurd (mem_readOrigins_iff.mpr named) (by decide)
  have inTime : ∀ origin, gateway.AnswersInTime (askFrom origin) :=
    fun origin => ⟨⟨0, textResponse 200 "ok", []⟩, by cbv, by decide⟩
  refine ⟨⟨given, started⟩, ?_, ?_, ?_⟩
  · refine (allowed.named starless _ (inTime _) "https://a.com" rfl (by decide)).mpr ?_
    exact mem_readOrigins_iff.mp (by decide)
  · refine allowed.others starless _ (inTime _) fun origin asks named => ?_
    obtain rfl : "https://c.com" = origin := Option.some.inj asks
    exact absurd (mem_readOrigins_iff.mpr named) (by decide)
  · exact unfit " https://a.com ,*.b.com," [" https://a.com ".toList, "*.b.com".toList, []] []
      "a\nb".toList "a\nb" rfl rfl (Text.trims_iff.mpr rfl) (by decide) _ _

end Startup
end LendingGateway
