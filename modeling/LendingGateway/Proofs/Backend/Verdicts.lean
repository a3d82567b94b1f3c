import LendingGateway.Proofs.Backend.Relay
import LendingGateway.Proofs.Json.Cuts

namespace LendingGateway
namespace Backend

open Json Lending Web

/-!
# What a remote provider makes of an answer

A remote provider trusts a value only if the other gateway says that all went well and the
whole body is the document of one.  It lets the other gateway blame the request, in its own
words, by a status of 400 and by nothing else.  Whatever else happens, the provider is
unavailable: that the other gateway is out of order must not look like a fault of the caller.
-/

/-- A request to an endpoint is answered while a remote provider waits. -/
def Remote.Hears (remote : Remote) (transport : Transport) (name : String)
    (request : Url → Outgoing) (received : Received) : Prop :=
  ∃ url ticks, Url.read? (remote.endpoint name) = some url ∧ Remote.isTarget url = true ∧
    transport (request url) = .answered ticks received ∧ ticks ≤ remote.timeout

/-- The status of an answer says that all went well. -/
def Succeeds (received : Received) : Prop :=
  200 ≤ received.status ∧ received.status < 300

/-- A reply is the right one to whatever a remote provider hears. -/
structure Judges {α : Type} [Wire α] (remote : Remote) (rejected : String → QueryError)
    (hears : Received → Prop) (reply : Reply α) : Prop where
  /-- There is always an outcome, and only one. -/
  decides : ∃! outcome, reply.Gives outcome
  value : ∀ value, reply.Gives (.ok value) ↔ ∃ received, hears received ∧
    Succeeds received ∧ received.complete = true ∧
      Wire.decode α received.body = .ok value
  /-- The request is to blame, in the words of the whole body. -/
  blamed : ∀ received, hears received → received.status = 400 → received.complete = true →
    reply.Gives (.error (rejected (Text.ofOctetsLossy received.body)))
  /-- Any other status is named, whatever the body says. -/
  refused : ∀ received, hears received → received.status ≠ 400 → ¬ Succeeds received →
    reply.Gives (.error
      (.unavailable remote.id ("upstream returned HTTP " ++ toString received.status)))
  unheard : (∀ received, ¬ hears received) →
    ∃ reason, reply.Gives (.error (.unavailable remote.id reason))
  unreadable : ∀ received, hears received → received.status = 400 → received.complete = false →
    ∃ reason, reply.Gives (.error (.unavailable remote.id reason))
  useless : ∀ received, hears received → Succeeds received →
    (received.complete = false ∨ ∀ value, Wire.decode α received.body ≠ .ok value) →
      ∃ reason, reply.Gives (.error (.unavailable remote.id reason))

/-- The whole body has to be the document of a value: an empty body is none, and neither is a
document with more than a gap behind it. -/
structure JudgesWhole {α : Type} [Wire α] (remote : Remote) (rejected : String → QueryError)
    (hears : Received → Prop) (reply : Reply α) : Prop
    extends Judges remote rejected hears reply where
  empty : ∀ received, hears received → Succeeds received → received.body = [] →
    ∃ reason, reply.Gives (.error (.unavailable remote.id reason))
  trailing : ∀ received text rest value, hears received → Succeeds received →
    received.body = text ++ rest → Wire.decode α text = .ok value → skipGap rest ≠ [] →
      ∃ reason, reply.Gives (.error (.unavailable remote.id reason))

section Judging

variable {α : Type} {remote : Remote} {transport : Transport} {name : String}
  {request : Url → Outgoing} {rejected : String → QueryError} {decode : List UInt8 → Option α}

/-- A request to an endpoint has one answer. -/
theorem Remote.Hears.unique {received other : Received}
    (hears : remote.Hears transport name request received)
    (again : remote.Hears transport name request other) : received = other := by
  rcases hears with ⟨url, ticks, read, _, answered, _⟩
  rcases again with ⟨target, late, same, _, answeredAgain, _⟩
  rw [read] at same
  cases same
  rw [answered] at answeredAgain
  cases answeredAgain
  rfl

/-- A remote provider judges the answer it hears, and without one it is unavailable. -/
theorem Remote.fetch_cases :
    (∃ received, remote.Hears transport name request received ∧ ∃ ticks,
      remote.fetch transport name request rejected decode =
        .after ticks (remote.judge rejected decode received).1
          (remote.judge rejected decode received).2) ∨
    ((∀ received, ¬ remote.Hears transport name request received) ∧ ∃ ticks reason events,
      remote.fetch transport name request rejected decode =
        .after ticks (.error (.unavailable remote.id reason)) events) := by
  cases read : Url.read? (remote.endpoint name) with
  | none =>
    refine Or.inr ⟨?_, ?_⟩
    · rintro received ⟨url, _, same, _⟩
      rw [read] at same
      cases same
    · simp only [Remote.fetch, read]
      exact ⟨_, _, _, rfl⟩
  | some url =>
    by_cases sendable : Remote.isTarget url = true
    · cases answered : transport (request url) with
      | answered ticks received =>
        by_cases inTime : ticks ≤ remote.timeout
        · refine Or.inl ⟨received, ⟨url, ticks, read, sendable, answered, inTime⟩, ticks, ?_⟩
          simp only [Remote.fetch, read, sendable, if_true, answered, inTime]
        · refine Or.inr ⟨?_, ?_⟩
          · rintro other ⟨target, late, same, _, heard, early⟩
            rw [read] at same
            cases same
            rw [answered] at heard
            cases heard
            exact inTime early
          · simp only [Remote.fetch, read, sendable, if_true, answered, inTime, if_false]
            exact ⟨_, _, _, rfl⟩
      | broken | silent =>
        refine Or.inr ⟨?_, ?_⟩
        · rintro other ⟨target, late, same, _, heard, _⟩
          rw [read] at same
          cases same
          rw [answered] at heard
          cases heard
        · simp only [Remote.fetch, read, sendable, if_true, answered]
          exact ⟨_, _, _, rfl⟩
    · refine Or.inr ⟨?_, ?_⟩
      · rintro received ⟨target, _, same, isTarget, _⟩
        rw [read] at same
        cases same
        exact sendable isTarget
      · simp only [Remote.fetch, read, sendable]
        exact ⟨_, _, _, rfl⟩

theorem succeeds_iff {received : Received} :
    Succeeds received ↔ Http.isSuccess received.status = true := by
  rw [Http.isSuccess, Bool.and_eq_true, decide_eq_true_eq, decide_eq_true_eq]
  exact Iff.rfl

theorem ne_400_of_succeeds {received : Received} (succeeds : Succeeds received) :
    received.status ≠ 400 :=
  fun same => absurd (same ▸ succeeds.2) (by decide)

theorem Remote.judge_blamed {received : Received} (blames : received.status = 400)
    (complete : received.complete = true) :
    (remote.judge rejected decode received).1 =
      .error (rejected (Text.ofOctetsLossy received.body)) := by
  simp only [Remote.judge, blames, complete, if_true]

theorem Remote.judge_unreadable {received : Received} (blames : received.status = 400)
    (complete : received.complete = false) :
    ∃ reason, (remote.judge rejected decode received).1 =
      .error (.unavailable remote.id reason) := by
  simp only [Remote.judge, blames, complete, if_true, Bool.false_eq_true, if_false]
  exact ⟨_, rfl⟩

theorem Remote.judge_refused {received : Received} (blameless : received.status ≠ 400)
    (fails : ¬ Succeeds received) :
    (remote.judge rejected decode received).1 = .error
      (.unavailable remote.id ("upstream returned HTTP " ++ toString received.status)) := by
  rw [succeeds_iff] at fails
  simp only [Remote.judge, blameless, if_false, fails, Bool.false_eq_true]

/-- Behind a good status there is a value, if the whole body is the document of one. -/
theorem Remote.judge_decoded [Wire α] {received : Received} {value : α}
    (succeeds : Succeeds received) (complete : received.complete = true)
    (decoded : Wire.decode α received.body = .ok value) :
    (remote.judge rejected (Remote.decodeBody α) received).1 = .ok value := by
  have blameless := ne_400_of_succeeds succeeds
  rw [succeeds_iff] at succeeds
  simp only [Remote.judge, blameless, if_false, succeeds, if_true, complete, Remote.decodeBody,
    decoded]
  rfl

theorem Remote.judge_useless [Wire α] {received : Received}
    (succeeds : Succeeds received)
    (useless : received.complete = false ∨ ∀ value, Wire.decode α received.body ≠ .ok value) :
    ∃ reason, (remote.judge rejected (Remote.decodeBody α) received).1 =
      .error (.unavailable remote.id reason) := by
  have blameless := ne_400_of_succeeds succeeds
  rw [succeeds_iff] at succeeds
  have none : (if received.complete = true then Remote.decodeBody α received.body else none) =
      none := by
    rcases useless with incomplete | undecodable
    · rw [incomplete]
      rfl
    · split
      · cases decoded : Wire.decode α received.body with
        | ok value => exact absurd decoded (undecodable value)
        | error fault =>
          rw [Remote.decodeBody, decoded]
          rfl
      · rfl
  simp only [Remote.judge, blameless, if_false, succeeds, if_true, none]
  exact ⟨_, rfl⟩

theorem Remote.judge_eq_ok_iff [Wire α] {received : Received} {value : α} :
    (remote.judge rejected (Remote.decodeBody α) received).1 = .ok value ↔
      Succeeds received ∧ received.complete = true ∧
        Wire.decode α received.body = .ok value := by
  constructor
  · intro judged
    by_cases succeeds : Succeeds received
    · by_cases useful : received.complete = true ∧ ∃ found, Wire.decode α received.body = .ok found
      · rcases useful with ⟨complete, found, decoded⟩
        rw [Remote.judge_decoded succeeds complete decoded] at judged
        cases judged
        exact ⟨succeeds, complete, decoded⟩
      · rw [not_and_or, Bool.not_eq_true, not_exists] at useful
        rcases Remote.judge_useless succeeds useful with ⟨reason, failed⟩
        rw [failed] at judged
        cases judged
    · by_cases blames : received.status = 400
      · cases complete : received.complete with
        | true =>
          rw [Remote.judge_blamed blames complete] at judged
          cases judged
        | false =>
          rcases Remote.judge_unreadable blames complete with ⟨reason, failed⟩
          rw [failed] at judged
          cases judged
      · rw [Remote.judge_refused blames succeeds] at judged
        cases judged
  · rintro ⟨succeeds, complete, decoded⟩
    exact Remote.judge_decoded succeeds complete decoded

/-- A reply that judges the one answer that is heard. -/
theorem Judges.of_heard [Wire α] {received : Received} {ticks : Nat} {events : List Log.Event}
    (hears : remote.Hears transport name request received) :
    Judges remote rejected (remote.Hears transport name request)
      (.after ticks (remote.judge rejected (Remote.decodeBody α) received).1 events) where
  decides := ⟨_, Reply.gives_after_iff.mpr rfl, fun _ => Reply.gives_after_iff.mp⟩
  value value := by
    rw [Reply.gives_after_iff, eq_comm, Remote.judge_eq_ok_iff]
    constructor
    · exact fun decoded => ⟨received, hears, decoded⟩
    · rintro ⟨other, heard, decoded⟩
      rw [hears.unique heard]
      exact decoded
  blamed other heard blames complete := by
    rw [Reply.gives_after_iff, hears.unique heard]
    exact (Remote.judge_blamed blames complete).symm
  refused other heard blameless fails := by
    rw [Reply.gives_after_iff, hears.unique heard]
    exact (Remote.judge_refused blameless fails).symm
  unheard unheard := absurd hears (unheard received)
  unreadable other heard blames incomplete := by
    rw [hears.unique heard]
    rcases Remote.judge_unreadable blames incomplete with ⟨reason, judged⟩
    exact ⟨reason, Reply.gives_after_iff.mpr judged.symm⟩
  useless other heard succeeds useless := by
    rw [hears.unique heard]
    rcases Remote.judge_useless succeeds useless with ⟨reason, judged⟩
    exact ⟨reason, Reply.gives_after_iff.mpr judged.symm⟩

/-- A reply that says that nothing was heard. -/
theorem Judges.of_unheard [Wire α] {ticks : Nat} {reason : String} {events : List Log.Event}
    {hears : Received → Prop} (unheard : ∀ received, ¬ hears received) :
    Judges remote rejected hears
      (.after ticks (.error (.unavailable remote.id reason)) events : Reply α) where
  decides := ⟨_, Reply.gives_after_iff.mpr rfl, fun _ => Reply.gives_after_iff.mp⟩
  value value := by
    rw [Reply.gives_after_iff]
    exact iff_of_false nofun fun ⟨received, heard, _⟩ => unheard received heard
  blamed received heard := absurd heard (unheard received)
  refused received heard := absurd heard (unheard received)
  unheard _ := ⟨reason, Reply.gives_after_iff.mpr rfl⟩
  unreadable received heard := absurd heard (unheard received)
  useless received heard := absurd heard (unheard received)

/-- What a remote provider hears decides its reply, by status, completeness and body. -/
theorem Remote.judges [Wire α] : Judges remote rejected (remote.Hears transport name request)
    (remote.fetch transport name request rejected (Remote.decodeBody α)) := by
  rcases Remote.fetch_cases with
    ⟨received, hears, ticks, same⟩ | ⟨unheard, ticks, reason, events, same⟩
  · rw [same]
    exact Judges.of_heard hears
  · rw [same]
    exact Judges.of_unheard unheard

theorem Judges.whole [Wire α] {hears : Received → Prop} {reply : Reply α}
    (judges : Judges remote rejected hears reply)
    (encloses : (Wire.shape α).encloses = true) :
    JudgesWhole remote rejected hears reply where
  toJudges := judges
  empty := by
    intro received heard succeeds none
    refine judges.useless received heard succeeds (Or.inr fun value decoded => ?_)
    rw [none] at decoded
    exact Wire.decode_nil_ne_ok decoded
  trailing := by
    intro received text rest first heard succeeds split decoded more
    refine judges.useless received heard succeeds (Or.inr fun value longer => more ?_)
    rw [split] at longer
    exact Wire.blank_of_decode_append encloses decoded longer

end Judging

/-- Each of the three methods of a remote provider judges whatever the network does: what is
blamed on the request is an asset for rates and an address for accounts, and to ask for
information leaves nothing to blame. -/
theorem Remote.judges_every_answer (remote : Remote) (transport : Transport) :
    JudgesWhole remote
      (fun words => .unavailable remote.id ("upstream rejected info request: " ++ words))
      (remote.Hears transport "info" .get) (remote.toBackend transport).info ∧
    (∀ symbols, JudgesWhole remote (.invalidAsset remote.id)
      (remote.Hears transport "rates" fun url => .post url (Wire.encode (RatesQuery.mk symbols)))
      ((remote.toBackend transport).rates symbols)) ∧
    (∀ query, JudgesWhole remote (.invalidAddress remote.id)
      (remote.Hears transport "account" fun url => .post url (Wire.encode query))
      ((remote.toBackend transport).accounts query)) := by
  refine ⟨?_, fun symbols => ?_, fun query => ?_⟩
  · rw [Remote.info_toBackend]
    exact Remote.judges.whole rfl
  · rw [Remote.rates_toBackend]
    exact Remote.judges.whole rfl
  · rw [Remote.accounts_toBackend]
    exact Remote.judges.whole rfl

/-- Asked for a rate, a remote provider takes an empty list from a good answer, passes on what
the other gateway says of a bad request, and is unavailable if the list breaks off or if the
other gateway is. -/
theorem Remote.judges_every_answer_heard :
    let remote : Remote := ⟨"far", "http://upstream:9000/v1", 10000⟩
    let rates (status : Nat) (body : String) (complete : Bool) : Reply (List Rate) :=
      (remote.toBackend fun _ => .answered 3 ⟨status, Text.octets body, complete⟩).rates ["ETH"]
    (rates 200 "[]" true).Gives (.ok []) ∧
      (rates 400 "no ETH" true).Gives (.error (.invalidAsset "far" "no ETH")) ∧
      (∃ reason, (rates 200 "[]" false).Gives (.error (.unavailable "far" reason))) ∧
      (rates 503 "no ETH" true).Gives
        (.error (.unavailable "far" "upstream returned HTTP 503")) := by
  intro remote rates
  let target : Url := ⟨.http, "", none, .name "upstream", some 9000, ["v1", "rates"], none, none⟩
  have read : Url.read? (remote.endpoint "rates") = some target := by decide +kernel
  have sendable : Remote.isTarget target = true := by decide +kernel
  have hears (received : Received) : remote.Hears (fun _ => .answered 3 received) "rates"
      (fun url => .post url (Wire.encode (RatesQuery.mk ["ETH"]))) received :=
    ⟨target, 3, read, sendable, rfl, by decide⟩
  have judges (received : Received) :=
    (remote.judges_every_answer fun _ => .answered 3 received).2.1 ["ETH"]
  have good : Succeeds ⟨200, Text.octets "[]", false⟩ := ⟨by decide, by decide⟩
  have decoded : Wire.decode (List Rate) (Text.octets "[]") = .ok [] := rfl
  have bad : ¬ Succeeds ⟨503, Text.octets "no ETH", true⟩ := by
    rintro ⟨_, impossible⟩
    exact absurd impossible (by decide)
  refine ⟨?value, ?blamed, ?broken, ?refused⟩
  case value => exact ((judges _).value []).mpr ⟨_, hears _, good, rfl, decoded⟩
  case blamed =>
    have blamed := (judges _).blamed _ (hears ⟨400, Text.octets "no ETH", true⟩) rfl rfl
    rwa [Text.ofOctetsLossy_octets] at blamed
  case broken => exact (judges _).useless _ (hears _) good (Or.inl rfl)
  case refused => exact (judges _).refused _ (hears _) (by decide) bad

end Backend
end LendingGateway
