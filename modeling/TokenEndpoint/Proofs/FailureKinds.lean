import TokenEndpoint.Proofs.Assembly
import TokenEndpoint.Proofs.Building
import TokenEndpoint.Proofs.Course
import TokenEndpoint.Proofs.ErrorBodies
/-!
The kinds of failure that leave an exchange over one of the two adapters. Documented are faults of
the configuration, transport faults and refusals. Besides these a failure gets out in six ways
(`Escapes`): the endpoint is no URL, the HTTP client finds the URL unusable, the body is nested too deep,
the clock shows no finite number, the authority's own URL is none, or what is read for the account is nested
too deep. Main statement:

* `documented_iff_not_escapes` -- with a grant and a credential of this library, a failure that is not
  documented comes out of an exchange in these six ways and in no other.
-/

namespace TokenEndpoint

/-! ## 1. Documented failures -/

/-- The kinds of failure that are documented: the configuration, the transport, and the three kinds of
refusal. -/
def Failure.isDocumented : Failure → Bool
  | .configuration _ | .transport _ | .refused _ => true
  | _ => false

/-- The body of a response is given up because it is nested too deep, or it gives a documented failure. -/
theorem Response.object_eq_error {room : Nat} {r : Response} {failure : Failure}
    (h : r.object room = .error failure) :
    failure.isDocumented = true ∨
      ∃ container, Json.read room r.body = .error (.tooDeep container) ∧ failure = .tooDeep container := by
  unfold object at h
  split at h
  · next halt hread =>
    cases h
    cases halt with
    | fault found => exact .inl rfl
    | tooDeep container => exact .inr ⟨container, hread, rfl⟩
  · cases h
  · cases h
    exact .inl rfl

/-- A response is refused, or its payload cannot be decoded, both of which are documented; or its body is
given up. -/
theorem Response.classify_eq_error {room : Nat} {r : Response} {failure : Failure}
    (h : r.classify room = .error failure) :
    failure.isDocumented = true ∨
      ∃ container, Json.read room r.body = .error (.tooDeep container) ∧ failure = .tooDeep container := by
  unfold classify at h
  split at h
  · rcases bind_eq_error.mp h with hobject | ⟨members, -, hfields⟩
    · exact object_eq_error hobject
    · obtain ⟨faults, -, rfl⟩ := mapError_eq_error.mp hfields
      exact .inl rfl
  · rcases bind_eq_error.mp h with hdetails | ⟨details, -, hrefused⟩
    · have hmembers := map_eq_error.mp hdetails
      unfold ErrorDetails.membersOf at hmembers
      split at hmembers
      · cases hmembers
      · exact object_eq_error hmembers
    · cases hrefused
      exact .inl rfl

/-- A result cannot be assembled because the authority's URL is none, because what is read for the account
is nested too deep, or for a documented reason. -/
theorem Result.assemble_eq_error {room : Json.Room} {payload : Payload} {seconds : Int}
    {authority : Authority} {failure : Failure}
    (h : Result.assemble room payload seconds authority = .error failure) :
    failure.isDocumented = true ∨
      (∃ fault, Url.parse authority.canonicalUrl = .error fault ∧ failure = .url fault) ∨
      ∃ environment container, authority.host = .ok environment ∧
        Result.accountOf room payload environment authority.variant.policyTag =
          .error (.tooDeep container) ∧ failure = .tooDeep container := by
  cases hhost : authority.host with
  | ok environment =>
    have haccount := (assemble_eq_error_iff hhost).mp h
    rcases of_accountOf_eq_error haccount with ⟨fault, rfl⟩ | ⟨container, rfl, -⟩
    · exact .inl rfl
    · exact .inr (.inr ⟨environment, container, rfl, haccount, rfl⟩)
  | error found =>
    rw [assemble, hhost, error_bind] at h
    cases h
    unfold Authority.host at hhost
    split at hhost
    · cases hhost
    · next fault hp => exact .inr (.inl ⟨fault, hp, (Except.error.inj hhost).symm⟩)

/-! ## 2. HTTP clients -/

/-- The failures that the HTTP client under an adapter raises: those of its own family, and, for the
client that takes octets, an unusable URL, which is in no family. -/
def Adapter.Raises (a : Adapter) (failure : Failure) : Prop :=
  (∃ label text, failure = .foreign (some a) label text) ∨
    (a = .binary ∧ ∃ text, failure = .foreign none "InvalidURL" text)

variable {a : Adapter} {options : ClientOptions} {client : ClientCall → Except Failure Response}

/-- An adapter passes a response on as it is. -/
theorem Adapter.send_eq_ok_iff {request : Request} {response : Response} :
    (a.send options client request).result = .ok response ↔
      client (a.call options request) = .ok response := by
  unfold send
  dsimp only
  cases client (a.call options request) with
  | ok found => simp
  | error failure => simp

/-- An adapter makes a documented failure of all that its client raises but the unusable URL. -/
theorem Adapter.send_eq_error {request : Request} {failure : Failure}
    (hclient : ∀ call failure, client call = .error failure → a.Raises failure)
    (h : (a.send options client request).result = .error failure) :
    failure.isDocumented = true ∨
      a = .binary ∧ ∃ text, client (a.call options request) = .error failure ∧
        failure = .foreign none "InvalidURL" text := by
  unfold send at h
  dsimp only at h
  cases hc : client (a.call options request) with
  | ok response => rw [hc] at h; cases h
  | error raised =>
    rw [hc] at h
    rcases hclient _ _ hc with ⟨label, text, rfl⟩ | ⟨ha, text, rfl⟩
    · left
      simp only [passOn, if_true] at h
      cases h
      rfl
    · right
      cases h
      exact ⟨ha, text, rfl, rfl⟩

/-! ## 3. What gets out -/

namespace Exchanger

/-- The world of an exchange over an adapter. -/
def overAdapter (platform : String) (clock : Decimal.Number) (room : Json.Room) (a : Adapter)
    (options : ClientOptions) (client : ClientCall → Except Failure Response) : Surroundings :=
  { platform, clock, room, transport := a.send options client }

variable {platform : String} {clock : Decimal.Number} {room : Json.Room}

/-- The ways in which a failure that is not documented leaves an exchange:

* `endpoint` -- the token endpoint cannot be split as a URL;
* `client` -- the client that takes octets finds the URL unusable;
* `body` -- a response comes whose body is nested deeper than there is room;
* `clock` -- a success comes while the clock shows no finite number;
* `host` -- a success comes, but the authority's own URL cannot be split;
* `account` -- a success comes, but the payload of its ID token, or its client info, is nested deeper than
  there is room. -/
inductive Escapes (platform : String) (clock : Decimal.Number) (room : Json.Room) (a : Adapter)
    (options : ClientOptions) (client : ClientCall → Except Failure Response) (c : Call) :
    Failure → Prop where
  | endpoint {text : String} {fault : Url.Fault}
      (hu : c.authority.tokenEndpointUrl = some text) (hne : text ≠ "")
      (hp : Url.parse text = .error fault) :
      Escapes platform clock room a options client c (.url fault)
  | client {request : Request} {text : String} (hb : buildRequest platform c = .ok request)
      (ha : a = .binary)
      (hr : client (a.call options request) = .error (.foreign none "InvalidURL" text)) :
      Escapes platform clock room a options client c (.foreign none "InvalidURL" text)
  | body {request : Request} {response : Response} {container : Json.Container}
      (hb : buildRequest platform c = .ok request)
      (hr : client (a.call options request) = .ok response)
      (hdeep : Json.read room.body response.body = .error (.tooDeep container)) :
      Escapes platform clock room a options client c (.tooDeep container)
  | clock {request : Request} {response : Response} {payload : Payload}
      (hb : buildRequest platform c = .ok request)
      (hr : client (a.call options request) = .ok response)
      (hp : response.classify room.body = .ok payload) (ht : clock.truncate? = none) :
      Escapes platform clock room a options client c (.clock clock)
  | host {request : Request} {response : Response} {payload : Payload} {seconds : Int}
      {fault : Url.Fault} (hb : buildRequest platform c = .ok request)
      (hr : client (a.call options request) = .ok response)
      (hp : response.classify room.body = .ok payload) (ht : clock.truncate? = some seconds)
      (hh : Url.parse c.authority.canonicalUrl = .error fault) :
      Escapes platform clock room a options client c (.url fault)
  | account {request : Request} {response : Response} {payload : Payload} {seconds : Int}
      {environment : String} {container : Json.Container} (hb : buildRequest platform c = .ok request)
      (hr : client (a.call options request) = .ok response)
      (hp : response.classify room.body = .ok payload) (ht : clock.truncate? = some seconds)
      (hh : c.authority.host = .ok environment)
      (hdeep : Result.accountOf room payload environment c.authority.variant.policyTag =
        .error (.tooDeep container)) :
      Escapes platform clock room a options client c (.tooDeep container)

theorem capturedAt_eq_error {reading : Decimal.Number} {failure : Failure}
    (h : capturedAt reading = .error failure) :
    reading.truncate? = none ∧ failure = .clock reading := by
  unfold capturedAt at h
  split at h
  · cases h
  · next hn => exact ⟨hn, (Except.error.inj h).symm⟩

theorem capturedAt_eq_ok {reading : Decimal.Number} {seconds : Int}
    (h : capturedAt reading = .ok seconds) : reading.truncate? = some seconds := by
  unfold capturedAt at h
  split at h
  · next found hf => cases h; exact hf
  · cases h

/-- A response that came over an adapter is the client's answer to the request that was built. -/
theorem received_eq_ok_iff {c : Call} {response : Response} :
    received (overAdapter platform clock room a options client) c = .ok response ↔
      ∃ request, buildRequest platform c = .ok request ∧
        client (a.call options request) = .ok response := by
  rw [received, bind_eq_ok]
  simp only [overAdapter, Adapter.send_eq_ok_iff]

/-- Failures of building and sending: documented, or of the first two ways out. -/
theorem received_eq_error {c : Call} {failure : Failure} (hg : c.grant.flow.isBuiltIn = true)
    (hc : Credential.NoneCustom c.credential)
    (hclient : ∀ call failure, client call = .error failure → a.Raises failure)
    (h : received (overAdapter platform clock room a options client) c = .error failure) :
    failure.isDocumented = true ∨ Escapes platform clock room a options client c failure := by
  rcases bind_eq_error.mp h with hb | ⟨request, hb, hr⟩
  · have he := (buildRequest_eq_error_iff hg hc failure).mp hb
    rcases checkEndpoint_eq_error he with ⟨fault, rfl⟩ | ⟨text, fault, hu, hne, hp, rfl⟩
    · exact Or.inl rfl
    · exact Or.inr (.endpoint hu hne hp)
  · rcases Adapter.send_eq_error hclient hr with hd | ⟨ha, text, hr, rfl⟩
    · exact Or.inl hd
    · exact Or.inr (.client hb ha hr)

/-- Failures of the five steps: documented, or of the six ways out. -/
theorem steps_eq_error {c : Call} {failure : Failure} (hg : c.grant.flow.isBuiltIn = true)
    (hc : Credential.NoneCustom c.credential)
    (hclient : ∀ call failure, client call = .error failure → a.Raises failure)
    (h : steps (overAdapter platform clock room a options client) c = .error failure) :
    failure.isDocumented = true ∨ Escapes platform clock room a options client c failure := by
  rcases bind_eq_error.mp h with hr | ⟨response, hr, h⟩
  · exact received_eq_error hg hc hclient hr
  obtain ⟨request, hb, hr⟩ := received_eq_ok_iff.mp hr
  rcases bind_eq_error.mp h with hp | ⟨payload, hp, h⟩
  · rcases Response.classify_eq_error hp with hd | ⟨container, hdeep, rfl⟩
    · exact Or.inl hd
    · exact Or.inr (.body hb hr hdeep)
  rcases bind_eq_error.mp h with ht | ⟨seconds, ht, h⟩
  · obtain ⟨hn, rfl⟩ := capturedAt_eq_error ht
    exact Or.inr (.clock hb hr hp hn)
  rcases Result.assemble_eq_error h with hd | ⟨fault, hh, rfl⟩ | ⟨environment, container, hh, hdeep, rfl⟩
  · exact Or.inl hd
  · exact Or.inr (.host hb hr hp (capturedAt_eq_ok ht) hh)
  · exact Or.inr (.account hb hr hp (capturedAt_eq_ok ht) hh hdeep)

/-- Each of the six ways out is taken. -/
theorem steps_of_escapes {c : Call} {failure : Failure} (hg : c.grant.flow.isBuiltIn = true)
    (hc : Credential.NoneCustom c.credential)
    (h : Escapes platform clock room a options client c failure) :
    steps (overAdapter platform clock room a options client) c = .error failure := by
  cases h with
  | @endpoint text fault hu hne hp =>
    have hb : buildRequest platform c = .error (.url fault) :=
      (buildRequest_eq_error_iff hg hc _).mpr (by rw [hu]; exact checkEndpoint_of_parse_error hne hp)
    rw [steps, received, overAdapter, hb, error_bind, error_bind]
  | @client request text hb ha hr =>
    subst ha
    have hs : (Adapter.binary.send options client request).result =
        .error (.foreign none "InvalidURL" text) := by
      unfold Adapter.send
      dsimp only
      rw [hr]
      rfl
    rw [steps, received, overAdapter, hb, ok_bind, hs, error_bind]
  | @body request response container hb hr hdeep =>
    have hreceived : received (overAdapter platform clock room a options client) c = .ok response :=
      received_eq_ok_iff.mpr ⟨request, hb, hr⟩
    rw [steps, hreceived, ok_bind, overAdapter, Response.classify_of_tooDeep hdeep, error_bind]
  | @clock request response payload hb hr hp ht =>
    have hreceived : received (overAdapter platform clock room a options client) c = .ok response :=
      received_eq_ok_iff.mpr ⟨request, hb, hr⟩
    have hn : capturedAt clock = .error (.clock clock) := by rw [capturedAt, ht]
    rw [steps, hreceived, ok_bind, overAdapter, hp, ok_bind, hn, error_bind]
  | @host request response payload seconds fault hb hr hp ht hh =>
    have hreceived : received (overAdapter platform clock room a options client) c = .ok response :=
      received_eq_ok_iff.mpr ⟨request, hb, hr⟩
    have hs : capturedAt clock = .ok seconds := by rw [capturedAt, ht]
    have hhost : c.authority.host = .error (.url fault) := by rw [Authority.host, hh]
    rw [steps, hreceived, ok_bind, overAdapter, hp, ok_bind, hs, ok_bind, Result.assemble, hhost,
      error_bind]
  | @account request response payload seconds environment container hb hr hp ht hh hdeep =>
    have hreceived : received (overAdapter platform clock room a options client) c = .ok response :=
      received_eq_ok_iff.mpr ⟨request, hb, hr⟩
    have hs : capturedAt clock = .ok seconds := by rw [capturedAt, ht]
    have hassembled : Result.assemble room payload seconds c.authority = .error (.tooDeep container) :=
      (Result.assemble_eq_error_iff hh).mpr hdeep
    rw [steps, hreceived, ok_bind, overAdapter, hp, ok_bind, hs, ok_bind, hassembled]

theorem Escapes.not_isDocumented {c : Call} {failure : Failure}
    (h : Escapes platform clock room a options client c failure) : failure.isDocumented = false := by
  cases h <;> rfl

/-- An outcome whose failures that are not documented are those of `P` is a result or documented
exactly if `P` has none. -/
theorem documented_iff {outcome : Except Failure Result} {P : Failure → Prop}
    (hout : ∀ failure, outcome = .error failure ∧ failure.isDocumented = false ↔ P failure) :
    (∃ result, outcome = .ok result) ∨
        (∃ failure, outcome = .error failure ∧ failure.isDocumented = true) ↔
      ¬ ∃ failure, P failure := by
  cases outcome with
  | ok result =>
    refine iff_of_true (Or.inl ⟨result, rfl⟩) ?_
    rintro ⟨failure, h⟩
    cases ((hout failure).mpr h).1
  | error found =>
    cases hd : found.isDocumented with
    | true =>
      refine iff_of_true (Or.inr ⟨found, rfl, hd⟩) ?_
      rintro ⟨failure, h⟩
      obtain ⟨hf, hfalse⟩ := (hout failure).mpr h
      cases hf
      exact Bool.false_ne_true (hfalse.symm.trans hd)
    | false =>
      refine iff_of_false ?_ fun hnone => hnone ⟨found, (hout found).mp ⟨rfl, hd⟩⟩
      rintro (⟨result, hr⟩ | ⟨failure, hf, htrue⟩)
      · cases hr
      · cases hf
        exact Bool.false_ne_true (hd.symm.trans htrue)

/-- **The six ways out are the only ones**: an exchange over an adapter whose client raises errors of
its own only, with a grant and a credential of this library, comes to a result or to a documented
failure exactly if none of them is open; and the failures that get out are those of the six ways. -/
theorem documented_iff_not_escapes (e : Exchanger) (ids : IdSupply) (c : Call)
    (hg : c.grant.flow.isBuiltIn = true) (hc : Credential.NoneCustom c.credential)
    (hclient : ∀ call failure, client call = .error failure → a.Raises failure) :
    let outcome := (e.exchange (overAdapter platform clock room a options client) ids c).outcome
    ((∃ result, outcome = .ok result) ∨
        (∃ failure, outcome = .error failure ∧ failure.isDocumented = true) ↔
      ¬ ∃ failure, Escapes platform clock room a options client (e.headed ids c) failure) ∧
    ∀ failure, outcome = .error failure ∧ failure.isDocumented = false ↔
      Escapes platform clock room a options client (e.headed ids c) failure := by
  have hout (failure : Failure) :
      (e.exchange (overAdapter platform clock room a options client) ids c).outcome = .error failure ∧
        failure.isDocumented = false ↔
      Escapes platform clock room a options client (e.headed ids c) failure := by
    have hg : (e.headed ids c).grant.flow.isBuiltIn = true := hg
    have hc : Credential.NoneCustom (e.headed ids c).credential := hc
    rw [exchange_outcome]
    constructor
    · rintro ⟨h, hd⟩
      refine (steps_eq_error hg hc hclient h).resolve_left ?_
      rw [hd]
      exact Bool.false_ne_true
    · intro h
      exact ⟨steps_of_escapes hg hc h, h.not_isDocumented⟩
  exact ⟨documented_iff hout, hout⟩

/-- A token endpoint with an open bracket in it, over a client that answers nothing but an error of its
own: the exchange comes neither to a result nor to a documented failure. -/
theorem documented_iff_not_escapes_open_bracket :
    let client : ClientCall → Except Failure Response :=
      fun _ => .error (.foreign (some .textual) "ConnectionError" "unreachable")
    let w := overAdapter "linux" (.whole 0) {} .textual {} client
    let c : Call :=
      { authority := { canonicalUrl := "https://h/t", tokenEndpoint := some "https://[::1/token" }
        grant := { flow := .refreshToken "RT" } }
    let e : Exchanger := {}
    let ids : IdSupply := { name := fun _ => "id" }
    (e.exchange w ids c).outcome = .error (.url .brackets) ∧
      ¬ ((∃ result, (e.exchange w ids c).outcome = .ok result) ∨
        ∃ failure, (e.exchange w ids c).outcome = .error failure ∧ failure.isDocumented = true) := by
  intro client w c e ids
  have hclient : ∀ call failure, client call = .error failure →
      Adapter.textual.Raises failure := by
    intro call failure h
    cases h
    exact Or.inl ⟨_, _, rfl⟩
  have hescapes : Escapes "linux" (.whole 0) {} .textual {} client (e.headed ids c) (.url .brackets) :=
    .endpoint rfl (by decide) rfl
  have hc : Credential.NoneCustom c.credential := by
    intro credential h
    cases h
  obtain ⟨hdocumented, hout⟩ := documented_iff_not_escapes e ids c rfl hc hclient
  exact ⟨((hout _).mpr hescapes).1, fun h => hdocumented.mp h ⟨_, hescapes⟩⟩

end Exchanger

end TokenEndpoint
