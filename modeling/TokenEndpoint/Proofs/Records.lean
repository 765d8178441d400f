import TokenEndpoint.Proofs.Bodies
import TokenEndpoint.Proofs.Building
import TokenEndpoint.Proofs.ClientTelemetryHeaders
import TokenEndpoint.Proofs.Steps
import TokenEndpoint.Proofs.Targets
/-!
Records against what happened. The record of an exchange is written in stages: its path before the span
is opened, the ids as it is opened, status and headers once a response has come, the error code of a
refusal last. Whichever stage the exchange breaks off at, the record that the sinks get agrees with the
response and with the outcome. Main statements:

* `Record.exists_setTarget` -- an endpoint that passes the check has a path;
* `exchange_record_agrees` -- the record that is handed out agrees with the exchange (`Agrees`).
-/

namespace TokenEndpoint

/-! ## 1. Headers of a response -/

/-- The first header of a name, whatever the case of its letters, has this value. -/
def Response.FirstHeader (r : Response) (name text : String) : Prop :=
  ∃ before key after, r.headers = before ++ (key, text) :: after ∧
    Text.lower key = Text.lower name ∧ ∀ h ∈ before, Text.lower h.1 ≠ Text.lower name

theorem Response.header?_eq_some_iff {r : Response} {name text : String} :
    r.header? name = some text ↔ r.FirstHeader name text := by
  rw [header?, Option.map_eq_some_iff]
  constructor
  · rintro ⟨⟨key, value⟩, hfind, rfl⟩
    obtain ⟨hkey, before, after, hsplit, hbefore⟩ := List.find?_eq_some_iff_append.mp hfind
    refine ⟨before, key, after, hsplit, eq_of_beq hkey, fun h hmem heq => ?_⟩
    simpa [heq] using hbefore h hmem
  · rintro ⟨before, key, after, hsplit, hkey, hbefore⟩
    refine ⟨(key, text), List.find?_eq_some_iff_append.mpr ⟨beq_iff_eq.mpr hkey, before, after,
      hsplit, fun h hmem => ?_⟩, rfl⟩
    simpa using hbefore h hmem

/-- A header is kept if the first one of its name is not blank. -/
theorem Record.givenHeader?_eq_some_iff {r : Response} {name text : String} :
    givenHeader? r name = some text ↔ r.FirstHeader name text ∧ Text.isBlankText text = false := by
  rw [givenHeader?, Option.bind_eq_some_iff, ← Response.header?_eq_some_iff]
  constructor
  · rintro ⟨found, hfound, hkept⟩
    cases hblank : Text.isBlankText found with
    | true => rw [hblank] at hkept; cases hkept
    | false => rw [hblank] at hkept; cases hkept; exact ⟨hfound, hblank⟩
  · rintro ⟨hfound, hblank⟩
    exact ⟨text, hfound, by rw [hblank]; rfl⟩

/-! ## 2. The path of a request -/

/-- **An endpoint that passes the check can be kept as a target**, and has a path. -/
theorem Record.exists_setTarget {url : Option String} {text : String}
    (h : checkEndpoint url = .ok text) (r : Record) :
    ∃ changed, r.setTarget url = .ok changed ∧ changed.path ≠ none := by
  obtain ⟨rfl, -, parsed, hparsed, hscheme, hnetloc⟩ := checkEndpoint_eq_ok h
  have htarget : readTarget (some text) = .ok parsed :=
    readTarget_eq_ok_iff.mpr ⟨text, rfl, hparsed, hscheme, hnetloc⟩
  refine ⟨_, by rw [setTarget, htarget]; rfl, ?_⟩
  exact Option.some_ne_none _

/-- A request is built for an endpoint that passes the check. -/
theorem checkEndpoint_of_buildRequest {platform : String} {authority : Authority} {grant : Grant}
    {headers : Option RequestHeaders} {credential : Option Credential} {request : Request}
    (h : buildRequest platform authority grant headers credential = .ok request) :
    ∃ text, checkEndpoint authority.tokenEndpointUrl = .ok text := by
  obtain ⟨draft, hdraft, -⟩ := bind_eq_ok.mp h
  obtain ⟨text, hcheck, -⟩ := bind_eq_ok.mp hdraft
  exact ⟨text, hcheck⟩

/-! ## 3. The stages of a record -/

/-- Headers that can be made: no id is empty, neither a given one nor one of the supply. -/
def RequestHeaders.Made (h : RequestHeaders) : Prop :=
  ∃ (ids : IdSupply) (correlationId : Option String) (extra : List (String × String))
    (settings : Settings), (∀ n, ids.name n ≠ "") ∧ h = (create ids correlationId extra settings).1

theorem RequestHeaders.Made.correlationId_ne {h : RequestHeaders} (hmade : h.Made) :
    h.correlationId ≠ "" := by
  obtain ⟨ids, correlationId, extra, settings, hids, rfl⟩ := hmade
  unfold create
  dsimp only
  split
  · next id =>
    split
    · exact hids _
    · next hne => exact fun he => hne (String.isEmpty_iff.mpr he)
  · exact hids _

theorem Record.renew_none_eq_some_iff {given : Option String} {text : String} :
    renew none given = some text ↔ given = some text ∧ text ≠ "" := by
  cases given with
  | none => simp [renew]
  | some found =>
    rw [renew, Option.some.injEq]
    split
    · next he =>
      rw [String.isEmpty_iff] at he
      constructor
      · intro h
        cases h
      · rintro ⟨rfl, hne⟩
        exact absurd he hne
    · next hne =>
      rw [String.isEmpty_iff] at hne
      exact ⟨fun h => ⟨Option.some.inj h, Option.some.inj h ▸ hne⟩, fun h => congrArg some h.1⟩

namespace Exchanger

/-- The record of an exchange before anything is sent: neither status nor headers nor error code. -/
structure Untold (record : Record) : Prop where
  status : record.status = none
  userAgent : record.userAgent = none
  requestId : record.requestId = none
  clientTelemetry : record.clientTelemetry = none
  errorCode : record.errorCode = none

section Stages

variable (e : Exchanger) (w : Surroundings) (ids : IdSupply) (c : Call)

/-- The record as the span is opened tells nothing of a response; it names exchange and client. -/
theorem openedRecord_untold : Untold (e.openedRecord ids c) ∧
    (e.openedRecord ids c).correlationId =
      Record.renew none (some (e.callHeaders ids c).correlationId) ∧
    (e.openedRecord ids c).clientId = Record.renew none c.clientId := by
  unfold openedRecord startRecord Record.setTarget
  dsimp only
  cases Record.readTarget c.authority.tokenEndpointUrl with
  | error fault => exact ⟨⟨rfl, rfl, rfl, rfl, rfl⟩, rfl, rfl⟩
  | ok parsed => exact ⟨⟨rfl, rfl, rfl, rfl, rfl⟩, rfl, rfl⟩

/-- A record has a path if a request can be built. -/
theorem openedRecord_path {request : Request}
    (h : buildRequest w.platform (e.headed ids c) = .ok request) :
    (e.openedRecord ids c).path ≠ none := by
  obtain ⟨text, hcheck⟩ := checkEndpoint_of_buildRequest h
  obtain ⟨changed, hset, hpath⟩ :=
    Record.exists_setTarget hcheck ({ method := some Request.method } : Record)
  have hstart : (e.startRecord c.authority (e.callHeaders ids c).correlationId).1 = changed := by
    unfold startRecord
    dsimp only
    rw [show c.authority.tokenEndpointUrl = (e.headed ids c).authority.tokenEndpointUrl from rfl, hset]
  rw [openedRecord, hstart]
  exact hpath

variable {e w ids c}

/-- Without a response the record is left as it was opened. -/
theorem endedRecord_of_error {failure : Failure}
    (h : received w (e.headed ids c) = .error failure) :
    e.endedRecord w ids c = (e.openedRecord ids c).finish := by
  unfold endedRecord courseOf
  rcases bind_eq_error.mp h with hbuilt | ⟨request, hbuilt, hreply⟩
  · rw [inside_of_unbuilt _ _ hbuilt]
  · rw [inside_of_unanswered _ _ hbuilt hreply]

theorem endedRecord_of_success {response : Response}
    (h : received w (e.headed ids c) = .ok response) (hs : response.status = Response.success) :
    e.endedRecord w ids c = e.answeredRecord ids c response := by
  obtain ⟨request, hbuilt, hreply⟩ := bind_eq_ok.mp h
  unfold endedRecord courseOf
  rw [inside_of_answered _ _ hbuilt hreply]
  dsimp only
  rw [(answer_of_success _ _ _ _ _ hs).1]
  rfl

/-- A refusal leaves the code that is raised. -/
theorem endedRecord_of_refusal {response : Response}
    (h : received w (e.headed ids c) = .ok response) (hs : response.status ≠ Response.success)
    (hroom : ¬ Json.TooDeep w.room.body response.body.toList) :
    ∃ refusal, (e.exchange w ids c).outcome = .error (.refused refusal) ∧
      e.endedRecord w ids c =
        { e.answeredRecord ids c response with errorCode := some refusal.code } := by
  obtain ⟨request, hbuilt, hreply⟩ := bind_eq_ok.mp h
  obtain ⟨refusal, houtcome, hrecord, -⟩ := answer_of_refusal w (e.headed ids c).authority
    (e.callHeaders ids c).correlationId (e.openedRecord ids c) response hs hroom
  refine ⟨refusal, ?_, ?_⟩
  · rw [exchange_outcome_courseOf, courseOf, inside_of_answered _ _ hbuilt hreply]
    exact houtcome
  · unfold endedRecord courseOf
    rw [inside_of_answered _ _ hbuilt hreply]
    dsimp only
    rw [hrecord]
    rfl

/-- A body that is nested too deep leaves no code. -/
theorem endedRecord_of_tooDeep {response : Response} {container : Json.Container}
    (h : received w (e.headed ids c) = .ok response) (hs : response.status ≠ Response.success)
    (hdeep : Json.read w.room.body response.body = .error (.tooDeep container)) :
    (e.exchange w ids c).outcome = .error (.tooDeep container) ∧
      e.endedRecord w ids c = e.answeredRecord ids c response := by
  obtain ⟨request, hbuilt, hreply⟩ := bind_eq_ok.mp h
  obtain ⟨houtcome, hrecord, -⟩ := answer_of_tooDeep w (e.headed ids c).authority
    (e.callHeaders ids c).correlationId (e.openedRecord ids c) response hs hdeep
  refine ⟨?_, ?_⟩
  · rw [exchange_outcome_courseOf, courseOf, inside_of_answered _ _ hbuilt hreply]
    exact houtcome
  · unfold endedRecord courseOf
    rw [inside_of_answered _ _ hbuilt hreply]
    dsimp only
    rw [hrecord]
    rfl

end Stages

end Exchanger

/-! ## 4. What a record tells of a response -/

/-- A record tells of a response, or of none: it has the status, and of the headers the first one of
each name, unless that is blank or, for the server's account, is not written as one. -/
structure Record.TellsOf (record : Record) (response : Option Response) : Prop where
  status : record.status = response.map (·.status)
  userAgent : ∀ text, record.userAgent = some text ↔ ∃ r, response = some r ∧
    r.FirstHeader HeaderName.userAgent text ∧ Text.isBlankText text = false
  requestId : ∀ text, record.requestId = some text ↔ ∃ r, response = some r ∧
    r.FirstHeader HeaderName.requestId text ∧ Text.isBlankText text = false
  clientTelemetry : ∀ found, record.clientTelemetry = some found ↔ ∃ r text, response = some r ∧
    r.FirstHeader HeaderName.clientTelemetry text ∧ found.WrittenAs text

namespace Exchanger

theorem Untold.tellsOf_none {record : Record} (h : Untold record) : record.finish.TellsOf none where
  status := h.status
  userAgent text := by
    rw [show record.finish.userAgent = none from h.userAgent]
    simp
  requestId text := by
    rw [show record.finish.requestId = none from h.requestId]
    simp
  clientTelemetry found := by
    rw [show record.finish.clientTelemetry = none from h.clientTelemetry]
    simp

/-- A record that told nothing tells of the response that is set in it. -/
theorem Untold.tellsOf_setResponse {record : Record} (h : Untold record) (response : Response) :
    (record.setResponse response).1.finish.TellsOf (some response) := by
  have hagent : (record.setResponse response).1.userAgent =
      (Record.givenHeader? response HeaderName.userAgent).orElse fun _ => record.userAgent := rfl
  have hid : (record.setResponse response).1.requestId =
      (Record.givenHeader? response HeaderName.requestId).orElse fun _ => record.requestId := rfl
  have htelemetry : (record.setResponse response).1.clientTelemetry =
      (ClientTelemetry.read (response.header? HeaderName.clientTelemetry)).1.orElse
        fun _ => record.clientTelemetry := rfl
  have hkept {α : Type} (given : Option α) : (given.orElse fun _ => none) = given := by
    cases given <;> rfl
  rw [h.userAgent, hkept] at hagent
  rw [h.requestId, hkept] at hid
  rw [h.clientTelemetry, hkept] at htelemetry
  refine ⟨rfl, fun text => ?_, fun text => ?_, fun found => ?_⟩
  · rw [show (record.setResponse response).1.finish.userAgent = _ from hagent,
      Record.givenHeader?_eq_some_iff]
    simp
  · rw [show (record.setResponse response).1.finish.requestId = _ from hid,
      Record.givenHeader?_eq_some_iff]
    simp
  · rw [show (record.setResponse response).1.finish.clientTelemetry = _ from htelemetry]
    cases hheader : response.header? HeaderName.clientTelemetry with
    | none =>
      constructor
      · intro hread
        cases hread
      · rintro ⟨r, text, hr, hfirst, -⟩
        cases hr
        rw [← Response.header?_eq_some_iff, hheader] at hfirst
        cases hfirst
    | some text =>
      rw [ClientTelemetry.read_eq_some_iff]
      constructor
      · exact fun hwritten => ⟨response, text, rfl, Response.header?_eq_some_iff.mp hheader, hwritten⟩
      · rintro ⟨r, other, hr, hfirst, hwritten⟩
        cases hr
        rw [← Response.header?_eq_some_iff, hheader] at hfirst
        cases hfirst
        exact hwritten

/-! ## 5. What a record tells of an exchange -/

/-- A record agrees with an exchange: it tells of the response that came; it has the code of the
refusal that is raised, and no code if there was none, as where a body is nested too deep to be read; it
names the exchange and the client; it has a path if a request was sent; and it is finished. -/
structure Agrees (w : Surroundings) (c : Call) (correlationId : String) (done : Outcome)
    (record : Record) : Prop where
  response : record.TellsOf (received w c).toOption
  refused : ∀ response, received w c = .ok response → response.status ≠ Response.success →
    ¬ Json.TooDeep w.room.body response.body.toList →
    ∃ refusal, done.outcome = .error (.refused refusal) ∧ record.errorCode = some refusal.code
  givenUp : ∀ response container, received w c = .ok response → response.status ≠ Response.success →
    Json.read w.room.body response.body = .error (.tooDeep container) →
    done.outcome = .error (.tooDeep container) ∧ record.errorCode = none
  unrefused : (∀ response, received w c = .ok response → response.status = Response.success) →
    record.errorCode = none
  correlationId : record.correlationId = some correlationId
  clientId : ∀ text, record.clientId = some text ↔ c.clientId = some text ∧ text ≠ ""
  path : done.trace.requests ≠ [] → record.path ≠ none
  finalized : record.finalized = true

section Agreement

variable {e : Exchanger} {w : Surroundings} {ids : IdSupply} {c : Call}

/-- Headers that are made, the given ones or fresh ones, have an id. -/
theorem callHeaders_correlationId_ne (hids : ∀ n, ids.name n ≠ "")
    (hheaders : ∀ h, c.headers = some h → h.Made) :
    (e.callHeaders ids c).correlationId ≠ "" := by
  cases hc : c.headers with
  | none =>
    rw [callHeaders, hc]
    exact RequestHeaders.Made.correlationId_ne ⟨ids, none, [], e.settings, hids, rfl⟩
  | some headers =>
    rw [callHeaders, hc]
    exact (hheaders headers hc).correlationId_ne

/-- A request is sent only if one is built, and then the record has a path from the start. -/
theorem openedRecord_path_of_sent (h : (e.exchange w ids c).trace.requests ≠ []) :
    (e.openedRecord ids c).path ≠ none := by
  rw [exchange_requests] at h
  cases hbuilt : buildRequest w.platform (e.headed ids c) with
  | error failure => rw [hbuilt] at h; exact absurd rfl h
  | ok request => exact openedRecord_path e w ids c hbuilt

/-- The record agrees with the exchange on every path through it. -/
theorem endedRecord_agrees (hid : (e.callHeaders ids c).correlationId ≠ "") :
    Agrees w (e.headed ids c) (e.callHeaders ids c).correlationId (e.exchange w ids c)
      (e.endedRecord w ids c) := by
  obtain ⟨huntold, hcorrelation, hclient⟩ := openedRecord_untold e ids c
  have hname : (e.openedRecord ids c).correlationId = some (e.callHeaders ids c).correlationId := by
    rw [hcorrelation, Record.renew_none_eq_some_iff]
    exact ⟨rfl, hid⟩
  have hclientId : ∀ text, (e.openedRecord ids c).clientId = some text ↔
      (e.headed ids c).clientId = some text ∧ text ≠ "" := by
    intro text
    rw [hclient, Record.renew_none_eq_some_iff]
    rfl
  cases hr : received w (e.headed ids c) with
  | error failure =>
    rw [endedRecord_of_error hr]
    refine ⟨?_, fun response h => ?_, fun response _ h => ?_, fun _ => huntold.errorCode, hname,
      hclientId, openedRecord_path_of_sent, rfl⟩
    · rw [hr]
      exact huntold.tellsOf_none
    · rw [hr] at h
      cases h
    · rw [hr] at h
      cases h
  | ok response =>
    have htells := huntold.tellsOf_setResponse response
    have hsame {found : Response} (h : received w (e.headed ids c) = .ok found) : found = response :=
      Except.ok.inj (h.symm.trans hr)
    by_cases hs : response.status = Response.success
    · rw [endedRecord_of_success hr hs]
      refine ⟨?_, fun found h hne => ?_, fun found _ h hne => ?_, fun _ => huntold.errorCode, hname,
        hclientId, openedRecord_path_of_sent, rfl⟩
      · rw [hr]
        exact htells
      · exact absurd (hsame h ▸ hs) hne
      · exact absurd (hsame h ▸ hs) hne
    · by_cases hdeep : Json.TooDeep w.room.body response.body.toList
      · obtain ⟨container, hread⟩ := hdeep
        obtain ⟨houtcome, hrecord⟩ := endedRecord_of_tooDeep hr hs hread
        rw [hrecord]
        refine ⟨?_, fun found h _ hroom => ?_, fun found other h _ hfound => ?_, fun h => ?_, hname,
          hclientId, openedRecord_path_of_sent, rfl⟩
        · rw [hr]
          exact htells
        · exact absurd ⟨container, hsame h ▸ hread⟩ hroom
        · cases hsame h
          cases Except.error.inj (hread.symm.trans hfound)
          exact ⟨houtcome, huntold.errorCode⟩
        · exact absurd (h response hr) hs
      · obtain ⟨refusal, houtcome, hrecord⟩ := endedRecord_of_refusal hr hs hdeep
        rw [hrecord]
        refine ⟨?_, fun found h _ _ => ⟨refusal, houtcome, rfl⟩, fun found container h _ hread => ?_,
          fun h => absurd (h response hr) hs, hname, hclientId, openedRecord_path_of_sent, rfl⟩
        · rw [hr]
          exact ⟨htells.status, htells.userAgent, htells.requestId, htells.clientTelemetry⟩
        · exact absurd ⟨container, hsame h ▸ hread⟩ hdeep

end Agreement

/-- **The record that the sinks get agrees with the exchange**, however the exchange ends: one record is
ended, this one is handed out, and it tells the truth about response, outcome, ids and path. The path
cannot be missing: an endpoint that passes the check of a request can be kept as a target. -/
theorem exchange_record_agrees (e : Exchanger) (w : Surroundings) (ids : IdSupply) (c : Call)
    (hids : ∀ n, ids.name n ≠ "") (hheaders : ∀ h, c.headers = some h → h.Made) :
    (∃ record, (e.exchange w ids c).trace.ended = [record] ∧
      ((e.exchange w ids c).trace.deliveries = if e.telemetry.enabled then
        e.telemetry.sinks.map fun sink => (sink.number, record) else []) ∧
      Agrees w (e.headed ids c) (e.callHeaders ids c).correlationId (e.exchange w ids c) record) ∧
    ∀ (url : Option String) (text : String), checkEndpoint url = .ok text →
      ∀ r : Record, ∃ changed, r.setTarget url = .ok changed ∧ changed.path ≠ none := by
  have hends := e.exchange_endsOnce w ids c
  refine ⟨⟨e.endedRecord w ids c, hends.ended, hends.delivered, ?_⟩,
    fun url text h r => Record.exists_setTarget h r⟩
  exact endedRecord_agrees (callHeaders_correlationId_ne hids hheaders)

/-- A refusal with two request ids in different letters, the first of which counts, and a blank user
agent in front of one that says something. -/
theorem exchange_record_agrees_two_ids :
    let response : Response :=
      { status := 400
        headers := [("user-agent", " "), ("X-MS-Request-ID", "r-1"), ("User-Agent", "server"),
          ("x-ms-request-id", "r-2")]
        body := "\x7b\"error\": \"invalid_grant\"\x7d" }
    let w : Surroundings :=
      { platform := "linux", clock := .whole 0
        transport := fun _ => { result := .ok response } }
    let ids : IdSupply := { name := fun n => "id-" ++ toString n }
    let made := RequestHeaders.create ids none [] {}
    let c : Call :=
      { authority := { canonicalUrl := "https://h/t" }, grant := { flow := .refreshToken "RT" }
        headers := some made.1, clientId := some "app" }
    let e : Exchanger := { telemetry := { sinks := [{ number := 1 }] } }
    (∀ n, ids.name n ≠ "") ∧ (∀ h, c.headers = some h → h.Made) ∧
      ∃ record, (e.exchange w made.2 c).trace.deliveries = [(1, record)] ∧
        Agrees w (e.headed made.2 c) "id-1" (e.exchange w made.2 c) record ∧
        record.requestId = some "r-1" ∧ record.userAgent = none ∧
        record.errorCode = some (.ofString "invalid_grant") := by
  intro response w ids made c e
  have hids (n : Nat) : ids.name n ≠ "" := by
    intro h
    have hchars := congrArg String.toList h
    simp [ids] at hchars
  have hheaders (h : RequestHeaders) (hh : c.headers = some h) : h.Made := by
    cases hh
    exact ⟨ids, none, [], {}, hids, rfl⟩
  obtain ⟨⟨record, -, hdelivered, hagrees⟩, -⟩ := exchange_record_agrees e w made.2 c hids hheaders
  have hfields : (e.exchange w made.2 c).trace.deliveries.map
      (fun d => (d.2.requestId, d.2.userAgent, d.2.errorCode)) =
        [(some "r-1", none, some (.ofString "invalid_grant"))] := by decide
  rw [hdelivered] at hfields
  obtain ⟨hid, hagent, hcode⟩ : record.requestId = some "r-1" ∧ record.userAgent = none ∧
      record.errorCode = some (.ofString "invalid_grant") := by
    simpa [e] using hfields
  have hname : (e.callHeaders made.2 c).correlationId = "id-1" := by decide
  rw [hname] at hagrees
  exact ⟨hids, hheaders, record, hdelivered, hagrees, hid, hagent, hcode⟩

end Exchanger

end TokenEndpoint
