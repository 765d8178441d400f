import TokenEndpoint.Proofs.ErrorBodies
import TokenEndpoint.Proofs.Shown
/-!
The body of a response stays out of what an exchange shows. The body carries the tokens. Exchanges are
compared that get one response, but with any bodies in it (`Surroundings.withBody`): of a success the
logs tell whether there is a result, and of a refusal the logs and the record tell its class and its
error code, or nothing if the body is nested too deep to be read. Main statement:

* `body_unseen`
-/

namespace TokenEndpoint

/-! ## 1. Other bodies -/

/-- The same reply, with another body in its response if it brings one. -/
def Reply.withBody (reply : Reply) (body : String) : Reply :=
  { reply with result := reply.result.map fun response => { response with body } }

/-- The same world, in which every response has this body. -/
def Surroundings.withBody (w : Surroundings) (body : String) : Surroundings :=
  { w with transport := fun request => (w.transport request).withBody body }

theorem Reply.withBody_of_ok {reply : Reply} {response : Response} (h : reply.result = .ok response)
    (body : String) : (reply.withBody body).result = .ok { response with body } := by
  show reply.result.map _ = _
  rw [h]
  rfl

/-- A reply without a response has no body to be another. -/
theorem Reply.withBody_of_error {reply : Reply} {failure : Failure} (h : reply.result = .error failure)
    (body : String) : reply.withBody body = reply := by
  obtain ⟨result, entries, calls⟩ := reply
  cases h
  rfl

/-- No sink looks at the error code of a record. -/
def Telemetry.OverlooksErrorCode (t : Telemetry) : Prop :=
  ∀ sink ∈ t.sinks, ∀ (record : Record) (code : Option Text),
    sink.react { record with errorCode := code } = sink.react record

/-! ## 2. What an answer leaves in the logs -/

/-- The note on a body that is no JSON object. -/
def objectNote (room : Nat) (body : String) : List LogEntry :=
  match Json.read room body with
  | .ok (.object _) => []
  | _ => [⟨.responses, .debug, "Error response body is not a JSON object"⟩]

theorem ErrorDetails.notes_eq {room : Nat} {r : Response} {details : ErrorDetails}
    (h : ofResponse room r = .ok details) : notes room r = objectNote room r.body := by
  have hroom : ¬ Json.TooDeep room r.body.toList := exists_ofResponse_iff.mp ⟨details, h⟩
  unfold notes objectNote Response.object
  cases hread : Json.read room r.body with
  | error halt =>
    cases halt with
    | fault found => rfl
    | tooDeep container => exact absurd ⟨container, hread⟩ hroom
  | ok value => cases value <;> rfl

namespace Exchanger

/-- The warning about a refusal, from its class, its error code, the status and the exchange's id. -/
def refusalNotice (label : String) (code : Text) (status : Int) (correlationId : String) : LogEntry :=
  ⟨.exchange, .warning,
    LogEntry.mark
      ("Token request failed: " ++ label ++ " (error=" ++ code ++ ", status=" ++ toString status ++ ")")
      (some correlationId)⟩

/-- The note on an exchange that comes to a result. -/
def successNote (correlationId : String) : Except Failure Result → List LogEntry
  | .ok _ => [succeededEntry correlationId]
  | .error _ => []

section Answers

variable (w : Surroundings) (authority : Authority) (id : String) (record : Record)
  (response : Response)

/-- A success that comes to a result leaves a note; the record is left as it was. -/
theorem succeed_shows :
    (succeed w authority id record response).record = record ∧
      (succeed w authority id record response).trace.entries =
        successNote id (succeed w authority id record response).outcome := by
  unfold succeed
  cases Payload.ofResponse w.room.body response with
  | error failure => exact ⟨rfl, rfl⟩
  | ok payload =>
    dsimp only
    cases capturedAt w.clock >>= fun now => Result.assemble w.room payload now authority with
    | error failure => exact ⟨rfl, rfl⟩
    | ok result => exact ⟨rfl, rfl⟩

/-- A success leaves in the record what its status and headers say, and a note if it comes to a
result. -/
theorem answer_of_success (hs : response.status = Response.success) :
    (answer w authority id record response).record = (record.setResponse response).1 ∧
      (answer w authority id record response).trace.entries =
        (record.setResponse response).2 ++
          successNote id (answer w authority id record response).outcome := by
  have heq : answer w authority id record response =
      { succeed w authority id (record.setResponse response).1 response with
        trace := Trace.ofEntries (record.setResponse response).2 ++
          (succeed w authority id (record.setResponse response).1 response).trace } := by
    unfold answer
    dsimp only
    rw [if_pos hs]
  obtain ⟨hrecord, hentries⟩ := succeed_shows w authority id (record.setResponse response).1 response
  rw [heq]
  dsimp only
  rw [Trace.entries_append, Trace.entries_ofEntries, hentries]
  exact ⟨hrecord, rfl⟩

/-- A refusal leaves its code in the record, and the note and the warning in the logs. -/
theorem answer_of_refusal (hs : response.status ≠ Response.success)
    (hroom : ¬ Json.TooDeep w.room.body response.body.toList) :
    ∃ refusal, (answer w authority id record response).outcome = .error (.refused refusal) ∧
      (answer w authority id record response).record =
        { (record.setResponse response).1 with errorCode := some refusal.code } ∧
      (answer w authority id record response).trace.entries =
        (record.setResponse response).2 ++ objectNote w.room.body response.body ++
          [refusalNotice refusal.kind.label refusal.code response.status id] := by
  obtain ⟨details, hdetails⟩ := ErrorDetails.exists_ofResponse_iff.mpr hroom
  have hstatus : details.classify.status = response.status :=
    details.classify_kept.2.2.1.trans (ErrorDetails.status_of_ofResponse hdetails)
  refine ⟨details.classify, ?_⟩
  unfold answer
  dsimp only
  rw [if_neg hs, refuse, hdetails]
  refine ⟨rfl, rfl, ?_⟩
  dsimp only
  rw [Trace.entries_append, Trace.entries_ofEntries, Trace.entries_ofEntries,
    ErrorDetails.notes_eq hdetails, List.append_assoc, ← hstatus]
  rfl

/-- A body that is nested too deep leaves nothing, neither in the record nor in the logs. -/
theorem answer_of_tooDeep {container : Json.Container} (hs : response.status ≠ Response.success)
    (hdeep : Json.read w.room.body response.body = .error (.tooDeep container)) :
    (answer w authority id record response).outcome = .error (.tooDeep container) ∧
      (answer w authority id record response).record = (record.setResponse response).1 ∧
      (answer w authority id record response).trace.entries = (record.setResponse response).2 := by
  unfold answer
  dsimp only
  rw [if_neg hs, refuse, ErrorDetails.ofResponse_of_tooDeep hdeep]
  refine ⟨rfl, rfl, ?_⟩
  rw [Trace.entries_append, Trace.entries_ofEntries]
  exact List.append_nil _

end Answers

/-! ## 3. What is shown of an exchange -/

/-- The record of an exchange that got a response, but for an error code. -/
def answeredRecord (e : Exchanger) (ids : IdSupply) (c : Call) (response : Response) : Record :=
  ((e.openedRecord ids c).setResponse response).1.finish

/-- What is logged until the body is read. -/
def entriesBefore (e : Exchanger) (ids : IdSupply) (c : Call) (reply : Reply) (response : Response) :
    List LogEntry :=
  e.openingEntries ids c ++
    sendingEntry (e.openedRecord ids c) (e.callHeaders ids c).correlationId :: reply.entries ++
    ((e.openedRecord ids c).setResponse response).2

section Exchanges

variable {e : Exchanger} {w : Surroundings} {ids : IdSupply} {c : Call} {request : Request}
  {response : Response}

/-- An exchange that gets a response shows what it does before, its answer, and what the sinks do. -/
theorem exchange_of_received (hbuilt : buildRequest w.platform (e.headed ids c) = .ok request)
    (hreply : (w.transport request).result = .ok response) :
    let id := (e.callHeaders ids c).correlationId
    let answered := answer w c.authority id (e.openedRecord ids c) response
    (e.exchange w ids c).outcome = answered.outcome ∧
      (e.exchange w ids c).trace.deliveries = (e.span.deliver answered.record.finish).deliveries ∧
      (e.exchange w ids c).trace.entries =
        e.openingEntries ids c ++ sendingEntry (e.openedRecord ids c) id ::
          (w.transport request).entries ++ answered.trace.entries ++
          (e.span.deliver answered.record.finish).entries := by
  intro id answered
  have hcourse : e.courseOf w ids c =
      { answered with
        trace := sending id (e.openedRecord ids c) request (w.transport request) ++
          answered.trace } :=
    inside_of_answered (e.callHeaders ids c).correlationId (e.openedRecord ids c) hbuilt hreply
  have hrecord : e.endedRecord w ids c = answered.record.finish := by rw [endedRecord, hcourse]
  refine ⟨?_, ?_, ?_⟩
  · rw [exchange_outcome_courseOf, hcourse]
  · rw [exchange_deliveries, hrecord]
  · rw [exchange_entries, hrecord, hcourse]
    simp

theorem exchange_of_success (hbuilt : buildRequest w.platform (e.headed ids c) = .ok request)
    (hreply : (w.transport request).result = .ok response)
    (hs : response.status = Response.success) :
    let done := e.exchange w ids c
    let record := e.answeredRecord ids c response
    done.trace.deliveries = (e.span.deliver record).deliveries ∧
      done.trace.entries =
        e.entriesBefore ids c (w.transport request) response ++
          successNote (e.callHeaders ids c).correlationId done.outcome ++
          (e.span.deliver record).entries := by
  obtain ⟨houtcome, hdeliveries, hentries⟩ := exchange_of_received hbuilt hreply
  obtain ⟨hrecord, hanswer⟩ := answer_of_success w c.authority (e.callHeaders ids c).correlationId
    (e.openedRecord ids c) response hs
  refine ⟨?_, ?_⟩
  · rw [hdeliveries, hrecord]
    rfl
  · rw [hentries, hrecord, hanswer, houtcome, entriesBefore, answeredRecord]
    simp only [List.append_assoc]

theorem exchange_of_refusal (hbuilt : buildRequest w.platform (e.headed ids c) = .ok request)
    (hreply : (w.transport request).result = .ok response)
    (hs : response.status ≠ Response.success)
    (hroom : ¬ Json.TooDeep w.room.body response.body.toList) :
    ∃ refusal : Refusal, (e.exchange w ids c).outcome = .error (.refused refusal) ∧
      let record := { e.answeredRecord ids c response with errorCode := some refusal.code }
      (e.exchange w ids c).trace.deliveries = (e.span.deliver record).deliveries ∧
        (e.exchange w ids c).trace.entries =
          e.entriesBefore ids c (w.transport request) response ++ objectNote w.room.body response.body ++
            [refusalNotice refusal.kind.label refusal.code response.status
              (e.callHeaders ids c).correlationId] ++
            (e.span.deliver record).entries := by
  obtain ⟨houtcome, hdeliveries, hentries⟩ := exchange_of_received hbuilt hreply
  obtain ⟨refusal, hrefused, hrecord, hanswer⟩ := answer_of_refusal w c.authority
    (e.callHeaders ids c).correlationId (e.openedRecord ids c) response hs hroom
  refine ⟨refusal, houtcome.trans hrefused, ?_, ?_⟩
  · rw [hdeliveries, hrecord]
    rfl
  · rw [hentries, hrecord, hanswer, entriesBefore]
    simp only [List.append_assoc]
    rfl

theorem exchange_of_tooDeep {container : Json.Container}
    (hbuilt : buildRequest w.platform (e.headed ids c) = .ok request)
    (hreply : (w.transport request).result = .ok response)
    (hs : response.status ≠ Response.success)
    (hdeep : Json.read w.room.body response.body = .error (.tooDeep container)) :
    let record := e.answeredRecord ids c response
    (e.exchange w ids c).outcome = .error (.tooDeep container) ∧
      (e.exchange w ids c).trace.deliveries = (e.span.deliver record).deliveries ∧
      (e.exchange w ids c).trace.entries =
        e.entriesBefore ids c (w.transport request) response ++ (e.span.deliver record).entries := by
  obtain ⟨houtcome, hdeliveries, hentries⟩ := exchange_of_received hbuilt hreply
  obtain ⟨hgivenUp, hrecord, hanswer⟩ := answer_of_tooDeep w c.authority
    (e.callHeaders ids c).correlationId (e.openedRecord ids c) response hs hdeep
  refine ⟨houtcome.trans hgivenUp, ?_, ?_⟩
  · rw [hdeliveries, hrecord]
    rfl
  · rw [hentries, hrecord, hanswer, entriesBefore, answeredRecord]

/-- Of its world an exchange shows no more than the course in it. -/
theorem exchange_congr {v : Surroundings} (h : e.courseOf v ids c = e.courseOf w ids c) :
    e.exchange v ids c = e.exchange w ids c := by
  have houtcome := congrArg Course.outcome h
  have htrace : (e.exchange v ids c).trace = (e.exchange w ids c).trace := by
    rw [exchange_trace, exchange_trace, endedRecord, endedRecord, h]
  show Outcome.mk (e.courseOf v ids c).outcome _ (e.exchange v ids c).trace =
    Outcome.mk (e.courseOf w ids c).outcome _ (e.exchange w ids c).trace
  rw [houtcome, htrace]

/-! ## 4. Nothing of the body is seen -/

/-- An exchange that gets no response gets no body. -/
theorem exchange_withBody_of_error {failure : Failure}
    (h : received w (e.headed ids c) = .error failure) (body : String) :
    e.exchange (w.withBody body) ids c = e.exchange w ids c := by
  refine exchange_congr ?_
  unfold courseOf
  rcases bind_eq_error.mp h with hbuilt | ⟨request, hbuilt, hreply⟩
  · rw [inside_of_unbuilt (w := w) _ _ hbuilt, inside_of_unbuilt (w := w.withBody body) _ _ hbuilt]
  · have hsame : (w.withBody body).transport request = w.transport request :=
      Reply.withBody_of_error hreply body
    rw [inside_of_unanswered (w := w) _ _ hbuilt hreply,
      inside_of_unanswered (w := w.withBody body) _ _ hbuilt (hsame ▸ hreply), hsame]

/-- What sinks do not look at does not change what they leave in the logs. -/
theorem entries_deliver_errorCode (h : e.telemetry.OverlooksErrorCode) (record : Record)
    (code : Option Text) :
    (e.span.deliver { record with errorCode := code }).entries = (e.span.deliver record).entries := by
  have hsinks : e.span.sinks.map (fun sink => (sink.receive { record with errorCode := code }).entries) =
      e.span.sinks.map fun sink => (sink.receive record).entries := by
    refine List.map_congr_left fun sink hsink => ?_
    rw [Sink.entries_receive, Sink.entries_receive, h sink hsink record code]
    rfl
  rw [Span.entries_deliver, Span.entries_deliver, List.flatMap_def, List.flatMap_def, hsinks]

end Exchanges

/-- **The body of a response is not seen.** Whatever the body, of a success the records are the same
and the logs are too, but for a note exactly if the exchange comes to a result. Of a refusal the records
are the same but for the error code that is raised, and the logs are too, but for the note on a body
that is no object and the warning, which is made of the class that is raised, its code, the status and
the id. What the sinks log is the same if they do not look at the error code; they get nothing else of
the body. A body that is nested too deep leaves neither a code nor a note nor a warning. Without a response
the whole exchange is the same. -/
theorem body_unseen (e : Exchanger) (w : Surroundings) (ids : IdSupply) (c : Call) :
    (∀ failure, received w (e.headed ids c) = .error failure →
      ∀ body, e.exchange (w.withBody body) ids c = e.exchange w ids c) ∧
    ∀ response, received w (e.headed ids c) = .ok response →
      ∃ (record : Record) (before : List LogEntry),
        (response.status = Response.success → ∀ body,
          let done := e.exchange (w.withBody body) ids c
          done.trace.deliveries = (e.span.deliver record).deliveries ∧
            done.trace.entries =
              before ++ successNote (e.callHeaders ids c).correlationId done.outcome ++
                (e.span.deliver record).entries) ∧
        (response.status ≠ Response.success → ∀ body : String,
          let done := e.exchange (w.withBody body) ids c
          (¬ Json.TooDeep w.room.body body.toList → ∃ refusal : Refusal,
            let shown := { record with errorCode := some refusal.code }
            done.outcome = .error (.refused refusal) ∧
              done.trace.deliveries = (e.span.deliver shown).deliveries ∧
              done.trace.entries =
                before ++ objectNote w.room.body body ++
                  [refusalNotice refusal.kind.label refusal.code response.status
                    (e.callHeaders ids c).correlationId] ++
                  (e.span.deliver shown).entries ∧
              (e.telemetry.OverlooksErrorCode →
                (e.span.deliver shown).entries = (e.span.deliver record).entries)) ∧
          ∀ container, Json.read w.room.body body = .error (.tooDeep container) →
            done.outcome = .error (.tooDeep container) ∧
              done.trace.deliveries = (e.span.deliver record).deliveries ∧
              done.trace.entries = before ++ (e.span.deliver record).entries) := by
  refine ⟨fun failure h body => exchange_withBody_of_error h body, fun response h => ?_⟩
  obtain ⟨request, hbuilt, hreply⟩ := bind_eq_ok.mp h
  have hreply' (body : String) :
      ((w.withBody body).transport request).result = .ok { response with body } :=
    Reply.withBody_of_ok hreply body
  -- record and entries are made of the response's status and headers, which all bodies share
  refine ⟨e.answeredRecord ids c response, e.entriesBefore ids c (w.transport request) response,
    fun hs body => ?_, fun hs body => ⟨fun hroom => ?_, fun container hdeep => ?_⟩⟩
  · obtain ⟨hdeliveries, hentries⟩ :=
      exchange_of_success (w := w.withBody body) hbuilt (hreply' body) hs
    exact ⟨hdeliveries, hentries⟩
  · obtain ⟨refusal, houtcome, hdeliveries, hentries⟩ :=
      exchange_of_refusal (w := w.withBody body) hbuilt (hreply' body) hs hroom
    exact ⟨refusal, houtcome, hdeliveries, hentries, fun hsinks => entries_deliver_errorCode hsinks _ _⟩
  · have hbuilt' : buildRequest (w.withBody body).platform (e.headed ids c) = .ok request := hbuilt
    obtain ⟨houtcome, hdeliveries, hentries⟩ := exchange_of_tooDeep hbuilt' (hreply' body) hs hdeep
    exact ⟨houtcome, hdeliveries, hentries⟩

/-- Two bodies of one refusal: one is no JSON, the other gives a code and carries a token. -/
theorem body_unseen_no_json :
    let w : Surroundings :=
      { platform := "linux", clock := .whole 0
        transport := fun _ => { result := .ok { status := 400 } } }
    let c : Call :=
      { authority := { canonicalUrl := "https://h/t" }, grant := { flow := .refreshToken "RT" } }
    let e : Exchanger := { telemetry := { sinks := [{ number := 1 }] } }
    let ids : IdSupply := { name := fun _ => "id" }
    let plain := e.exchange (w.withBody "AT") ids c
    let coded :=
      e.exchange (w.withBody "\x7b\"error\": \"invalid_grant\", \"access_token\": \"AT\"\x7d") ids c
    (∃ (record : Record) (r s : Refusal), plain.outcome = .error (.refused r) ∧
        plain.trace.deliveries = [(1, { record with errorCode := some r.code })] ∧
        coded.outcome = .error (.refused s) ∧
        coded.trace.deliveries = [(1, { record with errorCode := some s.code })]) ∧
      plain.trace.entries.map (·.text) =
        ["[Correlation ID: id] Sending token request to https://h/t/oauth2/v2.0/token",
          "Error response body is not a JSON object",
          "[Correlation ID: id] Token request failed: ServiceError (error=unknown, status=400)"].map
            Text.ofString ∧
      coded.trace.entries.map (·.text) =
        ["[Correlation ID: id] Sending token request to https://h/t/oauth2/v2.0/token",
          "[Correlation ID: id] Token request failed: ServiceError (error=invalid_grant, status=400)"].map
            Text.ofString := by
  intro w c e ids plain coded
  have hresponse : (received w (e.headed ids c)).toOption = some { status := 400 } := by decide
  have hreceived : received w (e.headed ids c) = .ok { status := 400 } := by
    cases h : received w (e.headed ids c) with
    | error failure => rw [h] at hresponse; cases hresponse
    | ok response => rw [h] at hresponse; cases hresponse; rfl
  obtain ⟨record, before, -, hrefusal⟩ := (body_unseen e w ids c).2 _ hreceived
  obtain ⟨r, hr, hplain, -⟩ :=
    (hrefusal (by decide) "AT").1 (Json.not_tooDeep_of_openings (by decide))
  obtain ⟨s, hs, hcoded, -⟩ :=
    (hrefusal (by decide) "\x7b\"error\": \"invalid_grant\", \"access_token\": \"AT\"\x7d").1
      (Json.not_tooDeep_of_openings (by decide))
  refine ⟨⟨record, r, s, hr, ?_, hs, ?_⟩, by decide +kernel, by decide +kernel⟩
  · exact hplain.trans (Span.deliveries_deliver _ _)
  · exact hcoded.trans (Span.deliveries_deliver _ _)

end Exchanger

end TokenEndpoint
