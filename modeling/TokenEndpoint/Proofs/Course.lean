import TokenEndpoint.Exchange
/-!
An exchange in its parts: the record as its span is opened (`openedRecord`), the course inside the span
(`courseOf`), and the end. Beside it the same exchange as five steps, one after the other (`steps`):
build the request, send it, classify the response, read the clock, assemble the result. Main statements:

* `exchange_trace` -- what an exchange does is what its parts do, in this order;
* `exists_trace_inside` -- inside its span an exchange sends, reads the clock and logs, no more;
* `exchange_outcome` -- the outcome of an exchange is that of the five steps.
-/

namespace TokenEndpoint.Exchanger

/-! ## 1. The parts -/

/-- The headers of a call: the given ones, else fresh ones. -/
def callHeaders (e : Exchanger) (ids : IdSupply) (c : Call) : RequestHeaders :=
  (e.headersOf ids c.headers).1

/-- The call with its headers in it. -/
def headed (e : Exchanger) (ids : IdSupply) (c : Call) : Call :=
  { c with headers := some (e.callHeaders ids c) }

/-- What is logged before the span is opened. -/
def openingEntries (e : Exchanger) (ids : IdSupply) (c : Call) : List LogEntry :=
  (e.startRecord c.authority (e.callHeaders ids c).correlationId).2

/-- The record of a call as its span is opened. -/
def openedRecord (e : Exchanger) (ids : IdSupply) (c : Call) : Record :=
  (e.startRecord c.authority (e.callHeaders ids c).correlationId).1.identify
    (some (e.callHeaders ids c).correlationId) c.clientId

/-- The span of every exchange that begins with this exchanger. -/
def span (e : Exchanger) : Span :=
  { sinks := e.telemetry.sinks, enabled := e.telemetry.enabled }

/-- The course of a call inside its span. -/
def courseOf (e : Exchanger) (w : Surroundings) (ids : IdSupply) (c : Call) : Course :=
  inside w (e.headed ids c) (e.callHeaders ids c).correlationId (e.openedRecord ids c)

/-- The record of a call as its span ends. -/
def endedRecord (e : Exchanger) (w : Surroundings) (ids : IdSupply) (c : Call) : Record :=
  (e.courseOf w ids c).record.finish

/-- **What an exchange does is what its parts do.** -/
theorem exchange_trace (e : Exchanger) (w : Surroundings) (ids : IdSupply) (c : Call) :
    (e.exchange w ids c).trace =
      Trace.ofEntries (e.openingEntries ids c) ++ [.opened (e.openedRecord ids c)] ++
        (e.courseOf w ids c).trace ++
        .ended (e.endedRecord w ids c) :: e.span.deliver (e.endedRecord w ids c) := rfl

/-- What comes of the course comes of the exchange. -/
theorem exchange_outcome_courseOf (e : Exchanger) (w : Surroundings) (ids : IdSupply) (c : Call) :
    (e.exchange w ids c).outcome = (e.courseOf w ids c).outcome := rfl

/-- The sinks and the switch have no part in the course. -/
theorem courseOf_telemetry (e : Exchanger) (t : Telemetry) (w : Surroundings) (ids : IdSupply)
    (c : Call) : ({ e with telemetry := t } : Exchanger).courseOf w ids c = e.courseOf w ids c := rfl

/-! ### Calls with headers of their own -/

section Given

variable (e : Exchanger) (w : Surroundings) (ids : IdSupply) {c : Call} {headers : RequestHeaders}

theorem headed_of_given (h : c.headers = some headers) : e.headed ids c = c := by
  rw [headed, callHeaders, h, headersOf, ← h]

/-- A call with its own headers takes no fresh id. -/
theorem exchange_ids (h : c.headers = some headers) : (e.exchange w ids c).ids = ids := by
  rw [exchange, h]
  rfl

/-- Nor have the ids that are left any part in it. -/
theorem exchange_of_given (ids' : IdSupply) (h : c.headers = some headers) :
    (e.exchange w ids c).outcome = (e.exchange w ids' c).outcome ∧
      (e.exchange w ids c).trace = (e.exchange w ids' c).trace := by
  rw [exchange, exchange, h]
  exact ⟨rfl, rfl⟩

end Given

/-! ## 2. The five steps -/

/-- The response that a call gets: build, send. -/
def received (w : Surroundings) (c : Call) : Except Failure Response := do
  let request ← buildRequest w.platform c
  (w.transport request).result

/-- Build, send, classify, read the clock, assemble. -/
def steps (w : Surroundings) (c : Call) : Except Failure Result := do
  let response ← received w c
  let payload ← response.classify w.room.body
  let seconds ← capturedAt w.clock
  Result.assemble w.room payload seconds c.authority

/-! ## 3. The cases of a course -/

section Cases

variable {w : Surroundings} {c : Call} {request : Request} (id : String) (record : Record)

/-- Without a request nothing is done. -/
theorem inside_of_unbuilt {failure : Failure} (hbuilt : buildRequest w.platform c = .error failure) :
    inside w c id record = { outcome := .error failure, record } := by
  rw [inside, hbuilt]

/-- Without a response the sending is all that is done. -/
theorem inside_of_unanswered {failure : Failure} (hbuilt : buildRequest w.platform c = .ok request)
    (hreply : (w.transport request).result = .error failure) :
    inside w c id record =
      { outcome := .error failure, record
        trace := sending id record request (w.transport request) } := by
  rw [inside, hbuilt]
  dsimp only
  rw [hreply]

/-- A response is answered for once the request is sent. -/
theorem inside_of_answered {response : Response} (hbuilt : buildRequest w.platform c = .ok request)
    (hreply : (w.transport request).result = .ok response) :
    inside w c id record =
      { answer w c.authority id record response with
        trace := sending id record request (w.transport request) ++
          (answer w c.authority id record response).trace } := by
  rw [inside, hbuilt]
  dsimp only
  rw [hreply]

end Cases

@[simp] theorem entries_sending (id : String) (record : Record) (request : Request) (reply : Reply) :
    (sending id record request reply).entries = sendingEntry record id :: reply.entries := by
  simp [sending]

/-! ## 4. What a course does -/

/-- The clock is read once if there is a payload; nothing else is done but logging. -/
theorem exists_trace_succeed (w : Surroundings) (authority : Authority) (id : String)
    (record : Record) (response : Response) (hs : response.status = Response.success) :
    ∃ after, (succeed w authority id record response).trace =
      (if (response.classify w.room.body).isOk then [.sampled] else []) ++ Trace.ofEntries after := by
  unfold succeed Response.classify
  rw [if_pos hs]
  cases Payload.ofResponse w.room.body response with
  | error failure => exact ⟨[], rfl⟩
  | ok payload =>
    dsimp only
    split
    · exact ⟨[], rfl⟩
    · exact ⟨[succeededEntry id], rfl⟩

/-- No payload comes of another response. -/
theorem isOk_classify_of_ne_success {room : Nat} {response : Response}
    (hs : response.status ≠ Response.success) : (response.classify room).isOk = false := by
  rw [Response.classify, if_neg hs]
  cases ErrorDetails.ofResponse room response <;> rfl

/-- A refusal is logged; a body that is nested too deep is given up without a word. -/
theorem exists_trace_refuse (room : Nat) (id : String) (record : Record) (response : Response) :
    ∃ after, (refuse room id record response).trace = Trace.ofEntries after := by
  unfold refuse
  cases ErrorDetails.ofResponse room response with
  | error failure => exact ⟨[], rfl⟩
  | ok details => exact ⟨_, rfl⟩

theorem exists_trace_answer (w : Surroundings) (authority : Authority) (id : String)
    (record : Record) (response : Response) :
    ∃ before after, (answer w authority id record response).trace =
      Trace.ofEntries before ++ (if (response.classify w.room.body).isOk then [.sampled] else []) ++
        Trace.ofEntries after := by
  unfold answer
  dsimp only
  by_cases hs : response.status = Response.success
  · obtain ⟨after, h⟩ :=
      exists_trace_succeed w authority id (record.setResponse response).1 response hs
    exact ⟨_, after, by rw [if_pos hs, h, List.append_assoc]⟩
  · obtain ⟨after, h⟩ := exists_trace_refuse w.room.body id (record.setResponse response).1 response
    refine ⟨(record.setResponse response).2, after, ?_⟩
    rw [if_neg hs, isOk_classify_of_ne_success hs, if_neg Bool.false_ne_true, List.append_nil, h]

/-- **Inside its span an exchange sends the request, if one is built, then reads the clock once, if a
payload comes**, and does nothing else but logging. -/
theorem exists_trace_inside (w : Surroundings) (c : Call) (id : String) (record : Record) :
    ∃ before between after, (inside w c id record).trace =
      Trace.ofEntries before ++ (buildRequest w.platform c).toOption.toList.map .sent ++
        Trace.ofEntries between ++
        (if (received w c >>= Response.classify w.room.body).isOk then [.sampled] else []) ++
        Trace.ofEntries after := by
  unfold inside received
  cases buildRequest w.platform c with
  | error failure => exact ⟨[], [], [], rfl⟩
  | ok request =>
    rw [ok_bind]
    dsimp only
    cases (w.transport request).result with
    | error failure =>
      refine ⟨[sendingEntry record id], (w.transport request).entries, [], ?_⟩
      rw [error_bind]
      simp [sending, Trace.ofEntries, Except.toOption, Except.isOk, Except.toBool]
    | ok response =>
      obtain ⟨before, after, h⟩ := exists_trace_answer w c.authority id record response
      refine ⟨[sendingEntry record id], (w.transport request).entries ++ before, after, ?_⟩
      rw [ok_bind]
      dsimp only
      rw [h]
      simp [sending, Trace.ofEntries, Except.toOption]

theorem exists_trace_courseOf (e : Exchanger) (w : Surroundings) (ids : IdSupply) (c : Call) :
    ∃ before between after, (e.courseOf w ids c).trace =
      Trace.ofEntries before ++
        (buildRequest w.platform (e.headed ids c)).toOption.toList.map .sent ++
        Trace.ofEntries between ++
        (if (received w (e.headed ids c) >>= Response.classify w.room.body).isOk then [.sampled] else []) ++
        Trace.ofEntries after :=
  exists_trace_inside w _ _ _

/-! ## 5. What a course comes to -/

/-- A success is classified, and its time taken, as the public steps do it. -/
theorem outcome_succeed (w : Surroundings) (authority : Authority) (id : String) (record : Record)
    (response : Response) (hs : response.status = Response.success) :
    (succeed w authority id record response).outcome = (do
      let payload ← response.classify w.room.body
      let seconds ← capturedAt w.clock
      Result.assemble w.room payload seconds authority) := by
  unfold succeed Response.classify
  rw [if_pos hs]
  cases Payload.ofResponse w.room.body response with
  | error failure => rfl
  | ok payload =>
    show _ = (capturedAt w.clock >>= fun seconds => Result.assemble w.room payload seconds authority)
    dsimp only
    split
    · next failure hf => exact hf.symm
    · next result hr => exact hr.symm

theorem outcome_answer (w : Surroundings) (authority : Authority) (id : String) (record : Record)
    (response : Response) :
    (answer w authority id record response).outcome = (do
      let payload ← response.classify w.room.body
      let seconds ← capturedAt w.clock
      Result.assemble w.room payload seconds authority) := by
  unfold answer
  dsimp only
  by_cases hs : response.status = Response.success
  · rw [if_pos hs]
    exact outcome_succeed w authority id _ response hs
  · rw [if_neg hs, Response.classify, if_neg hs, refuse]
    cases ErrorDetails.ofResponse w.room.body response <;> rfl

theorem outcome_inside (w : Surroundings) (c : Call) (id : String) (record : Record) :
    (inside w c id record).outcome = steps w c := by
  unfold inside steps received
  cases buildRequest w.platform c with
  | error failure => rfl
  | ok request =>
    show _ = ((w.transport request).result >>= _)
    dsimp only
    cases (w.transport request).result with
    | error failure => rfl
    | ok response => exact outcome_answer w c.authority id record response

/-- **The outcome of an exchange is that of its five steps**, whatever telemetry is registered. -/
theorem exchange_outcome (e : Exchanger) (w : Surroundings) (ids : IdSupply) (c : Call) :
    (e.exchange w ids c).outcome = steps w (e.headed ids c) :=
  outcome_inside w _ _ _

end TokenEndpoint.Exchanger
