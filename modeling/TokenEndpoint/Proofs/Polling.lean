import TokenEndpoint.DeviceCode.Polling
import TokenEndpoint.Proofs.Delivery
import TokenEndpoint.Proofs.RequestContents
import TokenEndpoint.Proofs.Steps
/-!
The polling loop, turn by turn. Every turn makes one call with the same headers, so the loop is settled
by the first turn that does not go on: whether its reading is in time, and if so what its exchange comes
to. Main statements:

* `course_append` -- what turns that go on leave behind them;
* `made_rounds` -- what the exchanges of a loop send, end, hand out and wait for (`Made`);
* `poll_follows_readings` -- every run of the loop follows its readings and answers (`Polls`).
-/

namespace TokenEndpoint

/-! ## 1. Single exchanges -/

namespace Exchanger

/-- No exchange waits. -/
theorem exchange_sleeps (e : Exchanger) (w : Surroundings) (ids : IdSupply) (c : Call) :
    (e.exchange w ids c).trace.sleeps = [] := by
  obtain ⟨before, between, after, h⟩ := e.exists_trace_courseOf w ids c
  rw [exchange_trace, h]
  cases buildRequest w.platform (e.headed ids c) <;> split <;> simp [Except.toOption]

end Exchanger

/-- A draft with headers that add nothing of their own names their correlation id. -/
theorem Draft.correlationId_ofHeaders (url platform : String) {headers : RequestHeaders}
    (hextra : headers.extra = []) :
    (Draft.ofHeaders url platform (some headers)).headers.get? HeaderName.correlationId =
      some headers.correlationId := by
  have hne : HeaderName.correlationId ≠ HeaderName.contentType := by decide
  rw [ofHeaders_headers, Fields.get?_set_of_ne hne]
  exact RequestHeaders.get?_correlationId hextra platform

namespace DeviceCode

/-- Every request of the loop names the correlation id of its headers. -/
theorem correlationId_request {platform : String} {authority : Authority}
    {deviceCode clientId : String} {headers : RequestHeaders} (hextra : headers.extra = [])
    {request : Request}
    (h : Exchanger.buildRequest platform (call authority deviceCode clientId headers) = .ok request) :
    request.headers.get? HeaderName.correlationId = some headers.correlationId := by
  obtain ⟨draft, hdraft, hfrozen⟩ := bind_eq_ok.mp h
  obtain ⟨url, -, hrest⟩ := bind_eq_ok.mp hdraft
  obtain ⟨granted, hgranted, hnamed⟩ := bind_eq_ok.mp hrest
  have hheaders : draft.headers = granted.headers := by
    have hcustom : Credential.NoneCustom (some (.publicClient clientId)) := fun _ h => by cases h; rfl
    cases (granted.addCredential_eq hcustom).symm.trans hnamed
    rfl
  rw [(Draft.freeze_eq_ok hfrozen).2.1, hheaders, Draft.headers_addSerialized hgranted]
  exact Draft.correlationId_ofHeaders url platform hextra

/-! ## 2. Loops -/

/-- One loop: what asks, what it asks for, the ids it has, and when its time is over. -/
structure Loop where
  exchanger : Exchanger
  call : Call
  ids : IdSupply
  deadline : Decimal.Number

namespace Loop

variable (l : Loop)

def course (turns : List Turn) : Course :=
  takeTurns l.exchanger l.call l.deadline l.ids turns

/-- The exchange that a turn makes if it makes one. -/
def exchange (t : Turn) : Exchanger.Outcome :=
  l.exchanger.exchange t.surroundings l.ids l.call

/-- The turn's reading is below the deadline. -/
def inTime (t : Turn) : Bool :=
  t.reading.below l.deadline

/-- The turn's exchange is told that the user has not signed in yet. -/
def pending (t : Turn) : Bool :=
  isPending (l.exchange t).outcome

/-- The loop goes on after the turn. -/
def goesOn (t : Turn) : Bool :=
  l.inTime t && l.pending t

/-- What a turn does that exchanges: the exchange, and then one wait if it is pending. -/
def round (t : Turn) : Trace :=
  (l.exchange t).trace ++ if l.pending t then [.slept intervalSeconds] else []

theorem course_nil : l.course [] = { progress := .polling, ids := l.ids, trace := [] } := rfl

/-- The course of the loop from a turn on. -/
theorem course_cons (t : Turn) (later : List Turn) :
    l.course (t :: later) =
      if l.inTime t then
        if l.pending t then
          let rest := ({ l with ids := (l.exchange t).ids } : Loop).course later
          { rest with trace := (l.exchange t).trace ++ .slept intervalSeconds :: rest.trace }
        else
          { progress := .ended (l.exchange t).outcome, ids := (l.exchange t).ids
            trace := (l.exchange t).trace }
      else { progress := .ended (.error .timedOut), ids := l.ids, trace := [] } := rfl

variable {l} {t : Turn}

/-- A turn that is late ends the loop without an exchange. -/
theorem course_of_late (h : l.inTime t = false) (later : List Turn) :
    l.course (t :: later) = { progress := .ended (.error .timedOut), ids := l.ids, trace := [] } := by
  rw [course_cons, h, if_neg Bool.false_ne_true]

/-- A turn in time whose exchange is not pending ends the loop as that exchange ends. -/
theorem course_of_answered (hin : l.inTime t = true) (h : l.pending t = false) (later : List Turn) :
    l.course (t :: later) =
      { progress := .ended (l.exchange t).outcome, ids := (l.exchange t).ids, trace := l.round t } := by
  have hround : l.round t = (l.exchange t).trace := by
    rw [round, h]
    exact List.append_nil _
  rw [course_cons, if_pos hin, h, if_neg Bool.false_ne_true, hround]

section Given

variable {headers : RequestHeaders} (hgiven : l.call.headers = some headers)

include hgiven

/-- After a turn that goes on the loop is where it was. -/
theorem course_of_goesOn (h : l.goesOn t = true) (later : List Turn) :
    l.course (t :: later) =
      { l.course later with trace := l.round t ++ (l.course later).trace } := by
  obtain ⟨hin, hpending⟩ := Bool.and_eq_true_iff.mp h
  have hids : (l.exchange t).ids = l.ids := l.exchanger.exchange_ids t.surroundings l.ids hgiven
  have hround : l.round t = (l.exchange t).trace ++ [.slept intervalSeconds] := by
    rw [round, if_pos hpending]
  rw [course_cons, if_pos hin, if_pos hpending, hids, hround, List.append_assoc]
  rfl

/-- **Turns that go on leave the loop where it was**, with what they have done before the rest. -/
theorem course_append {before : List Turn} (h : ∀ t ∈ before, l.goesOn t = true)
    (later : List Turn) :
    l.course (before ++ later) =
      { l.course later with trace := before.flatMap l.round ++ (l.course later).trace } := by
  induction before with
  | nil => rfl
  | cons t rest ih =>
    have hrest := ih fun s hs => h s (List.mem_cons_of_mem t hs)
    rw [List.cons_append, course_of_goesOn hgiven (h t List.mem_cons_self), hrest,
      List.flatMap_cons, List.append_assoc]

end Given

/-! ## 3. What the exchanges of a loop do -/

/-- What a loop does that makes the exchanges of some turns:

* `rounds` -- the exchanges in the order of the turns, after each that is pending one wait;
* `sent` -- every exchange sends the request of the loop's call, if the call makes one;
* `ended` -- every exchange ends one record;
* `delivered` -- every sink gets the record of every exchange, if the telemetry is on;
* `waited` -- the loop waits once for each exchange that is pending, and no more. -/
structure Made (l : Loop) (turns : List Turn) (trace : Trace) : Prop where
  rounds : trace = turns.flatMap fun t =>
    (l.exchange t).trace ++ if l.pending t then [.slept 5] else []
  sent : trace.requests = turns.flatMap fun t =>
    (Exchanger.buildRequest t.surroundings.platform l.call).toOption.toList
  ended : trace.ended = turns.map fun t => l.exchanger.endedRecord t.surroundings l.ids l.call
  delivered : trace.deliveries = turns.flatMap fun t =>
    if l.exchanger.telemetry.enabled then l.exchanger.telemetry.sinks.map fun sink =>
      (sink.number, l.exchanger.endedRecord t.surroundings l.ids l.call)
    else []
  waited : trace.sleeps = List.replicate (turns.countP l.pending) 5

section Rounds

variable (l t)

theorem ended_round : (l.round t).ended =
    [l.exchanger.endedRecord t.surroundings l.ids l.call] := by
  have hended : (l.exchange t).trace.ended = _ :=
    (l.exchanger.exchange_endsOnce t.surroundings l.ids l.call).ended
  rw [round, Trace.ended_append, hended]
  split <;> simp

theorem deliveries_round : (l.round t).deliveries =
    if l.exchanger.telemetry.enabled then l.exchanger.telemetry.sinks.map fun sink =>
      (sink.number, l.exchanger.endedRecord t.surroundings l.ids l.call)
    else [] := by
  have hdelivered : (l.exchange t).trace.deliveries = _ :=
    (l.exchanger.exchange_endsOnce t.surroundings l.ids l.call).delivered
  have hwait : Trace.deliveries (if l.pending t then [.slept intervalSeconds] else []) = [] := by
    split <;> simp
  rw [round, Trace.deliveries_append, hdelivered, hwait, List.append_nil]

theorem sleeps_round : (l.round t).sleeps = if l.pending t then [5] else [] := by
  have hnone : (l.exchange t).trace.sleeps = [] := l.exchanger.exchange_sleeps _ _ _
  rw [round, Trace.sleeps_append, hnone]
  split <;> rfl

variable {l t}

theorem requests_round {headers : RequestHeaders} (hgiven : l.call.headers = some headers) :
    (l.round t).requests =
      (Exchanger.buildRequest t.surroundings.platform l.call).toOption.toList := by
  have hrequests : (l.exchange t).trace.requests = _ := l.exchanger.exchange_requests _ _ _
  rw [l.exchanger.headed_of_given l.ids hgiven] at hrequests
  rw [round, Trace.requests_append, hrequests]
  split <;> simp

end Rounds

/-- One wait for each turn that is pending. -/
theorem flatMap_sleeps (turns : List Turn) :
    (turns.flatMap fun t => if l.pending t then [5] else []) =
      List.replicate (turns.countP l.pending) 5 := by
  induction turns with
  | nil => rfl
  | cons t rest ih =>
    rw [List.flatMap_cons, ih, List.countP_cons]
    split
    · exact List.replicate_succ.symm
    · rfl

/-- **What the exchanges of a loop do, they do turn by turn.** -/
theorem made_rounds {headers : RequestHeaders} (hgiven : l.call.headers = some headers)
    (turns : List Turn) : l.Made turns (turns.flatMap l.round) where
  rounds := rfl
  sent := by simp only [Trace.requests_flatMap, requests_round hgiven]
  ended := by simp only [Trace.ended_flatMap, ended_round, List.map_eq_flatMap]
  delivered := by simp only [Trace.deliveries_flatMap, deliveries_round]
  waited := by simp only [Trace.sleeps_flatMap, sleeps_round, flatMap_sleeps]

/-! ## 4. Whole loops -/

/-- How a loop goes on some turns, which it takes in order:

* `waiting` -- while every turn is in time and pending it makes the exchange of every turn, and has
  not ended;
* `answered` -- the first turn that is in time and not pending is the last that exchanges, and the
  loop ends with what that exchange comes to;
* `expired` -- at the first turn that is not in time it ends, before the exchange of this turn;
* `timedOut` -- it runs out of time exactly at such a turn, unless its last exchange has failed so. -/
structure Polls (l : Loop) (turns : List Turn) (done : Course) : Prop where
  waiting : (∀ t ∈ turns, l.inTime t = true ∧ l.pending t = true) →
    done.progress = .polling ∧ l.Made turns done.trace
  answered : ∀ before t after, turns = before ++ t :: after →
    (∀ s ∈ before, l.inTime s = true ∧ l.pending s = true) →
    l.inTime t = true → l.pending t = false →
    done.progress = .ended (l.exchange t).outcome ∧ l.Made (before ++ [t]) done.trace
  expired : ∀ before t after, turns = before ++ t :: after →
    (∀ s ∈ before, l.inTime s = true ∧ l.pending s = true) → l.inTime t = false →
    done.progress = .ended (.error .timedOut) ∧ l.Made before done.trace
  timedOut : done.progress = .ended (.error .timedOut) ↔
    ∃ before t after, turns = before ++ t :: after ∧
      (∀ s ∈ before, l.inTime s = true ∧ l.pending s = true) ∧
      (l.inTime t = false ∨ l.inTime t = true ∧ (l.exchange t).outcome = .error .timedOut)

/-- Either all turns go on, or one is the first that does not. -/
theorem all_goOn_or_exists_first (l : Loop) (turns : List Turn) :
    (∀ t ∈ turns, l.goesOn t = true) ∨
      ∃ before t after, turns = before ++ t :: after ∧ (∀ s ∈ before, l.goesOn s = true) ∧
        l.goesOn t = false := by
  cases h : turns.find? fun t => !l.goesOn t with
  | none =>
    have hall := List.find?_eq_none.mp h
    exact Or.inl fun t ht => by simpa using hall t ht
  | some t =>
    obtain ⟨ht, before, after, hsplit, hbefore⟩ := List.find?_eq_some_iff_append.mp h
    exact Or.inr ⟨before, t, after, hsplit, fun s hs => by simpa using hbefore s hs, by simpa using ht⟩

theorem goesOn_iff : l.goesOn t = true ↔ l.inTime t = true ∧ l.pending t = true :=
  Bool.and_eq_true_iff

theorem pending_of_stops (hin : l.inTime t = true) (hstop : l.goesOn t = false) :
    l.pending t = false := by
  rw [goesOn, hin] at hstop
  exact hstop

section Courses

variable {headers : RequestHeaders} (hgiven : l.call.headers = some headers) {before : List Turn}

include hgiven

theorem course_of_waiting {turns : List Turn} (h : ∀ t ∈ turns, l.goesOn t = true) :
    (l.course turns).progress = .polling ∧ l.Made turns (l.course turns).trace := by
  have hcourse := course_append hgiven h []
  rw [List.append_nil] at hcourse
  rw [hcourse, course_nil, List.append_nil]
  exact ⟨rfl, made_rounds hgiven turns⟩

theorem course_of_first_answered (hbefore : ∀ s ∈ before, l.goesOn s = true)
    (hin : l.inTime t = true) (hlast : l.pending t = false) (after : List Turn) :
    (l.course (before ++ t :: after)).progress = .ended (l.exchange t).outcome ∧
      l.Made (before ++ [t]) (l.course (before ++ t :: after)).trace := by
  have hmade : l.Made (before ++ [t]) ((before ++ [t]).flatMap l.round) := made_rounds hgiven _
  rw [course_append hgiven hbefore, course_of_answered hin hlast]
  rw [List.flatMap_append, List.flatMap_singleton] at hmade
  exact ⟨rfl, hmade⟩

theorem course_of_first_late (hbefore : ∀ s ∈ before, l.goesOn s = true)
    (hlate : l.inTime t = false) (after : List Turn) :
    (l.course (before ++ t :: after)).progress = .ended (.error .timedOut) ∧
      l.Made before (l.course (before ++ t :: after)).trace := by
  rw [course_append hgiven hbefore, course_of_late hlate, List.append_nil]
  exact ⟨rfl, made_rounds hgiven before⟩

/-- The first turn that does not go on ends the loop, with its exchange or without, whatever turns are
left. -/
theorem course_of_first_stop (hbefore : ∀ s ∈ before, l.goesOn s = true)
    (hstop : l.goesOn t = false) :
    ∃ outcome made, (made = before ∨ l.inTime t = true ∧ made = before ++ [t]) ∧
      ∀ after, (l.course (before ++ t :: after)).progress = .ended outcome ∧
        l.Made made (l.course (before ++ t :: after)).trace := by
  cases hin : l.inTime t with
  | false => exact ⟨_, before, Or.inl rfl, course_of_first_late hgiven hbefore hin⟩
  | true =>
    exact ⟨_, before ++ [t], Or.inr ⟨rfl, rfl⟩,
      course_of_first_answered hgiven hbefore hin (pending_of_stops hin hstop)⟩

end Courses

/-- Every course of a loop whose call has its headers goes as its turns say. -/
theorem polls_course {headers : RequestHeaders} (hgiven : l.call.headers = some headers)
    (turns : List Turn) : l.Polls turns (l.course turns) := by
  have hgo {before : List Turn} (h : ∀ s ∈ before, l.inTime s = true ∧ l.pending s = true) :
      ∀ s ∈ before, l.goesOn s = true := fun s hs => goesOn_iff.mpr (h s hs)
  refine ⟨fun hall => course_of_waiting hgiven (hgo hall), ?_, ?_, ?_, ?_⟩
  · rintro before t after rfl hbefore hin hlast
    exact course_of_first_answered hgiven (hgo hbefore) hin hlast after
  · rintro before t after rfl hbefore hlate
    exact course_of_first_late hgiven (hgo hbefore) hlate after
  · intro hprogress
    rcases l.all_goOn_or_exists_first turns with hall | ⟨before, t, after, rfl, hbefore, hstop⟩
    · rw [(course_of_waiting hgiven hall).1] at hprogress
      cases hprogress
    · refine ⟨before, t, after, rfl, fun s hs => goesOn_iff.mp (hbefore s hs), ?_⟩
      cases hin : l.inTime t with
      | false => exact Or.inl rfl
      | true =>
        have hlast := pending_of_stops hin hstop
        rw [(course_of_first_answered hgiven hbefore hin hlast after).1] at hprogress
        exact Or.inr ⟨rfl, Progress.ended.inj hprogress⟩
  · rintro ⟨before, t, after, rfl, hbefore, hlate | ⟨hin, houtcome⟩⟩
    · exact (course_of_first_late hgiven (hgo hbefore) hlate after).1
    · have hlast : l.pending t = false := by
        rw [pending, houtcome]
        rfl
      rw [(course_of_first_answered hgiven (hgo hbefore) hin hlast after).1, houtcome]

/-- The exchanges of a loop are made in some of its turns. -/
theorem Polls.exists_made {turns : List Turn} {done : Course} (h : l.Polls turns done) :
    ∃ made, (∀ t ∈ made, t ∈ turns) ∧ l.Made made done.trace := by
  rcases l.all_goOn_or_exists_first turns with hall | ⟨before, t, after, rfl, hbefore, hstop⟩
  · exact ⟨turns, fun t ht => ht, (h.waiting fun t ht => goesOn_iff.mp (hall t ht)).2⟩
  · have hgo : ∀ s ∈ before, l.inTime s = true ∧ l.pending s = true :=
      fun s hs => goesOn_iff.mp (hbefore s hs)
    cases hin : l.inTime t with
    | false =>
      exact ⟨before, fun s hs => List.mem_append_left _ hs, (h.expired before t after rfl hgo hin).2⟩
    | true =>
      refine ⟨before ++ [t], fun s hs => ?_,
        (h.answered before t after rfl hgo hin (pending_of_stops hin hstop)).2⟩
      rw [List.append_cons]
      exact List.mem_append_left after hs

end Loop

/-- The loop that polling is: all its calls have the headers that were made before the first turn, and
it is over 900 seconds after the first reading. -/
def Loop.polling (e : Exchanger) (settings : Settings) (ids : IdSupply) (authority : Authority)
    (deviceCode clientId : String) (first : Decimal.Number) : Loop :=
  let made := RequestHeaders.create ids none [] settings
  { exchanger := e
    call := DeviceCode.call authority deviceCode clientId made.1
    ids := made.2
    deadline := first + .whole 900 }

/-- **The polling loop follows its readings and answers**: whether it goes on, whether it is out of time
and how it ends is as the turns say (`Polls`); and on one platform all its requests are the same, with
the correlation id of its headers. -/
theorem poll_follows_readings (e : Exchanger) (settings : Settings) (ids : IdSupply)
    (authority : Authority) (deviceCode clientId : String) (first : Decimal.Number)
    (turns : List Turn) :
    let l := Loop.polling e settings ids authority deviceCode clientId first
    let done := poll e settings ids authority deviceCode clientId first turns
    l.Polls turns done ∧
      ∀ platform, (∀ t ∈ turns, t.surroundings.platform = platform) →
        ∀ request ∈ done.trace.requests,
          Exchanger.buildRequest platform l.call = .ok request ∧
          request.headers.get? HeaderName.correlationId =
            some (RequestHeaders.create ids none [] settings).1.correlationId := by
  intro l done
  have hpolls : l.Polls turns done := Loop.polls_course rfl turns
  refine ⟨hpolls, fun platform hplatform request hsent => ?_⟩
  obtain ⟨exchanged, hexchanged, hmade⟩ := hpolls.exists_made
  rw [hmade.sent, List.mem_flatMap] at hsent
  obtain ⟨t, ht, hrequest⟩ := hsent
  rw [hplatform t (hexchanged t ht)] at hrequest
  cases hbuilt : Exchanger.buildRequest platform l.call with
  | error failure =>
    rw [hbuilt] at hrequest
    cases hrequest
  | ok built =>
    rw [hbuilt] at hrequest
    cases List.mem_singleton.mp hrequest
    exact ⟨rfl, correlationId_request rfl hbuilt⟩

/-- A deadline at 1000: the turn at 999 still exchanges, is pending and waits; the turn at 1000 ends the
loop. -/
theorem poll_follows_readings_at_deadline :
    let unfinished : Response := { status := 400, body := "\x7b\"error\": \"authorization_pending\"\x7d" }
    let w : Surroundings :=
      { platform := "linux", transport := fun _ => { result := .ok unfinished }, clock := .whole 0 }
    let early : Turn := { reading := .whole 999, surroundings := w }
    let late : Turn := { reading := .whole 1000, surroundings := w }
    let authority : Authority := { canonicalUrl := "https://h/t" }
    let ids : IdSupply := { name := fun _ => "id-1" }
    let done := poll {} {} ids authority "code" "client" (.whole 100) [early, late]
    done.progress = .ended (.error .timedOut) ∧
      done.trace.ended.map (·.errorCode) = [some (.ofString "authorization_pending")] ∧
      done.trace.sleeps = [5] ∧
      done.trace.requests.map (·.headers.get? HeaderName.correlationId) = [some "id-1"] := by
  intro unfinished w early late authority ids done
  let l := Loop.polling {} {} ids authority "code" "client" (.whole 100)
  obtain ⟨hpolls, hsame⟩ :=
    poll_follows_readings {} {} ids authority "code" "client" (.whole 100) [early, late]
  have hgoes : ∀ s ∈ [early], l.inTime s = true ∧ l.pending s = true := by
    intro s hs
    cases List.mem_singleton.mp hs
    exact ⟨by decide, by decide⟩
  have hplatform : ∀ t ∈ [early, late], t.surroundings.platform = "linux" := by
    simp [early, late, w]
  obtain ⟨hprogress, hmade⟩ := hpolls.expired [early] late [] rfl hgoes (by decide)
  obtain ⟨request, hrequest⟩ : ∃ request, done.trace.requests = [request] :=
    List.length_eq_one_iff.mp (by decide)
  have hid := (hsame "linux" hplatform request (by rw [hrequest]; exact List.mem_singleton_self _)).2
  refine ⟨hprogress, ?_, hmade.waited.trans (by decide), ?_⟩
  · rw [hmade.ended]
    decide
  · rw [hrequest, List.map_singleton, hid]
    rfl

end DeviceCode

end TokenEndpoint
