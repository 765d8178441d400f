import TokenEndpoint.Proofs.Course
import TokenEndpoint.Proofs.Runs
/-!
Delivery of records. Every exchange opens one span and ends it once, however it ends; its finished
record then goes to each sink that was registered when the exchange began, once and in the order of
registration, or to none if the telemetry was switched off. Main statements:

* `exchange_endsOnce` -- one exchange (`EndsOnce`);
* `run_endsOnce` -- every exchange of a run, and what a sink has received at its end.
-/

namespace TokenEndpoint

/-! ## 1. One exchange -/

namespace Exchanger

/-- What an exchange does to its span: it opens one, with the record of the call; it ends it once,
with that record finished; the sinks that are registered get this record, each once and in order; and
none of them has a part in the outcome. -/
structure EndsOnce (e : Exchanger) (w : Surroundings) (ids : IdSupply) (c : Call) (done : Outcome) :
    Prop where
  opened : done.trace.opened = [e.openedRecord ids c]
  ended : done.trace.ended = [e.endedRecord w ids c]
  finalized : (e.endedRecord w ids c).finalized = true
  delivered : done.trace.deliveries =
    if e.telemetry.enabled then
      e.telemetry.sinks.map fun sink => (sink.number, e.endedRecord w ids c)
    else []
  outcome : done.outcome = (e.courseOf w ids c).outcome
  unmoved : ∀ t : Telemetry,
    ({ e with telemetry := t } : Exchanger).courseOf w ids c = e.courseOf w ids c

/-- Inside its span an exchange opens no span, ends none and delivers nothing. -/
theorem inner_courseOf (e : Exchanger) (w : Surroundings) (ids : IdSupply) (c : Call) :
    (e.courseOf w ids c).trace.opened = [] ∧ (e.courseOf w ids c).trace.ended = [] ∧
      (e.courseOf w ids c).trace.deliveries = [] := by
  obtain ⟨before, between, after, h⟩ := e.exists_trace_courseOf w ids c
  rw [h]
  cases buildRequest w.platform (e.headed ids c) <;> split <;> simp [Except.toOption]

/-- **Every exchange ends its span once**, on every path through it. -/
theorem exchange_endsOnce (e : Exchanger) (w : Surroundings) (ids : IdSupply) (c : Call) :
    e.EndsOnce w ids c (e.exchange w ids c) := by
  obtain ⟨hopened, hended, hdeliveries⟩ := e.inner_courseOf w ids c
  refine ⟨?_, ?_, rfl, ?_, e.exchange_outcome_courseOf w ids c,
    fun t => e.courseOf_telemetry t w ids c⟩
  · rw [exchange_trace]
    simp [hopened]
  · rw [exchange_trace]
    simp [hended]
  · rw [exchange_trace]
    simp [hdeliveries, span]

end Exchanger

/-! ## 2. Runs -/

namespace Run

/-- How often a sink of a number is registered. -/
def registrations (number : Nat) (t : Telemetry) : Nat :=
  t.sinks.countP fun sink => sink.number == number

/-- The records of the exchanges of a run, in the order of the exchanges. -/
def endedRecords (reports : List Report) : List Record :=
  reports.flatMap fun report => report.trace.ended

/-- The records that the sinks of a number have received, in order. -/
def receivedBy (number : Nat) (reports : List Report) : List Record :=
  reports.flatMap fun report =>
    report.trace.deliveries.filterMap fun d => if d.1 = number then some d.2 else none

/-- The reactions have no part in how often a sink is registered. -/
theorem registrations_withReactions (number : Nat) (t : Telemetry)
    (reaction : Nat → Record → Reaction) :
    registrations number (t.withReactions reaction) = registrations number t := by
  have hcount (sinks : List Sink) : (sinks.countP fun sink => sink.number == number) =
      (sinks.map (·.number)).countP (· == number) := by
    rw [List.countP_map]
    rfl
  rw [registrations, registrations, hcount, hcount, Telemetry.withReactions, Sink.numbers_mapIdx]

/-- Of the deliveries of one record those to a number are one for each registration. -/
theorem filterMap_deliveries (number : Nat) (sinks : List Sink) (record : Record) :
    ((sinks.map fun sink => (sink.number, record)).filterMap
        fun d => if d.1 = number then some d.2 else none) =
      List.replicate (sinks.countP fun sink => sink.number == number) record := by
  induction sinks with
  | nil => rfl
  | cons sink rest ih =>
    by_cases h : sink.number = number
    · simp [h, ih, List.replicate_succ]
    · simp [h, ih]

variable (w : RunSurroundings) (r : Run)

/-- A step of a run ends one span if it is an exchange, and else none. -/
theorem length_ended_step (c : Command) :
    (r.step w c).2.trace.ended.length = if c.isExchange then 1 else 0 := by
  cases c with
  | exchange call transport =>
    have h := r.exchanger.exchange_endsOnce (r.surroundings w transport) r.ids call
    show (r.exchanger.exchange (r.surroundings w transport) r.ids call).trace.ended.length = 1
    rw [h.ended]
    rfl
  | addSink sink => rfl
  | enable on => rfl
  | react reaction => rfl

/-- A step of a run that is switched on hands the record of an exchange to every registration. -/
theorem receivedBy_step (number : Nat) (c : Command) (hon : r.exchanger.telemetry.enabled = true) :
    receivedBy number [(r.step w c).2] =
      (endedRecords [(r.step w c).2]).flatMap
        (List.replicate (registrations number r.exchanger.telemetry)) := by
  cases c with
  | exchange call transport =>
    have h := r.exchanger.exchange_endsOnce (r.surroundings w transport) r.ids call
    simp only [receivedBy, endedRecords, step, List.flatMap_cons, List.flatMap_nil, List.append_nil,
      h.ended, h.delivered, hon, if_true]
    exact filterMap_deliveries number _ _
  | addSink sink => rfl
  | enable on => rfl
  | react reaction => rfl

/-- A command that leaves the telemetry on, and registers no sink of the number. -/
def Command.Steady (number : Nat) : Command → Prop
  | exchange _ _ => True
  | addSink sink => sink.number ≠ number
  | enable on => on = true
  | react _ => True

theorem Command.Steady.enabled {number : Nat} {c : Command} (h : c.Steady number) {t : Telemetry}
    (hon : t.enabled = true) : (c.change t).enabled = true := by
  cases c with
  | exchange call transport => exact hon
  | addSink sink => exact hon
  | enable on => exact h
  | react reaction => exact hon

theorem Command.Steady.registrations {number : Nat} {c : Command} (h : c.Steady number)
    (t : Telemetry) : Run.registrations number (c.change t) = Run.registrations number t := by
  cases c with
  | exchange call transport => rfl
  | addSink sink =>
    have hne : sink.number ≠ number := h
    simp [Run.registrations, change, Telemetry.addSink, hne]
  | enable on => rfl
  | react reaction => exact registrations_withReactions number t reaction

/-- **What a number has received at the end of a run** that is never switched off: the record of every
exchange, in order, once for each registration. -/
theorem receivedBy_takeAll (number : Nat) (commands : List Command)
    (hon : r.exchanger.telemetry.enabled = true) (hsteady : ∀ c ∈ commands, c.Steady number) :
    receivedBy number (r.takeAll w commands).2 =
      (endedRecords (r.takeAll w commands).2).flatMap
        (List.replicate (registrations number r.exchanger.telemetry)) := by
  induction commands generalizing r with
  | nil => rfl
  | cons c rest ih =>
    have hc : c.Steady number := hsteady c List.mem_cons_self
    have htelemetry : (r.step w c).1.exchanger.telemetry = c.change r.exchanger.telemetry := by
      rw [exchanger_step]
    have hrest := ih (r.step w c).1 (by rw [htelemetry]; exact hc.enabled hon)
      fun d hd => hsteady d (List.mem_cons_of_mem c hd)
    rw [htelemetry, hc.registrations] at hrest
    have hstep := receivedBy_step w r number c hon
    rw [takeAll_cons]
    simp only [receivedBy, endedRecords, List.flatMap_cons, List.flatMap_nil, List.append_nil,
      List.flatMap_append] at hrest hstep ⊢
    rw [hrest, hstep]

theorem length_endedRecords (commands : List Command) :
    (endedRecords (r.takeAll w commands).2).length = commands.countP Command.isExchange := by
  induction commands generalizing r with
  | nil => rfl
  | cons c rest ih =>
    have hrest := ih (r.step w c).1
    rw [takeAll_cons]
    simp only [endedRecords, List.flatMap_cons, List.length_append, List.countP_cons] at hrest ⊢
    rw [hrest, length_ended_step, Nat.add_comm]

/-- **Every exchange of a run ends its span once**, with the sinks and the switch as they were when it
began; and a sink has received, at the end of a run that is never switched off and registers it no
more, the record of each exchange in order, once for each of its registrations at the start. -/
theorem run_endsOnce (commands : List Command) :
    (∀ before call transport after, commands = before ++ .exchange call transport :: after →
      let start := (r.takeAll w before).1
      start.exchanger.telemetry = before.foldl Command.change r.exchanger.telemetry ∧
      ∃ done, (r.takeAll w commands).2[before.length]? =
          some { outcome := some done.outcome, trace := done.trace } ∧
        start.exchanger.EndsOnce (start.surroundings w transport) start.ids call done) ∧
    (∀ number, r.exchanger.telemetry.enabled = true → (∀ c ∈ commands, c.Steady number) →
      receivedBy number (r.takeAll w commands).2 =
        (endedRecords (r.takeAll w commands).2).flatMap
          (List.replicate (registrations number r.exchanger.telemetry)) ∧
      (endedRecords (r.takeAll w commands).2).length = commands.countP Command.isExchange) := by
  refine ⟨?_, fun number hon hsteady =>
    ⟨receivedBy_takeAll w r number commands hon hsteady, length_endedRecords w r commands⟩⟩
  rintro before call transport after rfl
  refine ⟨by rw [exchanger_takeAll], _, report_at w r before after _, ?_⟩
  exact Exchanger.exchange_endsOnce _ _ _ _

/-- Two exchanges, the first of which fails because its endpoint is no URL, with a sink that always
fails before the one that is looked at: this one has received both records, in order. -/
theorem run_endsOnce_failing_sink :
    let full : Failure := .foreign none "OSError" "no space left"
    let failing : Sink := { number := 1, react := fun _ => { failure := some full } }
    let r : Run :=
      { exchanger := { telemetry := { sinks := [failing, { number := 2 }] } }
        ids := { name := fun n => "id-" ++ toString n } }
    let w : RunSurroundings := { platform := "linux", clock := fun _ => .whole 0 }
    let transport (_ : Request) : Reply := { result := .ok { status := 500 } }
    let call (url : String) : Call :=
      { authority := { canonicalUrl := url }, grant := { flow := .clientCredentials } }
    let commands := [Command.exchange (call "https://[h/t") transport,
      Command.exchange (call "https://h/t") transport]
    (∀ c ∈ commands, c.Steady 2) ∧
      receivedBy 2 (r.takeAll w commands).2 = endedRecords (r.takeAll w commands).2 ∧
      (receivedBy 2 (r.takeAll w commands).2).map (·.correlationId) =
        [some "id-1", some "id-2"] := by
  intro full failing r w transport call commands
  have hsteady : ∀ c ∈ commands, c.Steady 2 := by
    intro c hc
    rcases List.mem_cons.mp hc with rfl | hc
    · trivial
    · cases List.mem_singleton.mp hc
      trivial
  have hreceived := ((run_endsOnce w r commands).2 2 rfl hsteady).1
  refine ⟨hsteady, ?_, by decide⟩
  rw [hreceived]
  exact List.flatMap_singleton' _

end Run

end TokenEndpoint
