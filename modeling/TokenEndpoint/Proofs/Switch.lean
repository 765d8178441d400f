import TokenEndpoint.Proofs.Delivery
/-!
The switch of an exchanger. Settings can switch the delivery of records off; but they are asked only
where an exchanger makes a telemetry of its own, and a telemetry that it is given goes by the switch that
it has itself. Spans are opened and ended whatever the switch says. Main statements:

* `enabled_create` -- the switch of an exchanger as it is created;
* `silent_iff_not_given_on` -- with settings that switch delivery off, nothing is handed out exactly if
  no telemetry was given that is switched on.
-/

namespace TokenEndpoint

/-- **The switch of an exchanger that has just been created**: that of the given telemetry, and only
without one that of the settings. -/
theorem Exchanger.enabled_create {settings : Settings} {telemetry : Option Telemetry} {e : Exchanger}
    (h : create settings telemetry = .ok e) :
    e.telemetry.enabled = (telemetry.map (·.enabled)).getD settings.telemetryEnabled := by
  obtain ⟨-, rfl⟩ := create_eq_ok_iff.mp h
  cases telemetry <;> rfl

namespace Run

/-! ## 1. Commands that leave the switch alone -/

namespace Command

/-- The command does not turn the switch. Sinks may be added. -/
def LeavesSwitch : Command → Prop
  | enable _ => False
  | _ => True

theorem LeavesSwitch.enabled_change {c : Command} (h : c.LeavesSwitch) (t : Telemetry) :
    (c.change t).enabled = t.enabled := by
  cases c with
  | exchange call transport => rfl
  | addSink sink => rfl
  | enable on => exact h.elim
  | react reaction => rfl

theorem enabled_changes {commands : List Command} (h : ∀ c ∈ commands, c.LeavesSwitch)
    (t : Telemetry) : (commands.foldl change t).enabled = t.enabled := by
  induction commands generalizing t with
  | nil => rfl
  | cons c rest ih =>
    rw [List.foldl_cons, ih fun d hd => h d (List.mem_cons_of_mem c hd)]
    exact (h c List.mem_cons_self).enabled_change t

end Command

variable (w : RunSurroundings) (r : Run)

/-! ## 2. What is handed out -/

/-- A step hands out nothing while the switch is off. -/
theorem deliveries_step_of_off (c : Command) (hoff : r.exchanger.telemetry.enabled = false) :
    (r.step w c).2.trace.deliveries = [] := by
  cases c with
  | exchange call transport =>
    have h := r.exchanger.exchange_endsOnce (r.surroundings w transport) r.ids call
    exact h.delivered.trans (by rw [hoff, if_neg Bool.false_ne_true])
  | addSink sink => rfl
  | enable on => rfl
  | react reaction => rfl

/-- **A run that begins switched off, and is left so, hands out nothing.** -/
theorem deliveries_of_off {commands : List Command} (h : ∀ c ∈ commands, c.LeavesSwitch)
    (hoff : r.exchanger.telemetry.enabled = false) :
    ∀ report ∈ (r.takeAll w commands).2, report.trace.deliveries = [] := by
  induction commands generalizing r with
  | nil => exact fun report hreport => absurd hreport List.not_mem_nil
  | cons c rest ih =>
    have hc : c.LeavesSwitch := h c List.mem_cons_self
    have hnext : (r.step w c).1.exchanger.telemetry.enabled = false := by
      rw [exchanger_step]
      exact (hc.enabled_change _).trans hoff
    intro report hreport
    rw [takeAll_cons] at hreport
    rcases List.mem_cons.mp hreport with rfl | hreport
    · exact deliveries_step_of_off w r c hoff
    · exact ih (r.step w c).1 (fun d hd => h d (List.mem_cons_of_mem c hd)) hnext report hreport

/-- What an exchange of a run does to its span and to the sinks that are registered when it begins. -/
theorem exists_report_of_exchange {before : List Command} (h : ∀ c ∈ before, c.LeavesSwitch)
    (call : Call) (transport : Request → Reply) (after : List Command) :
    ∃ report record,
      (r.takeAll w (before ++ .exchange call transport :: after)).2[before.length]? = some report ∧
      report.trace.opened.length = 1 ∧ report.trace.ended = [record] ∧ record.finalized = true ∧
      report.trace.deliveries =
        if r.exchanger.telemetry.enabled then
          (before.foldl Command.change r.exchanger.telemetry).sinks.map fun sink =>
            (sink.number, record)
        else [] := by
  have hends := (r.takeAll w before).1.exchanger.exchange_endsOnce
    ((r.takeAll w before).1.surroundings w transport) (r.takeAll w before).1.ids call
  refine ⟨_, _, report_at w r before after _, ?_, hends.ended, hends.finalized, ?_⟩
  · exact congrArg List.length hends.opened
  · refine hends.delivered.trans ?_
    rw [exchanger_takeAll]
    dsimp only
    rw [Command.enabled_changes h]

/-! ## 3. Settings that switch delivery off -/

/-- An exchange right after a sink has been added hands its record out if the switch is on. -/
theorem exists_delivery_of_on (hon : r.exchanger.telemetry.enabled = true) (sink : Sink) (call : Call)
    (transport : Request → Reply) :
    ∃ report ∈ (r.takeAll w [.addSink sink, .exchange call transport]).2,
      report.trace.deliveries ≠ [] := by
  have hadding : ∀ c ∈ [Command.addSink sink], c.LeavesSwitch := by
    intro c hc
    cases List.mem_singleton.mp hc
    trivial
  obtain ⟨report, record, hreport, -, -, -, hdelivered⟩ :=
    exists_report_of_exchange w r hadding call transport []
  refine ⟨report, List.mem_of_getElem? hreport, ?_⟩
  rw [hdelivered, if_pos hon]
  show (r.exchanger.telemetry.sinks ++ [sink]).map _ ≠ []
  rw [List.map_append]
  exact List.append_ne_nil_of_right_ne_nil _ (List.cons_ne_nil _ _)

/-- **Settings that switch delivery off silence an exchanger exactly if no telemetry was given to it
that is switched on**, whatever sinks are registered before its creation or after, and whatever
exchanges are run. Every exchange opens one span and ends it once all the same; and with such a telemetry
it hands its record to every sink, as if the settings had said nothing. -/
theorem silent_iff_not_given_on {settings : Settings} (hoff : settings.telemetryEnabled = false)
    {telemetry : Option Telemetry} {e : Exchanger}
    (hcreate : Exchanger.create settings telemetry = .ok e) :
    ((∀ w ids commands, (∀ c ∈ commands, Command.LeavesSwitch c) →
        ∀ report ∈ (takeAll w { exchanger := e, ids } commands).2, report.trace.deliveries = []) ↔
      ∀ t, telemetry = some t → t.enabled = false) ∧
    ∀ w ids commands, (∀ c ∈ commands, Command.LeavesSwitch c) →
      ∀ before call transport after, commands = before ++ .exchange call transport :: after →
        ∃ report record,
          (takeAll w { exchanger := e, ids } commands).2[before.length]? = some report ∧
          report.trace.opened.length = 1 ∧ report.trace.ended = [record] ∧
          record.finalized = true ∧
          report.trace.deliveries =
            if (telemetry.map (·.enabled)).getD false then
              (before.foldl Command.change e.telemetry).sinks.map fun sink => (sink.number, record)
            else [] := by
  have henabled : e.telemetry.enabled = (telemetry.map (·.enabled)).getD false := by
    rw [Exchanger.enabled_create hcreate, hoff]
  refine ⟨⟨?_, ?_⟩, ?_⟩
  · rintro hsilent t rfl
    cases ht : t.enabled with
    | false => rfl
    | true =>
      -- any sink, and any exchange after it, breaks the silence
      obtain ⟨report, hreport, hne⟩ :=
        exists_delivery_of_on { platform := "", clock := fun _ => .whole 0 }
          { exchanger := e, ids := { name := fun _ => "" } } (henabled.trans ht) { number := 0 }
          { authority := { canonicalUrl := "" }, grant := { flow := .clientCredentials } }
          fun _ => .undefined
      refine absurd (hsilent _ _ _ ?_ report hreport) hne
      intro c hc
      rcases List.mem_cons.mp hc with rfl | hc
      · trivial
      · cases List.mem_singleton.mp hc
        trivial
  · intro hgiven w ids commands hleave
    refine deliveries_of_off w _ hleave (henabled.trans ?_)
    cases telemetry with
    | none => rfl
    | some t => exact hgiven t rfl
  · rintro w ids commands hleave before call transport after rfl
    rw [← henabled]
    have hbefore : ∀ c ∈ before, c.LeavesSwitch := fun c hc => hleave c (List.mem_append_left _ hc)
    exact exists_report_of_exchange w _ hbefore call transport after

/-- Settings that switch delivery off, and a telemetry that was given with its own switch on: a refused
exchange hands its record to the sink. -/
theorem silent_iff_not_given_on_ignored :
    let settings : Settings := { telemetryEnabled := false }
    let telemetry : Telemetry := { sinks := [{ number := 0 }] }
    let e : Exchanger := { settings, telemetry }
    let w : RunSurroundings := { platform := "linux", clock := fun _ => .whole 0 }
    let ids : IdSupply := { name := fun _ => "id" }
    let call : Call :=
      { authority := { canonicalUrl := "https://h/t" }, grant := { flow := .refreshToken "RT" } }
    let asking : Command := .exchange call fun _ => { result := .ok { status := 500 } }
    settings.telemetryEnabled = false ∧ Exchanger.create settings (some telemetry) = .ok e ∧
      ¬ (∀ w ids commands, (∀ c ∈ commands, Command.LeavesSwitch c) →
        ∀ report ∈ (takeAll w { exchanger := e, ids } commands).2, report.trace.deliveries = []) ∧
      ∃ report record, (takeAll w { exchanger := e, ids } [asking]).2[0]? = some report ∧
        report.trace.deliveries = [(0, record)] := by
  intro settings telemetry e w ids call asking
  have hvalid : ({ telemetryEnabled := false } : Settings).validate = .ok () := rfl
  have hcreate : Exchanger.create settings (some telemetry) = .ok e :=
    Exchanger.create_eq_ok_iff.mpr ⟨hvalid, rfl⟩
  obtain ⟨hsilent, hreports⟩ := silent_iff_not_given_on rfl hcreate
  have hasking : ∀ c ∈ [asking], c.LeavesSwitch := by
    intro c hc
    cases List.mem_singleton.mp hc
    trivial
  obtain ⟨report, record, hreport, -, -, -, hdelivered⟩ :=
    hreports w ids [asking] hasking [] call _ [] rfl
  exact ⟨rfl, hcreate, fun h => Bool.false_ne_true (hsilent.mp h telemetry rfl).symm, report, record,
    hreport, hdelivered⟩

end Run

end TokenEndpoint
