import TokenEndpoint.Proofs.Runs
import TokenEndpoint.Proofs.Steps
/-!
What an exchange leaves behind it. Of the exchanger and its sinks it changes nothing, and of the ids
nothing if the call has headers of its own; all that it leaves is that the clock has been read once
more, if a payload came. So a run never shows which exchanges have gone before. Main statements:

* `takeAll_state` -- where a run has come to (`Headed`, `reachesPayload`);
* `exchange_as_fresh` -- every exchange of a run is what an exchanger that has just been created makes
  of the same call.
-/

namespace TokenEndpoint

/-! ## 1. One exchange -/

/-- Whether a call gets a payload over a transport: its request is built and answered, and the answer is
a success that can be decoded. -/
def Call.reachesPayload (c : Call) (platform : String) (room : Nat) (transport : Request → Reply) :
    Bool :=
  (Exchanger.buildRequest platform c >>= fun request =>
    (transport request).result >>= Response.classify room).isOk

/-- A call with headers of its own reads the clock once if it gets a payload, else not at all. -/
theorem Exchanger.samples_of_given (e : Exchanger) (w : Surroundings) (ids : IdSupply) {c : Call}
    {headers : RequestHeaders} (h : c.headers = some headers) :
    (e.exchange w ids c).trace.samples =
      if c.reachesPayload w.platform w.room.body w.transport then 1 else 0 := by
  rw [exchange_samples, headed_of_given e ids h, received, Call.reachesPayload]
  cases buildRequest w.platform c with
  | error failure => rfl
  | ok request => rw [ok_bind, ok_bind]

namespace Run

/-! ## 2. One step -/

namespace Command

/-- If the command is an exchange, its call has headers of its own. -/
def Headed : Command → Prop
  | exchange call _ => ∃ headers, call.headers = some headers
  | _ => True

def reachesPayload (w : RunSurroundings) : Command → Bool
  | exchange call transport => call.reachesPayload w.platform w.room.body transport
  | _ => false

end Command

variable (w : RunSurroundings) (r : Run)

/-- **A step leaves nothing but what the commands to the telemetry change, and the place on the clock.** -/
theorem step_state {c : Command} (h : c.Headed) :
    (r.step w c).1 =
      { exchanger := { r.exchanger with telemetry := c.change r.exchanger.telemetry }
        ids := r.ids
        samples := r.samples + if c.reachesPayload w then 1 else 0 } := by
  cases c with
  | exchange call transport =>
    obtain ⟨headers, hgiven⟩ := h
    have hids := r.exchanger.exchange_ids (r.surroundings w transport) r.ids hgiven
    have hsamples := r.exchanger.samples_of_given (r.surroundings w transport) r.ids hgiven
    rw [step]
    dsimp only
    rw [hids, hsamples]
    rfl
  | addSink sink => rfl
  | enable on => rfl
  | react reaction => rfl

/-! ## 3. Runs -/

/-- **Where a run has come to**: the clock has been read as often as a payload came. -/
theorem takeAll_state {commands : List Command} (h : ∀ c ∈ commands, c.Headed) :
    (r.takeAll w commands).1 =
      { exchanger :=
          { r.exchanger with telemetry := commands.foldl Command.change r.exchanger.telemetry }
        ids := r.ids
        samples := r.samples + commands.countP (Command.reachesPayload w) } := by
  induction commands generalizing r with
  | nil => rfl
  | cons c rest ih =>
    have hstep := step_state w r (h c List.mem_cons_self)
    have hrest := ih (r.step w c).1 fun d hd => h d (List.mem_cons_of_mem c hd)
    rw [takeAll_cons, hrest, hstep, List.foldl_cons, List.countP_cons]
    dsimp only
    congr 1
    omega

/-- **Exchanges leave nothing to one another.** In a run of calls with headers of their own, whatever
has gone before, each exchange comes to the outcome, sends the request, logs the entries and hands out
the records that an exchanger with the same settings, created just then around the sinks, comes to with
the same call and transport: all that the others leave is the place on the clock, one reading further
for each of them that got a payload. -/
theorem exchange_as_fresh {settings : Settings} {telemetry : Option Telemetry} {e : Exchanger}
    (hcreate : Exchanger.create settings telemetry = .ok e) (w : RunSurroundings)
    (ids ids' : IdSupply) {commands : List Command} (hheaded : ∀ c ∈ commands, c.Headed) :
    ∀ before call transport after, commands = before ++ .exchange call transport :: after →
      let sinks := before.foldl Command.change e.telemetry
      let meets : Surroundings :=
        { platform := w.platform, transport, room := w.room
          clock := w.clock (before.countP (Command.reachesPayload w)) }
      ∃ fresh, Exchanger.create settings (some sinks) = .ok fresh ∧
        (takeAll w { exchanger := e, ids } commands).2[before.length]? =
          some { outcome := some (fresh.exchange meets ids' call).outcome
                 trace := (fresh.exchange meets ids' call).trace } := by
  rintro before call transport after rfl sinks meets
  obtain ⟨hvalid, rfl⟩ := Exchanger.create_eq_ok_iff.mp hcreate
  obtain ⟨headers, hgiven⟩ := hheaded (.exchange call transport) (by simp)
  have hbefore : ∀ c ∈ before, c.Headed := fun c hc => hheaded c (List.mem_append_left _ hc)
  refine ⟨{ settings, telemetry := sinks }, Exchanger.create_eq_ok_iff.mpr ⟨hvalid, rfl⟩, ?_⟩
  obtain ⟨houtcome, htrace⟩ :=
    Exchanger.exchange_of_given { settings, telemetry := sinks } meets ids' ids hgiven
  rw [report_at, takeAll_state w _ hbefore, houtcome, htrace, step, surroundings, Nat.zero_add]

/-- Three exchanges with one headers object, the second of which is refused, and a sink that always
fails: the third reads the clock for the second time, and is what a fresh exchanger makes of the call. -/
theorem exchange_as_fresh_third :
    let granted : Response :=
      { status := 200, body := "\x7b\"access_token\": \"AT\", \"expires_in\": 3600\x7d" }
    let full : Failure := .foreign none "OSError" "no space left"
    let telemetry : Telemetry :=
      { sinks := [{ number := 1, react := fun _ => { failure := some full } }] }
    let e : Exchanger := { telemetry }
    let w : RunSurroundings := { platform := "linux", clock := fun n => .whole (100 * n) }
    let ids : IdSupply := { name := fun n => "id-" ++ toString n }
    let call : Call :=
      { authority := { canonicalUrl := "https://h/t" }, grant := { flow := .refreshToken "RT" }
        headers := some { correlationId := "id" } }
    let answering (response : Response) : Command :=
      .exchange call fun _ => { result := .ok response }
    let commands := [answering granted, answering { status := 500 }, answering granted]
    let alone := e.exchange
      { platform := "linux", transport := fun _ => { result := .ok granted }, clock := .whole 100 }
      ids call
    Exchanger.create {} (some telemetry) = .ok e ∧ (∀ c ∈ commands, c.Headed) ∧
      (takeAll w { exchanger := e, ids } commands).2[2]? =
        some { outcome := some alone.outcome, trace := alone.trace } ∧
      alone.outcome.toOption.map (·.expiresOn) = some 3700 := by
  intro granted full telemetry e w ids call answering commands alone
  have hcreate : Exchanger.create {} (some telemetry) = .ok e := rfl
  have hheaded : ∀ c ∈ commands, c.Headed := by
    intro c hc
    rcases List.mem_cons.mp hc with rfl | hc
    · exact ⟨_, rfl⟩
    rcases List.mem_cons.mp hc with rfl | hc
    · exact ⟨_, rfl⟩
    cases List.mem_singleton.mp hc
    exact ⟨_, rfl⟩
  obtain ⟨fresh, hfresh, hreport⟩ := exchange_as_fresh hcreate w ids ids hheaded
    [answering granted, answering { status := 500 }] call _ [] rfl
  have hcount : [answering granted, answering { status := 500 }].countP
      (Command.reachesPayload w) = 1 := by decide
  cases hfresh
  rw [hcount] at hreport
  exact ⟨hcreate, hheaded, hreport, by decide⟩

end Run

end TokenEndpoint
