import TokenEndpoint.Proofs.Course
/-!
An exchange against the public steps that it is made of: one request is sent, the one that
`buildRequest` gives; the outcome is what `Response.classify` and then `Result.assemble` give; and the
clock is read once if the response has a payload, else not at all. Main statement:

* `exchange_follows_steps` -- every exchange follows the public steps (`FollowsSteps`).
-/

namespace TokenEndpoint.Exchanger

/-! ## 1. Requests and readings of the clock -/

/-- The requests of an exchange: the one that is built. -/
theorem exchange_requests (e : Exchanger) (w : Surroundings) (ids : IdSupply) (c : Call) :
    (e.exchange w ids c).trace.requests =
      (buildRequest w.platform (e.headed ids c)).toOption.toList := by
  obtain ⟨before, between, after, h⟩ := e.exists_trace_courseOf w ids c
  rw [exchange_trace, h]
  cases buildRequest w.platform (e.headed ids c) <;> split <;> simp [Except.toOption]

/-- The clock is read after a response whose payload can be decoded, and only then. -/
theorem exchange_samples (e : Exchanger) (w : Surroundings) (ids : IdSupply) (c : Call) :
    (e.exchange w ids c).trace.samples =
      if (received w (e.headed ids c) >>= Response.classify w.room.body).isOk then 1 else 0 := by
  obtain ⟨before, between, after, h⟩ := e.exists_trace_courseOf w ids c
  rw [exchange_trace, h]
  cases buildRequest w.platform (e.headed ids c) <;> split <;> simp [Except.toOption]

/-! ## 2. The public steps -/

/-- An exchange of a call whose clock shows `seconds` follows the public steps: what each of them
comes to, and what the exchange then comes to, how often it sends and how often it reads the clock. -/
structure FollowsSteps (w : Surroundings) (c : Call) (seconds : Int) (done : Outcome) : Prop where
  unbuilt : ∀ failure, buildRequest w.platform c = .error failure →
    done.outcome = .error failure ∧ done.trace.requests = [] ∧ done.trace.samples = 0
  built : ∀ request, buildRequest w.platform c = .ok request → done.trace.requests = [request]
  unanswered : ∀ request failure, buildRequest w.platform c = .ok request →
    (w.transport request).result = .error failure →
    done.outcome = .error failure ∧ done.trace.samples = 0
  refused : ∀ request response failure, buildRequest w.platform c = .ok request →
    (w.transport request).result = .ok response → response.classify w.room.body = .error failure →
    done.outcome = .error failure ∧ done.trace.samples = 0
  granted : ∀ request response payload, buildRequest w.platform c = .ok request →
    (w.transport request).result = .ok response → response.classify w.room.body = .ok payload →
    done.outcome = Result.assemble w.room payload seconds c.authority ∧ done.trace.samples = 1

/-- **Every exchange follows the public steps.** The call is taken with its headers, the given ones or
fresh ones; the seconds are the clock's reading `num / den` truncated toward zero. -/
theorem exchange_follows_steps (e : Exchanger) (w : Surroundings) (ids : IdSupply) (c : Call)
    {num : Int} {den : Nat} (hclock : w.clock.fraction? = some (num, den)) :
    FollowsSteps w (e.headed ids c) (num.tdiv den) (e.exchange w ids c) := by
  have houtcome := e.exchange_outcome w ids c
  have hrequests := e.exchange_requests w ids c
  have hsamples := e.exchange_samples w ids c
  have hseconds : capturedAt w.clock = .ok (num.tdiv den) := by
    rw [capturedAt, w.clock.truncate?_eq, hclock]
    rfl
  refine ⟨?_, ?_, ?_, ?_, ?_⟩
  · intro failure hb
    have hr : received w (e.headed ids c) = .error failure := by rw [received, hb, error_bind]
    rw [steps, hr] at houtcome
    rw [hb] at hrequests
    rw [hr] at hsamples
    exact ⟨houtcome, hrequests, hsamples⟩
  · intro request hb
    rw [hb] at hrequests
    exact hrequests
  · intro request failure hb ht
    have hr : received w (e.headed ids c) = .error failure := by rw [received, hb, ok_bind, ht]
    rw [steps, hr] at houtcome
    rw [hr] at hsamples
    exact ⟨houtcome, hsamples⟩
  · intro request response failure hb ht hp
    have hr : received w (e.headed ids c) = .ok response := by rw [received, hb, ok_bind, ht]
    rw [steps, hr, ok_bind, hp] at houtcome
    rw [hr, ok_bind, hp] at hsamples
    exact ⟨houtcome, hsamples⟩
  · intro request response payload hb ht hp
    have hr : received w (e.headed ids c) = .ok response := by rw [received, hb, ok_bind, ht]
    rw [steps, hr, ok_bind, hp, ok_bind, hseconds] at houtcome
    rw [hr, ok_bind, hp] at hsamples
    exact ⟨houtcome, hsamples⟩

/-- A clock before the epoch: minus one and a half seconds count as minus one. -/
theorem exchange_follows_steps_before_epoch :
    let granted : Response :=
      { status := 200, body := "\x7b\"access_token\": \"AT\", \"expires_in\": 3600\x7d" }
    let w : Surroundings :=
      { platform := "linux"
        transport := fun _ => { result := .ok granted }
        clock := .real (.finite true 3 (-1)) }
    let c : Call :=
      { authority := { canonicalUrl := "https://h/t" }, grant := { flow := .refreshToken "RT" } }
    let e : Exchanger := {}
    let ids : IdSupply := { name := fun _ => "id" }
    w.clock.fraction? = some (-3, 2) ∧
      FollowsSteps w (e.headed ids c) (-1) (e.exchange w ids c) ∧
      (e.exchange w ids c).outcome.toOption.map (·.expiresOn) = some 3599 := by
  intro granted w c e ids
  have hclock : w.clock.fraction? = some (-3, 2) := by decide
  exact ⟨hclock, exchange_follows_steps e w ids c hclock, by decide⟩

end TokenEndpoint.Exchanger
