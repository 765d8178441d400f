import TokenEndpoint.Proofs.Drafts
/-!
When a request can be built. With a grant and a credential of this library nothing but the endpoint can
fail. Main statement:

* `buildRequest_eq_error_iff` -- building fails as the check of the endpoint does.
-/

namespace TokenEndpoint

/-! ## 1. Grants and credentials of this library -/

/-- The names of the parameters that a flow of this library has, in order: one of these lists. -/
def Flow.nameLists : List (List String) :=
  [["grant_type", "code", "redirect_uri"], ["grant_type", "code", "redirect_uri", "code_verifier"],
    ["grant_type", "refresh_token"], ["grant_type"], ["grant_type", "device_code"],
    ["grant_type", "username", "password"], ["grant_type", "assertion", "requested_token_use"]]

/-- A flow of this library has parameters of these names, each with a value. -/
theorem Flow.exists_parameters {flow : Flow} (h : flow.isBuiltIn = true) :
    ∃ params, flow.parameters = .ok params ∧ params.names ∈ nameLists ∧
      ∀ field ∈ params, field.2 ≠ [] := by
  cases flow with
  | custom defined => cases h
  | whole defined => cases h
  | authorizationCode code redirectUri verifier =>
    refine ⟨_, rfl, ?_⟩
    cases verifier with
    | none => simp [Fields.names, nameLists]
    | some v => by_cases hv : v.isEmpty = true <;> simp [Fields.names, nameLists, hv]
  | _ => exact ⟨_, rfl, by simp [Fields.names, nameLists]⟩

theorem Grant.exists_toParameters {g : Grant} (h : g.flow.isBuiltIn = true) :
    ∃ params, g.toParameters = .ok params := by
  obtain ⟨params, hparams, -⟩ := Flow.exists_parameters h
  exact ⟨_, toParameters_of_isBuiltIn h hparams⟩

theorem Draft.exists_addGrant {d : Draft} (hd : d.IsMapping) {g : Grant}
    (h : g.flow.isBuiltIn = true) : ∃ d', d.addGrant g = .ok d' ∧ d'.IsMapping := by
  obtain ⟨params, hp⟩ := Grant.exists_toParameters h
  exact ⟨_, by rw [addGrant, hp]; rfl, hd.setParameters params⟩

theorem Credential.exists_applyTo {c : Credential} (h : c.isBuiltIn = true) {d : Draft}
    (hd : d.IsMapping) : ∃ d', c.applyTo d = (d', Option.none) ∧ d'.IsMapping := by
  have hkeeps : (c.applyTo d).1.IsMapping :=
    Draft.keepsMapping_applyTo (fun change hc => by rw [hc] at h; cases h) d hd
  cases c with
  | custom change => cases h
  | _ => exact ⟨_, rfl, hkeeps⟩

/-- A credential that is not given, or is one of this library. -/
def Credential.NoneCustom (credential : Option Credential) : Prop :=
  ∀ c, credential = some c → c.isBuiltIn = true

theorem Draft.exists_addCredential {d : Draft} (hd : d.IsMapping) {credential : Option Credential}
    (h : Credential.NoneCustom credential) :
    ∃ d', d.addCredential credential = .ok d' ∧ d'.IsMapping := by
  cases credential with
  | none => exact ⟨d, rfl, hd⟩
  | some c =>
    obtain ⟨d', happlied, hd'⟩ := Credential.exists_applyTo (h c rfl) hd
    exact ⟨d', by rw [addCredential, happlied], hd'⟩

/-! ## 2. The endpoint -/

/-- The check of an endpoint fails with a fault of the configuration, or because the endpoint is not
empty and cannot be split as a URL. -/
theorem checkEndpoint_eq_error {url : Option String} {failure : Failure}
    (h : checkEndpoint url = .error failure) :
    (∃ fault, failure = .configuration fault) ∨
      ∃ text fault, url = some text ∧ text ≠ "" ∧ Url.parse text = .error fault ∧
        failure = .url fault := by
  unfold checkEndpoint at h
  dsimp only at h
  split at h
  · exact Or.inl ⟨_, (Except.error.inj h).symm⟩
  · next hne =>
    split at h
    · next fault hp =>
      cases url with
      | none => exact absurd rfl hne
      | some text =>
        refine Or.inr ⟨text, fault, rfl, ?_, hp, (Except.error.inj h).symm⟩
        rintro rfl
        exact hne rfl
    · split at h
      · cases h
      · exact Or.inl ⟨_, (Except.error.inj h).symm⟩

theorem checkEndpoint_of_parse_error {text : String} {fault : Url.Fault} (hne : text ≠ "")
    (hp : Url.parse text = .error fault) : checkEndpoint (some text) = .error (.url fault) := by
  have he : ¬ text.isEmpty = true := fun h => hne (String.isEmpty_iff.mp h)
  unfold checkEndpoint
  dsimp only [Option.getD_some]
  rw [if_neg he, hp]

/-- An endpoint that passes the check is a URL with a scheme and a network location. -/
theorem checkEndpoint_eq_ok {url : Option String} {text : String} (h : checkEndpoint url = .ok text) :
    url = some text ∧ text.isEmpty = false ∧ ∃ parsed, Url.parse text = .ok parsed ∧
      parsed.scheme.isEmpty = false ∧ parsed.netloc.isEmpty = false := by
  unfold checkEndpoint at h
  dsimp only at h
  split at h
  · cases h
  · next hne =>
    split at h
    · cases h
    · next parsed hparsed =>
      split at h
      · next hweb =>
        cases h
        cases url with
        | none => exact absurd rfl hne
        | some text =>
          refine ⟨rfl, by simpa using hne, parsed, hparsed, ?_, by simpa using hweb.2⟩
          rcases hweb.1 with hscheme | hscheme
          · rw [hscheme]; rfl
          · rw [hscheme]; rfl
      · cases h

variable {platform : String} {authority : Authority} {grant : Grant}
  {headers : Option RequestHeaders} {credential : Option Credential}

theorem exists_buildRequest_of_builtIn (hg : grant.flow.isBuiltIn = true)
    (hc : Credential.NoneCustom credential) {url : String}
    (hu : checkEndpoint authority.tokenEndpointUrl = .ok url) :
    ∃ request, buildRequest platform authority grant headers credential = .ok request := by
  have hstart : (Draft.ofHeaders url platform headers).IsMapping := ⟨[], rfl, List.nodup_nil⟩
  obtain ⟨granted, hgranted, hmapping⟩ := Draft.exists_addGrant hstart hg
  obtain ⟨d, hd, params, hparams, -⟩ := Draft.exists_addCredential hmapping hc
  refine ⟨_, Eq.trans ?_ (Draft.freeze_of_letters hparams)⟩
  rw [buildRequest, buildDraft, hu, ok_bind]
  show ((Draft.addGrant _ grant >>= fun d => d.addCredential credential) >>= Draft.freeze) = _
  rw [hgranted, ok_bind, hd, ok_bind]

/-- **With a grant and a credential of this library, building fails as the check of the endpoint
does.** -/
theorem buildRequest_eq_error_iff (hg : grant.flow.isBuiltIn = true)
    (hc : Credential.NoneCustom credential) (failure : Failure) :
    buildRequest platform authority grant headers credential = .error failure ↔
      checkEndpoint authority.tokenEndpointUrl = .error failure := by
  cases hu : checkEndpoint authority.tokenEndpointUrl with
  | error found =>
    have hb : buildRequest platform authority grant headers credential = .error found := by
      rw [buildRequest, buildDraft, hu, error_bind]
      rfl
    rw [hb, Except.error.injEq, Except.error.injEq]
  | ok url =>
    obtain ⟨request, hrequest⟩ : ∃ request, buildRequest platform authority grant headers credential =
        .ok request := exists_buildRequest_of_builtIn hg hc hu
    rw [hrequest]
    constructor <;> intro h <;> cases h

end TokenEndpoint
