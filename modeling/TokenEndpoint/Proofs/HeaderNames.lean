import Mathlib.Data.List.Nodup
import TokenEndpoint.Proofs.RequestContents
import TokenEndpoint.Text.Lowercase
/-!
The headers of a request as HTTP reads them, without regard to the case of their names. A request sets
its own headers and the extra ones of its caller by name as it is spelled, and the extra ones later; so
one header can come to stand twice, and the header that names the exchange can come to name another.
Main statement:

* `headersSound_iff_clear` -- neither happens exactly if the extra headers keep clear of the request's
  own (`Clear`).
-/

namespace TokenEndpoint

/-! ## 1. Headers by name -/

namespace Fields

variable {headers : Fields String String} {name value : String}

/-- No two headers have names that differ in case only. -/
def CaseDistinct (headers : Fields String String) : Prop :=
  (headers.names.map Text.lower).Nodup

/-- A header is there, in whatever spelling, and has the value wherever it stands. -/
def Carries (headers : Fields String String) (name value : String) : Prop :=
  (∃ field ∈ headers, Text.lower field.1 = Text.lower name) ∧
    ∀ field ∈ headers, Text.lower field.1 = Text.lower name → field.2 = value

theorem caseDistinct_iff (h : headers.names.Nodup) :
    headers.CaseDistinct ↔
      ∀ a ∈ headers.names, ∀ b ∈ headers.names, Text.lower a = Text.lower b → a = b := by
  constructor
  · intro hdistinct a ha b hb
    exact List.inj_on_of_nodup_map hdistinct ha hb
  · intro hinj
    exact h.map_on hinj

/-- Where no two names differ in case only, a header that is there has the value that is found by its
name. -/
theorem carries_iff (hdistinct : headers.CaseDistinct) (hmem : name ∈ headers.names) :
    headers.Carries name value ↔ headers.get? name = some value := by
  have hnames : headers.names.Nodup := hdistinct.of_map
  constructor
  · rintro ⟨-, hvalues⟩
    obtain ⟨field, hfield, rfl⟩ := List.mem_map.mp hmem
    rw [get?_of_mem hnames hfield, hvalues field hfield rfl]
  · intro hget
    refine ⟨⟨(name, value), mem_of_get? hget, rfl⟩, fun field hfield hlower => ?_⟩
    obtain rfl : field.1 = name :=
      (caseDistinct_iff hnames).mp hdistinct _ (List.mem_map_of_mem hfield) name hmem hlower
    rw [get?_of_mem hnames hfield] at hget
    exact Option.some.inj hget

end Fields

/-- The headers of a request mean one thing to a reader that does not mind case: each stands once, the
content type is that of a form, and the request is named by the correlation id. -/
structure Request.HeadersSound (r : Request) (correlationId : String) : Prop where
  distinct : r.headers.CaseDistinct
  contentType : r.headers.Carries HeaderName.contentType Request.contentType
  correlationId : r.headers.Carries HeaderName.correlationId correlationId

/-! ## 2. The request's own headers and the extra ones -/

/-- The names of all headers that a request may set itself. -/
def HeaderName.own : List String :=
  [sku, version, os, correlationId, returnCorrelationId, contentType, authorization]

/-- No two of them differ in case only. -/
theorem HeaderName.eq_of_lower_eq :
    ∀ a ∈ own, ∀ b ∈ own, Text.lower a = Text.lower b → a = b := by
  decide +kernel

theorem Credential.mem_names_givenHeaders {credential : Option Credential} {name : String}
    (h : name ∈ (givenHeaders credential).names) : name = HeaderName.authorization := by
  cases credential with
  | none => cases h
  | some c =>
    cases c with
    | secretBasic clientId clientSecret => exact List.mem_singleton.mp h
    | _ => cases h

section RequestHeaders

variable {platform name : String} {headers : Option RequestHeaders} {credential : Option Credential}

theorem mem_names_requestHeaders :
    name ∈ (requestHeaders platform headers credential).names ↔
      (name = HeaderName.contentType ∨ name ∈ (RequestHeaders.given platform headers).names) ∨
        name ∈ (Credential.givenHeaders credential).names := by
  rw [requestHeaders, ← Credential.setAll_givenHeaders, Fields.mem_names_setAll, Fields.mem_names_set]

theorem nodup_names_requestHeaders : (requestHeaders platform headers credential).names.Nodup := by
  rw [requestHeaders, ← Credential.setAll_givenHeaders]
  refine Fields.nodup_names_setAll (Fields.nodup_names_set ?_ _ _) _
  cases headers with
  | none => exact List.nodup_nil
  | some h => exact h.nodup_names_fields platform

/-- The content type is set over the static headers. -/
theorem contentType_requestHeaders :
    (requestHeaders platform headers credential).get? HeaderName.contentType =
      some Request.contentType := by
  have hother : HeaderName.contentType ∉ (Credential.givenHeaders credential).names := fun hmem =>
    absurd (Credential.mem_names_givenHeaders hmem) (by decide)
  rw [requestHeaders, ← Credential.setAll_givenHeaders, Fields.get?_setAll_of_not_mem hother,
    Fields.get?_set_self]

end RequestHeaders

namespace RequestHeaders

variable {platform name : String} {h : RequestHeaders} {credential : Option Credential}

/-- The names of the headers of a request without the extra ones. -/
def ownNames (platform : String) (h : RequestHeaders) (credential : Option Credential) : List String :=
  (requestHeaders platform (some { h with extra := [] }) credential).names

/-- The extra headers keep clear of the request's own. They do not differ from one another in case only;
one that has the name of the request's own is spelled alike; and one that names the exchange names it as
the request does. -/
structure Clear (platform : String) (h : RequestHeaders) (credential : Option Credential) : Prop where
  distinct : h.extra.CaseDistinct
  spelled : ∀ name ∈ h.extra.names, ∀ own ∈ h.ownNames platform credential,
    Text.lower name = Text.lower own → name = own
  correlationId : ∀ value, (HeaderName.correlationId, value) ∈ h.extra → value = h.correlationId

theorem fields_eq_setAll (platform : String) (h : RequestHeaders) :
    h.fields platform = Fields.setAll ({ h with extra := [] }.fields platform) h.extra := rfl

theorem mem_names_iff :
    name ∈ (requestHeaders platform (some h) credential).names ↔
      name ∈ h.ownNames platform credential ∨ name ∈ h.extra.names := by
  have hfields : name ∈ (given platform (some h)).names ↔
      name ∈ (given platform (some { h with extra := [] })).names ∨ name ∈ h.extra.names := by
    show name ∈ (h.fields platform).names ↔ _
    rw [fields_eq_setAll, Fields.mem_names_setAll]
    rfl
  rw [ownNames, mem_names_requestHeaders, mem_names_requestHeaders, hfields]
  tauto

theorem mem_own_of_mem_ownNames (hmem : name ∈ h.ownNames platform credential) :
    name ∈ HeaderName.own := by
  have hplain : ∀ name ∈ ({ h with extra := [] }.fields platform).names, name ∈ HeaderName.own := by
    rw [fields, Fields.setAll]
    split <;> simp [Fields.names, HeaderName.own]
  rcases mem_names_requestHeaders.mp hmem with (rfl | hstatic) | hcredential
  · decide
  · exact hplain name hstatic
  · rw [Credential.mem_names_givenHeaders hcredential]
    decide

theorem correlationId_mem_ownNames : HeaderName.correlationId ∈ h.ownNames platform credential := by
  have hfield : (HeaderName.correlationId, h.correlationId) ∈ { h with extra := [] }.fields platform :=
    Fields.mem_of_get? (get?_correlationId rfl platform)
  exact mem_names_requestHeaders.mpr (.inl (.inr (List.mem_map_of_mem hfield)))

/-- The request is named by the correlation id, unless an extra header of this very name says another. -/
theorem get?_correlationId_iff (hextra : h.extra.names.Nodup) :
    (requestHeaders platform (some h) credential).get? HeaderName.correlationId = some h.correlationId ↔
      ∀ value, (HeaderName.correlationId, value) ∈ h.extra → value = h.correlationId := by
  have hcredential : HeaderName.correlationId ∉ (Credential.givenHeaders credential).names := fun hmem =>
    absurd (Credential.mem_names_givenHeaders hmem) (by decide)
  have hne : HeaderName.correlationId ≠ HeaderName.contentType := by decide
  rw [requestHeaders, ← Credential.setAll_givenHeaders, Fields.get?_setAll_of_not_mem hcredential,
    Fields.get?_set_of_ne hne]
  show (h.fields platform).get? HeaderName.correlationId = _ ↔ _
  rw [fields_eq_setAll]
  constructor
  · intro hget value hvalue
    rw [Fields.get?_setAll_of_mem hextra hvalue] at hget
    exact Option.some.inj hget
  · intro hvalues
    by_cases hmem : HeaderName.correlationId ∈ h.extra.names
    · obtain ⟨⟨name, value⟩, hfield, heq⟩ := List.mem_map.mp hmem
      obtain rfl : name = HeaderName.correlationId := heq
      rw [Fields.get?_setAll_of_mem hextra hfield, hvalues value hfield]
    · rw [Fields.get?_setAll_of_not_mem hmem, get?_correlationId rfl]

/-- No header stands twice exactly if the extra ones differ from each other, and from the request's own
unless they are spelled alike. -/
theorem caseDistinct_requestHeaders_iff (hextra : h.extra.names.Nodup) :
    (requestHeaders platform (some h) credential).CaseDistinct ↔
      h.extra.CaseDistinct ∧ ∀ name ∈ h.extra.names, ∀ own ∈ h.ownNames platform credential,
        Text.lower name = Text.lower own → name = own := by
  rw [Fields.caseDistinct_iff nodup_names_requestHeaders, Fields.caseDistinct_iff hextra]
  constructor
  · intro hall
    exact ⟨fun a ha b hb => hall a (mem_names_iff.mpr (.inr ha)) b (mem_names_iff.mpr (.inr hb)),
      fun name hname own hown =>
        hall name (mem_names_iff.mpr (.inr hname)) own (mem_names_iff.mpr (.inl hown))⟩
  · rintro ⟨hamong, hspelled⟩ a ha b hb hlower
    rcases mem_names_iff.mp ha with hown | hgiven <;> rcases mem_names_iff.mp hb with hown' | hgiven'
    · exact HeaderName.eq_of_lower_eq a (mem_own_of_mem_ownNames hown) b
        (mem_own_of_mem_ownNames hown') hlower
    · exact (hspelled b hgiven' a hown hlower.symm).symm
    · exact hspelled a hgiven b hown' hlower
    · exact hamong a hgiven b hgiven' hlower

end RequestHeaders

/-! ## 3. Requests -/

/-- **A request's headers are sound exactly if the extra ones keep clear of its own.** In any case the
header that is spelled as the request's own content type has its value. -/
theorem headersSound_iff_clear (platform : String) (h : RequestHeaders) {authority : Authority}
    {grant : Grant} {credential : Option Credential} {url : String}
    (hu : checkEndpoint authority.tokenEndpointUrl = .ok url) (hg : grant.flow.isBuiltIn = true)
    (hc : Credential.NoneCustom credential) (hextra : h.extra.names.Nodup) :
    ∃ request, buildRequest platform authority grant (some h) credential = .ok request ∧
      request.headers.get? HeaderName.contentType = some Request.contentType ∧
      (request.HeadersSound h.correlationId ↔ h.Clear platform credential) := by
  obtain ⟨params, hparams⟩ := Grant.exists_toParameters hg
  have hrequest := buildRequest_parts platform (some h) hu hparams
    (Grant.nodup_names_toParameters hg hparams) hc
  refine ⟨_, hrequest, contentType_requestHeaders, ?_⟩
  have hcontentType : HeaderName.contentType ∈ (requestHeaders platform (some h) credential).names :=
    mem_names_requestHeaders.mpr (.inl (.inl rfl))
  have hcorrelationId : HeaderName.correlationId ∈ (requestHeaders platform (some h) credential).names :=
    RequestHeaders.mem_names_iff.mpr (.inl RequestHeaders.correlationId_mem_ownNames)
  constructor
  · rintro ⟨hdistinct, -, hid⟩
    obtain ⟨hamong, hspelled⟩ := (RequestHeaders.caseDistinct_requestHeaders_iff hextra).mp hdistinct
    exact ⟨hamong, hspelled, (RequestHeaders.get?_correlationId_iff hextra).mp
      ((Fields.carries_iff hdistinct hcorrelationId).mp hid)⟩
  · rintro ⟨hamong, hspelled, hid⟩
    have hdistinct : (requestHeaders platform (some h) credential).CaseDistinct :=
      (RequestHeaders.caseDistinct_requestHeaders_iff hextra).mpr ⟨hamong, hspelled⟩
    exact ⟨hdistinct, (Fields.carries_iff hdistinct hcontentType).mpr contentType_requestHeaders,
      (Fields.carries_iff hdistinct hcorrelationId).mpr
        ((RequestHeaders.get?_correlationId_iff hextra).mpr hid)⟩

/-- An extra content type in another spelling stands beside the request's own. -/
theorem headersSound_iff_clear_two_spellings :
    let authority : Authority := { canonicalUrl := "https://h/t" }
    let grant : Grant := { flow := .refreshToken "RT" }
    let h : RequestHeaders := { correlationId := "id-1", extra := [("content-type", "text/plain")] }
    ∃ request, buildRequest "Linux" authority grant (some h) none = .ok request ∧
      request.headers.get? HeaderName.contentType = some Request.contentType ∧
      ¬ request.HeadersSound "id-1" := by
  intro authority grant h
  have hu : checkEndpoint authority.tokenEndpointUrl = .ok "https://h/t/oauth2/v2.0/token" := by
    show checkEndpoint (some "https://h/t/oauth2/v2.0/token") = _
    rfl
  have hg : grant.flow.isBuiltIn = true := rfl
  have hc : Credential.NoneCustom none := fun c hc => by cases hc
  obtain ⟨request, hrequest, hcontentType, hiff⟩ :=
    headersSound_iff_clear "Linux" h hu hg hc (by decide)
  refine ⟨request, hrequest, hcontentType, fun hsound => ?_⟩
  have hspelled := (hiff.mp hsound).spelled "content-type" List.mem_cons_self HeaderName.contentType
    (by decide) (by decide +kernel)
  exact absurd hspelled (by decide)

end TokenEndpoint
