import TokenEndpoint.Proofs.Parameters
/-!
What a built request contains. The parameters of the grant come first, in the grant's order; the
credential comes over them and the content type over the static headers, where a name that is set already
keeps its place. Main statements:

* `setAll_eq_overlaid` -- fields that are set over others, as one expression;
* `buildRequest_contents` -- the URL, the headers and the parameters of a built request.
-/

namespace TokenEndpoint

/-! ## 1. Fields over others -/

namespace Fields

variable {κ α : Type} [DecidableEq κ]

/-- Fields over others. A name that both have keeps its place below and has the value from above; the
names that are only above come after them, in order. -/
def overlaid (below above : Fields κ α) : Fields κ α :=
  below.map (fun field => (field.1, (above.get? field.1).getD field.2)) ++
    above.filter fun field => decide (field.1 ∉ below.names)

theorem overlaid_nil (below : Fields κ α) : below.overlaid [] = below := by
  rw [overlaid, List.filter_nil, List.append_nil]
  exact List.map_id below

/-- Where each name stands once, setting one that is there changes its value alone. -/
theorem set_of_mem {name : κ} {fields : Fields κ α} (hdistinct : fields.names.Nodup)
    (h : name ∈ fields.names) (value : α) :
    fields.set name value =
      fields.map fun field => (field.1, if field.1 = name then value else field.2) := by
  induction fields with
  | nil => cases h
  | cons field rest ih =>
    obtain ⟨k, v⟩ := field
    obtain ⟨hk, hrest⟩ := List.nodup_cons.mp hdistinct
    by_cases hname : k = name
    · subst hname
      have hothers : rest.map (fun field => (field.1, if field.1 = k then value else field.2)) = rest := by
        refine (List.map_congr_left fun field hfield => ?_).trans (List.map_id rest)
        rw [if_neg (ne_of_not_mem_names hk hfield)]
        rfl
      rw [set, if_pos rfl, List.map_cons, if_pos rfl, hothers]
    · have hmem : name ∈ names rest := (List.mem_cons.mp h).resolve_left (Ne.symm hname)
      rw [set, if_neg hname, List.map_cons, if_neg hname, ih hrest hmem]

/-- Fields over others with which they share no name come after them. -/
theorem overlaid_of_disjoint {below above : Fields κ α}
    (h : ∀ name ∈ above.names, name ∉ below.names) : below.overlaid above = below ++ above := by
  have hbelow : below.map (fun field => (field.1, (above.get? field.1).getD field.2)) = below := by
    refine (List.map_congr_left fun field hfield => ?_).trans (List.map_id below)
    have hnone : field.1 ∉ above.names := fun hmem => h _ hmem (List.mem_map_of_mem hfield)
    rw [get?_of_not_mem hnone]
    rfl
  have habove : above.filter (fun field => decide (field.1 ∉ below.names)) = above :=
    List.filter_eq_self.mpr fun field hfield => decide_eq_true (h _ (List.mem_map_of_mem hfield))
  rw [overlaid, hbelow, habove]

section Over

variable {below rest : Fields κ α} {name : κ} (hname : name ∉ rest.names) (value : α)

include hname

/-- A field over others that have its name changes the value there. -/
theorem overlaid_cons_of_mem (hdistinct : below.names.Nodup) (hmem : name ∈ below.names) :
    below.overlaid ((name, value) :: rest) = (below.set name value).overlaid rest := by
  have hnames : (below.set name value).names = below.names := by rw [names_set, if_pos hmem]
  have hdrop : ((name, value) :: rest).filter (fun field => decide (field.1 ∉ below.names)) =
      rest.filter fun field => decide (field.1 ∉ below.names) :=
    List.filter_cons_of_neg (by simpa using hmem)
  rw [overlaid, overlaid, hnames, hdrop, set_of_mem hdistinct hmem, List.map_map]
  refine congrArg (· ++ _) (List.map_congr_left fun field _ => ?_)
  rw [Function.comp_apply]
  by_cases hfield : field.1 = name
  · rw [hfield, get?, if_pos rfl, if_pos rfl, get?_of_not_mem hname]
    rfl
  · rw [get?, if_neg (Ne.symm hfield), if_neg hfield]

/-- A field over others that do not comes after them. -/
theorem overlaid_cons_of_not_mem (hnew : name ∉ below.names) :
    below.overlaid ((name, value) :: rest) = (below ++ [(name, value)]).overlaid rest := by
  have hvalues : below.map (fun field => (field.1, (get? field.1 ((name, value) :: rest)).getD field.2)) =
      below.map fun field => (field.1, (rest.get? field.1).getD field.2) := by
    refine List.map_congr_left fun field hfield => ?_
    rw [get?, if_neg (Ne.symm (ne_of_not_mem_names hnew hfield))]
  have hfirst : ((name, value) :: rest).filter (fun field => decide (field.1 ∉ below.names)) =
      (name, value) :: rest.filter fun field => decide (field.1 ∉ below.names) :=
    List.filter_cons_of_pos (decide_eq_true hnew)
  have hothers : rest.filter (fun field => decide (field.1 ∉ names (below ++ [(name, value)]))) =
      rest.filter fun field => decide (field.1 ∉ below.names) := by
    have hnames : names (below ++ [(name, value)]) = below.names ++ [name] := List.map_append
    refine List.filter_congr fun field hfield => decide_eq_decide.mpr (not_congr ?_)
    rw [hnames, List.mem_append, List.mem_singleton, or_iff_left (ne_of_not_mem_names hname hfield)]
  rw [overlaid, hvalues, hfirst, overlaid, hothers, List.map_append, List.map_singleton,
    get?_of_not_mem hname, List.append_assoc]
  rfl

end Over

/-- **Fields that are set over others**, in turn, where each name stands once on either side. -/
theorem setAll_eq_overlaid {below above : Fields κ α} (hbelow : below.names.Nodup)
    (habove : above.names.Nodup) : below.setAll above = below.overlaid above := by
  induction above generalizing below with
  | nil => exact (overlaid_nil below).symm
  | cons field rest ih =>
    obtain ⟨name, value⟩ := field
    obtain ⟨hname, hrest⟩ := List.nodup_cons.mp habove
    rw [setAll_cons, ih (nodup_names_set hbelow name value) hrest]
    by_cases hmem : name ∈ below.names
    · rw [overlaid_cons_of_mem hname value hbelow hmem]
    · rw [overlaid_cons_of_not_mem hname value hmem, set_of_not_mem hmem]

end Fields

/-! ## 2. The parameters of grants and credentials of this library -/

/-- A parameter has a value, and a name that no credential of this library sets. -/
def Grant.Sends (field : String × List String) : Prop :=
  field.2 ≠ [] ∧ ∀ names ∈ Credential.nameLists, field.1 ∉ names

theorem Flow.sends_of_names {params : Parameters} (hnames : params.names ∈ nameLists)
    (hvalues : ∀ field ∈ params, field.2 ≠ []) : ∀ field ∈ params, Grant.Sends field := by
  have hapart : ∀ own ∈ nameLists, ∀ name ∈ own, ∀ names ∈ Credential.nameLists, name ∉ names := by
    decide
  exact fun field hfield => ⟨hvalues field hfield, hapart _ hnames _ (List.mem_map_of_mem hfield)⟩

theorem Flow.nodup_of_mem_nameLists : ∀ names ∈ nameLists, names.Nodup := by decide

namespace Grant

theorem sends_setGiven {params : Parameters} (h : ∀ field ∈ params, Sends field) {name value : String}
    (hnew : Sends (name, [value])) : ∀ field ∈ setGiven params name value, Sends field := by
  intro field hfield
  unfold setGiven at hfield
  split at hfield
  · exact h field hfield
  · rcases Fields.mem_of_mem_set hfield with rfl | hold
    · exact hnew
    · exact h field hold

theorem nodup_names_setGiven {params : Parameters} (h : params.names.Nodup) (name value : String) :
    (setGiven params name value).names.Nodup := by
  unfold setGiven
  split
  · exact h
  · exact Fields.nodup_names_set h name [value]

section BuiltIn

variable {grant : Grant} (h : grant.flow.isBuiltIn = true) {params : Parameters}
  (hg : grant.toParameters = .ok params)

include h hg

/-- What a grant of this library returns is a mapping. -/
theorem nodup_names_toParameters : params.names.Nodup := by
  obtain ⟨own, hown, hnames, -⟩ := Flow.exists_parameters h
  rw [toParameters_of_isBuiltIn h hown] at hg
  cases hg
  have hdistinct : own.names.Nodup := Flow.nodup_of_mem_nameLists _ hnames
  exact nodup_names_setGiven (nodup_names_setGiven hdistinct _ _) _ _

/-- Every parameter of a grant of this library has a value and a name of its own. -/
theorem sends_toParameters : ∀ field ∈ params, Sends field := by
  obtain ⟨own, hown, hnames, hvalues⟩ := Flow.exists_parameters h
  rw [toParameters_of_isBuiltIn h hown] at hg
  cases hg
  have hadds {name value : String} (hname : ∀ names ∈ Credential.nameLists, name ∉ names) :
      Sends (name, [value]) := ⟨List.cons_ne_nil value [], hname⟩
  exact sends_setGiven (sends_setGiven (Flow.sends_of_names hnames hvalues) (hadds (by decide)))
    (hadds (by decide))

variable (credential : Option Credential)

/-- No credential of this library sets a name that a grant of this library has. -/
theorem not_mem_names_of_given :
    ∀ name ∈ (Credential.given credential).names, name ∉ params.names := by
  intro name hname hmem
  obtain ⟨field, hfield, rfl⟩ := List.mem_map.mp hmem
  exact (sends_toParameters h hg field hfield).2 _ (Credential.names_given credential) hname

theorem filter_append_given :
    (params ++ Credential.given credential).filter (fun field => !field.2.isEmpty) =
      params ++ Credential.given credential := by
  refine List.filter_eq_self.mpr fun field hfield => ?_
  have hvalue : field.2 ≠ [] := by
    rcases List.mem_append.mp hfield with hgrant | hcredential
    · exact (sends_toParameters h hg field hgrant).1
    · exact Credential.ne_nil_of_mem_given field hcredential
  rwa [Bool.not_eq_true', List.isEmpty_eq_false_iff]

end BuiltIn

end Grant

/-! ## 3. The headers -/

/-- The static headers; none if none are given. -/
def RequestHeaders.given (platform : String) : Option RequestHeaders → Fields String String
  | some h => h.fields platform
  | none => []

/-- Each static header stands once. -/
theorem RequestHeaders.nodup_names_fields (h : RequestHeaders) (platform : String) :
    (h.fields platform).names.Nodup := by
  refine Fields.nodup_names_setAll ?_ h.extra
  split
  · show [HeaderName.sku, HeaderName.version, HeaderName.os, HeaderName.correlationId,
      HeaderName.returnCorrelationId].Nodup
    decide
  · show [HeaderName.sku, HeaderName.version, HeaderName.os, HeaderName.correlationId].Nodup
    decide

/-- Without extra headers the static ones name the correlation id. -/
theorem RequestHeaders.get?_correlationId {h : RequestHeaders} (hextra : h.extra = [])
    (platform : String) : (h.fields platform).get? HeaderName.correlationId = some h.correlationId := by
  rw [fields, hextra]
  cases h.settings.returnCorrelationId <;> rfl

theorem Draft.ofHeaders_headers (url platform : String) (headers : Option RequestHeaders) :
    (ofHeaders url platform headers).headers =
      (RequestHeaders.given platform headers).set HeaderName.contentType Request.contentType := by
  cases headers with
  | none => rfl
  | some h =>
    have hfields : Fields.setAll [] (h.fields platform) = h.fields platform :=
      Fields.ofPairs_of_nodup (h.nodup_names_fields platform)
    exact congrArg (Fields.set HeaderName.contentType Request.contentType) hfields

/-- Headers with a credential: a client that proves its secret in a header has it there. -/
def Credential.authorized (headers : Fields String String) : Option Credential → Fields String String
  | some (secretBasic clientId clientSecret) =>
    headers.set HeaderName.authorization (basicHeader clientId clientSecret)
  | _ => headers

theorem Credential.setAll_givenHeaders (headers : Fields String String)
    (credential : Option Credential) :
    headers.setAll (givenHeaders credential) = authorized headers credential := by
  cases credential with
  | none => rfl
  | some c => cases c <;> rfl

/-- The headers of a request: the content type over the static headers, and the credential over both. -/
def requestHeaders (platform : String) (headers : Option RequestHeaders)
    (credential : Option Credential) : Fields String String :=
  Credential.authorized
    ((RequestHeaders.given platform headers).set HeaderName.contentType Request.contentType) credential

/-! ## 4. Requests -/

section Requests

variable (platform : String) (headers : Option RequestHeaders) {authority : Authority} {grant : Grant}
  {credential : Option Credential} {url : String} {params : Parameters}

/-- A request by its parts: what the credential sets stands over the parameters of the grant. -/
theorem buildRequest_parts (hu : checkEndpoint authority.tokenEndpointUrl = .ok url)
    (hg : grant.toParameters = .ok params) (hdistinct : params.names.Nodup)
    (hc : Credential.NoneCustom credential) :
    buildRequest platform authority grant headers credential =
      .ok {
        url
        headers := requestHeaders platform headers credential
        body := Form.encodePairs (Parameters.pairs (params.overlaid (Credential.given credential))) } := by
  rw [buildRequest_eq platform headers hu hg hc, Draft.ofHeaders_headers, Credential.setAll_givenHeaders,
    Fields.ofPairs_of_nodup hdistinct,
    Fields.setAll_eq_overlaid hdistinct (Credential.nodup_names_given credential)]
  rfl

/-- **What a built request contains.** The parameters are those of the grant with those of the credential
over them, names without a value left out; the URL is the endpoint; the headers are the static ones with
the content type and, if the client proves its secret in a header, that header. A grant of this library
shares no name with a credential, so all its parameters are sent as they are; of a user's grant it is asked that it
returns a mapping. -/
theorem buildRequest_contents (hu : checkEndpoint authority.tokenEndpointUrl = .ok url)
    (hg : grant.toParameters = .ok params)
    (hmapping : grant.flow.isBuiltIn = false → params.names.Nodup)
    (hc : Credential.NoneCustom credential) :
    ∃ request, buildRequest platform authority grant headers credential = .ok request ∧
      request.parameters =
        (params.overlaid (Credential.given credential)).filter (fun field => !field.2.isEmpty) ∧
      authority.tokenEndpointUrl = some request.url ∧
      request.headers = requestHeaders platform headers credential ∧
      (grant.flow.isBuiltIn = true →
        (∀ name ∈ (Credential.given credential).names, name ∉ params.names) ∧
          request.parameters = params ++ Credential.given credential) := by
  have hdistinct : params.names.Nodup := by
    cases hbuiltIn : grant.flow.isBuiltIn with
    | false => exact hmapping hbuiltIn
    | true => exact Grant.nodup_names_toParameters hbuiltIn hg
  have hoverlaid : (params.overlaid (Credential.given credential)).names.Nodup := by
    rw [← Fields.setAll_eq_overlaid hdistinct (Credential.nodup_names_given credential)]
    exact Fields.nodup_names_setAll hdistinct _
  have hparameters := Draft.parameters_encode hoverlaid url (requestHeaders platform headers credential)
  refine ⟨_, buildRequest_parts platform headers hu hg hdistinct hc, hparameters,
    (checkEndpoint_eq_ok hu).1, rfl, ?_⟩
  intro hbuiltIn
  have hdisjoint := Grant.not_mem_names_of_given hbuiltIn hg credential
  refine ⟨hdisjoint, hparameters.trans ?_⟩
  show (params.overlaid (Credential.given credential)).filter (fun field => !field.2.isEmpty) = _
  rw [Fields.overlaid_of_disjoint hdisjoint, Grant.filter_append_given hbuiltIn hg]

/-- A user's grant names the client itself, and a parameter without a value; the static headers have a
content type of their own. -/
theorem buildRequest_contents_overriding :
    let authority : Authority := { canonicalUrl := "https://h/t" }
    let params : Parameters := [("client_id", ["a", "b"]), ("none", []), ("grant_type", ["x"])]
    let headers : RequestHeaders :=
      { correlationId := "id-1", extra := [("Content-Type", "text/plain"), ("x-app", "demo")] }
    ∃ request,
      buildRequest "Linux" authority { flow := .whole (.ok params) } (some headers)
        (some (.secretPost "app" "s")) = .ok request ∧
      request.parameters = [("client_id", ["app"]), ("grant_type", ["x"]), ("client_secret", ["s"])] ∧
      request.url = "https://h/t/oauth2/v2.0/token" ∧
      request.headers.drop 4 = [(HeaderName.returnCorrelationId, "true"),
        (HeaderName.contentType, Request.contentType), ("x-app", "demo")] := by
  intro authority params headers
  have hu : checkEndpoint authority.tokenEndpointUrl = .ok "https://h/t/oauth2/v2.0/token" := by
    show checkEndpoint (some "https://h/t/oauth2/v2.0/token") = _
    rfl
  have hg : ({ flow := .whole (.ok params) } : Grant).toParameters = .ok params := rfl
  have hc : Credential.NoneCustom (some (.secretPost "app" "s")) := by
    intro c hc
    cases hc
    rfl
  obtain ⟨request, hrequest, hparameters, hurl, hheaders, -⟩ :=
    buildRequest_contents "Linux" (some headers) hu hg (fun _ => by decide) hc
  refine ⟨request, hrequest, hparameters.trans rfl, (Option.some.inj hurl).symm, ?_⟩
  rw [hheaders]
  rfl

end Requests

end TokenEndpoint
