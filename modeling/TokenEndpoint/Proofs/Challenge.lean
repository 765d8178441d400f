import TokenEndpoint.Proofs.ErrorBodies
import TokenEndpoint.Proofs.RequestContents
/-!
The way of a claims challenge: from the body of a refusal to the caller, and from there with the next
grant into the body of the next request. The challenge is a text, mostly JSON in itself; it must arrive
as it was sent. JSON may escape half of a surrogate pair, and a form has no octets for that. Main statement:

* `challenge_survives_iff` -- the caller gets every challenge as it was sent; it arrives in the next request,
  and changes no other parameter there, exactly if it has no lone surrogate.
-/

namespace TokenEndpoint

/-! ## 1. From the body to the caller -/

/-- The challenge of a refusal at status 400 is the text of the member `claims`. -/
theorem exists_classify_challenge {room : Nat} {r : Response} {members : JsonObject} {challenge : Text}
    (hs : r.status = Response.badRequest) (hread : Json.read room r.body = .ok (.object members))
    (herror : Json.member? members "error" = some (.ofString ErrorCode.interactionRequired.name))
    (hclaims : Json.member? members "claims" = some (.string challenge)) :
    ∃ refusal, r.classify room = .error (.refused refusal) ∧
      refusal.kind = .interactionRequired (some challenge) := by
  have hdetails : ErrorDetails.ofResponse room r = .ok (ErrorDetails.ofMembers r members) := by
    rw [ErrorDetails.ofResponse, ErrorDetails.membersOf_of_read hread]
    rfl
  have hcode : (ErrorDetails.ofMembers r members).code = ErrorCode.interactionRequired.name := by
    show (Json.member members "error").text?.getD [] = _
    rw [Json.member, herror]
    rfl
  have htext : (ErrorDetails.ofMembers r members).claims = some challenge := by
    show ErrorDetails.claimsText (Json.member members "claims") = _
    rw [Json.member, hclaims]
    rfl
  have hne : r.status ≠ Response.success := by
    rw [hs]
    decide
  refine ⟨_, classify_of_ne_success hne hdetails, ?_⟩
  unfold ErrorDetails.classify
  dsimp only
  rw [if_neg (by rw [hcode]; decide), if_pos ⟨hs, hcode⟩]
  exact congrArg RefusalKind.interactionRequired htext

/-! ## 2. From the caller into the grant -/

/-- No flow of this library has a parameter for the challenge. -/
theorem Flow.claims_not_mem_names : ∀ names ∈ nameLists, "claims" ∉ names := by decide

namespace Grant

theorem not_mem_names_setGiven {name other : String} {params : Parameters}
    (h : other ∉ params.names) (hne : other ≠ name) (value : String) :
    other ∉ (setGiven params name value).names := by
  unfold setGiven
  split
  · exact h
  · exact Fields.not_mem_names_set h hne [value]

/-- A challenge comes last among the parameters of a grant; the others are those of the grant without
it. -/
theorem exists_toParameters_challenge {grant : Grant} (h : grant.flow.isBuiltIn = true) :
    ∃ others : Parameters, "claims" ∉ others.names ∧
      { grant with claims := none }.toParameters = .ok others ∧
      ∀ challenge, challenge ≠ "" → { grant with claims := some challenge }.toParameters =
        .ok (others ++ [("claims", [challenge])]) := by
  obtain ⟨params, hparams, hnames, -⟩ := Flow.exists_parameters h
  have hno : "claims" ∉ params.names := Flow.claims_not_mem_names _ hnames
  have hothers : "claims" ∉ (setGiven params "scope" grant.scopeParameter).names :=
    not_mem_names_setGiven hno (by decide) grant.scopeParameter
  refine ⟨_, hothers, ?_, fun challenge hc => ?_⟩
  · exact toParameters_of_isBuiltIn (g := { grant with claims := none }) h hparams
  · rw [toParameters_of_isBuiltIn (g := { grant with claims := some challenge }) h hparams]
    show Except.ok (setGiven (setGiven params "scope" grant.scopeParameter) "claims" challenge) = _
    rw [setGiven_of_ne hc, Fields.set_of_not_mem hothers]

end Grant

/-! ## 3. From the grant into the request -/

/-- No credential of this library touches the challenge. -/
theorem Credential.claims_not_mem_given (credential : Option Credential) :
    "claims" ∉ Fields.names (Credential.given credential) :=
  have hall : ∀ names ∈ nameLists, "claims" ∉ names := by decide
  hall _ (names_given credential)

/-- A request with a challenge has it as it was given, and otherwise the parameters of the request
without it. -/
theorem exists_buildRequest_challenge (platform : String) (headers : Option RequestHeaders)
    {authority : Authority} {grant : Grant} {credential : Option Credential} {url challenge : String}
    (hu : checkEndpoint authority.tokenEndpointUrl = .ok url) (hg : grant.flow.isBuiltIn = true)
    (hcredential : Credential.NoneCustom credential) (hc : challenge ≠ "") :
    ∃ request plain : Request,
      buildRequest platform authority { grant with claims := some challenge } headers credential =
        .ok request ∧
      buildRequest platform authority { grant with claims := none } headers credential = .ok plain ∧
      request.parameters.get? "claims" = some [challenge] ∧
      request.parameters.without "claims" = plain.parameters := by
  obtain ⟨others, hno, hwithout, hwith⟩ := Grant.exists_toParameters_challenge hg
  obtain ⟨request, hrequest, hparameters⟩ :=
    exists_buildRequest platform headers hu (hwith challenge hc) hcredential
  obtain ⟨plain, hplain, hplainParameters⟩ :=
    exists_buildRequest platform headers hu hwithout hcredential
  have hgiven := Credential.claims_not_mem_given credential
  have hset : Fields.ofPairs (others ++ [("claims", [challenge])]) =
      (Fields.ofPairs others).set "claims" [challenge] := Fields.setAll_append [] others _
  refine ⟨request, plain, hrequest, hplain, ?_, ?_⟩
  · rw [hparameters, hset]
    refine Fields.get?_filter ?_ rfl
    rw [Fields.get?_setAll_of_not_mem hgiven, Fields.get?_set_self]
  · have hothers : (Fields.ofPairs others).without "claims" = Fields.ofPairs others := by
      rw [Fields.ofPairs, Fields.without_setAll, Fields.without_of_not_mem hno]
      rfl
    rw [hparameters, hplainParameters, hset, Fields.without_filter, Fields.without_setAll,
      Fields.without_set_self, hothers, Fields.without_of_not_mem hgiven]

/-! ## 4. Challenges with lone surrogates -/

/-- Whatever letters a challenge has, it comes last among the parameters of a grant. -/
theorem Grant.challengedParameters_eq {grant : Grant} (h : grant.flow.isBuiltIn = true)
    {others : Parameters} (hno : "claims" ∉ others.names)
    (hothers : { grant with claims := none }.toParameters = .ok others) {challenge : Text}
    (hc : challenge ≠ []) :
    grant.challengedParameters challenge = .ok (others.letters ++ [("claims", [challenge])]) := by
  have hempty : challenge.isEmpty = false := List.isEmpty_eq_false_iff.mpr hc
  have hnames : "claims" ∉ others.letters.names := by rwa [Parameters.names_letters]
  rw [challengedParameters, hothers, ok_bind, Flow.isWhole_of_isBuiltIn h, hempty,
    Fields.set_of_not_mem hnames]
  rfl

section Surrogates

variable (platform : String) (headers : Option RequestHeaders) {authority : Authority} {grant : Grant}
  {credential : Option Credential} {url : String} {challenge : Text}

/-- A challenge without lone surrogates is built as the string that it is. -/
theorem buildChallenged_ofString (authority : Authority) (credential : Option Credential)
    (hg : grant.flow.isBuiltIn = true) {s : String} (hs : s ≠ "") :
    buildChallenged platform authority grant (.ofString s) headers credential =
      buildRequest platform authority { grant with claims := some s } headers credential := by
  obtain ⟨others, hno, hwithout, hwith⟩ := Grant.exists_toParameters_challenge hg
  have hne : Text.ofString s ≠ [] := fun hnil => hs (Text.ofString_inj.mp hnil)
  have hletters : Parameters.letters (others ++ [("claims", [s])]) =
      others.letters ++ [("claims", [Text.ofString s])] := List.map_append
  rw [buildChallenged, buildRequest, Grant.challengedParameters_eq hg hno hwithout hne, hwith s hs,
    ← hletters]
  rfl

/-- A challenge between parameters of other names, each of which is named once. -/
theorem nodup_names_challenged {before after : Parameters} (hbefore : before.names.Nodup)
    (hafter : after.names.Nodup) (hapart : ∀ name ∈ after.names, name ∉ before.names)
    (hno : "claims" ∉ before.names) (hno' : "claims" ∉ after.names) (challenge : Text) :
    (Fields.names (before.letters ++ ("claims", [challenge]) :: after.letters)).Nodup := by
  have hnames : Fields.names (before.letters ++ ("claims", [challenge]) :: after.letters) =
      before.names ++ "claims" :: after.names := by
    rw [Fields.names, List.map_append, List.map_cons, ← Fields.names, ← Fields.names,
      Parameters.names_letters, Parameters.names_letters]
  rw [hnames, List.perm_middle.nodup_iff, List.nodup_cons, List.mem_append, not_or]
  refine ⟨⟨hno, hno'⟩, List.nodup_append.mpr ⟨hbefore, hafter, ?_⟩⟩
  rintro name hname other hother rfl
  exact hapart name hother hname

/-- A challenge that holds a lone surrogate keeps the request from being built, and is named with its
fault. -/
theorem buildChallenged_of_foreign (hu : checkEndpoint authority.tokenEndpointUrl = .ok url)
    (hg : grant.flow.isBuiltIn = true) (hcredential : Credential.NoneCustom credential)
    {fault : EncodeFault} (hc : challenge.plain = .error fault) :
    buildChallenged platform authority grant challenge headers credential =
      .error (.unencodable fault) := by
  have hne : challenge ≠ [] := by
    rintro rfl
    cases hc
  obtain ⟨others, hno, hwithout, -⟩ := Grant.exists_toParameters_challenge hg
  have hbuiltIn : { grant with claims := none }.flow.isBuiltIn = true := hg
  -- the credential shares no name with the grant, so everything stays in its place
  have hdistinct := nodup_names_challenged (Grant.nodup_names_toParameters hbuiltIn hwithout)
    (Credential.nodup_names_given credential)
    (Grant.not_mem_names_of_given hbuiltIn hwithout credential) hno
    (Credential.claims_not_mem_given credential) challenge
  have hparameters : (Fields.ofPairs (others.letters ++ [("claims", [challenge])])).setAll
      (Credential.given credential).letters =
        others.letters ++ ("claims", [challenge]) :: (Credential.given credential).letters := by
    rw [Fields.ofPairs, ← Fields.setAll_append, List.append_assoc]
    exact Fields.ofPairs_of_nodup hdistinct
  rw [buildChallenged, Grant.challengedParameters_eq hg hno hwithout hne,
    buildDraft_eq platform headers hu _ hcredential, hparameters, ok_bind]
  exact Draft.freeze_of_foreign rfl hc

end Surrogates

/-! ## 5. All the way -/

/-- A challenge arrives: the request is built, the challenge is the one value of `claims`, and all other
parameters are those of the request without it. -/
def Arrives (built : Except Failure Request) (challenge : Text) (plain : Request) : Prop :=
  ∃ request, built = .ok request ∧ request.parameters.letters.get? "claims" = some [challenge] ∧
    request.parameters.without "claims" = plain.parameters

/-- **A claims challenge survives from the body of a refusal into the next request exactly if it has no lone
surrogate.** A body at status 400 that requires interaction gives its text to the caller as it is, whatever
letters it has. With any grant and credential of this library, at any accepted endpoint and with any
headers, the body of the next request has that text as the one value of `claims`, while all its other
parameters are those of the request without a challenge; but for a text with a lone surrogate no request is
built, and the failure names the first of them. -/
theorem challenge_survives_iff (room : Nat) (r : Response) (members : JsonObject) (challenge : Text)
    (hs : r.status = Response.badRequest) (hread : Json.read room r.body = .ok (.object members))
    (herror : Json.member? members "error" = some (.ofString ErrorCode.interactionRequired.name))
    (hclaims : Json.member? members "claims" = some (.string challenge)) (hc : challenge ≠ []) :
    (∃ refusal, r.classify room = .error (.refused refusal) ∧
      refusal.kind = .interactionRequired (some challenge)) ∧
    ∀ (platform : String) (authority : Authority) (grant : Grant) (headers : Option RequestHeaders)
      (credential : Option Credential) (url : String),
      checkEndpoint authority.tokenEndpointUrl = .ok url → grant.flow.isBuiltIn = true →
      Credential.NoneCustom credential →
      let built := buildChallenged platform authority grant challenge headers credential
      ∃ plain, buildRequest platform authority { grant with claims := none } headers credential =
          .ok plain ∧
        (Arrives built challenge plain ↔ ∀ n, Letter.lone n ∉ challenge) ∧
        (∀ s, challenge = .ofString s →
          built = buildRequest platform authority { grant with claims := some s } headers credential) ∧
        ((∃ n, Letter.lone n ∈ challenge) → ∃ fault, built = .error (.unencodable fault) ∧
          Text.FirstForeign (fun _ => true) 0 challenge fault) := by
  refine ⟨exists_classify_challenge hs hread herror hclaims, ?_⟩
  intro platform authority grant headers credential url hu hg hcredential built
  have hstring {s : String} (h : challenge = .ofString s) : s ≠ "" := by
    rintro rfl
    exact hc h
  obtain ⟨plain, hplain⟩ : ∃ plain, buildRequest platform authority { grant with claims := none } headers
      credential = .ok plain := exists_buildRequest_of_builtIn hg hcredential hu
  have hsame (s : String) (h : challenge = .ofString s) :
      built = buildRequest platform authority { grant with claims := some s } headers credential := by
    subst h
    exact buildChallenged_ofString platform headers authority credential hg (hstring rfl)
  have hfails {fault : EncodeFault} (h : challenge.plain = .error fault) :
      built = .error (.unencodable fault) :=
    buildChallenged_of_foreign platform headers hu hg hcredential h
  refine ⟨plain, hplain, ⟨?_, fun hnone => ?_⟩, hsame, fun hlone => ?_⟩
  · rintro ⟨request, hbuilt, -⟩
    rw [← Text.exists_plain_iff]
    cases hplainText : challenge.plain with
    | ok s => exact ⟨s, rfl⟩
    | error fault => cases hbuilt.symm.trans (hfails hplainText)
  · obtain ⟨s, hplainText⟩ := Text.exists_plain_iff.mpr hnone
    have hs := Text.plain_eq_ok_iff.mp hplainText
    obtain ⟨request, plain', hrequest, hplain', hget, hothers⟩ :=
      exists_buildRequest_challenge platform headers hu hg hcredential (hstring hs)
    cases hplain.symm.trans hplain'
    refine ⟨request, (hsame s hs).trans hrequest, ?_, hothers⟩
    rw [Parameters.get?_letters, hget, hs]
    rfl
  · cases hplainText : challenge.plain with
    | error fault =>
      exact ⟨fault, hfails hplainText, Text.firstForeign_of_charsOf (map_eq_error.mp hplainText)⟩
    | ok s =>
      obtain ⟨n, hn⟩ := hlone
      exact absurd hn (Text.exists_plain_iff.mp ⟨s, hplainText⟩ n)

/-- A challenge that is JSON, with an escaped letter and all that a form has to escape, arrives; one that is
half of a surrogate pair reaches the caller, and no request can be built with it. -/
theorem challenge_survives_iff_lone :
    let nested := "\x7b\"acrs\": \"\u00e9&=+%20\"\x7d"
    let asks : Response :=
      { status := 400
        body := "\x7b\"error\": \"interaction_required\", " ++
          "\"claims\": \"\x7b\\\"acrs\\\": \\\"\\u00e9&=+%20\\\"\x7d\"\x7d" }
    let half : Response :=
      { status := 400, body := "\x7b\"error\":\"interaction_required\",\"claims\":\"\\ud800\"\x7d" }
    let authority : Authority := { canonicalUrl := "https://h/t" }
    let grant : Grant := { flow := .refreshToken "RT", scopes := ["mail"], claims := some nested }
    let credential := Credential.secretPost "app" "s"
    (∃ refusal, asks.classify 980 = .error (.refused refusal) ∧
      refusal.kind = .interactionRequired (some (.ofString nested))) ∧
    (∃ request, buildRequest "linux" authority grant none (some credential) = .ok request ∧
      request.parameters.letters.get? "claims" = some [.ofString nested]) ∧
    (∃ refusal, half.classify 980 = .error (.refused refusal) ∧
      refusal.kind = .interactionRequired (some [.lone 0])) ∧
    ∃ fault, buildChallenged "linux" authority grant [.lone 0] none (some credential) =
        .error (.unencodable fault) ∧
      Text.FirstForeign (fun _ => true) 0 [.lone 0] fault := by
  intro nested asks half authority grant credential
  have hread : Json.read 980
      ("\x7b\"error\": \"interaction_required\", " ++
        "\"claims\": \"\x7b\\\"acrs\\\": \\\"\\u00e9&=+%20\\\"\x7d\"\x7d") =
      .ok (.object
        [(.ofString "error", .ofString "interaction_required"),
          (.ofString "claims", .ofString "\x7b\"acrs\": \"\u00e9&=+%20\"\x7d")]) := rfl
  have hreadHalf : Json.read 980
      "\x7b\"error\":\"interaction_required\",\"claims\":\"\\ud800\"\x7d" =
      .ok (.object
        [(.ofString "error", .ofString "interaction_required"), (.ofString "claims", .string [.lone 0])]) :=
    rfl
  have hu : checkEndpoint (some "https://h/t/oauth2/v2.0/token") =
      .ok "https://h/t/oauth2/v2.0/token" := rfl
  have hcredential : Credential.NoneCustom (some credential) := by
    intro c hc
    cases hc
    rfl
  obtain ⟨hrefusal, hnext⟩ :=
    challenge_survives_iff 980 asks _ (.ofString nested) rfl hread rfl rfl (by decide)
  obtain ⟨plain, -, harrives, hsame, -⟩ :=
    hnext "linux" authority grant none (some credential) _ hu rfl hcredential
  obtain ⟨request, hrequest, hclaims, -⟩ :=
    harrives.mpr (Text.exists_plain_iff.mp ⟨nested, Text.plain_eq_ok_iff.mpr rfl⟩)
  obtain ⟨hrefusalHalf, hnextHalf⟩ :=
    challenge_survives_iff 980 half _ [.lone 0] rfl hreadHalf rfl rfl (by decide)
  obtain ⟨-, -, -, -, hlone⟩ :=
    hnextHalf "linux" authority grant none (some credential) _ hu rfl hcredential
  exact ⟨hrefusal, ⟨request, (hsame nested rfl).symm.trans hrequest, hclaims⟩, hrefusalHalf,
    hlone ⟨0, List.mem_singleton.mpr rfl⟩⟩

end TokenEndpoint
