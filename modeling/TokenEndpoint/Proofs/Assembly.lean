import TokenEndpoint.Proofs.Accounts
import TokenEndpoint.Proofs.IdTokens
import TokenEndpoint.Result
/-!
When a result can be assembled, and what stands in it. An ID token that is there has to be decodable,
with client info or without it; an account is built if both are there, and then it has to come about;
client info alone is not looked at. Either may also be nested too deep to be read. Main statements:

* `exists_accountOf_iff`, `accountOf_eq_some_iff` -- when an account can be told, and which one it is;
* `assembled_or_refused_iff` -- a result is assembled exactly if the ID token and the account allow it,
  and is made of payload, time and authority (`MadeOf`); else there is a transport fault exactly if nothing
  that is read for the account is nested too deep.
-/

namespace TokenEndpoint

/-! ## 1. Policies -/

namespace IssuerVariant

/-- The variants that there are: the plain one, and a partition by a policy that is not empty. -/
def Made (v : IssuerVariant) : Prop :=
  v = .plain ∨ ∃ policy, partitioned policy = .ok v

theorem Made.policyTag_ne {v : IssuerVariant} (h : v.Made) : v.policyTag ≠ some "" := by
  rcases h with rfl | ⟨policy, h⟩
  · exact nofun
  · unfold partitioned at h
    split at h
    · cases h
    · next hne =>
      cases h
      rintro ⟨⟩
      exact hne rfl

end IssuerVariant

/-- A text that is not empty counts as given. -/
theorem Json.isGiven_ofString {s : String} (h : s ≠ "") : (ofString s).isGiven = true := by
  have hne : (Text.ofString s).isEmpty = false := by
    rw [Text.ofString, List.isEmpty_map, List.isEmpty_eq_false_iff]
    exact fun hnil => h (String.toList_eq_nil_iff.mp hnil)
  rw [ofString, isGiven, hne]
  rfl

/-- A tag that is not empty is kept, and a missing one is null. -/
theorem Json.orElse_ofOption {tag : Option String} (h : tag ≠ some "") :
    (ofOption tag).orElse .null = ofOption tag := by
  cases tag with
  | none => rfl
  | some s =>
    have hne : s ≠ "" := fun hs => h (congrArg some hs)
    rw [ofOption, orElse, if_pos (isGiven_ofString hne)]

/-! ## 2. Accounts -/

/-- An account that is built has the environment and the policy that it is built with. -/
theorem Account.build_eq_ok {room : Nat} {blob : Text} {claims : Claims} {environment policyTag : Json}
    {account : Account} (h : build room blob claims environment policyTag = .ok account) :
    account.environment = environment ∧ account.policy = policyTag.orElse .null := by
  obtain ⟨info, -, -, rfl⟩ := build_eq_ok_iff.mp h
  exact ⟨rfl, rfl⟩

namespace Result

/-- The text is there, and it is not empty. -/
def Given (text : Option Text) (t : Text) : Prop :=
  text = some t ∧ t ≠ []

theorem given?_eq_some_iff {text : Option Text} {t : Text} : given? text = some t ↔ Given text t := by
  rw [given?, Option.bind_eq_some_iff]
  constructor
  · rintro ⟨found, rfl, h⟩
    split at h
    · cases h
    · next hne =>
      cases h
      exact ⟨rfl, fun hnil => hne (List.isEmpty_iff.mpr hnil)⟩
  · rintro ⟨rfl, hne⟩
    exact ⟨t, rfl, if_neg fun h => hne (List.isEmpty_iff.mp h)⟩

theorem not_given_of_none {text : Option Text} (h : given? text = none) (t : Text) :
    ¬ Given text t := by
  rw [← given?_eq_some_iff, h]
  exact nofun

theorem Given.unique {text : Option Text} {s t : Text} (hs : Given text s) (ht : Given text t) :
    s = t :=
  Option.some.inj (hs.1.symm.trans ht.1)

/-- The ID token of a payload can be decoded, if there is one. -/
def TokenDecodes (room : Json.Room) (payload : Payload) : Prop :=
  ∀ token, Given payload.idToken token → ∃ claims, IdToken.decode room token = .ok claims

/-- The account that a payload with ID token and client info tells of. -/
def Tells (room : Json.Room) (payload : Payload) (environment : String) (policyTag : Option String)
    (account : Account) : Prop :=
  ∃ token blob claims, Given payload.idToken token ∧ Given payload.clientInfo blob ∧
    IdToken.decode room token = .ok claims ∧
    Account.build room.clientInfo blob claims (.ofString environment) (.ofOption policyTag) = .ok account

/-- If a payload has both an ID token and client info, an account can be built from them. -/
def AccountBuilds (room : Json.Room) (payload : Payload) (environment : String)
    (policyTag : Option String) : Prop :=
  ∀ token blob, Given payload.idToken token → Given payload.clientInfo blob →
    ∃ account, Tells room payload environment policyTag account

/-- Something that is read for the account is nested too deep: the payload of the ID token, or the client
info, which is read once the ID token has been decoded. -/
inductive GivenUp (room : Json.Room) (payload : Payload) : Prop where
  | token {token : Text} (given : Given payload.idToken token) (deep : IdToken.TooDeep room token)
  | info {token blob : Text} {claims : Claims} (given : Given payload.idToken token)
      (decoded : IdToken.decode room token = .ok claims) (there : Given payload.clientInfo blob)
      (deep : ClientInfo.TooDeep room.clientInfo blob)

section Accounts

variable {room : Json.Room} {payload : Payload} {environment : String} {policyTag : Option String}

/-- Without an ID token there is no account, whatever the client info is. -/
theorem accountOf_of_no_token (h : given? payload.idToken = none) :
    accountOf room payload environment policyTag = .ok none := by
  rw [accountOf, h]

theorem accountOf_of_undecodable {token : Text} {failure : Failure}
    (ht : given? payload.idToken = some token) (hd : IdToken.decode room token = .error failure) :
    accountOf room payload environment policyTag = .error failure := by
  rw [accountOf, ht]
  dsimp only
  rw [hd]
  rfl

/-- Without client info there is no account, once the ID token has been decoded. -/
theorem accountOf_of_no_info {token : Text} {claims : Claims}
    (ht : given? payload.idToken = some token) (hd : IdToken.decode room token = .ok claims)
    (hb : given? payload.clientInfo = none) :
    accountOf room payload environment policyTag = .ok none := by
  rw [accountOf, ht]
  dsimp only
  rw [hd, hb]
  rfl

theorem accountOf_of_both {token blob : Text} {claims : Claims}
    (ht : given? payload.idToken = some token) (hd : IdToken.decode room token = .ok claims)
    (hb : given? payload.clientInfo = some blob) :
    accountOf room payload environment policyTag =
      (Account.build room.clientInfo blob claims (.ofString environment) (.ofOption policyTag)).map
        some := by
  rw [accountOf, ht]
  dsimp only
  rw [hd, hb]
  rfl

/-- With both, the account that is told of is the one that is built. -/
theorem tells_iff_of_both {token blob : Text} {claims : Claims}
    (ht : given? payload.idToken = some token) (hd : IdToken.decode room token = .ok claims)
    (hb : given? payload.clientInfo = some blob) (account : Account) :
    Tells room payload environment policyTag account ↔
      Account.build room.clientInfo blob claims (.ofString environment) (.ofOption policyTag) =
        .ok account := by
  have hgiven := given?_eq_some_iff.mp ht
  have hinfo := given?_eq_some_iff.mp hb
  constructor
  · rintro ⟨token', blob', claims', ht', hb', hd', hbuilt⟩
    cases ht'.unique hgiven
    cases hb'.unique hinfo
    cases hd'.symm.trans hd
    exact hbuilt
  · exact fun hbuilt => ⟨token, blob, claims, hgiven, hinfo, hd, hbuilt⟩

/-- **An account can be told, or told to be missing**, exactly if an ID token that is there can be
decoded and an account can be built if client info is there too. -/
theorem exists_accountOf_iff :
    (∃ found, accountOf room payload environment policyTag = .ok found) ↔
      TokenDecodes room payload ∧ AccountBuilds room payload environment policyTag := by
  cases ht : given? payload.idToken with
  | none =>
    refine iff_of_true ⟨none, accountOf_of_no_token ht⟩ ⟨?_, ?_⟩
    · exact fun token htoken => absurd htoken (not_given_of_none ht token)
    · exact fun token blob htoken => absurd htoken (not_given_of_none ht token)
  | some token =>
    have hgiven : Given payload.idToken token := given?_eq_some_iff.mp ht
    cases hd : IdToken.decode room token with
    | error failure =>
      rw [accountOf_of_undecodable ht hd]
      refine iff_of_false (fun ⟨found, h⟩ => nomatch h) fun ⟨hdecodes, _⟩ => ?_
      obtain ⟨claims, hclaims⟩ := hdecodes token hgiven
      cases hd.symm.trans hclaims
    | ok claims =>
      have hdecodes : TokenDecodes room payload := by
        intro token' htoken
        cases htoken.unique hgiven
        exact ⟨claims, hd⟩
      cases hb : given? payload.clientInfo with
      | none =>
        refine iff_of_true ⟨none, accountOf_of_no_info ht hd hb⟩ ⟨hdecodes, ?_⟩
        exact fun _ blob _ hblob => absurd hblob (not_given_of_none hb blob)
      | some blob =>
        have htells (account : Account) : Tells room payload environment policyTag account ↔ _ :=
          tells_iff_of_both ht hd hb account
        rw [accountOf_of_both ht hd hb]
        constructor
        · rintro ⟨found, h⟩
          obtain ⟨account, hbuilt, -⟩ := map_eq_ok.mp h
          exact ⟨hdecodes, fun _ _ _ _ => ⟨account, (htells account).mpr hbuilt⟩⟩
        · rintro ⟨-, hbuilds⟩
          obtain ⟨account, hbuilt⟩ := hbuilds token blob hgiven (given?_eq_some_iff.mp hb)
          exact ⟨some account, map_eq_ok.mpr ⟨account, (htells account).mp hbuilt, rfl⟩⟩

/-- **The account that is found is the one that the payload tells of.** -/
theorem accountOf_eq_some_iff {found : Option Account}
    (h : accountOf room payload environment policyTag = .ok found) (account : Account) :
    found = some account ↔ Tells room payload environment policyTag account := by
  cases ht : given? payload.idToken with
  | none =>
    cases (accountOf_of_no_token ht).symm.trans h
    refine iff_of_false nofun ?_
    rintro ⟨token, -, -, htoken, -⟩
    exact not_given_of_none ht token htoken
  | some token =>
    cases hd : IdToken.decode room token with
    | error failure => cases (accountOf_of_undecodable ht hd).symm.trans h
    | ok claims =>
      cases hb : given? payload.clientInfo with
      | none =>
        cases (accountOf_of_no_info ht hd hb).symm.trans h
        refine iff_of_false nofun ?_
        rintro ⟨-, blob, -, -, hblob, -⟩
        exact not_given_of_none hb blob hblob
      | some blob =>
        rw [accountOf_of_both ht hd hb] at h
        obtain ⟨built, hbuilt, rfl⟩ := map_eq_ok.mp h
        rw [tells_iff_of_both ht hd hb, hbuilt, Option.some.injEq, Except.ok.injEq]

/-- An account is not told for a transport fault, or because something is nested too deep. -/
theorem of_accountOf_eq_error {failure : Failure}
    (h : accountOf room payload environment policyTag = .error failure) :
    (∃ fault, failure = .transport fault) ∨
      ∃ container, failure = .tooDeep container ∧ GivenUp room payload := by
  cases ht : given? payload.idToken with
  | none => cases (accountOf_of_no_token ht).symm.trans h
  | some token =>
    have hgiven := given?_eq_some_iff.mp ht
    rcases IdToken.decode_cases room token with ⟨claims, hd⟩ | ⟨fault, hd⟩ | ⟨container, hd, hdeep⟩
    · cases hb : given? payload.clientInfo with
      | none => cases (accountOf_of_no_info ht hd hb).symm.trans h
      | some blob =>
        rw [accountOf_of_both ht hd hb] at h
        rcases Account.of_build_eq_error (map_eq_error.mp h) with
          ⟨fault, rfl, -⟩ | ⟨container, rfl, hdeep⟩
        · exact .inl ⟨fault, rfl⟩
        · exact .inr ⟨container, rfl, .info hgiven hd (given?_eq_some_iff.mp hb) hdeep⟩
    · cases (accountOf_of_undecodable ht hd).symm.trans h
      exact .inl ⟨_, rfl⟩
    · cases (accountOf_of_undecodable ht hd).symm.trans h
      exact .inr ⟨container, rfl, .token hgiven hdeep⟩

theorem accountOf_of_givenUp (h : GivenUp room payload) :
    ∃ container, accountOf room payload environment policyTag = .error (.tooDeep container) := by
  cases h with
  | token given deep =>
    obtain ⟨container, hd⟩ := IdToken.decode_of_tooDeep deep
    exact ⟨container, accountOf_of_undecodable (given?_eq_some_iff.mpr given) hd⟩
  | info given decoded there deep =>
    obtain ⟨container, hinfo⟩ := ClientInfo.decode_of_tooDeep deep
    refine ⟨container, ?_⟩
    rw [accountOf_of_both (given?_eq_some_iff.mpr given) decoded (given?_eq_some_iff.mpr there),
      Account.build, hinfo]
    rfl

end Accounts

/-! ## 3. Results -/

/-- What a result is made of: the lifetimes of a payload counted from a time, the zero where there is no
extended lifetime, the account that the payload tells of, and the payload's texts as they are. -/
structure MadeOf (result : Result) (room : Json.Room) (payload : Payload) (now : Int) (host : String)
    (policyTag : Option String) : Prop where
  environment : result.environment = host
  expiresOn : result.expiresOn = now + payload.expiresIn
  extended : 0 < payload.extExpiresIn → result.extExpiresOn = now + payload.extExpiresIn
  notExtended : payload.extExpiresIn ≤ 0 → result.extExpiresOn = 0
  hasAccount : result.account.isSome = true ↔
    (∃ token, Given payload.idToken token) ∧ ∃ blob, Given payload.clientInfo blob
  account : ∀ account, result.account = some account →
    Tells room payload host policyTag account ∧
      account.environment = .ofString result.environment ∧ account.policy = .ofOption policyTag
  accessToken : result.accessToken = payload.accessToken
  refreshToken : result.refreshToken = payload.refreshToken
  idToken : result.idToken = payload.idToken
  scopes : result.scopes = payload.scope
  familyId : result.familyId = payload.familyId
  tokenType : result.tokenType = payload.tokenType

variable {room : Json.Room} {payload : Payload} {now : Int} {authority : Authority}
  {environment : String}

/-- At a host that is known, a result comes about as its account does. -/
theorem assemble_eq_ok_iff (hhost : authority.host = .ok environment) {result : Result} :
    assemble room payload now authority = .ok result ↔
      ∃ found, accountOf room payload environment authority.variant.policyTag = .ok found ∧
        result =
          { accessToken := payload.accessToken
            environment
            expiresOn := now + payload.expiresIn
            extExpiresOn := if 0 < payload.extExpiresIn then now + payload.extExpiresIn else 0
            scopes := payload.scope
            refreshToken := payload.refreshToken
            idToken := payload.idToken
            familyId := payload.familyId
            account := found
            tokenType := payload.tokenType } := by
  rw [assemble, hhost, ok_bind]
  cases accountOf room payload environment authority.variant.policyTag with
  | error failure =>
    refine iff_of_false (fun h => nomatch h) ?_
    rintro ⟨found, h, -⟩
    cases h
  | ok found =>
    constructor
    · rintro ⟨⟩
      exact ⟨found, rfl, rfl⟩
    · rintro ⟨_, ⟨⟩, rfl⟩
      rfl

/-- At a host that is known, a result is assembled exactly if ID token and account allow it. -/
theorem exists_assemble_iff (hhost : authority.host = .ok environment) :
    (∃ result, assemble room payload now authority = .ok result) ↔
      TokenDecodes room payload ∧
        AccountBuilds room payload environment authority.variant.policyTag := by
  rw [← exists_accountOf_iff]
  constructor
  · rintro ⟨result, h⟩
    obtain ⟨found, hfound, -⟩ := (assemble_eq_ok_iff hhost).mp h
    exact ⟨found, hfound⟩
  · rintro ⟨found, hfound⟩
    exact ⟨_, (assemble_eq_ok_iff hhost).mpr ⟨found, hfound, rfl⟩⟩

/-- At a host that is known, a result fails to be assembled as its account fails to be told. -/
theorem assemble_eq_error_iff (hhost : authority.host = .ok environment) {failure : Failure} :
    assemble room payload now authority = .error failure ↔
      accountOf room payload environment authority.variant.policyTag = .error failure := by
  rw [assemble, hhost, ok_bind]
  cases accountOf room payload environment authority.variant.policyTag with
  | error found =>
    constructor
    · rintro ⟨⟩
      rfl
    · rintro ⟨⟩
      rfl
  | ok found => exact iff_of_false (fun h => nomatch h) fun h => nomatch h

/-- A result is made of the payload that it is assembled from. -/
theorem madeOf_assemble (hhost : authority.host = .ok environment) (hmade : authority.variant.Made)
    {result : Result} (h : assemble room payload now authority = .ok result) :
    result.MadeOf room payload now environment authority.variant.policyTag := by
  obtain ⟨found, hfound, rfl⟩ := (assemble_eq_ok_iff hhost).mp h
  have hsome := accountOf_eq_some_iff hfound
  refine ⟨rfl, rfl, fun hext => if_pos hext, fun hext => if_neg (Int.not_lt.mpr hext), ?_, ?_, rfl, rfl,
    rfl, rfl, rfl, rfl⟩
  · rw [Option.isSome_iff_exists]
    constructor
    · rintro ⟨account, haccount⟩
      obtain ⟨token, blob, -, htoken, hblob, -⟩ := (hsome account).mp haccount
      exact ⟨⟨token, htoken⟩, blob, hblob⟩
    · rintro ⟨⟨token, htoken⟩, blob, hblob⟩
      obtain ⟨-, hbuilds⟩ := exists_accountOf_iff.mp ⟨found, hfound⟩
      obtain ⟨account, htells⟩ := hbuilds token blob htoken hblob
      exact ⟨account, (hsome account).mpr htells⟩
  · intro account haccount
    have htells := (hsome account).mp haccount
    have ⟨_, _, _, _, _, _, hbuilt⟩ := htells
    obtain ⟨henvironment, hpolicy⟩ := Account.build_eq_ok hbuilt
    exact ⟨htells, henvironment, hpolicy.trans (Json.orElse_ofOption hmade.policyTag_ne)⟩

/-- At a host that is known, assembling is given up exactly if something is nested too deep. -/
theorem exists_tooDeep_iff (hhost : authority.host = .ok environment) :
    (∃ container, assemble room payload now authority = .error (.tooDeep container)) ↔
      GivenUp room payload := by
  simp only [assemble_eq_error_iff hhost]
  refine ⟨?_, accountOf_of_givenUp⟩
  rintro ⟨container, h⟩
  rcases of_accountOf_eq_error h with ⟨fault, hfault⟩ | ⟨found, -, hdeep⟩
  · cases hfault
  · exact hdeep

/-- **A result is assembled exactly if the ID token and the account allow it**: an ID token that is there
can be decoded, and if client info is there too, an account can be built. It is refused with a transport
fault exactly if they do not allow it and nothing that is read for the account is nested too deep; for that
there is another failure. A result that is assembled is made of payload, time and authority. -/
theorem assembled_or_refused_iff (room : Json.Room) (payload : Payload) (now : Int)
    (hhost : authority.host = .ok environment) (hmade : authority.variant.Made) :
    ((∃ result, assemble room payload now authority = .ok result) ↔
      TokenDecodes room payload ∧ AccountBuilds room payload environment authority.variant.policyTag) ∧
    ((∃ fault, assemble room payload now authority = .error (.transport fault)) ↔
      ¬ (TokenDecodes room payload ∧
        AccountBuilds room payload environment authority.variant.policyTag) ∧ ¬ GivenUp room payload) ∧
    ((∃ container, assemble room payload now authority = .error (.tooDeep container)) ↔
      GivenUp room payload) ∧
    ∀ result, assemble room payload now authority = .ok result →
      result.MadeOf room payload now environment authority.variant.policyTag := by
  have hok : (∃ result, assemble room payload now authority = .ok result) ↔
      TokenDecodes room payload ∧
        AccountBuilds room payload environment authority.variant.policyTag := exists_assemble_iff hhost
  have hdeep : (∃ container, assemble room payload now authority = .error (.tooDeep container)) ↔
      GivenUp room payload := exists_tooDeep_iff hhost
  refine ⟨hok, ?_, hdeep, fun result h => madeOf_assemble hhost hmade h⟩
  rw [← hok, ← hdeep]
  cases h : assemble room payload now authority with
  | ok result =>
    refine iff_of_false ?_ fun hneither => hneither.1 ⟨result, rfl⟩
    rintro ⟨fault, hfault⟩
    cases hfault
  | error failure =>
    rcases of_accountOf_eq_error ((assemble_eq_error_iff hhost).mp h) with
      ⟨fault, rfl⟩ | ⟨container, rfl, -⟩
    · refine iff_of_true ⟨fault, rfl⟩ ⟨?_, ?_⟩
      · rintro ⟨result, hresult⟩
        cases hresult
      · rintro ⟨container, hcontainer⟩
        cases hcontainer
    · refine iff_of_false ?_ fun hneither => hneither.2 ⟨container, rfl⟩
      rintro ⟨fault, hfault⟩
      cases hfault

/-- At an authority of the policy `p1`, an ID token with client info: the account is one of this policy,
and without an extended lifetime there is no extended expiry. With the same ID token and client info in
which two thousand lists are nested there is neither a result nor a transport fault. -/
theorem assembled_or_refused_iff_two_thousand :
    let authority : Authority :=
      { canonicalUrl := "https://h/tfp/t/p1", kind := .b2c, variant := .policyPartitioned "p1" }
    let token := Text.ofString "e30.eyJvaWQiOiJvIiwidGlkIjoidCJ9."
    let deep := ClientInfo.written (Json.nested 2000 ++ (List.replicate 2000 ']' ++ ['\x7d']))
    let payload : Payload :=
      { accessToken := "AT", expiresIn := 3600, idToken := some token
        clientInfo := some (.ofString "eyJ1aWQiOiJ1IiwidXRpZCI6InYifQ") }
    authority.host = .ok "h" ∧ authority.variant.Made ∧
      (∃ result, assemble {} payload 1000 authority = .ok result ∧ result.expiresOn = 4600 ∧
        result.extExpiresOn = 0 ∧
        ∃ account, result.account = some account ∧ account.policy = .ofString "p1") ∧
      let nested := { payload with clientInfo := some deep }
      (∃ container, assemble {} nested 1000 authority = .error (.tooDeep container)) ∧
        ¬ ∃ fault, assemble {} nested 1000 authority = .error (.transport fault) := by
  intro authority token deep payload
  have hhost : Authority.host
      { canonicalUrl := "https://h/tfp/t/p1", kind := .b2c, variant := .policyPartitioned "p1" } =
      .ok "h" := rfl
  have hvariant : authority.variant.Made := Or.inr ⟨"p1", rfl⟩
  have htoken : Given (some token) token := ⟨rfl, nofun⟩
  have hclaims : IdToken.decode {} token = .ok (Claims.ofMembers
      [(.ofString "oid", .ofString "o"), (.ofString "tid", .ofString "t")]) := rfl
  refine ⟨hhost, hvariant, ?_, ?_⟩
  · obtain ⟨hiff, -, -, hmadeOf⟩ := assembled_or_refused_iff {} payload 1000 hhost hvariant
    have hdecodes : TokenDecodes {} payload := by
      rintro token ⟨⟨⟩, -⟩
      exact ⟨_, hclaims⟩
    have hblob : Given payload.clientInfo (.ofString "eyJ1aWQiOiJ1IiwidXRpZCI6InYifQ") := ⟨rfl, nofun⟩
    have hbuilds : AccountBuilds {} payload "h" (some "p1") :=
      fun _ _ _ _ => ⟨_, _, _, _, htoken, hblob, hclaims, rfl⟩
    obtain ⟨result, hresult⟩ := hiff.mpr ⟨hdecodes, hbuilds⟩
    have hmade := hmadeOf result hresult
    obtain ⟨account, haccount⟩ :=
      Option.isSome_iff_exists.mp (hmade.hasAccount.mpr ⟨⟨_, htoken⟩, _, hblob⟩)
    exact ⟨result, hresult, hmade.expiresOn, hmade.notExtended (by decide), account, haccount,
      (hmade.account account haccount).2.2⟩
  · intro nested
    obtain ⟨-, hrefused, hdeep, -⟩ := assembled_or_refused_iff {} nested 1000 hhost hvariant
    have hgivenUp : GivenUp {} nested :=
      .info htoken hclaims ⟨rfl, nofun⟩ (ClientInfo.tooDeep_written (Json.tooDeep_nested (by decide) _))
    exact ⟨hdeep.mpr hgivenUp, fun h => (hrefused.mp h).2 hgivenUp⟩

end Result

end TokenEndpoint
