import TokenEndpoint.Proofs.ClientInfoBlobs
/-!
Which accounts are handed out, and which of them are of use. The ids of an account come from values of
any JSON kind, and each is the first of its sources that is given; a value that is given need not be a
text. Main statements:

* `build_eq_ok_iff` -- an account is built exactly if the client info can be decoded and both ids are
  given, and then it is made of them;
* `cacheKeyText_eq_ok_iff` -- a cache key is there exactly if all its parts are texts;
* `build_usable_iff` -- an account that is built is usable exactly if the values that were taken are
  texts.
-/

namespace TokenEndpoint

/-! ## 1. Values that are given -/

namespace Json

/-- A tag that may be missing. -/
def ofTag : Option Text → Json
  | some t => .string t
  | none => .null

theorem ofTag_inj {p q : Option Text} (h : ofTag p = ofTag q) : p = q := by
  cases p <;> cases q <;> cases h <;> rfl

theorem orElse_of_given {a : Json} (h : a.isGiven = true) (b : Json) : a.orElse b = a :=
  if_pos h

theorem orElse_of_not_given {a : Json} (h : a.isGiven = false) (b : Json) : a.orElse b = b :=
  if_neg (by rw [h]; decide)

theorem isGiven_string {t : Text} : (string t).isGiven = true ↔ t ≠ [] := by
  cases t <;> simp [isGiven]

/-- A tag is taken as it is unless it is empty. -/
theorem orElse_ofTag {tag : Option Text} (h : tag ≠ some []) : (ofTag tag).orElse .null = ofTag tag := by
  cases tag with
  | none => rfl
  | some t => exact orElse_of_given (isGiven_string.mpr fun ht => h (congrArg some ht)) _

/-- A value that null has been put in place of, if it was not given, is not changed by doing so again. -/
theorem orElse_orElse_null (a : Json) : (a.orElse .null).orElse .null = a.orElse .null := by
  by_cases h : a.isGiven = true
  · rw [orElse_of_given h, orElse_of_given h]
  · rw [orElse_of_not_given (Bool.eq_false_iff.mpr h)]
    rfl

end Json

/-! ## 2. Building -/

namespace ClientInfo

variable (info : ClientInfo) (claims : Claims)

/-- The object's id: that of the token, or of client info, or the token's subject. -/
def objectFor : Json :=
  claims.objectId.orElse (info.uid.orElse claims.subject)

/-- The tenant's id: that of the token, or of client info. -/
def tenantFor : Json :=
  claims.tenantId.orElse info.utid

/-- Client info and claims name an object and a tenant. -/
def Identifies : Prop :=
  (info.objectFor claims).isGiven = true ∧ (info.tenantFor claims).isGiven = true

def account (environment policyTag : Json) : Account :=
  { environment
    objectId := info.objectFor claims
    tenantId := info.tenantFor claims
    policy := policyTag.orElse .null
    homeAccountId := info.homeAccountId
    username := claims.username
    name := claims.name }

variable {info}

theorem homeAccountId_of_both (hu : info.uid.isGiven = true) (ht : info.utid.isGiven = true) :
    info.homeAccountId =
      .string (info.uid.displayLetters ++ .plain '.' :: info.utid.displayLetters) := by
  rw [homeAccountId, hu, ht]
  rfl

theorem homeAccountId_of_no_tenant (hu : info.uid.isGiven = true) (ht : info.utid.isGiven = false) :
    info.homeAccountId = info.uid := by
  rw [homeAccountId, hu, ht]
  exact Json.orElse_of_given hu .null

theorem homeAccountId_of_no_id (hu : info.uid.isGiven = false) : info.homeAccountId = .null := by
  rw [homeAccountId, hu]
  exact Json.orElse_of_not_given hu .null

end ClientInfo

namespace Account

variable {room : Nat} {blob : Text} {claims : Claims} {environment policyTag : Json}

theorem identify_eq_ok_iff {info : ClientInfo} {a : Account} :
    identify info claims environment policyTag = .ok a ↔
      info.Identifies claims ∧ a = info.account claims environment policyTag := by
  show (if (info.objectFor claims).isGiven && (info.tenantFor claims).isGiven then
      (.ok (info.account claims environment policyTag) : Except TransportFault Account)
      else .error .unidentifiedAccount) = .ok a ↔ _
  rw [ClientInfo.Identifies, ← Bool.and_eq_true]
  split
  · next h => simp [h, eq_comm]
  · next h => simp [h]

theorem identify_eq_error {info : ClientInfo} {fault : TransportFault}
    (h : identify info claims environment policyTag = .error fault) :
    fault = .unidentifiedAccount := by
  unfold identify at h
  dsimp only at h
  split at h
  · cases h
  · cases h
    rfl

/-- **An account is built exactly if the client info can be decoded and both ids are given**, and then it
is made of them. -/
theorem build_eq_ok_iff {a : Account} :
    build room blob claims environment policyTag = .ok a ↔
      ∃ info, ClientInfo.decode room blob = .ok info ∧ info.Identifies claims ∧
        a = info.account claims environment policyTag := by
  rw [build, bind_eq_ok]
  simp only [mapError_eq_ok, identify_eq_ok_iff]

/-- An account that is not built is refused, for what is wrong with the client info or because an id is
missing, or the client info is given up because it is nested too deep. -/
theorem of_build_eq_error {failure : Failure}
    (h : build room blob claims environment policyTag = .error failure) :
    (∃ fault, failure = .transport fault ∧
      (ClientInfo.Refused room blob fault ∨ fault = .unidentifiedAccount)) ∨
      ∃ container, failure = .tooDeep container ∧ ClientInfo.TooDeep room blob := by
  rcases bind_eq_error.mp h with hinfo | ⟨info, -, hids⟩
  · rcases ClientInfo.decode_cases room blob with ⟨info, hok⟩ | ⟨fault, herror, hrefused⟩ |
      ⟨container, herror, hdeep⟩
    · cases hok.symm.trans hinfo
    · cases herror.symm.trans hinfo
      exact .inl ⟨fault, rfl, .inl hrefused⟩
    · cases herror.symm.trans hinfo
      exact .inr ⟨container, rfl, hdeep⟩
  · obtain ⟨fault, hfault, rfl⟩ := mapError_eq_error.mp hids
    exact .inl ⟨fault, rfl, .inr (identify_eq_error hfault)⟩

/-! ## 3. The parts of a cache key -/

/-- Items have texts exactly if all of them are texts. -/
theorem texts_eq_ok_iff {index : Nat} {items : List Json} {ts : List Text} :
    texts index items = .ok ts ↔ items = ts.map .string := by
  induction items generalizing index ts with
  | nil => cases ts <;> simp [texts]
  | cons v r ih =>
    cases v with
    | string t =>
      rw [texts, map_eq_ok]
      cases ts with
      | nil => simp
      | cons s ss =>
        rw [List.map_cons, List.cons.injEq, Json.string.injEq]
        constructor
        · rintro ⟨us, hus, htail⟩
          cases htail
          exact ⟨rfl, ih.mp hus⟩
        · rintro ⟨rfl, hr⟩
          exact ⟨ss, ih.mpr hr, rfl⟩
    | _ => cases ts <;> simp [texts]

end Account

/-- The texts that a cache key is made of. -/
@[ext]
structure CacheName where
  home : Text
  environment : Text
  tenant : Text
  policy : Option Text
  deriving DecidableEq

namespace CacheName

def parts (n : CacheName) : List Text :=
  n.home :: n.environment :: n.tenant :: n.policy.toList

def written (n : CacheName) : Text :=
  List.intercalate [.plain '-'] n.parts

end CacheName

namespace Account

/-- The parts of an account's cache key are texts: its home account, or its object if it has none,
environment and tenant, and its policy if it has one. -/
structure Names (a : Account) (n : CacheName) : Prop where
  home : a.homeAccountId.orElse a.objectId = .string n.home
  environment : a.environment = .string n.environment
  tenant : a.tenantId = .string n.tenant
  policy : a.policy = .ofTag n.policy

/-- An account has one name. -/
theorem Names.unique {a : Account} {n m : CacheName} (hn : a.Names n) (hm : a.Names m) : n = m := by
  have hhome := Json.string.inj (hn.home.symm.trans hm.home)
  have henvironment := Json.string.inj (hn.environment.symm.trans hm.environment)
  have htenant := Json.string.inj (hn.tenant.symm.trans hm.tenant)
  have hpolicy := Json.ofTag_inj (hn.policy.symm.trans hm.policy)
  exact CacheName.ext hhome henvironment htenant hpolicy

section Keys

variable {a : Account} (hp : a.policy.orElse .null = a.policy)

include hp

theorem Names.cacheKeyParts_eq {n : CacheName} (h : a.Names n) :
    a.cacheKeyParts = n.parts.map .string := by
  unfold cacheKeyParts
  rw [h.home, h.environment, h.tenant]
  cases hn : n.policy with
  | none =>
    have hpolicy : a.policy = .null := h.policy.trans (congrArg Json.ofTag hn)
    rw [hpolicy, CacheName.parts, hn]
    rfl
  | some p =>
    have hpolicy : a.policy = .string p := h.policy.trans (congrArg Json.ofTag hn)
    have hgiven : (Json.string p).isGiven = true := by
      refine Json.isGiven_string.mpr fun hnil => ?_
      rw [hpolicy, hnil] at hp
      cases hp
    rw [hpolicy, if_pos hgiven, CacheName.parts, hn]
    rfl

theorem exists_names {ts : List Text} (h : a.cacheKeyParts = ts.map .string) :
    ∃ n, a.Names n ∧ n.parts = ts := by
  obtain ⟨home, ts, rfl, hhome, h⟩ := List.map_eq_cons_iff.mp h.symm
  obtain ⟨environment, ts, rfl, henvironment, h⟩ := List.map_eq_cons_iff.mp h
  obtain ⟨tenant, ts, rfl, htenant, h⟩ := List.map_eq_cons_iff.mp h
  by_cases hgiven : a.policy.isGiven = true
  · replace h : ts.map Json.string = [a.policy] := h.trans (if_pos hgiven)
    obtain ⟨policy, ts, rfl, hpolicy, h⟩ := List.map_eq_cons_iff.mp h
    cases List.map_eq_nil_iff.mp h
    exact ⟨⟨home, environment, tenant, some policy⟩,
      ⟨hhome.symm, henvironment.symm, htenant.symm, hpolicy.symm⟩, rfl⟩
  · replace h : ts.map Json.string = [] := h.trans (if_neg hgiven)
    cases List.map_eq_nil_iff.mp h
    have hnull : a.policy = .null := by
      rw [← hp, Json.orElse_of_not_given (Bool.eq_false_iff.mpr hgiven)]
    exact ⟨⟨home, environment, tenant, none⟩,
      ⟨hhome.symm, henvironment.symm, htenant.symm, hnull⟩, rfl⟩

/-- **A cache key is there exactly if all its parts are texts**, and then it is made of them. -/
theorem cacheKeyText_eq_ok_iff {key : Text} :
    a.cacheKeyText = .ok key ↔ ∃ n, a.Names n ∧ Text.lowerLetters n.written = key := by
  rw [cacheKeyText, map_eq_ok]
  constructor
  · rintro ⟨ts, hts, rfl⟩
    obtain ⟨n, hn, rfl⟩ := exists_names hp (texts_eq_ok_iff.mp hts)
    exact ⟨n, hn, rfl⟩
  · rintro ⟨n, hn, rfl⟩
    exact ⟨n.parts, texts_eq_ok_iff.mpr (hn.cacheKeyParts_eq hp), rfl⟩

end Keys

end Account

/-! ## 4. Usable accounts -/

/-- The values that are taken from client info and claims are texts: the object's id, the tenant's id,
and client info's id where it stands for the home account by itself. -/
structure ClientInfo.GivesTexts (info : ClientInfo) (claims : Claims) : Prop where
  object : ∃ t, info.objectFor claims = .string t
  tenant : ∃ t, info.tenantFor claims = .string t
  home : info.uid.isGiven = true → info.utid.isGiven = false → ∃ t, info.uid = .string t

namespace Account

/-- Both ids are texts that are not empty, and there is a cache key. -/
structure Usable (a : Account) : Prop where
  objectId : ∃ t, a.objectId = .string t ∧ t ≠ []
  tenantId : ∃ t, a.tenantId = .string t ∧ t ≠ []
  cacheKey : ∃ key, a.cacheKeyText = .ok key

/-- With client info's two ids the home account is a text, of whatever kind they are. -/
theorem exists_home_iff {info : ClientInfo} {claims : Claims}
    (hobject : ∃ t, info.objectFor claims = .string t) :
    (∃ t, info.homeAccountId.orElse (info.objectFor claims) = .string t) ↔
      (info.uid.isGiven = true → info.utid.isGiven = false → ∃ t, info.uid = .string t) := by
  cases hu : info.uid.isGiven with
  | false =>
    rw [ClientInfo.homeAccountId_of_no_id hu]
    exact iff_of_true hobject nofun
  | true =>
    cases ht : info.utid.isGiven with
    | true =>
      rw [ClientInfo.homeAccountId_of_both hu ht,
        Json.orElse_of_given (Json.isGiven_string.mpr (by simp))]
      exact iff_of_true ⟨_, rfl⟩ nofun
    | false =>
      rw [ClientInfo.homeAccountId_of_no_tenant hu ht, Json.orElse_of_given hu]
      exact ⟨fun h _ _ => h, fun h => h rfl rfl⟩

/-- A policy is missing, or a text that is not empty. -/
theorem exists_orElse_ofTag (tag : Option Text) :
    ∃ policy, (Json.ofTag tag).orElse .null = .ofTag policy := by
  by_cases h : tag = some []
  · rw [h]
    exact ⟨none, rfl⟩
  · exact ⟨tag, Json.orElse_ofTag h⟩

theorem usable_account_iff {info : ClientInfo} {claims : Claims} (h : info.Identifies claims)
    (environment : Text) (policyTag : Option Text) :
    (info.account claims (.string environment) (.ofTag policyTag)).Usable ↔ info.GivesTexts claims := by
  have hkey (key : Text) :
      (info.account claims (.string environment) (.ofTag policyTag)).cacheKeyText = .ok key ↔ _ :=
    cacheKeyText_eq_ok_iff (Json.orElse_orElse_null _)
  constructor
  · rintro ⟨⟨object, hobject, -⟩, ⟨tenant, htenant, -⟩, key, hcache⟩
    obtain ⟨n, hn, -⟩ := (hkey key).mp hcache
    exact ⟨⟨object, hobject⟩, ⟨tenant, htenant⟩, (exists_home_iff ⟨object, hobject⟩).mp ⟨_, hn.home⟩⟩
  · rintro ⟨⟨object, hobject⟩, ⟨tenant, htenant⟩, hhome⟩
    obtain ⟨home, hhome⟩ := (exists_home_iff ⟨object, hobject⟩).mpr hhome
    obtain ⟨policy, hpolicy⟩ := exists_orElse_ofTag policyTag
    have ⟨hobjectGiven, htenantGiven⟩ := h
    rw [hobject] at hobjectGiven
    rw [htenant] at htenantGiven
    exact ⟨⟨object, hobject, Json.isGiven_string.mp hobjectGiven⟩,
      ⟨tenant, htenant, Json.isGiven_string.mp htenantGiven⟩,
      _, (hkey _).mpr ⟨⟨home, environment, tenant, policy⟩, ⟨hhome, rfl, htenant, hpolicy⟩, rfl⟩⟩

/-- **An account that is built is usable exactly if the values that were taken for its ids are texts.** It
is built if the client info can be decoded and both ids are given, of whatever kind they are; else there is
the fault of the client info, or the account is not identified. Client info that is nested too deep is given
up with another failure. -/
theorem build_usable_iff (room : Nat) (blob : Text) (claims : Claims) (environment : Text)
    (policyTag : Option Text) :
    ((∃ a, build room blob claims (.string environment) (.ofTag policyTag) = .ok a) ↔
      ∃ info, ClientInfo.decode room blob = .ok info ∧ info.Identifies claims) ∧
    (∀ failure, build room blob claims (.string environment) (.ofTag policyTag) = .error failure →
      (∃ fault, failure = .transport fault ∧
        (ClientInfo.Refused room blob fault ∨ fault = .unidentifiedAccount)) ∨
        ∃ container, failure = .tooDeep container ∧ ClientInfo.TooDeep room blob) ∧
    ∀ a, build room blob claims (.string environment) (.ofTag policyTag) = .ok a →
      ∃ info, ClientInfo.decode room blob = .ok info ∧ (a.Usable ↔ info.GivesTexts claims) := by
  refine ⟨⟨?_, ?_⟩, fun failure h => of_build_eq_error h, ?_⟩
  · rintro ⟨a, h⟩
    obtain ⟨info, hinfo, hids, -⟩ := build_eq_ok_iff.mp h
    exact ⟨info, hinfo, hids⟩
  · rintro ⟨info, hinfo, hids⟩
    exact ⟨_, build_eq_ok_iff.mpr ⟨info, hinfo, hids, rfl⟩⟩
  · intro a h
    obtain ⟨info, hinfo, hids, rfl⟩ := build_eq_ok_iff.mp h
    exact ⟨info, hinfo, usable_account_iff hids environment policyTag⟩

/-- Client info with a number for the account's id and without a tenant: the ids of the account are texts
from the token, but it has no cache key. -/
theorem build_usable_iff_numeric_id :
    let claims := Claims.ofMembers [(.ofString "oid", .ofString "o"), (.ofString "tid", .ofString "t")]
    ∃ a, build 970 (.ofString "eyJ1aWQiOjV9") claims (.string (.ofString "h")) (.ofTag none) = .ok a ∧
      a.objectId = .ofString "o" ∧ a.tenantId = .ofString "t" ∧ ¬ a.Usable := by
  intro claims
  have hinfo : ClientInfo.decode 970 (.ofString "eyJ1aWQiOjV9") = .ok ⟨.int 5, .null⟩ := rfl
  have ha : build 970 (.ofString "eyJ1aWQiOjV9") claims (.string (.ofString "h")) (.ofTag none) =
      .ok (ClientInfo.account ⟨.int 5, .null⟩ claims (.string (.ofString "h")) .null) := rfl
  obtain ⟨-, -, husable⟩ :=
    build_usable_iff 970 (.ofString "eyJ1aWQiOjV9") claims (.ofString "h") none
  obtain ⟨info, hinfo', hiff⟩ := husable _ ha
  cases hinfo.symm.trans hinfo'
  refine ⟨_, ha, rfl, rfl, fun h => ?_⟩
  obtain ⟨t, ht⟩ := (hiff.mp h).home rfl rfl
  cases ht

end Account

end TokenEndpoint
