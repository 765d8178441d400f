import TokenEndpoint.Proofs.Accounts
import TokenEndpoint.Proofs.Lowering
/-!
Accounts and their cache keys. A cache key joins home account, environment, tenant and policy by hyphens
and lowers the whole; the home account stands in the key in the object's place, and the parts may hold
hyphens of their own. Main statements:

* `cacheKeys_eq_iff` -- two cache keys are equal exactly if the joined parts are, each part lowered by
  itself; with equally many hyphens in each place, exactly if the parts are;
* `policies_part_accounts` -- for one user, different policies give different accounts, and policies that
  differ in more than case give different cache keys.
-/

namespace TokenEndpoint

/-! ## 1. Joined texts -/

/-- Two texts that are cut at a separator, with equally many of it in front of the cut, agree on both
sides of it if they are equal. -/
theorem append_cons_inj_of_count {α : Type} [DecidableEq α] {sep : α} {s t u v : List α}
    (hcount : s.count sep = t.count sep) (h : s ++ sep :: u = t ++ sep :: v) : s = t ∧ u = v := by
  induction s generalizing t with
  | nil =>
    cases t with
    | nil => exact ⟨rfl, List.tail_eq_of_cons_eq h⟩
    | cons c t =>
      have hsep : sep = c := List.head_eq_of_cons_eq h
      rw [hsep, List.count_nil, List.count_cons_self] at hcount
      exact absurd hcount.symm (Nat.succ_ne_zero _)
  | cons c s ih =>
    cases t with
    | nil =>
      have hsep : c = sep := List.head_eq_of_cons_eq h
      rw [hsep, List.count_nil, List.count_cons_self] at hcount
      exact absurd hcount (Nat.succ_ne_zero _)
    | cons d t =>
      obtain ⟨rfl, htail⟩ := List.cons.inj h
      have hrest : s.count sep = t.count sep := by
        rw [List.count_cons, List.count_cons] at hcount
        exact Nat.add_right_cancel hcount
      obtain ⟨rfl, huv⟩ := ih hrest htail
      exact ⟨rfl, huv⟩

namespace CacheName

/-- Each part by itself in lower case. -/
def lower (n : CacheName) : CacheName where
  home := Text.lowerLetters n.home
  environment := Text.lowerLetters n.environment
  tenant := Text.lowerLetters n.tenant
  policy := n.policy.map Text.lowerLetters

/-- Home account, environment and tenant hold equally many hyphens. -/
structure SameHyphens (n m : CacheName) : Prop where
  home : n.home.count (.plain '-') = m.home.count (.plain '-')
  environment : n.environment.count (.plain '-') = m.environment.count (.plain '-')
  tenant : n.tenant.count (.plain '-') = m.tenant.count (.plain '-')

theorem SameHyphens.lower {n m : CacheName} (h : n.SameHyphens m) : n.lower.SameHyphens m.lower where
  home := Text.count_hyphen_congr h.home
  environment := Text.count_hyphen_congr h.environment
  tenant := Text.count_hyphen_congr h.tenant

/-- What is joined and then lowered is what is lowered and then joined. -/
theorem lowerLetters_written (n : CacheName) : Text.lowerLetters n.written = n.lower.written := by
  rw [written, Text.lowerLetters_intercalate]
  obtain ⟨home, environment, tenant, policy⟩ := n
  cases policy <;> rfl

/-- The tenant with the policy behind it. -/
def ending (n : CacheName) : Text :=
  match n.policy with
  | some policy => n.tenant ++ .plain '-' :: policy
  | none => n.tenant

theorem written_eq (n : CacheName) :
    n.written = n.home ++ .plain '-' :: (n.environment ++ .plain '-' :: n.ending) := by
  obtain ⟨home, environment, tenant, policy⟩ := n
  cases policy <;> simp [written, parts, ending, List.intercalate_cons_cons]

/-- A policy brings a hyphen of its own. -/
theorem ending_ne_of_policy {n m : CacheName} {policy : Text} (hn : n.policy = none)
    (hm : m.policy = some policy)
    (hcount : n.tenant.count (.plain '-') = m.tenant.count (.plain '-')) : n.ending ≠ m.ending := by
  intro h
  rw [ending, ending, hn, hm] at h
  have hmore := congrArg (List.count (Letter.plain '-')) h
  rw [List.count_append, List.count_cons_self, hcount] at hmore
  omega

theorem ending_inj {n m : CacheName}
    (hcount : n.tenant.count (.plain '-') = m.tenant.count (.plain '-')) (h : n.ending = m.ending) :
    n.tenant = m.tenant ∧ n.policy = m.policy := by
  cases hn : n.policy with
  | none =>
    cases hm : m.policy with
    | none =>
      rw [ending, ending, hn, hm] at h
      exact ⟨h, rfl⟩
    | some q => exact absurd h (ending_ne_of_policy hn hm hcount)
  | some p =>
    cases hm : m.policy with
    | none => exact absurd h.symm (ending_ne_of_policy hm hn hcount.symm)
    | some q =>
      rw [ending, ending, hn, hm] at h
      obtain ⟨htenant, rfl⟩ := append_cons_inj_of_count hcount h
      exact ⟨htenant, rfl⟩

/-- **With equally many hyphens in each place the parts can be read off what is joined.** -/
theorem written_inj {n m : CacheName} (hcount : n.SameHyphens m) (h : n.written = m.written) :
    n = m := by
  rw [written_eq, written_eq] at h
  obtain ⟨hhome, h⟩ := append_cons_inj_of_count hcount.home h
  obtain ⟨henvironment, h⟩ := append_cons_inj_of_count hcount.environment h
  obtain ⟨htenant, hpolicy⟩ := ending_inj hcount.tenant h
  exact CacheName.ext hhome henvironment htenant hpolicy

end CacheName

/-! ## 2. Two accounts -/

namespace Account

/-- With equally many hyphens in each place, what is joined is equal in lower case exactly if the parts
are. -/
theorem lowered_eq_iff {n m : CacheName} (hcount : n.SameHyphens m) :
    Text.lowerLetters n.written = Text.lowerLetters m.written ↔ n.lower = m.lower := by
  rw [n.lowerLetters_written, m.lowerLetters_written]
  exact ⟨CacheName.written_inj hcount.lower, congrArg CacheName.written⟩

section Pair

variable {room₁ room₂ : Nat} {blob₁ blob₂ : Text} {claims₁ claims₂ : Claims}
  {environment₁ environment₂ tag₁ tag₂ : Json} {a b : Account} {key₁ key₂ : Text}

/-- The cache key of an account that is built is made of the account's name. -/
theorem exists_name_of_build {room : Nat} {blob : Text} {claims : Claims}
    {environment policyTag : Json} {key : Text} (ha : build room blob claims environment policyTag = .ok a)
    (hkey : a.cacheKeyText = .ok key) : ∃ n, a.Names n ∧ Text.lowerLetters n.written = key := by
  obtain ⟨info, -, -, rfl⟩ := build_eq_ok_iff.mp ha
  exact (cacheKeyText_eq_ok_iff (Json.orElse_orElse_null policyTag)).mp hkey

/-- An account whose parts are texts is built with the cache key of its name. -/
theorem built_of_names {room : Nat} {blob : Text} {info : ClientInfo}
    (hinfo : ClientInfo.decode room blob = .ok info) (claims : Claims) (environment policyTag : Json)
    (n : CacheName) (hids : info.Identifies claims)
    (hn : (info.account claims environment policyTag).Names n) :
    build room blob claims environment policyTag = .ok (info.account claims environment policyTag) ∧
      (info.account claims environment policyTag).Names n ∧
      (info.account claims environment policyTag).cacheKeyText = .ok (Text.lowerLetters n.written) :=
  ⟨build_eq_ok_iff.mpr ⟨info, hinfo, hids, rfl⟩, hn,
    (cacheKeyText_eq_ok_iff (Json.orElse_orElse_null policyTag)).mpr ⟨n, hn, rfl⟩⟩

/-- **Two cache keys are equal exactly if the joined parts are**, each part (home account or else object,
environment, tenant and policy) lowered by itself. With equally many hyphens in home account, environment
and tenant, they are equal exactly if the parts are equal one by one in lower case. -/
theorem cacheKeys_eq_iff (ha : build room₁ blob₁ claims₁ environment₁ tag₁ = .ok a)
    (hb : build room₂ blob₂ claims₂ environment₂ tag₂ = .ok b) (hkey₁ : a.cacheKeyText = .ok key₁)
    (hkey₂ : b.cacheKeyText = .ok key₂) :
    ∃ n m : CacheName, a.Names n ∧ b.Names m ∧
      (key₁ = key₂ ↔ n.lower.written = m.lower.written) ∧
      (n.SameHyphens m → (key₁ = key₂ ↔ n.lower = m.lower)) := by
  obtain ⟨n, hn, rfl⟩ := exists_name_of_build ha hkey₁
  obtain ⟨m, hm, rfl⟩ := exists_name_of_build hb hkey₂
  refine ⟨n, m, hn, hm, ?_, lowered_eq_iff⟩
  rw [n.lowerLetters_written, m.lowerLetters_written]

end Pair

/-- The key of an account with its texts in lower case. -/
def loweredKey (a : Account) : List Json :=
  a.key.map fun
    | .string t => .string (Text.lowerLetters t)
    | v => v

/-- Cache keys do not agree with keys in lower case: accounts of one key have different cache keys where
the home accounts differ; and accounts of different keys have one cache key where they have one home
account, or where a hyphen stands on the other side of a joint. -/
theorem cacheKeys_eq_not_iff_keys :
    let claims (oid tid : String) :=
      Claims.ofMembers [(.ofString "oid", .ofString oid), (.ofString "tid", .ofString tid)]
    let first := Text.ofString "eyJ1aWQiOiJ1MSIsInV0aWQiOiJ0In0"
    let second := Text.ofString "eyJ1aWQiOiJ1MiIsInV0aWQiOiJ0In0"
    (∃ a b key₁ key₂, build 970 first (claims "o" "t") (.ofString "h") .null = .ok a ∧
      build 970 second (claims "o" "t") (.ofString "h") .null = .ok b ∧
      a.cacheKeyText = .ok key₁ ∧ b.cacheKeyText = .ok key₂ ∧
      a.loweredKey = b.loweredKey ∧ key₁ ≠ key₂) ∧
    (∃ a b key, build 970 first (claims "o" "t") (.ofString "h") .null = .ok a ∧
      build 970 first (claims "p" "t") (.ofString "h") .null = .ok b ∧
      a.cacheKeyText = .ok key ∧ b.cacheKeyText = .ok key ∧ a.loweredKey ≠ b.loweredKey) ∧
    ∃ a b key, build 970 first (claims "o" "x-y") (.ofString "h") .null = .ok a ∧
      build 970 first (claims "o" "y") (.ofString "h-x") .null = .ok b ∧
      a.cacheKeyText = .ok key ∧ b.cacheKeyText = .ok key ∧ a.loweredKey ≠ b.loweredKey := by
  intro claims first second
  have hfirst : ClientInfo.decode 970 (Text.ofString "eyJ1aWQiOiJ1MSIsInV0aWQiOiJ0In0") =
      .ok ⟨.ofString "u1", .ofString "t"⟩ := rfl
  have hsecond : ClientInfo.decode 970 (Text.ofString "eyJ1aWQiOiJ1MiIsInV0aWQiOiJ0In0") =
      .ok ⟨.ofString "u2", .ofString "t"⟩ := rfl
  have hdifferent {s t : String} (hs : s.toList.all (·.toNat < 0x80) = true)
      (ht : t.toList.all (·.toNat < 0x80) = true)
      (h : s.toList.map Char.toLower ≠ t.toList.map Char.toLower) :
      Text.lowerLetters (.ofString s) ≠ Text.lowerLetters (.ofString t) :=
    fun heq => h ((Text.lowerLetters_eq_iff_of_ascii hs ht).mp heq)
  obtain ⟨ha, -, hkey⟩ := built_of_names hfirst (claims "o" "t") (.ofString "h") .null
    ⟨.ofString "u1.t", .ofString "h", .ofString "t", none⟩ ⟨rfl, rfl⟩ ⟨rfl, rfl, rfl, rfl⟩
  refine ⟨?_, ?_, ?_⟩
  · obtain ⟨hb, -, hother⟩ := built_of_names hsecond (claims "o" "t") (.ofString "h") .null
      ⟨.ofString "u2.t", .ofString "h", .ofString "t", none⟩ ⟨rfl, rfl⟩ ⟨rfl, rfl, rfl, rfl⟩
    refine ⟨_, _, _, _, ha, hb, hkey, hother, rfl, fun h => ?_⟩
    have hhome := congrArg CacheName.home
      ((lowered_eq_iff ⟨by decide, by decide, by decide⟩).mp h)
    exact hdifferent (s := "u1.t") (t := "u2.t") (by decide) (by decide) (by decide) hhome
  · obtain ⟨hb, -, hother⟩ := built_of_names hfirst (claims "p" "t") (.ofString "h") .null
      ⟨.ofString "u1.t", .ofString "h", .ofString "t", none⟩ ⟨rfl, rfl⟩ ⟨rfl, rfl, rfl, rfl⟩
    refine ⟨_, _, _, ha, hb, hkey, hother, fun h => ?_⟩
    have hobject := (List.cons.inj (List.cons.inj h).2).1
    exact hdifferent (s := "o") (t := "p") (by decide) (by decide) (by decide) (Json.string.inj hobject)
  · obtain ⟨ha, -, hkey⟩ := built_of_names hfirst (claims "o" "x-y") (.ofString "h") .null
      ⟨.ofString "u1.t", .ofString "h", .ofString "x-y", none⟩ ⟨rfl, rfl⟩ ⟨rfl, rfl, rfl, rfl⟩
    obtain ⟨hb, -, hother⟩ := built_of_names hfirst (claims "o" "y") (.ofString "h-x") .null
      ⟨.ofString "u1.t", .ofString "h-x", .ofString "y", none⟩ ⟨rfl, rfl⟩ ⟨rfl, rfl, rfl, rfl⟩
    refine ⟨_, _, _, ha, hb, hkey, hother, fun h => ?_⟩
    exact hdifferent (s := "h") (t := "h-x") (by decide) (by decide) (by decide)
      (Json.string.inj (List.cons.inj h).1)

/-- Two spellings of host, tenant and policy, with hyphens in them: two accounts with one cache key. -/
theorem cacheKeys_eq_iff_two_spellings :
    let blob := Text.ofString "eyJ1aWQiOiJ1MSIsInV0aWQiOiJ0In0"
    let claims (tid : String) :=
      Claims.ofMembers [(.ofString "oid", .ofString "o"), (.ofString "tid", .ofString tid)]
    ∃ a b key₁ key₂,
      build 970 blob (claims "T-1") (.ofString "Login-1.h") (.ofString "B2C_1") = .ok a ∧
      build 970 blob (claims "t-1") (.ofString "login-1.H") (.ofString "b2c_1") = .ok b ∧
      a.cacheKeyText = .ok key₁ ∧ b.cacheKeyText = .ok key₂ ∧ key₁ = key₂ ∧ a.same b = false := by
  intro blob claims
  have hinfo : ClientInfo.decode 970 (Text.ofString "eyJ1aWQiOiJ1MSIsInV0aWQiOiJ0In0") =
      .ok ⟨.ofString "u1", .ofString "t"⟩ := rfl
  obtain ⟨ha, hn, hkey₁⟩ := built_of_names hinfo (claims "T-1") (.ofString "Login-1.h")
    (.ofString "B2C_1")
    ⟨.ofString "u1.t", .ofString "Login-1.h", .ofString "T-1", some (.ofString "B2C_1")⟩
    ⟨rfl, rfl⟩ ⟨rfl, rfl, rfl, rfl⟩
  obtain ⟨hb, hm, hkey₂⟩ := built_of_names hinfo (claims "t-1") (.ofString "login-1.H")
    (.ofString "b2c_1")
    ⟨.ofString "u1.t", .ofString "login-1.H", .ofString "t-1", some (.ofString "b2c_1")⟩
    ⟨rfl, rfl⟩ ⟨rfl, rfl, rfl, rfl⟩
  refine ⟨_, _, _, _, ha, hb, hkey₁, hkey₂, ?_, rfl⟩
  obtain ⟨n, m, hn', hm', -, hiff⟩ := cacheKeys_eq_iff ha hb hkey₁ hkey₂
  cases hn.unique hn'
  cases hm.unique hm'
  refine (hiff ⟨by decide, by decide, by decide⟩).mpr ?_
  have henvironment :=
    (Text.lowerLetters_eq_iff_of_ascii (s := "Login-1.h") (t := "login-1.H") (by decide) (by decide)).mpr
      (by decide)
  have htenant :=
    (Text.lowerLetters_eq_iff_of_ascii (s := "T-1") (t := "t-1") (by decide) (by decide)).mpr (by decide)
  have hpolicy :=
    (Text.lowerLetters_eq_iff_of_ascii (s := "B2C_1") (t := "b2c_1") (by decide) (by decide)).mpr
      (by decide)
  rw [CacheName.lower, CacheName.lower, Option.map_some, Option.map_some, henvironment, htenant, hpolicy]

end Account

/-! ## 3. Two policies -/

namespace Json

theorem same_string (s t : Text) : same (string s) (string t) = true ↔ s = t := by
  rw [same, beq_iff_eq]

theorem same_ofTag (p q : Option Text) : same (ofTag p) (ofTag q) = true ↔ p = q := by
  cases p with
  | none => cases q <;> simp [ofTag, same, sameNumber, fraction?]
  | some s =>
    cases q with
    | none => simp [ofTag, same, sameNumber, fraction?]
    | some t => rw [ofTag, ofTag, same_string, Option.some.injEq]

end Json

namespace Account

section Twins

variable {info : ClientInfo} {claims : Claims} {p q : Option Text}

/-- Accounts of one user are the same exactly if their policies are. -/
theorem same_account_iff (environment : Text) (hobject : ∃ t, info.objectFor claims = .string t)
    (htenant : ∃ t, info.tenantFor claims = .string t) (hp : p ≠ some []) (hq : q ≠ some []) :
    (info.account claims (.string environment) (.ofTag p)).same
      (info.account claims (.string environment) (.ofTag q)) = true ↔ p = q := by
  obtain ⟨object, hobject⟩ := hobject
  obtain ⟨tenant, htenant⟩ := htenant
  show Json.sameItems [.string environment, info.objectFor claims, info.tenantFor claims,
      (Json.ofTag p).orElse .null] [.string environment, info.objectFor claims, info.tenantFor claims,
      (Json.ofTag q).orElse .null] = true ↔ p = q
  rw [hobject, htenant, Json.orElse_ofTag hp, Json.orElse_ofTag hq]
  simp only [Json.sameItems, Bool.and_eq_true, Json.same_string, Json.same_ofTag, true_and, and_true]

/-- The name of an account is that of its twin with another policy. -/
theorem Names.withPolicy {environment policyTag : Json} {n : CacheName}
    (h : (info.account claims environment policyTag).Names n) (hq : q ≠ some []) :
    (info.account claims environment (.ofTag q)).Names { n with policy := q } :=
  ⟨h.home, h.environment, h.tenant, Json.orElse_ofTag hq⟩

theorem Names.policy_eq {environment : Json} {n : CacheName} (hp : p ≠ some [])
    (h : (info.account claims environment (.ofTag p)).Names n) : n.policy = p :=
  Json.ofTag_inj (h.policy.symm.trans (Json.orElse_ofTag hp))

/-- If an account has a cache key, so has its twin. -/
theorem exists_twin_key {environment policyTag : Json} (hq : q ≠ some [])
    (h : ∃ key, (info.account claims environment policyTag).cacheKeyText = .ok key) :
    ∃ key, (info.account claims environment (.ofTag q)).cacheKeyText = .ok key := by
  obtain ⟨key, hkey⟩ := h
  obtain ⟨n, hn, -⟩ := (cacheKeyText_eq_ok_iff (Json.orElse_orElse_null policyTag)).mp hkey
  exact ⟨_, (cacheKeyText_eq_ok_iff (Json.orElse_orElse_null (.ofTag q))).mpr ⟨_, hn.withPolicy hq, rfl⟩⟩

/-- Cache keys of one user are equal exactly if the policies are equal in lower case. -/
theorem twin_keys_eq_iff {environment : Json} {key₁ key₂ : Text} (hp : p ≠ some []) (hq : q ≠ some [])
    (hkey₁ : (info.account claims environment (.ofTag p)).cacheKeyText = .ok key₁)
    (hkey₂ : (info.account claims environment (.ofTag q)).cacheKeyText = .ok key₂) :
    key₁ = key₂ ↔ p.map Text.lowerLetters = q.map Text.lowerLetters := by
  obtain ⟨n, hn, rfl⟩ := (cacheKeyText_eq_ok_iff (Json.orElse_orElse_null (.ofTag p))).mp hkey₁
  obtain ⟨m, hm, rfl⟩ := (cacheKeyText_eq_ok_iff (Json.orElse_orElse_null (.ofTag q))).mp hkey₂
  cases (hn.withPolicy hq).unique hm
  have hsame : n.SameHyphens { n with policy := q } := ⟨rfl, rfl, rfl⟩
  rw [lowered_eq_iff hsame]
  have hpolicy := hn.policy_eq hp
  constructor
  · intro h
    have hlower := congrArg CacheName.policy h
    rw [← hpolicy]
    exact hlower
  · intro h
    rw [CacheName.lower, CacheName.lower, hpolicy, h]

end Twins

/-- **Policies part accounts.** For one blob, claims and environment an account is built with every policy
or with none. Two of them are the same exactly if their policies are; both have a cache key or neither
has; and the cache keys are equal exactly if there is no policy in either, or one in both that is the same
in lower case. -/
theorem policies_part_accounts {room : Nat} {blob : Text} {claims : Claims} {environment : Text}
    {p q : Option Text} {a : Account} (hp : p ≠ some []) (hq : q ≠ some [])
    (ha : build room blob claims (.string environment) (.ofTag p) = .ok a)
    (hobject : ∃ t, a.objectId = .string t) (htenant : ∃ t, a.tenantId = .string t) :
    ∃ b, build room blob claims (.string environment) (.ofTag q) = .ok b ∧
      (a.same b = true ↔ p = q) ∧
      ((∃ key, a.cacheKeyText = .ok key) ↔ ∃ key, b.cacheKeyText = .ok key) ∧
      ∀ key₁ key₂, a.cacheKeyText = .ok key₁ → b.cacheKeyText = .ok key₂ →
        (key₁ = key₂ ↔ p.map Text.lowerLetters = q.map Text.lowerLetters) := by
  obtain ⟨info, hinfo, hids, rfl⟩ := build_eq_ok_iff.mp ha
  refine ⟨_, build_eq_ok_iff.mpr ⟨info, hinfo, hids, rfl⟩, ?_, ?_, ?_⟩
  · exact same_account_iff environment hobject htenant hp hq
  · exact ⟨exists_twin_key hq, exists_twin_key hp⟩
  · exact fun key₁ key₂ => twin_keys_eq_iff hp hq

/-- A user without a policy, and the same user with one: two accounts with two cache keys. -/
theorem policies_part_accounts_without_policy :
    let blob := Text.ofString "eyJ1aWQiOiJ1MSIsInV0aWQiOiJ0In0"
    let claims :=
      Claims.ofMembers [(.ofString "oid", .ofString "o"), (.ofString "tid", .ofString "t-1")]
    let policy := Text.ofString "p1"
    ∃ a b key₁ key₂, build 970 blob claims (.string (.ofString "h")) (.ofTag none) = .ok a ∧
      build 970 blob claims (.string (.ofString "h")) (.ofTag (some policy)) = .ok b ∧
      a.cacheKeyText = .ok key₁ ∧ b.cacheKeyText = .ok key₂ ∧ a.same b = false ∧ key₁ ≠ key₂ := by
  intro blob claims policy
  have hinfo : ClientInfo.decode 970 (Text.ofString "eyJ1aWQiOiJ1MSIsInV0aWQiOiJ0In0") =
      .ok ⟨.ofString "u1", .ofString "t"⟩ := rfl
  obtain ⟨ha, -, hkey₁⟩ := built_of_names hinfo claims (.string (.ofString "h")) (.ofTag none)
    ⟨.ofString "u1.t", .ofString "h", .ofString "t-1", none⟩ ⟨rfl, rfl⟩ ⟨rfl, rfl, rfl, rfl⟩
  have hpolicy : some policy ≠ some [] := fun h => nomatch Option.some.inj h
  obtain ⟨b, hb, hsame, hkeys, hiff⟩ :=
    policies_part_accounts (p := none) nofun hpolicy ha ⟨_, rfl⟩ ⟨_, rfl⟩
  obtain ⟨key₂, hkey₂⟩ := hkeys.mp ⟨_, hkey₁⟩
  refine ⟨_, b, _, key₂, ha, hb, hkey₁, hkey₂, ?_, ?_⟩
  · exact Bool.eq_false_iff.mpr fun h => nomatch hsame.mp h
  · exact fun h => nomatch (hiff _ key₂ hkey₁ hkey₂).mp h

end Account

end TokenEndpoint
