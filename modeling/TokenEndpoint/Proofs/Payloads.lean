import TokenEndpoint.Payload
import TokenEndpoint.Proofs.Blanks
/-!
Which objects are the payload of a success. Nine members are looked at, each by itself; an object makes a
payload if each of them fits. Main statements:

* `Payload.ofMembers_eq` -- an object makes a payload, or its faulty members in their order;
* `Payload.ofResponse_members` -- a response of success is decoded exactly if its members fit, else the
  message names those that do not, and nothing but these members counts.
-/

namespace TokenEndpoint.Payload

/-! ## 1. Members -/

/-- The members that are looked at. -/
inductive Member where
  | accessToken
  | expiresIn
  | tokenType
  | extExpiresIn
  | refreshToken
  | idToken
  | scope
  | clientInfo
  | familyId
  deriving DecidableEq, Repr

namespace Member

def name : Member → String
  | accessToken => "access_token"
  | expiresIn => "expires_in"
  | tokenType => "token_type"
  | extExpiresIn => "ext_expires_in"
  | refreshToken => "refresh_token"
  | idToken => "id_token"
  | scope => "scope"
  | clientInfo => "client_info"
  | familyId => "foci"

/-- All members, in the order in which they are declared. -/
def all : List Member :=
  [accessToken, expiresIn, tokenType, extExpiresIn, refreshToken, idToken, scope, clientInfo, familyId]

theorem mem_all (m : Member) : m ∈ all := by
  cases m <;> decide

theorem nodup_names : (all.map name).Nodup := by
  decide

/-- What a member may be. The values of integers are those that one is made from. -/
def Fits (value : Option Json) : Member → Prop
  | accessToken => ∃ t, value = some (.string t) ∧ ∃ l ∈ t, Text.isBlankLetter l = false
  | expiresIn => ∃ v i, value = some v ∧ Coercion.toInt v = .ok i
  | tokenType => value = none ∨ ∃ t, value = some (.string t)
  | extExpiresIn => value = none ∨ value = some .null ∨ ∃ v i, value = some v ∧ Coercion.toInt v = .ok i
  | refreshToken | idToken | scope | clientInfo =>
    value = none ∨ value = some .null ∨ ∃ t, value = some (.string t)
  | familyId => True

/-- Whether the reader of a member takes a value. -/
def accepts (value : Option Json) : Member → Bool
  | accessToken => (readAccessToken value).isOk
  | expiresIn => (readRequiredInt value).isOk
  | tokenType => (readText "Bearer" value).isOk
  | extExpiresIn => (readIntOrNull 0 value).isOk
  | refreshToken => (readOptionalText value).isOk
  | idToken => (readOptionalText value).isOk
  | scope => (readTextOrNull "" value).isOk
  | clientInfo => (readOptionalText value).isOk
  | familyId => true

end Member

/-! ## 2. One member -/

section Readers

variable {value : Option Json}

theorem isOk_iff {ε α : Type} {x : Except ε α} : x.isOk = true ↔ ∃ a, x = .ok a := by
  cases x <;> simp [Except.isOk, Except.toBool]

theorem toText_eq_ok_iff {v : Json} {t : Text} : Coercion.toText v = .ok t ↔ v = .string t := by
  cases v <;> simp [Coercion.toText]

theorem readAccessToken_isOk_iff : (readAccessToken value).isOk = true ↔
    ∃ t, value = some (.string t) ∧ ∃ l ∈ t, Text.isBlankLetter l = false := by
  simp only [isOk_iff, ← Text.isBlankLetters_eq_false_iff]
  cases value with
  | none => simp [readAccessToken]
  | some v =>
    cases v with
    | string t =>
      have hread : readAccessToken (some (.string t)) =
          if Text.isBlankLetters t then .error .rejected else .ok t := rfl
      rw [hread]
      cases hblank : Text.isBlankLetters t <;> simp [hblank]
    | _ => simp [readAccessToken, Coercion.toText]

theorem readRequiredInt_isOk_iff :
    (readRequiredInt value).isOk = true ↔ ∃ v i, value = some v ∧ Coercion.toInt v = .ok i := by
  rw [isOk_iff]
  cases value <;> simp [readRequiredInt]

theorem readIntOrNull_isOk_iff {default : Int} : (readIntOrNull default value).isOk = true ↔
    value = none ∨ value = some .null ∨ ∃ v i, value = some v ∧ Coercion.toInt v = .ok i := by
  rw [isOk_iff]
  cases value with
  | none => simp [readIntOrNull]
  | some v => cases v <;> simp [readIntOrNull]

theorem readText_isOk_iff {default : Text} :
    (readText default value).isOk = true ↔ value = none ∨ ∃ t, value = some (.string t) := by
  rw [isOk_iff]
  cases value with
  | none => simp [readText]
  | some v => simp [readText, toText_eq_ok_iff]

theorem readTextOrNull_isOk_iff {default : Text} : (readTextOrNull default value).isOk = true ↔
    value = none ∨ value = some .null ∨ ∃ t, value = some (.string t) := by
  unfold readTextOrNull
  split
  · simp [isOk_iff]
  · next hnull =>
    have hne : value ≠ some .null := fun h => hnull h
    rw [readText_isOk_iff]
    simp only [hne, false_or]

theorem readOptionalText_isOk_iff : (readOptionalText value).isOk = true ↔
    value = none ∨ value = some .null ∨ ∃ t, value = some (.string t) := by
  rw [isOk_iff]
  cases value with
  | none => simp [readOptionalText]
  | some v => cases v <;> simp [readOptionalText, Coercion.toText, Except.map]

end Readers

namespace Member

/-- A member is taken exactly if it fits. -/
theorem accepts_iff_fits (m : Member) (value : Option Json) : m.accepts value = true ↔ m.Fits value := by
  cases m with
  | accessToken => exact readAccessToken_isOk_iff
  | expiresIn => exact readRequiredInt_isOk_iff
  | tokenType => exact readText_isOk_iff
  | extExpiresIn => exact readIntOrNull_isOk_iff
  | refreshToken => exact readOptionalText_isOk_iff
  | idToken => exact readOptionalText_isOk_iff
  | scope => exact readTextOrNull_isOk_iff
  | clientInfo => exact readOptionalText_isOk_iff
  | familyId => exact iff_of_true rfl trivial

instance (m : Member) (value : Option Json) : Decidable (m.Fits value) :=
  decidable_of_iff (m.accepts value = true) (m.accepts_iff_fits value)

end Member

/-! ## 3. All members -/

/-- The members that do not fit, in the order in which they are declared. -/
def misfits (members : JsonObject) : List Member :=
  Member.all.filter fun m => ¬ m.Fits (Json.member? members m.name)

theorem mem_misfits_iff {members : JsonObject} {m : Member} :
    m ∈ misfits members ↔ ¬ m.Fits (Json.member? members m.name) := by
  simp [misfits, m.mem_all]

theorem misfits_eq_nil_iff {members : JsonObject} :
    misfits members = [] ↔ ∀ m : Member, m.Fits (Json.member? members m.name) := by
  simp [List.eq_nil_iff_forall_not_mem, mem_misfits_iff]

theorem nodup_misfits (members : JsonObject) : ((misfits members).map Member.name).Nodup :=
  Member.nodup_names.sublist (List.filter_sublist.map Member.name)

/-- A reader that fails leaves the name of its member, and one that does not leaves none. -/
theorem settle_fields {α : Type} {m : Member} (members : JsonObject) {result : Except FieldProblem α}
    (h : m.accepts (Json.member? members m.name) = result.isOk) (default : α) :
    (settle m.name default result).2.map (·.field) =
      ([m].filter fun m => ¬ m.Fits (Json.member? members m.name)).map Member.name := by
  have hfits := m.accepts_iff_fits (Json.member? members m.name)
  rw [h] at hfits
  cases result with
  | ok value =>
    have hfit : m.Fits (Json.member? members m.name) := hfits.mp rfl
    simp [settle, hfit]
  | error problem =>
    have hmisfit : ¬ m.Fits (Json.member? members m.name) := fun hm =>
      Bool.false_ne_true (hfits.mpr hm)
    simp [settle, hmisfit]

/-- **An object makes a payload, or names the members that do not fit.** -/
theorem ofMembers_eq (members : JsonObject) : ∃ payload faults,
    ofMembers members = (if faults.isEmpty then .ok payload else .error faults) ∧
      faults.map (·.field) = (misfits members).map Member.name := by
  refine ⟨_, _, rfl, ?_⟩
  -- the faults are put together reader by reader, so the members that do not fit are taken one by one, too
  have hall : Member.all = [.accessToken] ++ [.expiresIn] ++ [.tokenType] ++ [.extExpiresIn] ++
      [.refreshToken] ++ [.idToken] ++ [.scope] ++ [.clientInfo] ++ [.familyId] := rfl
  have hfamilyId : [Member.familyId].filter (fun m => ¬ m.Fits (Json.member? members m.name)) = [] := by
    simp [Member.Fits]
  rw [misfits, hall]
  simp only [List.filter_append, List.map_append, hfamilyId, List.append_nil]
  rw [← settle_fields members (m := .accessToken) rfl [], ← settle_fields members (m := .expiresIn) rfl 0,
    ← settle_fields members (m := .tokenType) rfl [], ← settle_fields members (m := .extExpiresIn) rfl 0,
    ← settle_fields members (m := .refreshToken) rfl none, ← settle_fields members (m := .idToken) rfl none,
    ← settle_fields members (m := .scope) rfl [], ← settle_fields members (m := .clientInfo) rfl none]
  rfl

/-- Nothing of an object counts but the members that are looked at. -/
theorem ofMembers_congr {members members' : JsonObject}
    (h : ∀ m : Member, Json.member? members' m.name = Json.member? members m.name) :
    ofMembers members' = ofMembers members := by
  have hget : Member.all.map (fun m => Json.member? members' m.name) =
      Member.all.map fun m => Json.member? members m.name := List.map_congr_left fun m _ => h m
  simp only [Member.all, Member.name, List.map_cons, List.cons.injEq] at hget
  unfold ofMembers
  simp only [hget]

/-! ## 4. Responses -/

variable {room : Nat} {r : Response} {members : JsonObject}

theorem ofResponse_of_object (h : r.object room = .ok members) :
    ofResponse room r =
      (ofMembers members).mapError fun faults => .transport (.badFields (faults.map (·.field))) := by
  rw [ofResponse, h]
  rfl

/-- **A success is decoded exactly if its members fit.** If one does not, the failure is a transport fault
whose message names all that do not, each once, in the order of declaration. Responses whose declared
members are the same are decoded alike, whatever else they have and in whatever order. -/
theorem ofResponse_members (h : r.object room = .ok members) :
    ((∃ payload, ofResponse room r = .ok payload) ↔
      ∀ m : Member, m.Fits (Json.member? members m.name)) ∧
    (∀ failure, ofResponse room r = .error failure → ((misfits members).map Member.name).Nodup ∧
      ∃ fault, failure = .transport fault ∧ fault.message = "Invalid token response, bad fields: " ++
        String.intercalate ", " ((misfits members).map Member.name)) ∧
    ∀ (room' : Nat) (r' : Response) (members' : JsonObject), r'.object room' = .ok members' →
      (∀ m : Member, Json.member? members' m.name = Json.member? members m.name) →
        ofResponse room' r' = ofResponse room r := by
  obtain ⟨payload, faults, houtcome, hfields⟩ := ofMembers_eq members
  refine ⟨?_, fun failure hfailure => ?_, fun room' r' members' h' hsame => ?_⟩
  · simp only [ofResponse_of_object h, mapError_eq_ok, houtcome]
    rw [← misfits_eq_nil_iff, ← List.map_eq_nil_iff (f := Member.name), ← hfields, List.map_eq_nil_iff]
    cases faults <;> simp
  · rw [ofResponse_of_object h, mapError_eq_error, houtcome] at hfailure
    obtain ⟨found, hfound, rfl⟩ := hfailure
    split at hfound
    · cases hfound
    · cases hfound
      rw [hfields]
      exact ⟨nodup_misfits members, _, rfl, rfl⟩
  · rw [ofResponse_of_object h', ofResponse_of_object h, ofMembers_congr hsame]

/-- A blank token, a null that does not stand for a missing type, and a number for a scope; the lifetime
may be written as a text. -/
theorem ofResponse_members_three_faults :
    let r : Response :=
      { status := 200
        body := "\x7b\"scope\":5,\"x\":[],\"access_token\":\" \",\"expires_in\":\"060.0\",\"token_type\":null\x7d" }
    ∃ members fault, r.object 2 = .ok members ∧ ofResponse 2 r = .error (.transport fault) ∧
      fault.message = "Invalid token response, bad fields: access_token, token_type, scope" := by
  intro r
  let members : JsonObject :=
    [(.ofString "scope", .int 5), (.ofString "x", .array []), (.ofString "access_token", .ofString " "),
      (.ofString "expires_in", .ofString "060.0"), (.ofString "token_type", .null)]
  have hobject : r.object 2 = .ok members := by
    dsimp only [r]
    rfl
  obtain ⟨hdecoded, hnamed, -⟩ := ofResponse_members hobject
  have hmisfits : misfits members = [.accessToken, .tokenType, .scope] := by decide
  cases hresult : ofResponse 2 r with
  | ok payload =>
    have hfits := hdecoded.mp ⟨payload, hresult⟩
    rw [← misfits_eq_nil_iff, hmisfits] at hfits
    cases hfits
  | error failure =>
    obtain ⟨-, fault, rfl, hmessage⟩ := hnamed failure hresult
    refine ⟨members, fault, hobject, rfl, ?_⟩
    rw [hmessage, hmisfits]
    rfl

end TokenEndpoint.Payload
