import Mathlib.Data.List.Nodup
import TokenEndpoint.Proofs.Payloads
/-!
Members that are null against members that are missing. A member that a response of success may leave out
is read alike in both cases, the token type excepted: null is no token type, so where a missing one is taken
as the default, null is a fault. Main statement:

* `null_as_absent_iff` -- null and absence of a member come to the same exactly if the member is not the
  token type.
-/

namespace TokenEndpoint.Payload

/-! ## 1. Members that may be missing -/

namespace Member

/-- The members that have a default. -/
def optional : List Member :=
  [tokenType, extExpiresIn, refreshToken, idToken, scope, clientInfo, familyId]

/-- These are the members that may be missing. -/
theorem mem_optional_iff {m : Member} : m ∈ optional ↔ m.Fits none := by
  cases m <;> simp [optional, Fits]

/-- The reader of a member makes the same of two values. -/
def ReadsAlike (value value' : Option Json) : Member → Prop
  | accessToken => readAccessToken value = readAccessToken value'
  | expiresIn => readRequiredInt value = readRequiredInt value'
  | tokenType => readText "Bearer" value = readText "Bearer" value'
  | extExpiresIn => readIntOrNull 0 value = readIntOrNull 0 value'
  | refreshToken => readOptionalText value = readOptionalText value'
  | idToken => readOptionalText value = readOptionalText value'
  | scope => readTextOrNull "" value = readTextOrNull "" value'
  | clientInfo => readOptionalText value = readOptionalText value'
  | familyId => readFamilyId value = readFamilyId value'

theorem ReadsAlike.refl (m : Member) (value : Option Json) : m.ReadsAlike value value := by
  cases m <;> rfl

/-- A member that may be missing is read alike if it is null, but for the token type. -/
theorem readsAlike_null {m : Member} (hm : m ∈ optional) (htype : m ≠ tokenType) :
    m.ReadsAlike (some .null) none := by
  cases m with
  | accessToken => exact absurd hm (by decide)
  | expiresIn => exact absurd hm (by decide)
  | tokenType => exact absurd rfl htype
  | _ => rfl

theorem not_fits_null_tokenType : ¬ tokenType.Fits (some .null) := by
  decide

end Member

/-- Objects whose members are read alike make the same payload, or have the same faults. -/
theorem ofMembers_of_readsAlike {members members' : JsonObject}
    (h : ∀ m : Member, m.ReadsAlike (Json.member? members m.name) (Json.member? members' m.name)) :
    ofMembers members = ofMembers members' := by
  have haccess : readAccessToken (Json.member? members "access_token") =
      readAccessToken (Json.member? members' "access_token") := h .accessToken
  have hexpires : readRequiredInt (Json.member? members "expires_in") =
      readRequiredInt (Json.member? members' "expires_in") := h .expiresIn
  have htype : readText "Bearer" (Json.member? members "token_type") =
      readText "Bearer" (Json.member? members' "token_type") := h .tokenType
  have hext : readIntOrNull 0 (Json.member? members "ext_expires_in") =
      readIntOrNull 0 (Json.member? members' "ext_expires_in") := h .extExpiresIn
  have hrefresh : readOptionalText (Json.member? members "refresh_token") =
      readOptionalText (Json.member? members' "refresh_token") := h .refreshToken
  have hid : readOptionalText (Json.member? members "id_token") =
      readOptionalText (Json.member? members' "id_token") := h .idToken
  have hscope : readTextOrNull "" (Json.member? members "scope") =
      readTextOrNull "" (Json.member? members' "scope") := h .scope
  have hinfo : readOptionalText (Json.member? members "client_info") =
      readOptionalText (Json.member? members' "client_info") := h .clientInfo
  have hfamily : readFamilyId (Json.member? members "foci") =
      readFamilyId (Json.member? members' "foci") := h .familyId
  unfold ofMembers
  simp only [haccess, hexpires, htype, hext, hrefresh, hid, hscope, hinfo, hfamily]

/-! ## 2. Two objects -/

/-- Two objects of which the first has a member that is null and the second leaves it out; all other
members that are looked at are the same. -/
structure NullAndAbsent (m : Member) (members members' : JsonObject) : Prop where
  null : Json.member? members m.name = some .null
  absent : Json.member? members' m.name = none
  others : ∀ other : Member, other ≠ m →
    Json.member? members other.name = Json.member? members' other.name

variable {members members' : JsonObject}

theorem NullAndAbsent.ofMembers_eq {m : Member} (h : NullAndAbsent m members members')
    (hm : m ∈ Member.optional) (htype : m ≠ .tokenType) : ofMembers members = ofMembers members' := by
  refine ofMembers_of_readsAlike fun other => ?_
  by_cases heq : other = m
  · subst heq
    rw [h.null, h.absent]
    exact Member.readsAlike_null hm htype
  · rw [h.others other heq]
    exact Member.ReadsAlike.refl other _

/-- A token type that is null is one fault more than a missing one. -/
theorem NullAndAbsent.length_misfits (h : NullAndAbsent .tokenType members members') :
    (misfits members).length = (misfits members').length + 1 := by
  have hnull : ¬ Member.tokenType.Fits (Json.member? members Member.tokenType.name) := by
    rw [h.null]
    exact Member.not_fits_null_tokenType
  have habsent : Member.tokenType.Fits (Json.member? members' Member.tokenType.name) := by
    rw [h.absent]
    exact Member.mem_optional_iff.mp (by decide)
  have hnot : Member.tokenType ∉ misfits members' := fun hmem => mem_misfits_iff.mp hmem habsent
  have hperm : (misfits members).Perm (.tokenType :: misfits members') := by
    have hnodup (fields : JsonObject) : (misfits fields).Nodup :=
      List.Nodup.of_map Member.name (nodup_misfits fields)
    refine (List.perm_ext_iff_of_nodup (hnodup members)
      (List.nodup_cons.mpr ⟨hnot, hnodup members'⟩)).mpr fun other => ?_
    rw [List.mem_cons, mem_misfits_iff, mem_misfits_iff]
    by_cases heq : other = .tokenType
    · subst heq
      exact iff_of_true hnull (.inl rfl)
    · rw [h.others other heq]
      exact (or_iff_right heq).symm
  exact hperm.length_eq

/-! ## 3. Messages -/

/-- A mark that the parts do not hold stands once in each joint. -/
theorem count_intercalate {mark : Char} {joint : List Char} (hjoint : joint.count mark = 1)
    {parts : List (List Char)} (h : ∀ part ∈ parts, mark ∉ part) :
    (List.intercalate joint parts).count mark = parts.length - 1 := by
  induction parts with
  | nil => rfl
  | cons part rest ih =>
    have hpart : part.count mark = 0 := List.count_eq_zero.mpr (h part List.mem_cons_self)
    cases rest with
    | nil => rw [List.intercalate_singleton, hpart]; rfl
    | cons next rest =>
      rw [List.intercalate_cons_cons, List.count_append, List.count_append, hpart, hjoint,
        ih fun p hp => h p (List.mem_cons_of_mem part hp)]
      simp only [List.length_cons]
      omega

theorem comma_not_mem_name (m : Member) : ',' ∉ m.name.toList := by
  cases m <;> decide

/-- The commas of a message count the members that it names. -/
theorem count_comma_badFields {ms : List Member} (hne : ms ≠ []) :
    (TransportFault.badFields (ms.map Member.name)).message.toList.count ',' = ms.length := by
  have hfront : "Invalid token response, bad fields: ".toList.count ',' = 1 := by decide
  have hjoint : ", ".toList.count ',' = 1 := by decide
  have hnames : ∀ part ∈ (ms.map Member.name).map String.toList, ',' ∉ part := by
    intro part hpart
    rw [List.map_map] at hpart
    obtain ⟨m, -, rfl⟩ := List.mem_map.mp hpart
    exact comma_not_mem_name m
  have hpos : 0 < ms.length := List.length_pos_iff.mpr hne
  have hmessage : (TransportFault.badFields (ms.map Member.name)).message =
      "Invalid token response, bad fields: " ++ String.intercalate ", " (ms.map Member.name) := rfl
  rw [hmessage, String.toList_append, List.count_append, hfront, String.toList_intercalate,
    count_intercalate hjoint hnames, List.length_map, List.length_map]
  exact Nat.add_sub_of_le hpos

/-! ## 4. Responses -/

/-- What the decoding of a response tells: the payload, or the message of the failure. -/
def told (room : Nat) (r : Response) : Except Text Payload :=
  (ofResponse room r).mapError Failure.message

variable {room : Nat} {r r' : Response}

theorem told_of_object (h : r.object room = .ok members) : told room r =
    (ofMembers members).mapError fun faults =>
      Text.ofString (TransportFault.badFields (faults.map (·.field))).message := by
  rw [told, ofResponse_of_object h]
  cases ofMembers members <;> rfl

/-- Members that do not fit are all that a message tells. -/
theorem told_of_misfits (h : r.object room = .ok members) (hmisfits : misfits members ≠ []) :
    told room r =
      .error (Text.ofString (TransportFault.badFields ((misfits members).map Member.name)).message) := by
  obtain ⟨payload, faults, houtcome, hfields⟩ := ofMembers_eq members
  have hne : faults.isEmpty = false := by
    cases faults with
    | nil => exact absurd (List.map_eq_nil_iff.mp hfields.symm) hmisfits
    | cons fault rest => rfl
  rw [told_of_object h, houtcome, hne, ← hfields]
  rfl

/-- **Null and absence of a member that may be missing come to the same exactly if the member is not the
token type**: to the same payload, or to the same message. -/
theorem null_as_absent_iff {m : Member} (hm : m ∈ Member.optional) (h : r.object room = .ok members)
    (h' : r'.object room = .ok members') (hdiffer : NullAndAbsent m members members') :
    told room r = told room r' ↔ m ≠ .tokenType := by
  constructor
  · rintro hsame rfl
    have hlength := hdiffer.length_misfits
    have hmisfits : misfits members ≠ [] := by
      intro hnil
      rw [hnil] at hlength
      cases hlength
    rw [told_of_misfits h hmisfits] at hsame
    by_cases hnil : misfits members' = []
    · -- nothing is wrong without the member, so there is a payload
      obtain ⟨payload, hpayload⟩ := (ofResponse_members h').1.mpr (misfits_eq_nil_iff.mp hnil)
      rw [told, hpayload] at hsame
      cases hsame
    · rw [told_of_misfits h' hnil] at hsame
      have hcount : (TransportFault.badFields ((misfits members).map Member.name)).message.toList.count ',' =
          (TransportFault.badFields ((misfits members').map Member.name)).message.toList.count ',' := by
        rw [Text.ofString_inj.mp (Except.error.inj hsame)]
      rw [count_comma_badFields hmisfits, count_comma_badFields hnil] at hcount
      omega
  · intro htype
    rw [told_of_object h, told_of_object h', hdiffer.ofMembers_eq hm htype]

/-- Without a token type there is a payload; with a null one the type is a fault. -/
theorem null_as_absent_iff_tokenType :
    let null : Response :=
      { status := 200
        body := "\x7b\"access_token\":\"AT\",\"expires_in\":1,\"token_type\":null\x7d" }
    let absent : Response :=
      { status := 200, body := "\x7b\"access_token\":\"AT\",\"expires_in\":1\x7d" }
    told 1 null = .error (Text.ofString "Invalid token response, bad fields: token_type") ∧
      told 1 absent = .ok { accessToken := "AT", expiresIn := 1 } ∧ told 1 null ≠ told 1 absent := by
  intro null absent
  let members : JsonObject := [(.ofString "access_token", .ofString "AT"), (.ofString "expires_in", .int 1)]
  have hnull : null.object 1 = .ok (members ++ [(.ofString "token_type", .null)]) := by
    dsimp only [null]
    rfl
  have habsent : absent.object 1 = .ok members := by
    dsimp only [absent]
    rfl
  have hdiffer : NullAndAbsent .tokenType (members ++ [(.ofString "token_type", .null)]) members :=
    ⟨rfl, rfl, fun other hne => by cases other <;> first | rfl | exact absurd rfl hne⟩
  have hne : told 1 null ≠ told 1 absent := fun hsame =>
    (null_as_absent_iff (by decide) hnull habsent hdiffer).mp hsame rfl
  refine ⟨?_, ?_, hne⟩
  · rw [told_of_object hnull]
    rfl
  · rw [told_of_object habsent]
    rfl

end TokenEndpoint.Payload
