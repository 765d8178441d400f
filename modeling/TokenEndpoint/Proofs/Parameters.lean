import TokenEndpoint.Proofs.Building
/-!
The parameters of a built request: those of the grant, and over them those that the credential sets.
Main statement:

* `exists_buildRequest` -- a grant that can be serialized, at an endpoint that is accepted, gives a
  request whose body encodes these parameters.
-/

namespace TokenEndpoint

/-! ## 1. Fields without one name -/

namespace Fields

variable {κ α : Type} [DecidableEq κ]

/-- The first field of a name is still the first after fields of other kinds have been left out. -/
theorem get?_filter {name : κ} {value : α} {fields : Fields κ α} {p : κ × α → Bool}
    (h : fields.get? name = some value) (hp : p (name, value) = true) :
    get? name (fields.filter p) = some value := by
  induction fields with
  | nil => cases h
  | cons field rest ih =>
    obtain ⟨k, v⟩ := field
    by_cases hk : k = name
    · subst hk
      rw [get?, if_pos rfl] at h
      cases h
      rw [List.filter_cons_of_pos hp, get?, if_pos rfl]
    · rw [get?, if_neg hk] at h
      rw [List.filter_cons]
      split
      · rw [get?, if_neg hk, ih h]
      · exact ih h

/-- The fields of all other names. -/
def without (name : κ) (fields : Fields κ α) : Fields κ α :=
  fields.filter fun field => decide (field.1 ≠ name)

theorem without_of_not_mem {name : κ} {fields : Fields κ α} (h : name ∉ fields.names) :
    fields.without name = fields :=
  List.filter_eq_self.mpr fun _ hfield => decide_eq_true (ne_of_not_mem_names h hfield)

theorem without_cons_self (name : κ) (value : α) (fields : Fields κ α) :
    without name ((name, value) :: fields) = fields.without name :=
  List.filter_cons_of_neg (by simp)

theorem without_cons_of_ne {name other : κ} (hne : other ≠ name) (value : α) (fields : Fields κ α) :
    without name ((other, value) :: fields) = (other, value) :: fields.without name :=
  List.filter_cons_of_pos (decide_eq_true hne)

/-- The value of a name has no part in the other fields. -/
theorem without_set_self (name : κ) (value : α) (fields : Fields κ α) :
    (fields.set name value).without name = fields.without name := by
  induction fields with
  | nil => exact without_cons_self name value []
  | cons field rest ih =>
    obtain ⟨k, v⟩ := field
    by_cases hk : k = name
    · subst hk
      rw [set, if_pos rfl, without_cons_self, without_cons_self]
    · rw [set, if_neg hk, without_cons_of_ne hk, without_cons_of_ne hk, ih]

/-- Setting another name is the same before a name is left out and after. -/
theorem without_set_of_ne {name other : κ} (hne : other ≠ name) (value : α) (fields : Fields κ α) :
    (fields.set other value).without name = (fields.without name).set other value := by
  induction fields with
  | nil => exact without_cons_of_ne hne value []
  | cons field rest ih =>
    obtain ⟨k, v⟩ := field
    by_cases hk : k = other
    · subst hk
      rw [set, if_pos rfl, without_cons_of_ne hne, without_cons_of_ne hne, set, if_pos rfl]
    · by_cases hname : k = name
      · subst hname
        rw [set, if_neg hk, without_cons_self, without_cons_self, ih]
      · rw [set, if_neg hk, without_cons_of_ne hname, without_cons_of_ne hname, set, if_neg hk, ih]

/-- It does not matter which fields are left out first. -/
theorem without_filter (name : κ) (fields : Fields κ α) (p : κ × α → Bool) :
    without name (fields.filter p) = (fields.without name).filter p := by
  simp only [without, List.filter_filter, Bool.and_comm]

/-- **The fields of other names are set as if the name were in neither list.** -/
theorem without_setAll (name : κ) (fields : Fields κ α) (more : List (κ × α)) :
    (fields.setAll more).without name = (fields.without name).setAll (without name more) := by
  induction more generalizing fields with
  | nil => rfl
  | cons field rest ih =>
    obtain ⟨k, v⟩ := field
    rw [setAll_cons, ih]
    by_cases hk : k = name
    · subst hk
      rw [without_set_self, without_cons_self]
    · rw [without_set_of_ne hk, without_cons_of_ne hk, setAll_cons]

end Fields

/-! ## 2. Credentials and drafts -/

namespace Credential

/-- The parameters that a credential of this library sets, none if there is no credential. -/
def given : Option Credential → Parameters
  | some c => c.parameters
  | Option.none => []

/-- The names of the parameters that a credential of this library sets, in order: one of these lists. -/
def nameLists : List (List String) :=
  [[], ["client_id"], ["client_id", "client_secret"],
    ["client_id", "client_assertion", "client_assertion_type"]]

theorem names_given (credential : Option Credential) : (given credential).names ∈ nameLists := by
  cases credential with
  | none => exact List.mem_cons_self
  | some c => cases c <;> simp [given, parameters, Fields.names, nameLists]

theorem nodup_names_given (credential : Option Credential) : (given credential).names.Nodup :=
  have hall : ∀ names ∈ nameLists, names.Nodup := by decide
  hall _ (names_given credential)

/-- Every parameter that a credential of this library sets has a value. -/
theorem ne_nil_of_mem_given {credential : Option Credential} :
    ∀ field ∈ given credential, field.2 ≠ [] := by
  cases credential with
  | none => exact List.forall_mem_nil _
  | some c => cases c <;> simp [given, parameters]

/-- The headers that a credential of this library sets. -/
def givenHeaders : Option Credential → Fields String String
  | some c => c.headers
  | Option.none => []

theorem applyTo_of_isBuiltIn {c : Credential} (h : c.isBuiltIn = true) (d : Draft) :
    c.applyTo d =
      (c.headers.foldl (fun d (name, value) => d.setHeader name value)
        (d.setParameters c.parameters.letters), Option.none) := by
  cases c with
  | custom change => cases h
  | _ => rfl

/-- A credential of this library sets its parameters and its headers, and cannot fail. -/
theorem applyTo_eq {c : Credential} (h : c.isBuiltIn = true) (d : Draft) :
    c.applyTo d =
      ({ d with
          headers := d.headers.setAll c.headers
          parameters := d.parameters.setAll c.parameters.letters }, Option.none) := by
  rw [applyTo_of_isBuiltIn h, Draft.setParameters_eq, Draft.setHeaders_eq]

end Credential

namespace Draft

theorem addSerialized_eq (d : Draft) (params : LetterParameters) :
    d.addSerialized (.ok params) = .ok { d with parameters := d.parameters.setAll params } :=
  congrArg Except.ok (d.setParameters_eq params)

theorem addCredential_eq (d : Draft) {credential : Option Credential}
    (h : Credential.NoneCustom credential) :
    d.addCredential credential =
      .ok { d with
        headers := d.headers.setAll (Credential.givenHeaders credential)
        parameters := d.parameters.setAll (Credential.given credential).letters } := by
  cases credential with
  | none => rfl
  | some c =>
    rw [addCredential, Credential.applyTo_eq (h c rfl)]
    rfl

end Draft

/-! ## 3. Requests -/

section Requests

variable (platform : String) (headers : Option RequestHeaders) {authority : Authority} {grant : Grant}
  {credential : Option Credential} {url : String} {params : Parameters}

/-- The draft of a request, stage after stage: the headers, the parameters, the credential. -/
theorem buildDraft_eq (hu : checkEndpoint authority.tokenEndpointUrl = .ok url)
    (serialized : LetterParameters) (hc : Credential.NoneCustom credential) :
    buildDraft platform authority (.ok serialized) headers credential =
      .ok {
        url
        headers := (Draft.ofHeaders url platform headers).headers.setAll
          (Credential.givenHeaders credential)
        parameters := (Fields.ofPairs serialized).setAll (Credential.given credential).letters } := by
  rw [buildDraft, hu, ok_bind, Draft.addSerialized_eq, ok_bind, Draft.addCredential_eq _ hc]
  rfl

/-- The request of parameters that are strings: as a draft is, by its stages. -/
theorem buildRequest_eq (hu : checkEndpoint authority.tokenEndpointUrl = .ok url)
    (hg : grant.toParameters = .ok params) (hc : Credential.NoneCustom credential) :
    buildRequest platform authority grant headers credential =
      .ok {
        url
        headers := (Draft.ofHeaders url platform headers).headers.setAll
          (Credential.givenHeaders credential)
        body := Form.encodePairs
          (Parameters.pairs ((Fields.ofPairs params).setAll (Credential.given credential))) } := by
  have hletters : (Fields.ofPairs params.letters).setAll (Credential.given credential).letters =
      Parameters.letters ((Fields.ofPairs params).setAll (Credential.given credential)) := by
    rw [Parameters.letters_setAll, Fields.ofPairs, Fields.ofPairs, Parameters.letters_setAll]
    rfl
  have hdraft := buildDraft_eq platform headers hu params.letters hc
  rw [hletters] at hdraft
  rw [buildRequest, hg]
  show (buildDraft platform authority (.ok params.letters) headers credential >>= _) = _
  rw [hdraft, ok_bind]
  exact Draft.freeze_of_letters rfl

/-- **The parameters of a built request** are those of the grant, and over them those of the credential;
names without a value are left out. -/
theorem exists_buildRequest (hu : checkEndpoint authority.tokenEndpointUrl = .ok url)
    (hg : grant.toParameters = .ok params) (hc : Credential.NoneCustom credential) :
    ∃ request, buildRequest platform authority grant headers credential = .ok request ∧
      request.parameters =
        ((Fields.ofPairs params).setAll (Credential.given credential)).filter
          fun field => !field.2.isEmpty := by
  refine ⟨_, buildRequest_eq platform headers hu hg hc, ?_⟩
  exact Draft.parameters_encode
    (Fields.nodup_names_setAll (Fields.nodup_names_ofPairs params) _) _ _

end Requests

end TokenEndpoint
