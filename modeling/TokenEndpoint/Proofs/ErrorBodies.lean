import TokenEndpoint.Proofs.JsonDepth
import TokenEndpoint.Proofs.Refusals
/-!
What a refusal keeps of the body that it came with. The body may be any text that there is room to read: a
member counts if it has the JSON kind that is looked for, and else it is as if it were missing; a body that
is no JSON object has no members. A body that is nested deeper is not refused but given up. Main statement:

* `refuses_iff_not_tooDeep` -- every response but a success is a refusal that reports what its body says,
  exactly if the body is not nested too deep.
-/

namespace TokenEndpoint

/-! ## 1. Codes between blanks -/

/-- The code that is reported for a text: the text without the blanks around it, or the code for a
missing one. -/
theorem serviceCode_of_blank {code : Text} (h : Text.isBlankLetters code = true) :
    serviceCode code = ErrorCode.unknown.name := by
  have hempty : (Text.trimLetters code).isEmpty = true :=
    List.isEmpty_iff.mpr (Text.trimLetters_eq_nil_iff.mpr h)
  rw [serviceCode, if_pos hempty]

theorem serviceCode_of_not_blank {code : Text} (h : Text.isBlankLetters code = false) :
    serviceCode code = Text.trimLetters code := by
  have hne : ¬ (Text.trimLetters code).isEmpty = true := by
    intro he
    have hblank := Text.trimLetters_eq_nil_iff.mp (List.isEmpty_iff.mp he)
    exact Bool.false_ne_true (h.symm.trans hblank)
  rw [serviceCode, if_neg hne]

/-- A reported code is not blank and has no blanks around it. -/
theorem serviceCode_normal (code : Text) :
    Text.isBlankLetters (serviceCode code) = false ∧
      Text.trimLetters (serviceCode code) = serviceCode code := by
  cases h : Text.isBlankLetters code with
  | true =>
    rw [serviceCode_of_blank h]
    exact ⟨by decide, by decide⟩
  | false =>
    rw [serviceCode_of_not_blank h]
    refine ⟨?_, Text.trimLetters_trimLetters code⟩
    cases hb : Text.isBlankLetters (Text.trimLetters code) with
    | false => rfl
    | true =>
      have hempty := Text.trimLetters_eq_nil_iff.mpr hb
      rw [Text.trimLetters_trimLetters, Text.trimLetters_eq_nil_iff] at hempty
      exact hempty.symm.trans h

/-! ## 2. Members by their kind -/

namespace Json

/-- `found` is the text that a member holds, none if it is missing or of another kind. -/
def TextOf (value : Option Json) (found : Option Text) : Prop :=
  ∀ t, found = some t ↔ value = some (.string t)

/-- The integers among the items of a list, in order. A truth value is no integer, nor is a number with
a point or an exponent. -/
inductive IntegersOf : List Json → List Int → Prop where
  | none : IntegersOf [] []
  | take {items : List Json} {found : List Int} (i : Int) (rest : IntegersOf items found) :
      IntegersOf (.int i :: items) (i :: found)
  | skip {v : Json} {items : List Json} {found : List Int} (other : ∀ i, v ≠ .int i)
      (rest : IntegersOf items found) : IntegersOf (v :: items) found

theorem textOf_member (members : JsonObject) (name : String) :
    TextOf (member? members name) (member members name).text? := by
  intro t
  rw [member]
  cases member? members name with
  | none => simp [text?]
  | some v => cases v <;> simp [text?]

end Json

namespace ErrorDetails

/-- The integers that are kept of a list are the integers of the list. -/
theorem integersOf_array (items : List Json) : Json.IntegersOf items (integers (.array items)) := by
  induction items with
  | nil => exact .none
  | cons v rest ih =>
    cases v with
    | int i => exact .take i ih
    | _ => exact .skip (fun i h => nomatch h) ih

/-- Of a member that is no list nothing is kept. -/
theorem integers_eq_nil {v : Json} (h : ∀ items, v ≠ .array items) : integers v = [] := by
  cases v with
  | array items => exact absurd rfl (h items)
  | _ => rfl

end ErrorDetails

/-! ## 3. What a refusal reports -/

/-- A refusal says of the members of a body what they say: the code is that of the member `error`,
without blanks around it, the texts and service codes are those of their members, and none where a
member has another kind or is missing. -/
structure Refusal.Reports (refusal : Refusal) (members : JsonObject) : Prop where
  code : ∀ t : Text, Json.member? members "error" = some (.string t) →
    Text.isBlankLetters t = false → refusal.code = Text.trimLetters t
  unknown : (∀ t : Text, Json.member? members "error" = some (.string t) →
    Text.isBlankLetters t = true) → refusal.code = ErrorCode.unknown.name
  description : Json.TextOf (Json.member? members "error_description") refusal.description
  correlationId : Json.TextOf (Json.member? members "correlation_id") refusal.correlationId
  subError : Json.TextOf (Json.member? members "suberror") refusal.subError
  serviceCodes : ∀ items, Json.member? members "error_codes" = some (.array items) →
    Json.IntegersOf items refusal.serviceCodes
  noServiceCodes : (∀ items, Json.member? members "error_codes" ≠ some (.array items)) →
    refusal.serviceCodes = []

namespace ErrorDetails

/-- Whatever its kind, a refusal keeps everything but code and claims as the details have it. -/
theorem classify_kept (d : ErrorDetails) :
    d.classify.description = d.description ∧ d.classify.rawBody = d.rawBody ∧
      d.classify.status = d.status ∧ d.classify.serviceCodes = d.serviceCodes ∧
      d.classify.correlationId = d.correlationId ∧ d.classify.subError = d.subError := by
  unfold classify
  dsimp only
  split
  · exact ⟨rfl, rfl, rfl, rfl, rfl, rfl⟩
  · split
    · exact ⟨rfl, rfl, rfl, rfl, rfl, rfl⟩
    · exact ⟨rfl, rfl, rfl, rfl, rfl, rfl⟩

/-- The refusal of a body reports the members that are read from it. -/
theorem classify_reports (r : Response) (members : JsonObject) :
    (ofMembers r members).classify.Reports members := by
  obtain ⟨hdescription, -, -, hcodes, hcorrelation, hsub⟩ := (ofMembers r members).classify_kept
  have hcode : (ofMembers r members).classify.code =
      serviceCode ((Json.member members "error").text?.getD []) := code_classify _
  have htext := Json.textOf_member members "error"
  refine ⟨?_, ?_, ?_, ?_, ?_, ?_, ?_⟩
  · intro t ht hblank
    rw [hcode, (htext t).mpr ht]
    exact serviceCode_of_not_blank hblank
  · intro hblank
    rw [hcode]
    cases hfound : (Json.member members "error").text? with
    | none => exact serviceCode_of_blank rfl
    | some t => exact serviceCode_of_blank (hblank t ((htext t).mp hfound))
  · rw [hdescription]
    exact Json.textOf_member _ _
  · rw [hcorrelation]
    exact Json.textOf_member _ _
  · rw [hsub]
    exact Json.textOf_member _ _
  · intro items hitems
    have hmember : Json.member members "error_codes" = .array items := by
      rw [Json.member, hitems]
      rfl
    rw [hcodes]
    show Json.IntegersOf items (integers (Json.member members "error_codes"))
    rw [hmember]
    exact integersOf_array items
  · intro hno
    rw [hcodes]
    refine integers_eq_nil fun items hitems => ?_
    cases hm : Json.member? members "error_codes" with
    | none => rw [Json.member, hm] at hitems; cases hitems
    | some v =>
      rw [Json.member, hm] at hitems
      exact hno items (hm.trans (congrArg some hitems))

section Bodies

variable {room : Nat} {r : Response}

/-- The members of a body that is a JSON object are its own. -/
theorem membersOf_of_read {members : JsonObject} (h : Json.read room r.body = .ok (.object members)) :
    membersOf room r = .ok members := by
  rw [membersOf, Response.object, h]

/-- A body that is no JSON object has no members, if there is room to read it. -/
theorem membersOf_of_no_object (hroom : ¬ Json.TooDeep room r.body.toList)
    (h : ∀ members, Json.read room r.body ≠ .ok (.object members)) : membersOf room r = .ok [] := by
  rw [membersOf, Response.object]
  cases hread : Json.read room r.body with
  | error halt =>
    cases halt with
    | fault found => rfl
    | tooDeep container => exact absurd ⟨container, hread⟩ hroom
  | ok v =>
    cases v with
    | object members => exact absurd hread (h members)
    | _ => rfl

/-- A body that is nested too deep has no details at all. -/
theorem ofResponse_of_tooDeep {container : Json.Container}
    (h : Json.read room r.body = .error (.tooDeep container)) :
    ofResponse room r = .error (.tooDeep container) := by
  rw [ofResponse, membersOf, Response.object, h]
  rfl

/-- Details are read from every other body. -/
theorem exists_ofResponse_iff :
    (∃ details, ofResponse room r = .ok details) ↔ ¬ Json.TooDeep room r.body.toList := by
  constructor
  · rintro ⟨details, hdetails⟩ ⟨container, hread⟩
    rw [ofResponse_of_tooDeep hread] at hdetails
    cases hdetails
  · intro hroom
    by_cases hobject : ∃ members, Json.read room r.body = .ok (.object members)
    · obtain ⟨members, hread⟩ := hobject
      exact ⟨_, by rw [ofResponse, membersOf_of_read hread]; rfl⟩
    · exact ⟨_, by rw [ofResponse, membersOf_of_no_object hroom (not_exists.mp hobject)]; rfl⟩

end Bodies

/-- Without members a refusal is one of the service, with the code for a missing one. -/
theorem kind_of_no_members (r : Response) : (ofMembers r []).classify.kind = .service := by
  have hcode : (ofMembers r []).code = [] := rfl
  unfold classify
  dsimp only
  rw [hcode, if_neg (by decide), if_neg fun hi => absurd hi.2 (by decide)]

end ErrorDetails

/-- A refusal tells of the response that it came with: its code is not blank and has no blanks around it;
body and status are those of the response; the rest is what the members of the body say. A body that is no
JSON object gives a refusal of the service without particulars. -/
structure Refusal.Tells (refusal : Refusal) (room : Nat) (r : Response) : Prop where
  notBlank : Text.isBlankLetters refusal.code = false
  trimmed : Text.trimLetters refusal.code = refusal.code
  rawBody : refusal.rawBody = r.body
  status : refusal.status = r.status
  object : ∀ members, Json.read room r.body = .ok (.object members) → refusal.Reports members
  noObject : (∀ members, Json.read room r.body ≠ .ok (.object members)) →
    refusal.kind = .service ∧ refusal.code = ErrorCode.unknown.name ∧ refusal.Reports []

/-- What the details of a response are classified as tells of it. -/
theorem ErrorDetails.classify_tells {room : Nat} {r : Response} {details : ErrorDetails}
    (h : ofResponse room r = .ok details) : details.classify.Tells room r := by
  have hroom : ¬ Json.TooDeep room r.body.toList := exists_ofResponse_iff.mp ⟨details, h⟩
  obtain ⟨members, hmembers, rfl⟩ := map_eq_ok.mp h
  obtain ⟨-, hbody, hstatus, -⟩ := (ofMembers r members).classify_kept
  have hreports := classify_reports r members
  have hnormal := serviceCode_normal (ofMembers r members).code
  rw [← code_classify] at hnormal
  refine ⟨hnormal.1, hnormal.2, hbody, hstatus, fun found hread => ?_, fun hno => ?_⟩
  · cases hmembers.symm.trans (membersOf_of_read hread)
    exact hreports
  · cases hmembers.symm.trans (membersOf_of_no_object hroom hno)
    have hunknown := hreports.unknown fun t ht => nomatch ht
    exact ⟨kind_of_no_members r, hunknown, hreports⟩

/-- At any status, a response whose body is nested too deep is given up. -/
theorem Response.classify_of_tooDeep {room : Nat} {r : Response} {container : Json.Container}
    (h : Json.read room r.body = .error (.tooDeep container)) :
    r.classify room = .error (.tooDeep container) := by
  rw [classify]
  split
  · rw [Payload.ofResponse, object, h]
    rfl
  · rw [ErrorDetails.ofResponse_of_tooDeep h]
    rfl

/-- **Every response but a success is a refusal that tells of it, exactly if its body is not nested too
deep**; a body that is, is given up with a failure that is none of the documented ones. -/
theorem refuses_iff_not_tooDeep (room : Nat) (r : Response) (hs : r.status ≠ Response.success) :
    ((∃ refusal, r.classify room = .error (.refused refusal) ∧ refusal.Tells room r) ↔
      ¬ Json.TooDeep room r.body.toList) ∧
    (Json.TooDeep room r.body.toList →
      ∃ container, r.classify room = .error (.tooDeep container)) := by
  refine ⟨⟨?_, fun hroom => ?_⟩, ?_⟩
  · rintro ⟨refusal, hrefused, -⟩ ⟨container, hread⟩
    rw [Response.classify_of_tooDeep hread] at hrefused
    cases hrefused
  · obtain ⟨details, hdetails⟩ := ErrorDetails.exists_ofResponse_iff.mpr hroom
    exact ⟨_, classify_of_ne_success hs hdetails, ErrorDetails.classify_tells hdetails⟩
  · rintro ⟨container, hread⟩
    exact ⟨container, Response.classify_of_tooDeep hread⟩

/-- Two bodies at one status: one with a lone surrogate in its code, a list of four kinds of item and a
correlation id that is no text; and one with two thousand lists inside each other. -/
theorem refuses_iff_not_tooDeep_two_thousand :
    let mixed : Response :=
      { status := 400
        body := "\x7b\"error\":\" slow\\ud800\",\"error_codes\":[1,true,\"2\",-4],\"suberror\":7\x7d" }
    let deep : Response :=
      { status := 400
        body := String.ofList (Json.nested 2000 ++ (List.replicate 2000 ']' ++ ['\x7d'])) }
    (∃ refusal, mixed.classify 980 = .error (.refused refusal) ∧
      refusal.code = Text.ofString "slow" ++ [.lone 0] ∧ refusal.subError = none ∧
      Json.IntegersOf [.int 1, .bool true, .string (.ofString "2"), .int (-4)] refusal.serviceCodes) ∧
    deep.status ≠ Response.success ∧ ∃ container, deep.classify 980 = .error (.tooDeep container) := by
  intro mixed deep
  have hread : Json.read 980
      "\x7b\"error\":\" slow\\ud800\",\"error_codes\":[1,true,\"2\",-4],\"suberror\":7\x7d" =
      .ok (.object
        [(.ofString "error", .string (Text.ofString " slow" ++ [.lone 0])),
          (.ofString "error_codes",
            .array [.int 1, .bool true, .string (.ofString "2"), .int (-4)]),
          (.ofString "suberror", .int 7)]) := by rfl
  have hshallow : ¬ Json.TooDeep 980 mixed.body.toList := Json.not_tooDeep_of_openings (by decide)
  have hnested : Json.TooDeep 980 deep.body.toList := by
    show Json.TooDeep 980 (String.ofList _).toList
    rw [String.toList_ofList]
    exact Json.tooDeep_nested (by decide) _
  have hs : deep.status ≠ Response.success := by decide
  refine ⟨?_, hs, (refuses_iff_not_tooDeep 980 deep hs).2 hnested⟩
  obtain ⟨refusal, hr, htells⟩ := (refuses_iff_not_tooDeep 980 mixed (by decide)).1.mpr hshallow
  have hreports := htells.object _ hread
  have hcode := hreports.code (Text.ofString " slow" ++ [.lone 0]) rfl (by decide)
  have htrim : Text.trimLetters (Text.ofString " slow" ++ [.lone 0]) =
      Text.ofString "slow" ++ [.lone 0] := by decide
  have hcodes := hreports.serviceCodes
    [.int 1, .bool true, .string (.ofString "2"), .int (-4)] rfl
  refine ⟨refusal, hr, hcode.trans htrim, ?_, hcodes⟩
  cases hid : refusal.subError with
  | none => rfl
  | some t => cases (hreports.subError t).mp hid

end TokenEndpoint
