import TokenEndpoint.Proofs.Blanks
import TokenEndpoint.Refusal
/-!
Refusals: the kind of a refusal against the code that it reports. The kind is chosen by the code as
the body writes it, the reported code of a service refusal is without the blanks around it; so the two
agree unless the body writes the code of another kind between blanks (`Padded`). Main statements:

* `classify_of_ne_success` -- what any response but a success is classified as;
* `kind_agrees_iff` -- kind and reported code agree exactly where the body's code is not padded.
-/

namespace TokenEndpoint

/-! ## 1. Padded codes -/

/-- A text that has a name between blanks, at least one, on either side or on both. -/
def Padded (name : String) (text : Text) : Prop :=
  text ≠ name ∧ ∃ before after : Text, before.all Text.isBlankLetter = true ∧
    after.all Text.isBlankLetter = true ∧ text = before ++ Text.ofString name ++ after

/-- A name has no blanks at its ends. -/
def Trimmed (name : String) : Prop :=
  Text.trimLetters name = Text.ofString name

instance (name : String) : Decidable (Trimmed name) :=
  inferInstanceAs (Decidable (Text.trimLetters name = Text.ofString name))

/-- Trimming gives such a name from the name and from nothing else but the padded name. -/
theorem trimLetters_eq_iff {name : String} (hname : Trimmed name) (text : Text) :
    Text.trimLetters text = Text.ofString name ↔ text = Text.ofString name ∨ Padded name text := by
  rw [Text.trimLetters, Text.trimItems_eq_iff hname]
  constructor
  · rintro ⟨before, after, hb, ha, h⟩
    by_cases hne : text = Text.ofString name
    · exact Or.inl hne
    · exact Or.inr ⟨hne, before, after, hb, ha, h⟩
  · rintro (rfl | ⟨-, h⟩)
    · exact ⟨[], [], rfl, rfl, by simp⟩
    · exact h

/-- A service's code is a name, other than the one for a missing code, if the body writes that name,
padded or not. -/
theorem serviceCode_eq_iff {name : String} (hname : Trimmed name) (hempty : Text.ofString name ≠ [])
    (hunknown : Text.ofString name ≠ ErrorCode.unknown.name) (code : Text) :
    serviceCode code = Text.ofString name ↔ code = Text.ofString name ∨ Padded name code := by
  rw [← trimLetters_eq_iff hname, serviceCode]
  by_cases h : (Text.trimLetters code).isEmpty = true
  · rw [if_pos h]
    have hnil : Text.trimLetters code = [] := List.isEmpty_iff.mp h
    rw [hnil]
    exact ⟨fun e => absurd e.symm hunknown, fun e => absurd e.symm hempty⟩
  · rw [if_neg h]

/-! ## 2. Kind and code of a refusal -/

namespace ErrorDetails

variable (d : ErrorDetails)

theorem kind_eq_pending_iff :
    d.classify.kind = .pending ↔ d.code = ErrorCode.authorizationPending.name := by
  unfold classify
  dsimp only
  split
  · next h => simp [h]
  · next h =>
    split <;> simp [h]

theorem kind_eq_interactionRequired_iff (hs : d.status = Response.badRequest) :
    (∃ claims, d.classify.kind = .interactionRequired claims) ↔
      d.code = ErrorCode.interactionRequired.name := by
  unfold classify
  dsimp only
  split
  · next h =>
    constructor
    · rintro ⟨claims, hkind⟩
      cases hkind
    · exact fun hcode => absurd (h.symm.trans hcode) (by decide)
  · split
    · next h => simp [h.2]
    · next h => simpa using fun hc => h ⟨hs, hc⟩

/-- Every refusal reports the body's code as a service's code is reported: the names of the two other
kinds are trimmed already. -/
theorem code_classify : d.classify.code = serviceCode d.code := by
  have hpending : serviceCode ErrorCode.authorizationPending.name =
      ErrorCode.authorizationPending.name := by decide
  have hinteraction : serviceCode ErrorCode.interactionRequired.name =
      ErrorCode.interactionRequired.name := by decide
  unfold classify
  dsimp only
  split
  · next h =>
    show d.code = serviceCode d.code
    rw [h, hpending]
  · split
    · next h =>
      show d.code = serviceCode d.code
      rw [h.2, hinteraction]
    · dsimp only

end ErrorDetails

/-! ## 3. Where they agree -/

section

variable {room : Nat} {r : Response} {details : ErrorDetails}

/-- Any response but a success is classified as the refusal that its details give. -/
theorem classify_of_ne_success (hs : r.status ≠ Response.success)
    (hdetails : ErrorDetails.ofResponse room r = .ok details) :
    r.classify room = .error (.refused details.classify) := by
  rw [Response.classify, if_neg hs, hdetails]
  rfl

/-- The status is the response's own. -/
theorem ErrorDetails.status_of_ofResponse (hdetails : ofResponse room r = .ok details) :
    details.status = r.status := by
  obtain ⟨members, -, rfl⟩ := map_eq_ok.mp hdetails
  rfl

/-- A condition on the body's code `text` that holds of the name alone agrees with the reported code
unless the text is the padded name. -/
theorem agrees_iff_not_padded {name : String} {text reported : Text} {kind : Prop}
    (hkind : kind ↔ text = Text.ofString name)
    (hcode : reported = Text.ofString name ↔ text = Text.ofString name ∨ Padded name text) :
    (reported = Text.ofString name ↔ kind) ↔ ¬ Padded name text := by
  rw [hcode, hkind]
  constructor
  · intro h hp
    exact hp.1 (h.mp (Or.inr hp))
  · intro hn
    exact ⟨fun h => h.resolve_right hn, Or.inl⟩

/-- **Kind and reported code of a refusal agree exactly where the body's code is not padded**: at every
status a code that is not padded reports a pending sign-in if and only if the refusal is one, and at
status 400 the same holds of interaction; a padded code breaks the agreement. -/
theorem kind_agrees_iff (hs : r.status ≠ Response.success)
    (hdetails : ErrorDetails.ofResponse room r = .ok details) :
    ∃ refusal, r.classify room = .error (.refused refusal) ∧
      ((refusal.code = ErrorCode.authorizationPending.name ↔ refusal.kind = .pending) ↔
        ¬ Padded ErrorCode.authorizationPending.name details.code) ∧
      (r.status = Response.badRequest →
        ((refusal.code = ErrorCode.interactionRequired.name ↔
            ∃ claims, refusal.kind = .interactionRequired claims) ↔
          ¬ Padded ErrorCode.interactionRequired.name details.code)) := by
  refine ⟨details.classify, classify_of_ne_success hs hdetails, ?_, fun hbad => ?_⟩
  · refine agrees_iff_not_padded (ErrorDetails.kind_eq_pending_iff _) ?_
    rw [ErrorDetails.code_classify]
    exact serviceCode_eq_iff (by decide) (by decide) (by decide) _
  · rw [← ErrorDetails.status_of_ofResponse hdetails] at hbad
    refine agrees_iff_not_padded (ErrorDetails.kind_eq_interactionRequired_iff _ hbad) ?_
    rw [ErrorDetails.code_classify]
    exact serviceCode_eq_iff (by decide) (by decide) (by decide) _

end

/-- A padded code at status 400: a service refusal that reports a pending sign-in. -/
theorem kind_agrees_iff_padded :
    let r : Response := { status := 400, body := "\x7b\"error\": \" authorization_pending \"\x7d" }
    let details : ErrorDetails :=
      { code := " authorization_pending ", status := 400, rawBody := r.body }
    r.status ≠ Response.success ∧ ErrorDetails.ofResponse 1 r = .ok details ∧
      Padded ErrorCode.authorizationPending.name details.code ∧
      ∃ refusal, r.classify 1 = .error (.refused refusal) ∧
        ¬ (refusal.code = ErrorCode.authorizationPending.name ↔ refusal.kind = .pending) := by
  intro r details
  have hs : r.status ≠ Response.success := by decide
  have hdetails : ErrorDetails.ofResponse 1 r = .ok details := by
    dsimp only [r, details]
    rfl
  have hp : Padded ErrorCode.authorizationPending.name details.code :=
    ⟨by decide, [.plain ' '], [.plain ' '], by decide, by decide, by decide⟩
  obtain ⟨refusal, hr, hagrees, -⟩ := kind_agrees_iff hs hdetails
  exact ⟨hs, hdetails, hp, refusal, hr, fun h => hagrees.mp h hp⟩

end TokenEndpoint
