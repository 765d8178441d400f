import TokenEndpoint.Proofs.Pieces
import TokenEndpoint.Telemetry.ClientTelemetry
/-!
Headers with the server's account. Three readings have to agree on one grammar: the version that stands
before the first comma, the pattern of the layout, and the cutting into five fields at most. Main
statements:

* `ofText_eq_ok_iff` -- the texts that give an account are those of five fields, the first of them the
  known version and the next two of code characters;
* `read_eq_some_iff` -- an account is what its fields are when commas join them;
* `read_accepts_grammar` -- which headers give an account, and that every other one is warned of once.
-/

namespace TokenEndpoint

namespace ClientTelemetry

/-! ## 1. The pattern of the layout -/

theorem not_mem_of_all {accepts : Char → Bool} {w : List Char} (haccepts : accepts ',' = false)
    (h : w.all accepts = true) : ',' ∉ w := by
  intro hmem
  rw [List.all_eq_true.mp h ',' hmem] at haccepts
  cases haccepts

theorem eq_comma_of_takes {w : List Char}
    (h : Text.Pattern.Item.Takes ⟨.one, (· == ',')⟩ w) : w = [','] := by
  obtain ⟨c, rfl⟩ := List.length_eq_one_iff.mp h.allowed
  simpa using h.accepted

/-- **A text that fits the layout has five fields**, the second and the third of code characters. -/
theorem exists_fields_of_fits {text : List Char} (h : layout.fits text = true) :
    ∃ version code subCode age spe, Text.splitOn ',' text = [version, code, subCode, age, spe] ∧
      code.all isCodeChar = true ∧ subCode.all isCodeChar = true := by
  obtain ⟨w, tail, rfl, hstands, htail⟩ := Text.Pattern.fits_iff.mp h
  obtain ⟨number, -, rfl, hnumber, point, -, rfl, hpoint, digits, -, rfl, hdigits,
    comma₁, -, rfl, hcomma₁, code, -, rfl, hcode, comma₂, -, rfl, hcomma₂, subCode, -, rfl, hsub,
    comma₃, -, rfl, hcomma₃, age, -, rfl, hage, ageDigits, -, rfl, hageDigits, comma₄, -, rfl, hcomma₄,
    spe, -, rfl, hspe, rfl⟩ := hstands
  cases eq_comma_of_takes hcomma₁
  cases eq_comma_of_takes hcomma₂
  cases eq_comma_of_takes hcomma₃
  cases eq_comma_of_takes hcomma₄
  refine ⟨number ++ point ++ digits, code, subCode, age ++ ageDigits, spe ++ tail, ?_, hcode.accepted,
    hsub.accepted⟩
  have hjoined : number ++ (point ++ (digits ++ ([','] ++ (code ++ ([','] ++ (subCode ++ ([','] ++
      (age ++ (ageDigits ++ ([','] ++ (spe ++ []))))))))))) ++ tail =
      Text.joinWith [','] [number ++ point ++ digits, code, subCode, age ++ ageDigits, spe ++ tail] := by
    simp only [Text.joinWith, List.append_assoc, List.nil_append]
  have htail' : ',' ∉ tail := by
    rcases htail with rfl | rfl <;> decide
  rw [hjoined]
  refine Text.splitOn_joinWith (List.cons_ne_nil _ _) ?_
  simp only [List.forall_mem_cons, List.mem_append, not_or]
  exact ⟨⟨⟨not_mem_of_all (by decide) hnumber.accepted, not_mem_of_all (by decide) hpoint.accepted⟩,
      not_mem_of_all (by decide) hdigits.accepted⟩, not_mem_of_all (by decide) hcode.accepted,
    not_mem_of_all (by decide) hsub.accepted,
    ⟨not_mem_of_all (by decide) hage.accepted, not_mem_of_all (by decide) hageDigits.accepted⟩,
    ⟨not_mem_of_all (by decide) hspe.accepted, htail'⟩, List.forall_mem_nil _⟩

/-- A text of such fields fits the layout if its version is the known one. -/
theorem fits_of_fields {text code subCode age spe : List Char}
    (hfields : Text.splitOn ',' text = [knownVersion.toList, code, subCode, age, spe])
    (hcode : code.all isCodeChar = true) (hsub : subCode.all isCodeChar = true) :
    layout.fits text = true := by
  have hfree {w : List Char} (hw : w ∈ Text.splitOn ',' text) : w.all (· != ',') = true := by
    rw [List.all_eq_true]
    intro c hc
    exact bne_iff_ne.mpr fun h => Text.not_mem_of_mem_splitOn hw (h ▸ hc)
  have hcomma : Text.Pattern.Item.Takes ⟨.one, (· == ',')⟩ [','] := ⟨rfl, rfl⟩
  have hage := hfree (w := age) (by simp [hfields])
  have hspe := hfree (w := spe) (by simp [hfields])
  have hjoined : text = ['1'] ++ ([] ++ ([] ++ ([','] ++ (code ++ ([','] ++ (subCode ++ ([','] ++
      (age ++ ([] ++ ([','] ++ (spe ++ []))))))))))) := by
    rw [← Text.joinWith_splitOn ',' text, hfields]
    simp [Text.joinWith, knownVersion]
  refine Text.Pattern.fits_iff.mpr ⟨text, [], (List.append_nil text).symm, ?_, .inl rfl⟩
  exact ⟨['1'], _, hjoined, ⟨Nat.le_refl 1, rfl⟩, [], _, rfl, ⟨Nat.zero_le 1, rfl⟩, [], _, rfl,
    ⟨trivial, rfl⟩, [','], _, rfl, hcomma, code, _, rfl, ⟨trivial, hcode⟩, [','], _, rfl, hcomma,
    subCode, _, rfl, ⟨trivial, hsub⟩, [','], _, rfl, hcomma, age, _, rfl, ⟨trivial, hage⟩, [], _, rfl,
    ⟨trivial, rfl⟩, [','], _, rfl, hcomma, spe, _, rfl, ⟨trivial, hspe⟩, rfl⟩

/-! ## 2. Reading -/

/-- **A text gives an account exactly if it has five fields**, the known version first and codes in the
next two; the account is made of these fields. -/
theorem ofText_eq_ok_iff {text : List Char} {found : ClientTelemetry} :
    ofText text = .ok found ↔ ∃ code subCode age spe,
      Text.splitOn ',' text = [knownVersion.toList, code, subCode, age, spe] ∧
        code.all isCodeChar = true ∧ subCode.all isCodeChar = true ∧
        found = ofFields [knownVersion.toList, code, subCode, age, spe] := by
  have hhead := Text.head?_splitOn ',' text
  unfold ofText
  dsimp only
  constructor
  · intro h
    split at h
    · cases h
    · next hversion =>
      rw [ne_eq, Classical.not_not] at hversion
      split at h
      · next hfits =>
        obtain ⟨version, code, subCode, age, spe, hfields, hcode, hsub⟩ := exists_fields_of_fits hfits
        have hknown : version = knownVersion.toList := by
          rw [hfields, hversion] at hhead
          exact Option.some.inj hhead
        subst hknown
        have hcut : Text.splitUpTo ',' 4 text = Text.splitOn ',' text :=
          Text.splitUpTo_of_length_le (by rw [hfields]; exact Nat.le_refl 5)
        rw [hcut, hfields] at h
        exact ⟨code, subCode, age, spe, hfields, hcode, hsub, (Except.ok.inj h).symm⟩
      · cases h
  · rintro ⟨code, subCode, age, spe, hfields, hcode, hsub, rfl⟩
    have hversion : (Text.cut ',' text).1 = knownVersion.toList := by
      rw [hfields] at hhead
      exact (Option.some.inj hhead).symm
    have hcut : Text.splitUpTo ',' 4 text = Text.splitOn ',' text :=
      Text.splitUpTo_of_length_le (by rw [hfields]; exact Nat.le_refl 5)
    rw [if_neg (not_not_intro hversion), if_pos (fits_of_fields hfields hcode hsub), hcut, hfields]

/-- A header is written as an account: version one, two fields of code characters, and two more fields
of anything, with commas between the five and nowhere else. -/
structure WrittenAs (found : ClientTelemetry) (text : String) : Prop where
  version : found.version = knownVersion
  serverErrorCode : found.serverErrorCode.toList.all isCodeChar = true
  serverSubErrorCode : found.serverSubErrorCode.toList.all isCodeChar = true
  tokenAge : ',' ∉ found.tokenAge.toList
  speInfo : ',' ∉ found.speInfo.toList
  joined : text.toList = Text.joinWith [','] [found.version.toList, found.serverErrorCode.toList,
    found.serverSubErrorCode.toList, found.tokenAge.toList, found.speInfo.toList]

/-- A header that gives an account begins with the version, which is no blank. -/
theorem isBlankText_of_ofText {text : String} {found : ClientTelemetry}
    (h : ofText text.toList = .ok found) : Text.isBlankText text = false := by
  obtain ⟨code, subCode, age, spe, hfields, -⟩ := ofText_eq_ok_iff.mp h
  rw [Text.isBlankText, ← Text.joinWith_splitOn ',' text.toList, hfields]
  rfl

theorem read_of_ok {text : String} {found : ClientTelemetry} (h : ofText text.toList = .ok found) :
    read (some text) = (some found, []) := by
  simp only [read, isBlankText_of_ofText h, h, Bool.false_eq_true, if_false]

theorem read_of_error {text : String} {fault : Fault} (hblank : Text.isBlankText text = false)
    (h : ofText text.toList = .error fault) :
    read (some text) = (none, [⟨.telemetry, .warning, fault.message⟩]) := by
  simp only [read, hblank, h, Bool.false_eq_true, if_false]

theorem read_eq_some_iff_ofText {text : String} {found : ClientTelemetry} :
    (read (some text)).1 = some found ↔ ofText text.toList = .ok found := by
  constructor
  · intro h
    cases hblank : Text.isBlankText text with
    | true =>
      rw [read, hblank] at h
      cases h
    | false =>
      cases htext : ofText text.toList with
      | error fault =>
        rw [read_of_error hblank htext] at h
        cases h
      | ok account =>
        rw [read_of_ok htext] at h
        cases h
        rfl
  · intro h
    rw [read_of_ok h]

/-- **A header gives an account exactly if it is written as one**, and then that one. -/
theorem read_eq_some_iff {text : String} {found : ClientTelemetry} :
    (read (some text)).1 = some found ↔ found.WrittenAs text := by
  rw [read_eq_some_iff_ofText, ofText_eq_ok_iff]
  constructor
  · rintro ⟨code, subCode, age, spe, hfields, hcode, hsub, rfl⟩
    have hfree {w : List Char} (hw : w ∈ Text.splitOn ',' text.toList) : ',' ∉ w :=
      Text.not_mem_of_mem_splitOn hw
    have hage : ',' ∉ age := hfree (by simp [hfields])
    have hspe : ',' ∉ spe := hfree (by simp [hfields])
    have hjoined := (Text.joinWith_splitOn ',' text.toList).symm
    rw [hfields] at hjoined
    refine ⟨rfl, ?_, ?_, ?_, ?_, ?_⟩
    · exact (String.toList_ofList (l := code)).symm ▸ hcode
    · exact (String.toList_ofList (l := subCode)).symm ▸ hsub
    · exact (String.toList_ofList (l := age)).symm ▸ hage
    · exact (String.toList_ofList (l := spe)).symm ▸ hspe
    · simpa [ofFields] using hjoined
  · rintro ⟨hversion, hcode, hsub, hage, hspe, hjoined⟩
    refine ⟨_, _, found.tokenAge.toList, found.speInfo.toList, ?_, hcode, hsub, ?_⟩
    · rw [hjoined, hversion]
      refine Text.splitOn_joinWith (List.cons_ne_nil _ _) ?_
      simp only [List.forall_mem_cons]
      exact ⟨by decide, not_mem_of_all (by decide) hcode, not_mem_of_all (by decide) hsub, hage, hspe,
        List.forall_mem_nil _⟩
    · cases found
      cases hversion
      simp [ofFields, knownVersion]

/-! ## 3. The grammar -/

theorem isCodeChar_iff (c : Char) : isCodeChar c = true ↔ c ∈ "0123456789.|".toList := by
  constructor
  · intro h
    have hascii : c.toNat < 0x80 := by
      rw [isCodeChar, Bool.or_eq_true, Bool.or_eq_true, beq_iff_eq, beq_iff_eq] at h
      rcases h with (hdigit | rfl) | rfl
      · have hle : c.toNat ≤ '9'.toNat := of_decide_eq_true (Bool.and_eq_true_iff.mp hdigit).2
        exact Nat.lt_of_le_of_lt hle (by decide)
      · decide
      · decide
    have hall : ∀ n < 0x80, isCodeChar (Char.ofNat n) = true →
        Char.ofNat n ∈ "0123456789.|".toList := by decide
    have hc := hall c.toNat hascii
    rw [Char.ofNat_toNat] at hc
    exact hc h
  · have hall : "0123456789.|".toList.all isCodeChar = true := by decide
    exact List.all_eq_true.mp hall c

/-- **A header that is not blank gives an account exactly if it is of the grammar**: five fields, the first
of them `1`, the second and the third of digits, full stops and bars. Nothing of it is lost: joined by
commas the fields of the account are the header again. Every other header is warned of once. -/
theorem read_accepts_grammar (text : String) (h : Text.isBlankText text = false) :
    ((∃ found, (read (some text)).1 = some found) ↔ ∃ code subCode age spe : List Char,
      Text.splitOn ',' text.toList = [['1'], code, subCode, age, spe] ∧
        (∀ c ∈ code, c ∈ "0123456789.|".toList) ∧ ∀ c ∈ subCode, c ∈ "0123456789.|".toList) ∧
    (∀ found, (read (some text)).1 = some found →
      found.version ++ "," ++ found.serverErrorCode ++ "," ++ found.serverSubErrorCode ++ "," ++
        found.tokenAge ++ "," ++ found.speInfo = text ∧ (read (some text)).2 = []) ∧
    ((read (some text)).1 = none →
      ∃ message, (read (some text)).2 = [⟨.telemetry, .warning, message⟩]) := by
  refine ⟨?_, ?_, ?_⟩
  · simp only [read_eq_some_iff_ofText, ofText_eq_ok_iff, List.all_eq_true, isCodeChar_iff]
    constructor
    · rintro ⟨found, code, subCode, age, spe, hfields, hcode, hsub, -⟩
      exact ⟨code, subCode, age, spe, hfields, hcode, hsub⟩
    · rintro ⟨code, subCode, age, spe, hfields, hcode, hsub⟩
      exact ⟨_, code, subCode, age, spe, hfields, hcode, hsub, rfl⟩
  · intro found hfound
    refine ⟨?_, by rw [read_of_ok (read_eq_some_iff_ofText.mp hfound)]⟩
    rw [← String.toList_inj, (read_eq_some_iff.mp hfound).joined]
    simp [Text.joinWith]
  · intro hnone
    cases htext : ofText text.toList with
    | ok found =>
      rw [read_of_ok htext] at hnone
      cases hnone
    | error fault => exact ⟨fault.message, by rw [read_of_error h htext]⟩

/-- An empty field, a blank one, and a line feed at the end, which belongs to the last one. -/
theorem read_accepts_grammar_line_feed :
    let text := "1,5|0.7,,\t,I\n"
    Text.isBlankText text = false ∧ ∃ found, (read (some text)).1 = some found ∧
      found.version ++ "," ++ found.serverErrorCode ++ "," ++ found.serverSubErrorCode ++ "," ++
        found.tokenAge ++ "," ++ found.speInfo = text ∧ (read (some text)).2 = [] := by
  intro text
  have hblank : Text.isBlankText text = false := by decide
  obtain ⟨hgrammar, hjoined, -⟩ := read_accepts_grammar text hblank
  have hcode : "5|0.7".toList.all isCodeChar = true := by decide
  obtain ⟨found, hfound⟩ := hgrammar.mpr
    ⟨"5|0.7".toList, [], ['\t'], ['I', '\n'], by decide,
      fun c hc => (isCodeChar_iff c).mp (List.all_eq_true.mp hcode c hc), List.forall_mem_nil _⟩
  exact ⟨hblank, found, hfound, hjoined found hfound⟩

end ClientTelemetry

end TokenEndpoint
