import TokenEndpoint.Proofs.Lowering
import TokenEndpoint.Text.Blank
import TokenEndpoint.Url.Compatibility
/-!
Lowered texts. What a capital sigma is lowered to depends on what stands around it; `LoweredTo` leaves
that open, so that a text and its lowered text can be taken apart side by side. The characters between
the parts of a network location are marks (`IsMark`): lowering neither makes nor changes one. Main
statements:

* `lower_lower` -- a lowered text is lowered to itself;
* `LoweredTo.cut` -- the parts of a text before and after a mark are lowered each by itself.
-/

namespace TokenEndpoint.Text

/-! ## 1. The images in the table -/

/-- The images of a run reach from `lowest` to `highest`. -/
def CaseRun.lowest (r : CaseRun) : Nat :=
  ((r.first : Int) + r.shift).toNat

def CaseRun.highest (r : CaseRun) : Nat :=
  ((r.last : Int) + r.shift).toNat

/-- No image of `r` is lowered by `q`: the images lie on one side of `q`, or are every other
character and fall between those of `q`. -/
def CaseRun.clearOf (r q : CaseRun) : Bool :=
  Nat.blt r.highest q.first || Nat.blt q.last r.lowest ||
    (q.step == 2 && (r.step == 2 || r.first == r.last) && (r.lowest - q.first) % 2 == 1)

/-- What the image of a run has to be clear of besides: the signs up to the small letters, the dotted
capital I, the capital sigma, the numbers that are no character's, and the hidden delimiters. -/
def CaseRun.isSound (r : CaseRun) : Bool :=
  Nat.blt 0x60 r.lowest && (Nat.blt r.highest 0x130 || Nat.blt 0x130 r.lowest) &&
    (Nat.blt r.highest 0x3a3 || Nat.blt 0x3a3 r.lowest) &&
    (Nat.blt r.highest 0xd800 || (Nat.blt 0xdfff r.lowest && Nat.blt r.highest 0x110000)) &&
    Url.hiddenDelimiterRanges.all fun h => Nat.blt r.highest h.1 || Nat.blt h.2 r.lowest

/-- The runs of the table. -/
def caseRunList : List CaseRun :=
  caseRunData.toList.map fun d => ⟨d.1, d.2.1, d.2.2.1, d.2.2.2⟩

theorem mem_caseRunList {r : CaseRun} (h : r ∈ caseRuns) : r ∈ caseRunList := by
  obtain ⟨d, hd, rfl⟩ := Array.mem_map.mp h
  exact List.mem_map.mpr ⟨d, hd.val, rfl⟩

theorem isSound_of_mem {r : CaseRun} (h : r ∈ caseRuns) : r.isSound = true := by
  have hall : caseRunList.all CaseRun.isSound = true := by decide +kernel
  exact List.all_eq_true.mp hall r (mem_caseRunList h)

theorem clearOf_of_mem {r q : CaseRun} (hr : r ∈ caseRuns) (hq : q ∈ caseRuns) :
    r.clearOf q = true := by
  have hall : (caseRunList.all fun r => caseRunList.all r.clearOf) = true := by decide +kernel
  exact List.all_eq_true.mp (List.all_eq_true.mp hall r (mem_caseRunList hr)) q (mem_caseRunList hq)

theorem CaseRun.image_mem_range {r : CaseRun} {n : Nat} (h : r.covers n = true) :
    r.lowest ≤ ((n : Int) + r.shift).toNat ∧ ((n : Int) + r.shift).toNat ≤ r.highest := by
  simp only [covers, Bool.and_eq_true, decide_eq_true_eq] at h
  rw [lowest, highest]
  omega

/-- An image in a run that is clear of another is not lowered by that. -/
theorem CaseRun.not_covers_image {r q : CaseRun} (hpos : 0 < r.lowest) (hclear : r.clearOf q = true)
    {n : Nat} (h : r.covers n = true) : q.covers ((n : Int) + r.shift).toNat = false := by
  have hrange := image_mem_range h
  rw [Bool.eq_false_iff]
  intro hq
  simp only [covers, Bool.and_eq_true, decide_eq_true_eq, beq_iff_eq] at h hq
  simp only [clearOf, Bool.or_eq_true, Bool.and_eq_true, Nat.blt_eq, beq_iff_eq] at hclear
  rcases hclear with (hbelow | habove) | ⟨⟨hstep, hevery⟩, hodd⟩
  · omega
  · omega
  · have himage : ((n : Int) + r.shift).toNat = r.lowest + (n - r.first) := by
      rw [lowest] at hpos ⊢
      omega
    have heven : (n - r.first) % 2 = 0 := by
      rcases hevery with hr | hr
      · rw [hr] at h
        exact h.2
      · omega
    rw [himage, hstep] at hq
    omega

/-! ## 2. One character -/

/-- A character that is lowered to itself wherever it stands. -/
def Stays (c : Char) : Prop :=
  c.toNat ≠ 0x3a3 ∧ lowerChar c = [c]

/-- A character that lowering does not make of another: none of those up to the small letters, and no
hidden delimiter. -/
def IsNew (c : Char) : Prop :=
  0x60 < c.toNat ∧ Url.hidesDelimiter c = false

theorem lowerChar_of_uncovered {c : Char} (h80 : ¬ c.toNat < 0x80) (hdotted : c.toNat ≠ 0x130)
    (h : ∀ r ∈ caseRuns, r.covers c.toNat = false) : lowerChar c = [c] := by
  have hnone : caseRuns.find? (·.covers c.toNat) = none :=
    Array.find?_eq_none.mpr fun r hr => by rw [h r hr]; exact Bool.false_ne_true
  rw [lowerChar, if_neg h80, if_neg hdotted, hnone]

theorem stays_ascii {c : Char} (hascii : c.toNat < 0x80) (h : c.toLower = c) : Stays c := by
  refine ⟨by omega, ?_⟩
  rw [lowerChar_ascii hascii, h]

/-- What an ASCII character is lowered to: itself, or a small letter. -/
theorem toLower_ascii {c : Char} (h : c.toNat < 0x80) :
    Stays c.toLower ∧ (c.toLower = c ∨ IsNew c.toLower) := by
  have hdata : ∀ n < 0x80, (Char.ofNat n).toLower.toNat < 0x80 ∧
      (Char.ofNat n).toLower.toLower = (Char.ofNat n).toLower ∧
      ((Char.ofNat n).toLower = Char.ofNat n ∨ 0x60 < (Char.ofNat n).toLower.toNat ∧
        Url.hidesDelimiter (Char.ofNat n).toLower = false) := by decide +kernel
  have hc := hdata c.toNat h
  rw [Char.ofNat_toNat] at hc
  exact ⟨stays_ascii hc.1 hc.2.1, hc.2.2⟩

theorem toLower_of_not_ascii {c : Char} (h : ¬ c.toNat < 0x80) : c.toLower = c := by
  refine dif_neg fun hupper => h ?_
  have hlast : c.toNat ≤ 'Z'.toNat := UInt32.le_iff_toNat_le.mp hupper.2
  exact Nat.lt_of_le_of_lt hlast (by decide)

/-- What small letters and their capitals have in common is seen on the ASCII characters. -/
theorem forall_toLower {P : Char → Char → Prop} (hsame : ∀ c, P c c)
    (hascii : ∀ n < 0x80, P (Char.ofNat n) (Char.ofNat n).toLower) (c : Char) : P c c.toLower := by
  by_cases h : c.toNat < 0x80
  · have hc := hascii c.toNat h
    rwa [Char.ofNat_toNat] at hc
  · rw [toLower_of_not_ascii h]
    exact hsame c

/-- The letters beyond ASCII that the mappings outside the table give. -/
theorem stays_of_mem_special {c : Char} (h : c ∈ ['\u0307', 'ς', 'σ']) : Stays c ∧ IsNew c := by
  have hdata : ['\u0307', 'ς', 'σ'].all (fun c => c.toNat != 0x3a3 && c.toNat != 0x130 &&
      Nat.ble 0x80 c.toNat && !Url.hidesDelimiter c &&
      caseRunList.all fun r => !r.covers c.toNat) = true := by decide +kernel
  have hc := List.all_eq_true.mp hdata c h
  simp only [Bool.and_eq_true, bne_iff_ne, Nat.ble_eq, Bool.not_eq_true', List.all_eq_true] at hc
  obtain ⟨⟨⟨⟨hsigma, hdotted⟩, h80⟩, hhides⟩, huncovered⟩ := hc
  have hkept : lowerChar c = [c] :=
    lowerChar_of_uncovered (Nat.not_lt.mpr h80) hdotted fun r hr => huncovered r (mem_caseRunList hr)
  exact ⟨⟨hsigma, hkept⟩, Nat.lt_of_lt_of_le (by decide) h80, hhides⟩

/-- The character that a run gives for one that it covers. -/
theorem stays_of_covers {r : CaseRun} (hr : r ∈ caseRuns) {n : Nat} (h : r.covers n = true) :
    Stays (Char.ofNat ((n : Int) + r.shift).toNat) ∧
      IsNew (Char.ofNat ((n : Int) + r.shift).toNat) := by
  obtain ⟨hlow, hhigh⟩ := CaseRun.image_mem_range h
  have hsound := isSound_of_mem hr
  simp only [CaseRun.isSound, Bool.and_eq_true, Bool.or_eq_true, Nat.blt_eq, List.all_eq_true]
    at hsound
  obtain ⟨⟨⟨⟨hsmall, hdotted⟩, hsigma⟩, hvalid⟩, hhidden⟩ := hsound
  have huncovered : ∀ q ∈ caseRuns, q.covers ((n : Int) + r.shift).toNat = false :=
    fun q hq => CaseRun.not_covers_image (by omega) (clearOf_of_mem hr hq) h
  generalize ((n : Int) + r.shift).toNat = image at *
  have hnat : (Char.ofNat image).toNat = image := by
    have hvalid : image.isValidChar := by
      show image < 0xd800 ∨ (0xdfff < image ∧ image < 0x110000)
      omega
    have hchar : Char.ofNat image = Char.ofNatAux image hvalid := dif_pos hvalid
    rw [hchar]
    rfl
  have hhides : Url.hidesDelimiter (Char.ofNat image) = false := by
    rw [Url.hidesDelimiter, hnat, List.any_eq_false]
    intro hidden hmem
    have hclear := hhidden hidden hmem
    simp only [Bool.and_eq_true, decide_eq_true_eq]
    omega
  rw [← hnat] at huncovered
  refine ⟨?_, by omega, hhides⟩
  by_cases h80 : (Char.ofNat image).toNat < 0x80
  · have hlower : ∀ m < 0x80, 0x60 < m → (Char.ofNat m).toLower = Char.ofNat m := by decide
    exact stays_ascii h80 (hlower image (by omega) (by omega))
  · exact ⟨by omega, lowerChar_of_uncovered h80 (by omega) huncovered⟩

/-- A character out of context is lowered to itself, or to characters that are new and that stay. -/
theorem lowerChar_cases (c : Char) (hsigma : c.toNat ≠ 0x3a3) :
    (lowerChar c = [c] ∧ Stays c) ∨
      (lowerChar c ≠ [] ∧ ∀ x ∈ lowerChar c, Stays x ∧ IsNew x) := by
  by_cases hkept : lowerChar c = [c]
  · exact .inl ⟨hkept, hsigma, hkept⟩
  refine .inr ?_
  unfold lowerChar at hkept ⊢
  split at hkept
  · next h80 =>
    obtain ⟨hstays, heq | hnew⟩ := toLower_ascii h80
    · exact absurd (congrArg (fun x => [x]) heq) hkept
    · simp [h80, hstays, hnew]
  · next h80 =>
    rw [if_neg h80]
    split at hkept
    · next hdotted =>
      have hi : Stays 'i' ∧ IsNew 'i' := ⟨stays_ascii (by decide) (by decide), by decide, by decide⟩
      have hdot : Stays '\u0307' ∧ IsNew '\u0307' := stays_of_mem_special (by decide)
      simp [hdotted, hi, hdot]
    · next hdotted =>
      rw [if_neg hdotted]
      split at hkept
      · next r hfind =>
        have hcovers := Array.find?_some hfind
        simpa using stays_of_covers (Array.mem_of_find?_eq_some hfind) hcovers
      · exact absurd rfl hkept

/-! ## 3. Texts -/

/-- What a character may be lowered to in a text: a capital sigma to either of the small ones. -/
def Image (c : Char) (w : List Char) : Prop :=
  if c.toNat = 0x3a3 then w = ['ς'] ∨ w = ['σ'] else w = lowerChar c

theorem Image.cases {c : Char} {w : List Char} (h : Image c w) :
    (w = [c] ∧ Stays c) ∨ (w ≠ [] ∧ ∀ x ∈ w, Stays x ∧ IsNew x) := by
  unfold Image at h
  split at h
  · have hfinal : Stays 'ς' ∧ IsNew 'ς' := stays_of_mem_special (by decide)
    have hinner : Stays 'σ' ∧ IsNew 'σ' := stays_of_mem_special (by decide)
    rcases h with rfl | rfl
    · simp [hfinal]
    · simp [hinner]
  · next hsigma =>
    rw [h]
    exact lowerChar_cases c hsigma

/-- A text, and one that it may be lowered to. -/
inductive LoweredTo : List Char → List Char → Prop
  | nil : LoweredTo [] []
  | cons {c : Char} {w s t : List Char} : Image c w → LoweredTo s t → LoweredTo (c :: s) (w ++ t)

theorem loweredTo_lowerFrom (behind : Bool) (s : List Char) : LoweredTo s (lowerFrom behind s) := by
  induction s generalizing behind with
  | nil => exact .nil
  | cons c s ih =>
    refine .cons ?_ (ih _)
    unfold Image
    split
    · split
      · exact .inl rfl
      · exact .inr rfl
    · rfl

theorem lowerFrom_of_stays {s : List Char} (h : ∀ c ∈ s, Stays c) (behind : Bool) :
    lowerFrom behind s = s := by
  induction s generalizing behind with
  | nil => rfl
  | cons c s ih =>
    obtain ⟨hsigma, hkept⟩ := h c List.mem_cons_self
    rw [lowerFrom, if_neg hsigma, hkept, ih fun x hx => h x (List.mem_cons_of_mem c hx)]
    rfl

namespace LoweredTo

variable {s t : List Char}

theorem stays (h : LoweredTo s t) : ∀ x ∈ t, Stays x := by
  induction h with
  | nil => simp
  | cons himage _ ih =>
    intro x hx
    rcases List.mem_append.mp hx with hx | hx
    · rcases himage.cases with ⟨rfl, hstays⟩ | ⟨-, hall⟩
      · rwa [List.mem_singleton.mp hx]
      · exact (hall x hx).1
    · exact ih x hx

/-- A character that lowering does not make was there before. -/
theorem mem_of_mem (h : LoweredTo s t) {x : Char} (hx : x ∈ t) (hnew : ¬ IsNew x) : x ∈ s := by
  induction h with
  | nil => exact hx
  | @cons c w s t himage _ ih =>
    rcases List.mem_append.mp hx with hx | hx
    · rcases himage.cases with ⟨rfl, -⟩ | ⟨-, hall⟩
      · exact List.mem_cons.mpr (.inl (List.mem_singleton.mp hx))
      · exact absurd (hall x hx).2 hnew
    · exact List.mem_cons_of_mem c (ih hx)

theorem eq_nil_iff (h : LoweredTo s t) : t = [] ↔ s = [] := by
  cases h with
  | nil => rfl
  | @cons c w _ _ himage _ =>
    have hw : w ≠ [] := by
      rcases himage.cases with ⟨rfl, -⟩ | ⟨hne, -⟩
      · exact List.cons_ne_nil _ _
      · exact hne
    simp [hw]

/-- A text of ASCII characters is lowered letter by letter. -/
theorem eq_map_toLower (h : LoweredTo s t) (hascii : ∀ c ∈ s, c.toNat < 0x80) :
    t = s.map Char.toLower := by
  induction h with
  | nil => rfl
  | @cons c w s t himage _ ih =>
    have hc : c.toNat < 0x80 := hascii c List.mem_cons_self
    rw [Image, if_neg (by omega), lowerChar_ascii hc] at himage
    rw [himage, ih fun x hx => hascii x (List.mem_cons_of_mem c hx)]
    rfl

/-- The lowered text falls into parts where the text does. -/
theorem of_append {a b : List Char} (h : LoweredTo (a ++ b) t) :
    ∃ a' b', t = a' ++ b' ∧ LoweredTo a a' ∧ LoweredTo b b' := by
  induction a generalizing t with
  | nil => exact ⟨[], t, rfl, .nil, h⟩
  | cons c a ih =>
    cases h with
    | cons himage hrest =>
      obtain ⟨a', b', rfl, ha, hb⟩ := ih hrest
      exact ⟨_, b', (List.append_assoc ..).symm, .cons himage ha, hb⟩

end LoweredTo

theorem lower_lower (s : String) : lower (lower s) = lower s := by
  rw [lower, lower, String.toList_ofList, lowerChars, lowerChars,
    lowerFrom_of_stays (loweredTo_lowerFrom false s.toList).stays]

/-! ## 4. Marks -/

/-- The signs that ASCII has in front of its small letters. -/
def IsMark (d : Char) : Prop :=
  d.toNat ≤ 0x60 ∧ d.toLower = d

instance (d : Char) : Decidable (IsMark d) :=
  inferInstanceAs (Decidable (_ ∧ _))

theorem IsMark.not_isNew {d : Char} (hd : IsMark d) : ¬ IsNew d :=
  fun h => Nat.not_lt.mpr hd.1 h.1

theorem IsMark.eq_of_toLower {d : Char} (hd : IsMark d) {c : Char} (h : c.toLower = d) : c = d := by
  by_cases hascii : c.toNat < 0x80
  · rcases (toLower_ascii hascii).2 with heq | hnew
    · exact heq.symm.trans h
    · rw [h] at hnew
      exact absurd hnew hd.not_isNew
  · exact (toLower_of_not_ascii hascii).symm.trans h

theorem IsMark.eq_of_image {d : Char} (hd : IsMark d) {w : List Char} (h : Image d w) : w = [d] := by
  have hascii : d.toNat < 0x80 := Nat.lt_of_le_of_lt hd.1 (by decide)
  rw [Image, if_neg (by omega), lowerChar_ascii hascii, hd.2] at h
  exact h

namespace LoweredTo

variable {s t : List Char} {d : Char}

theorem of_cons_mark (hd : IsMark d) (h : LoweredTo (d :: s) t) :
    ∃ t', t = d :: t' ∧ LoweredTo s t' := by
  cases h with
  | cons himage hs => exact ⟨_, by rw [hd.eq_of_image himage]; rfl, hs⟩

/-- A mark stays between the parts of a text. -/
theorem of_append_mark (hd : IsMark d) {a b : List Char} (h : LoweredTo (a ++ d :: b) t) :
    ∃ a' b', t = a' ++ d :: b' ∧ LoweredTo a a' ∧ LoweredTo b b' := by
  obtain ⟨a', rest, rfl, ha, hrest⟩ := h.of_append
  obtain ⟨b', rfl, hb⟩ := hrest.of_cons_mark hd
  exact ⟨a', b', rfl, ha, hb⟩

theorem mem_iff (h : LoweredTo s t) (hd : IsMark d) : d ∈ t ↔ d ∈ s := by
  constructor
  · exact fun hmem => h.mem_of_mem hmem hd.not_isNew
  · intro hmem
    obtain ⟨a, b, rfl⟩ := List.append_of_mem hmem
    obtain ⟨a', b', rfl, -, -⟩ := h.of_append_mark hd
    simp

/-- **The parts of a text before and after a mark are lowered each by itself**: the lowered text is cut
where the text is. -/
theorem cut (h : LoweredTo s t) (hd : IsMark d) :
    (Text.cut d s = (s, none) ∧ Text.cut d t = (t, none)) ∨
      ∃ a b a' b', Text.cut d s = (a, some b) ∧ Text.cut d t = (a', some b') ∧
        LoweredTo a a' ∧ LoweredTo b b' := by
  rcases cut_cases d s with ⟨hnot, hcut⟩ | ⟨a, b, rfl, hnot, hcut⟩
  · exact .inl ⟨hcut, cut_of_not_mem fun hmem => hnot ((h.mem_iff hd).mp hmem)⟩
  · obtain ⟨a', b', rfl, ha, hb⟩ := h.of_append_mark hd
    have hnot' : d ∉ a' := fun hmem => hnot ((ha.mem_iff hd).mp hmem)
    exact .inr ⟨a, b, a', b', hcut, cut_append hnot' b', ha, hb⟩

theorem cut_before (h : LoweredTo s t) (hd : IsMark d) :
    LoweredTo (Text.cut d s).1 (Text.cut d t).1 := by
  rcases h.cut hd with ⟨hcut, hcut'⟩ | ⟨a, b, a', b', hcut, hcut', ha, -⟩
  · rw [hcut, hcut']
    exact h
  · rw [hcut, hcut']
    exact ha

/-- What stands after the last mark is lowered by itself. -/
theorem cutLast (h : LoweredTo s t) (hd : IsMark d) :
    LoweredTo (Text.cutLast d s).2 (Text.cutLast d t).2 := by
  rcases cutLast_cases d s with ⟨hnot, hcut⟩ | ⟨a, b, rfl, hnot, hcut⟩
  · rw [hcut, cutLast_of_not_mem fun hmem => hnot ((h.mem_iff hd).mp hmem)]
    exact h
  · obtain ⟨a', b', rfl, -, hb⟩ := h.of_append_mark hd
    rw [hcut, cutLast_append fun hmem => hnot ((hb.mem_iff hd).mp hmem)]
    exact hb

end LoweredTo

end TokenEndpoint.Text
