import Mathlib.Data.List.Count
import TokenEndpoint.Text.Lowercase
/-!
Lower-casing a text whose parts are joined by hyphens. A hyphen has no case, and the search for the end
of a word stops at it: a capital sigma in front of it is final or not whatever follows, and one behind it
whatever stands before. Main statements:

* `lowerLetters_intercalate` -- the parts of a joined text are lowered each by itself;
* `count_hyphen_lowerLetters` -- no hyphen comes in, and none is lost.
-/

namespace TokenEndpoint.Text

/-! ## 1. The hyphen in the tables -/

theorem inRanges_eq_any (ranges : Array (Nat × Nat)) (c : Char) :
    inRanges ranges c = ranges.toList.any fun r => r.1 ≤ c.toNat && c.toNat ≤ r.2 := by
  rw [inRanges, Array.any_toList]

theorem isCaseIgnorable_hyphen : isCaseIgnorable '-' = false := by
  rw [isCaseIgnorable, inRanges_eq_any]
  decide +kernel

theorem isCased_hyphen : isCased '-' = false := by decide

/-- No character is lowered to a hyphen by the table. -/
theorem lt_first_add_shift {r : CaseRun} (h : r ∈ caseRuns) : 0x2d < (r.first : Int) + r.shift := by
  have hdata : ∀ d ∈ caseRunData.toList, 0x2d < (d.1 : Int) + d.2.2.2 := by decide +kernel
  obtain ⟨d, hd, rfl⟩ := Array.mem_map.mp h
  exact hdata d hd.val

/-! ## 2. Joined texts -/

theorem casedAhead_append_hyphen (s t : List Char) : casedAhead (s ++ '-' :: t) = casedAhead s := by
  induction s with
  | nil =>
    show (if isCaseIgnorable '-' then casedAhead t else isCased '-') = false
    rw [isCaseIgnorable_hyphen, isCased_hyphen]
    rfl
  | cons c s ih => rw [List.cons_append, casedAhead, casedAhead, ih]

theorem lowerFrom_append_hyphen (behind : Bool) (s t : List Char) :
    lowerFrom behind (s ++ '-' :: t) = lowerFrom behind s ++ '-' :: lowerChars t := by
  induction s generalizing behind with
  | nil =>
    show ['-'] ++ lowerFrom (if isCaseIgnorable '-' then behind else isCased '-') t = _
    rw [isCaseIgnorable_hyphen, isCased_hyphen]
    rfl
  | cons c s ih =>
    rw [List.cons_append, lowerFrom, lowerFrom, ih, casedAhead_append_hyphen]
    exact (List.append_assoc _ _ _).symm

/-- A hyphen inside a run parts it into two. -/
theorem lowerRuns_hyphen (before after : List Char) (t : Text) :
    lowerRuns (before ++ '-' :: after) t =
      (lowerChars before).map .plain ++ .plain '-' :: lowerRuns after t := by
  have hrun (after : List Char) : (lowerChars (before ++ '-' :: after)).map Letter.plain =
      (lowerChars before).map .plain ++ .plain '-' :: (lowerChars after).map .plain := by
    rw [lowerChars, lowerFrom_append_hyphen, List.map_append, List.map_cons]
    rfl
  induction t generalizing after with
  | nil => exact hrun after
  | cons l t ih =>
    cases l with
    | plain c =>
      rw [lowerRuns, lowerRuns, List.append_assoc, List.cons_append, ih]
    | lone n =>
      rw [lowerRuns, lowerRuns, hrun, List.append_assoc, List.cons_append]

theorem lowerRuns_append_hyphen (run : List Char) (s t : Text) :
    lowerRuns run (s ++ .plain '-' :: t) = lowerRuns run s ++ .plain '-' :: lowerLetters t := by
  induction s generalizing run with
  | nil => exact lowerRuns_hyphen run [] t
  | cons l s ih =>
    cases l with
    | plain c => rw [List.cons_append, lowerRuns, lowerRuns, ih]
    | lone n => rw [List.cons_append, lowerRuns, lowerRuns, ih, List.append_assoc, List.cons_append]

/-- **The parts of a joined text are lowered each by itself.** -/
theorem lowerLetters_intercalate (parts : List Text) :
    lowerLetters (List.intercalate [.plain '-'] parts) =
      List.intercalate [.plain '-'] (parts.map lowerLetters) := by
  induction parts with
  | nil => rfl
  | cons part rest ih =>
    cases rest with
    | nil => rw [List.map_singleton, List.intercalate_singleton, List.intercalate_singleton]
    | cons next rest =>
      rw [List.map_cons, List.map_cons, List.intercalate_cons_cons, List.intercalate_cons_cons,
        ← List.map_cons, ← ih, List.append_assoc, List.append_assoc]
      exact lowerRuns_append_hyphen [] part _

/-- Texts of ASCII characters are lowered to the same text if their letters are, one by one. -/
theorem lowerLetters_eq_iff_of_ascii {s t : String} (hs : s.toList.all (·.toNat < 0x80) = true)
    (ht : t.toList.all (·.toNat < 0x80) = true) :
    lowerLetters (ofString s) = lowerLetters (ofString t) ↔
      s.toList.map Char.toLower = t.toList.map Char.toLower := by
  have hascii {s : String} (h : s.toList.all (·.toNat < 0x80) = true) :
      lowerLetters (ofString s) = (s.toList.map Char.toLower).map .plain := by
    have hchars : ∀ c ∈ s.toList, c.toNat < 0x80 := fun c hc =>
      of_decide_eq_true (List.all_eq_true.mp h c hc)
    rw [lowerLetters_ofString, lower, lowerChars_ascii hchars, ofString, String.toList_ofList]
  rw [hascii hs, hascii ht]
  exact List.map_inj_right fun _ _ h => Letter.plain.inj h

/-! ## 3. The number of hyphens -/

/-- A number that is no character's gives U+0000; another character is given by its own number only. -/
theorem eq_of_ofNat_eq {n : Nat} {c : Char} (hc : c ≠ Char.ofNat 0) (h : Char.ofNat n = c) :
    n = c.toNat := by
  by_cases hvalid : n.isValidChar
  · have hchar : Char.ofNat n = Char.ofNatAux n hvalid := dif_pos hvalid
    rw [← h, hchar]
    rfl
  · have hzero : Char.ofNat n = Char.ofNat 0 := dif_neg hvalid
    exact absurd (h.symm.trans hzero) hc

/-- Only a hyphen is lowered to a hyphen. -/
theorem eq_hyphen_of_mem_lowerChar {c : Char} (h : '-' ∈ lowerChar c) : c = '-' := by
  unfold lowerChar at h
  split at h
  · next hascii =>
    have hlower : ∀ n < 0x80, '-' = (Char.ofNat n).toLower → Char.ofNat n = '-' := by decide
    have hc := hlower c.toNat hascii
    rw [Char.ofNat_toNat] at hc
    exact hc (List.mem_singleton.mp h)
  · split at h
    · exact absurd h (by decide)
    · split at h
      · next r hfind =>
        have himage : ((c.toNat : Int) + r.shift).toNat = 0x2d :=
          eq_of_ofNat_eq (by decide) (List.mem_singleton.mp h).symm
        have hrun := lt_first_add_shift (Array.mem_of_find?_eq_some hfind)
        have hcovers := Array.find?_some hfind
        simp only [CaseRun.covers, Bool.and_eq_true, decide_eq_true_eq] at hcovers
        omega
      · exact (List.mem_singleton.mp h).symm

theorem count_hyphen_lowerChar (c : Char) : (lowerChar c).count '-' = [c].count '-' := by
  by_cases h : c = '-'
  · rw [h]
    decide
  · have hnot : '-' ∉ lowerChar c := fun hmem => h (eq_hyphen_of_mem_lowerChar hmem)
    have hsingle : '-' ∉ [c] := fun hmem => h (List.mem_singleton.mp hmem).symm
    rw [List.count_eq_zero_of_not_mem hnot, List.count_eq_zero_of_not_mem hsingle]

theorem count_hyphen_lowerFrom (behind : Bool) (s : List Char) :
    (lowerFrom behind s).count '-' = s.count '-' := by
  induction s generalizing behind with
  | nil => rfl
  | cons c s ih =>
    have himage : (if c.toNat = 0x3a3 then [if behind && !casedAhead s then 'ς' else 'σ']
        else lowerChar c).count '-' = [c].count '-' := by
      split
      · next hsigma =>
        have hc : c = 'Σ' := by rw [← Char.ofNat_toNat c, hsigma]
        rw [hc]
        split <;> decide
      · exact count_hyphen_lowerChar c
    rw [lowerFrom, List.count_append, ih]
    rw [himage, ← List.count_append, List.singleton_append]

theorem count_hyphen_lowerRuns (run : List Char) (t : Text) :
    (lowerRuns run t).count (.plain '-') = run.count '-' + t.count (.plain '-') := by
  have hplain (s : List Char) : (s.map Letter.plain).count (.plain '-') = s.count '-' :=
    List.count_map_of_injective s Letter.plain (fun _ _ h => Letter.plain.inj h) '-'
  have hrun (run : List Char) : ((lowerChars run).map Letter.plain).count (.plain '-') =
      run.count '-' := by
    rw [hplain, lowerChars, count_hyphen_lowerFrom]
  induction t generalizing run with
  | nil => exact hrun run
  | cons l t ih =>
    cases l with
    | plain c =>
      have hc : [Letter.plain c].count (.plain '-') = [c].count '-' := hplain [c]
      rw [lowerRuns, ih, List.count_append, ← hc, Nat.add_assoc, ← List.count_append,
        List.singleton_append]
    | lone n =>
      have hlone (r : Text) : (Letter.lone n :: r).count (.plain '-') = r.count (.plain '-') :=
        List.count_cons_of_ne Letter.noConfusion
      rw [lowerRuns, List.count_append, hrun, hlone, hlone, ih, List.count_nil, Nat.zero_add]

/-- **No hyphen comes in, and none is lost.** -/
theorem count_hyphen_lowerLetters (t : Text) :
    (lowerLetters t).count (.plain '-') = t.count (.plain '-') := by
  rw [lowerLetters, count_hyphen_lowerRuns, List.count_nil, Nat.zero_add]

theorem count_hyphen_congr {s t : Text} (h : s.count (.plain '-') = t.count (.plain '-')) :
    (lowerLetters s).count (.plain '-') = (lowerLetters t).count (.plain '-') := by
  rw [count_hyphen_lowerLetters, count_hyphen_lowerLetters, h]

end TokenEndpoint.Text
