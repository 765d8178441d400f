import TokenEndpoint.Proofs.LoweredTexts
import TokenEndpoint.Proofs.Numerals
import TokenEndpoint.Proofs.Pieces
/-!
Numbers that are given as texts, or as other values that stand for one. A text is read without the blanks
at its two ends, or without its underscores; then it is a numeral, or a word for an infinity or for no
number. Main statements:

* `readFloatWord?_eq_some_iff`, `readFloat_eq_ok_iff` -- which texts are read as a number;
* `isNaN_iff_of_toFloat`, `zero_lt_iff_of_toFloat` -- the values that give no number, and those that give
  one above zero.
-/

namespace TokenEndpoint.Coercion

/-! ## 1. Words -/

/-- A text is a word in any case of letters, perhaps behind a sign. -/
def Spells (word : String) (negative : Bool) (s : List Char) : Prop :=
  ∃ sign letters, SignText negative sign ∧ s = sign ++ letters ∧ letters.map Char.toLower = word.toList

/-- The words for infinities. -/
def infinityWords : List String := ["inf", "infinity"]

/-- What a text without signs is the lower case of. -/
theorem spells_iff {word : String} (hword : '-' ∉ word.toList ∧ '+' ∉ word.toList) {negative : Bool}
    {s : List Char} :
    Spells word negative s ↔
      (splitSign s).1 = negative ∧ String.ofList ((splitSign s).2.map Char.toLower) = word := by
  constructor
  · intro h
    obtain ⟨sign, letters, hsign, rfl, hletters⟩ := h
    rw [splitSign_append hsign, hletters, String.ofList_toList]
    · exact ⟨rfl, rfl⟩
    · intro c hc
      have hmem : c.toLower ∈ word.toList := hletters ▸ List.mem_map_of_mem (List.mem_of_mem_head? hc)
      constructor <;> rintro rfl
      · exact hword.1 hmem
      · exact hword.2 hmem
  · intro h
    obtain ⟨rfl, hletters⟩ := h
    obtain ⟨sign, hsign, hs⟩ := signText_splitSign s
    exact ⟨sign, _, hsign, hs, by rw [← hletters, String.toList_ofList]⟩

theorem readFloatWord?_eq_some_iff {s : List Char} {x : Float} :
    readFloatWord? s = some x ↔
      (∃ negative, ∃ word ∈ infinityWords, Spells word negative s ∧ x = Decimal.infinity negative) ∨
        ∃ negative, Spells "nan" negative s ∧ x = Decimal.nan := by
  have hwords : ∀ word ∈ infinityWords, '-' ∉ word.toList ∧ '+' ∉ word.toList := by decide
  constructor
  · intro h
    unfold readFloatWord? at h
    dsimp only at h
    split at h
    · next hword =>
      exact .inl ⟨_, "inf", by decide, (spells_iff (by decide)).mpr ⟨rfl, hword⟩,
        (Option.some.inj h).symm⟩
    · next hword =>
      exact .inl ⟨_, "infinity", by decide, (spells_iff (by decide)).mpr ⟨rfl, hword⟩,
        (Option.some.inj h).symm⟩
    · next hword =>
      exact .inr ⟨_, (spells_iff (by decide)).mpr ⟨rfl, hword⟩, (Option.some.inj h).symm⟩
    · cases h
  · intro h
    rcases h with ⟨negative, word, hmem, hspells, rfl⟩ | ⟨negative, hspells, rfl⟩
    · obtain ⟨rfl, hword⟩ := (spells_iff (hwords word hmem)).mp hspells
      rw [readFloatWord?]
      dsimp only
      rw [hword]
      simp only [infinityWords, List.mem_cons, List.not_mem_nil, or_false] at hmem
      rcases hmem with rfl | rfl <;> rfl
    · obtain ⟨rfl, hword⟩ := (spells_iff (by decide)).mp hspells
      rw [readFloatWord?]
      dsimp only
      rw [hword]
      rfl

/-! ## 2. Texts -/

/-- Digits and points stay what they are in lower case. -/
theorem isDigit_or_eq_point_toLower (c : Char) :
    c.isDigit = true ∨ c = '.' → c.toLower.isDigit = true ∨ c.toLower = '.' :=
  Text.forall_toLower
    (P := fun c small => c.isDigit = true ∨ c = '.' → small.isDigit = true ∨ small = '.')
    (fun _ h => h) (by decide +kernel) c

/-- A numeral is no word. -/
theorem Numeral.Writes.not_spells {n : Numeral} {s : List Char} (h : n.Writes s) {word : String}
    (hword : word ∈ "nan" :: infinityWords) {negative : Bool} : ¬ Spells word negative s := by
  intro hspells
  obtain ⟨hne, hdigits, sign, significand, exponent, hsign, hsignificand, -, rfl⟩ := h
  have hletters : ∀ w ∈ "nan" :: infinityWords, ('-' ∉ w.toList ∧ '+' ∉ w.toList) ∧
      w.toList.all (fun c => !c.isDigit && c != '.') = true := by decide
  obtain ⟨hfree, hnone⟩ := hletters word hword
  have hfirst := hsignificand.isDigit_or_eq_point_head hdigits hne exponent
  have hlower := ((spells_iff hfree).mp hspells).2
  rw [splitSign_append hsign (not_sign hfirst)] at hlower
  -- the first character of the word would be a digit or a point
  obtain ⟨c, r, hc⟩ := List.exists_cons_of_ne_nil (hsignificand.ne_nil hne)
  have hmem : c.toLower ∈ word.toList := by
    rw [← hlower, String.toList_ofList, hc]
    exact List.mem_cons_self
  have hnot := List.all_eq_true.mp hnone _ hmem
  rcases isDigit_or_eq_point_toLower c (hfirst c (by rw [hc]; rfl)) with hdigit | hpoint
  · simp [hdigit] at hnot
  · simp [hpoint] at hnot

/-- **What is read without blanks and underscores is a word or a numeral.** -/
theorem readPlainFloat?_eq_some_iff {s : List Char} {x : Float} :
    readPlainFloat? s = some x ↔
      (∃ negative, ∃ word ∈ infinityWords, Spells word negative s ∧ x = Decimal.infinity negative) ∨
        (∃ negative, Spells "nan" negative s ∧ x = Decimal.nan) ∨
          ∃ n : Numeral, n.Writes s ∧ x = n.number := by
  have hwords := readFloatWord?_eq_some_iff (s := s) (x := x)
  have hnumeral := readDecimal?_eq_some_iff (s := s) (x := x)
  rw [← or_assoc, ← hwords, ← hnumeral, readPlainFloat?]
  cases hword : readFloatWord? s with
  | none => simp
  | some y =>
    refine ⟨.inl, fun h => h.resolve_right fun hdecimal => ?_⟩
    obtain ⟨n, hwrites, -⟩ := hnumeral.mp hdecimal
    rcases readFloatWord?_eq_some_iff.mp hword with ⟨_, word, hmem, hspells, -⟩ | ⟨_, hspells, -⟩
    · exact hwrites.not_spells (List.mem_cons_of_mem _ hmem) hspells
    · exact hwrites.not_spells List.mem_cons_self hspells

/-- What is read of a text: it without the blanks at its ends, or without its underscores. -/
def ReadAs (s u : List Char) : Prop :=
  u = trimNumber s ∨ withoutUnderscores? s = some u

/-- A word or a numeral has no underscore. -/
theorem not_mem_of_readPlainFloat? {s : List Char} {x : Float} (h : readPlainFloat? s = some x) :
    '_' ∉ s := by
  have hword {word : String} (hmem : word ∈ "nan" :: infinityWords) {negative : Bool}
      (hspells : Spells word negative s) : '_' ∉ s := by
    obtain ⟨sign, letters, hsign, rfl, hletters⟩ := hspells
    have hnone : ∀ w ∈ "nan" :: infinityWords, '_' ∉ w.toList := by decide
    intro hunderscore
    rcases List.mem_append.mp hunderscore with hc | hc
    · exact absurd (hsign.mem hc) (by decide)
    · exact hnone word hmem (hletters ▸ List.mem_map.mpr ⟨'_', hc, by decide⟩)
  rcases readPlainFloat?_eq_some_iff.mp h with ⟨_, word, hmem, hspells, -⟩ | ⟨_, hspells, -⟩ |
    ⟨n, hwrites, -⟩
  · exact hword (List.mem_cons_of_mem _ hmem) hspells
  · exact hword List.mem_cons_self hspells
  · exact fun hunderscore => absurd (hwrites.isDigit_or_mem hunderscore) (by decide)

theorem mem_dropWhile {p : Char → Bool} {s : List Char} {c : Char} (hc : p c = false) (h : c ∈ s) :
    c ∈ s.dropWhile p := by
  rw [← List.takeWhile_append_dropWhile (p := p) (l := s)] at h
  rcases List.mem_append.mp h with hfront | hback
  · rw [List.mem_takeWhile_imp hfront] at hc
    cases hc
  · exact hback

/-- Trimming takes nothing away but blanks. -/
theorem mem_trimNumber {s : List Char} {c : Char} (hc : isNumberBlank c = false) (h : c ∈ s) :
    c ∈ trimNumber s := by
  rw [trimNumber, List.mem_reverse]
  exact mem_dropWhile hc (List.mem_reverse.mpr (mem_dropWhile hc h))

theorem mem_of_withoutUnderscores? {s u : List Char} (h : withoutUnderscores? s = some u) : '_' ∈ s := by
  by_contra hnot
  rw [withoutUnderscores?, Text.splitOn_of_not_mem hnot] at h
  cases h

/-- **A text is read as a number if what stands between its blanks, or what is left of it without its
underscores, is a word or a numeral.** -/
theorem readFloat_eq_ok_iff {s : List Char} {x : Float} :
    readFloat s = .ok x ↔ ∃ u, ReadAs s u ∧ readPlainFloat? u = some x := by
  unfold readFloat
  cases htrimmed : readPlainFloat? (trimNumber s) with
  | some y =>
    -- with an underscore in it the text could not be read
    have hnone : withoutUnderscores? s = none := by
      by_contra hsome
      obtain ⟨u, hu⟩ := Option.ne_none_iff_exists'.mp hsome
      exact not_mem_of_readPlainFloat? htrimmed
        (mem_trimNumber (by decide) (mem_of_withoutUnderscores? hu))
    simp [ReadAs, hnone, htrimmed]
  | none =>
    cases hwithout : withoutUnderscores? s with
    | none => simp [ReadAs, hwithout, htrimmed]
    | some u =>
      cases hread : readPlainFloat? u <;> simp [ReadAs, hwithout, htrimmed, hread]

/-! ## 3. No number, and numbers above zero -/

/-- A text is the word for no number. -/
def NanText (s : List Char) : Prop :=
  ∃ negative, Spells "nan" negative s

/-- A text is the word for the infinity above all numbers, or a numeral that is more than half of the
least number. -/
def PositiveText (s : List Char) : Prop :=
  (∃ word ∈ infinityWords, Spells word false s) ∨
    ∃ n : Numeral, n.Writes s ∧ (2 : ℚ) ^ (-1075 : Int) < n.value

theorem isNaN_infinity (negative : Bool) : (Decimal.infinity negative).isNaN = false := by
  cases negative <;> rfl

theorem zero_lt_infinity_iff (negative : Bool) :
    0 < Decimal.infinity negative ↔ negative = false := by
  cases negative <;> decide

theorem nanText_iff {s : List Char} :
    NanText s ↔ ∃ x, readPlainFloat? s = some x ∧ x.isNaN = true := by
  constructor
  · intro h
    obtain ⟨negative, hspells⟩ := h
    exact ⟨_, readPlainFloat?_eq_some_iff.mpr (.inr (.inl ⟨negative, hspells, rfl⟩)), rfl⟩
  · intro h
    obtain ⟨x, hread, hnan⟩ := h
    rcases readPlainFloat?_eq_some_iff.mp hread with ⟨negative, _, -, -, rfl⟩ | ⟨negative, hspells, -⟩ |
      ⟨n, -, rfl⟩
    · rw [isNaN_infinity] at hnan
      cases hnan
    · exact ⟨negative, hspells⟩
    · rw [Numeral.number, Decimal.Binary.isNaN_nearest] at hnan
      cases hnan

theorem positiveText_iff {s : List Char} :
    PositiveText s ↔ ∃ x, readPlainFloat? s = some x ∧ 0 < x := by
  constructor
  · intro h
    rcases h with ⟨word, hmem, hspells⟩ | ⟨n, hwrites, hvalue⟩
    · exact ⟨_, readPlainFloat?_eq_some_iff.mpr (.inl ⟨false, word, hmem, hspells, rfl⟩),
        (zero_lt_infinity_iff false).mpr rfl⟩
    · exact ⟨_, readPlainFloat?_eq_some_iff.mpr (.inr (.inr ⟨n, hwrites, rfl⟩)),
        n.zero_lt_number_iff.mpr hvalue⟩
  · intro h
    obtain ⟨x, hread, hpos⟩ := h
    rcases readPlainFloat?_eq_some_iff.mp hread with ⟨negative, word, hmem, hspells, rfl⟩ |
      ⟨-, -, rfl⟩ | ⟨n, hwrites, rfl⟩
    · obtain rfl := (zero_lt_infinity_iff negative).mp hpos
      exact .inl ⟨word, hmem, hspells⟩
    · exact absurd hpos (by decide)
    · exact .inr ⟨n, hwrites, n.zero_lt_number_iff.mp hpos⟩

/-- A text is read as one number. -/
theorem iff_of_readFloat {s : List Char} {x : Float} (h : readFloat s = .ok x) (P : Float → Prop) :
    P x ↔ ∃ u, ReadAs s u ∧ ∃ y, readPlainFloat? u = some y ∧ P y := by
  constructor
  · intro hx
    obtain ⟨u, hu, hread⟩ := readFloat_eq_ok_iff.mp h
    exact ⟨u, hu, x, hread, hx⟩
  · intro h
    obtain ⟨u, hu, y, hread, hy⟩ := h
    obtain rfl := Except.ok.inj (h.symm.trans (readFloat_eq_ok_iff.mpr ⟨u, hu, hread⟩))
    exact hy

/-! ## 4. Given values -/

/-- A value stands for no number: it is such a float, or a text that is read as the word. -/
def GivesNan : Json → Prop
  | .float x => x.isNaN = true
  | .string t => ∃ u, ReadAs t.toString.toList u ∧ NanText u
  | _ => False

/-- A value stands for a number above zero. -/
def GivesPositive : Json → Prop
  | .float x => 0 < x
  | .int i => 0 < i
  | .bool b => b = true
  | .string t => ∃ u, ReadAs t.toString.toList u ∧ PositiveText u
  | _ => False

theorem floatOfInt_eq_ok {i : Int} {x : Float} (h : floatOfInt i = .ok x) : x = Decimal.ofInt i := by
  unfold floatOfInt at h
  dsimp only at h
  split at h
  · exact (Except.ok.inj h).symm
  · cases h

theorem zero_lt_ofInt_iff (i : Int) : 0 < Decimal.ofInt i ↔ 0 < i := by
  rw [Decimal.ofInt, Decimal.Binary.zero_lt_nearest_iff, decide_eq_false_iff_not, zpow_zero, mul_one]
  have hleast : (2 : ℚ) ^ (-1075 : Int) < 1 := zpow_lt_one_of_neg₀ one_lt_two (by decide)
  constructor
  · intro h
    obtain ⟨hnonneg, hsize⟩ := h
    have hne : i ≠ 0 := by
      rintro rfl
      have hpower : (0 : ℚ) < 2 ^ (-1075 : Int) := by positivity
      exact absurd hsize (not_lt.mpr hpower.le)
    omega
  · intro hpos
    have hone : (1 : ℚ) ≤ i.natAbs := by exact_mod_cast Int.natAbs_pos.mpr hpos.ne'
    exact ⟨by omega, lt_of_lt_of_le hleast hone⟩

/-- **What is read as no number.** -/
theorem isNaN_iff_of_toFloat {v : Json} {x : Float} (h : toFloat v = .ok x) :
    x.isNaN = true ↔ GivesNan v := by
  cases v with
  | float y =>
    cases h
    exact Iff.rfl
  | int i =>
    rw [floatOfInt_eq_ok h, Decimal.ofInt, Decimal.Binary.isNaN_nearest]
    exact iff_of_false Bool.false_ne_true id
  | bool b =>
    cases h
    cases b <;> exact iff_of_false Bool.false_ne_true id
  | string t =>
    have hread : readFloat t.toString.toList = .ok x := h
    rw [iff_of_readFloat hread (·.isNaN = true)]
    simp only [GivesNan, nanText_iff]
  | null => cases h
  | array items => cases h
  | object members => cases h

/-- **What is read as a number above zero.** -/
theorem zero_lt_iff_of_toFloat {v : Json} {x : Float} (h : toFloat v = .ok x) :
    0 < x ↔ GivesPositive v := by
  cases v with
  | float y =>
    cases h
    exact Iff.rfl
  | int i =>
    rw [floatOfInt_eq_ok h, zero_lt_ofInt_iff]
    exact Iff.rfl
  | bool b =>
    cases h
    cases b with
    | false => exact iff_of_false (by decide) Bool.false_ne_true
    | true => exact iff_of_true (by decide) rfl
  | string t =>
    have hread : readFloat t.toString.toList = .ok x := h
    rw [iff_of_readFloat hread (0 < ·)]
    simp only [GivesPositive, positiveText_iff]
  | null => cases h
  | array items => cases h
  | object members => cases h

end TokenEndpoint.Coercion
