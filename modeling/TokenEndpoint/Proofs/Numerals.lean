import TokenEndpoint.Proofs.FloatValues
import TokenEndpoint.Settings.Coercion
/-!
Decimal numerals as texts: a sign, digits with a point among them, and an exponent. Main statements:

* `readExponent?_eq_some_iff`, `readDecimal?_eq_some_iff` -- which texts are read as an exponent and as a
  decimal number, and what they are read as;
* `Numeral.zero_lt_number_iff` -- which numerals are read as a number above zero.
-/

namespace TokenEndpoint.Coercion

open Decimal (nearest)

/-! ## 1. Signs -/

/-- A sign as it may be written. -/
inductive SignText : Bool → List Char → Prop
  | none : SignText false []
  | plus : SignText false ['+']
  | minus : SignText true ['-']

theorem signText_splitSign (s : List Char) :
    ∃ sign, SignText (splitSign s).1 sign ∧ s = sign ++ (splitSign s).2 := by
  unfold splitSign
  split
  · exact ⟨['-'], .minus, rfl⟩
  · exact ⟨['+'], .plus, rfl⟩
  · exact ⟨[], .none, rfl⟩

/-- A text that does not begin with a sign itself is what is left behind one. -/
theorem splitSign_append {negative : Bool} {sign r : List Char} (h : SignText negative sign)
    (hr : ∀ c ∈ r.head?, c ≠ '-' ∧ c ≠ '+') : splitSign (sign ++ r) = (negative, r) := by
  cases h with
  | none =>
    cases r with
    | nil => rfl
    | cons c r =>
      obtain ⟨hminus, hplus⟩ := hr c rfl
      unfold splitSign
      split
      · next heq => exact absurd (List.cons.inj heq).1 hminus
      · next heq => exact absurd (List.cons.inj heq).1 hplus
      · rfl
  | plus => rfl
  | minus => rfl

/-! ## 2. Numerals -/

/-- A decimal numeral: the digits before and after its point, and a power of ten. -/
structure Numeral where
  negative : Bool
  whole : List Char
  fraction : List Char
  power : Int

namespace Numeral

variable (n : Numeral)

def digits : List Char := n.whole ++ n.fraction

/-- The floating-point number that is nearest to it. -/
def number : Float :=
  nearest n.negative (digitsValue n.digits) (n.power - n.fraction.length)

/-- Its exact value. -/
def value : ℚ :=
  Decimal.sign n.negative * (digitsValue n.digits * 10 ^ (n.power - n.fraction.length))

end Numeral

/-- The power of ten as it may be written: digits, perhaps behind a sign. -/
inductive PowerText : Int → List Char → Prop
  | mk {negative : Bool} {sign digits : List Char} (hsign : SignText negative sign)
      (hne : digits ≠ []) (hdigits : digits.all Char.isDigit = true) :
      PowerText (if negative then -(digitsValue digits : Int) else digitsValue digits) (sign ++ digits)

/-- An exponent as it may be written; without one the power is zero. -/
inductive ExponentText : Int → List Char → Prop
  | none : ExponentText 0 []
  | written {mark : Char} {power : Int} {s : List Char} (hmark : mark = 'e' ∨ mark = 'E')
      (hpower : PowerText power s) : ExponentText power (mark :: s)

/-- What stands before an exponent: digits, with a point if there are some behind it. -/
inductive SignificandText : List Char → List Char → List Char → Prop
  | whole (digits : List Char) : SignificandText digits [] digits
  | point (digits fraction : List Char) : SignificandText digits fraction (digits ++ '.' :: fraction)

/-- A text is a numeral. -/
structure Numeral.Writes (n : Numeral) (s : List Char) : Prop where
  ne_nil : n.digits ≠ []
  isDigit : n.digits.all Char.isDigit = true
  text : ∃ sign significand exponent, SignText n.negative sign ∧
    SignificandText n.whole n.fraction significand ∧ ExponentText n.power exponent ∧
      s = sign ++ (significand ++ exponent)

/-! ### Reading an exponent -/

/-- A digit or a point is no sign. -/
theorem not_sign {s : List Char} (h : ∀ c ∈ s.head?, c.isDigit = true ∨ c = '.') :
    ∀ c ∈ s.head?, c ≠ '-' ∧ c ≠ '+' := fun c hc => by
  constructor <;> rintro rfl <;> exact absurd (h _ hc) (by decide)

theorem readExponent?_eq_some_iff {s : List Char} {power : Int} :
    readExponent? s = some power ↔ PowerText power s := by
  constructor
  · intro h
    obtain ⟨sign, hsign, hs⟩ := signText_splitSign s
    rw [readExponent?] at h
    dsimp only at h
    split at h
    · next hdigits =>
      cases h
      rw [Bool.and_eq_true, Bool.not_eq_true', List.isEmpty_eq_false_iff] at hdigits
      have hpower := PowerText.mk hsign hdigits.1 hdigits.2
      rwa [← hs] at hpower
    · cases h
  · intro h
    obtain ⟨hsign, hne, hdigits⟩ := h
    rw [readExponent?, splitSign_append hsign (not_sign fun c hc =>
      .inl (List.all_eq_true.mp hdigits c (List.mem_of_mem_head? hc)))]
    dsimp only
    rw [hdigits, List.isEmpty_eq_false_iff.mpr hne]
    rfl

/-- The mark of an exponent in lower case. -/
def lowerMark (c : Char) : Char := if c = 'E' then 'e' else c

theorem lowerMark_eq_iff {c : Char} : lowerMark c = 'e' ↔ c = 'e' ∨ c = 'E' := by
  rw [lowerMark]
  split <;> simp_all

/-- A text without marks. -/
def Unmarked (s : List Char) : Prop :=
  'e' ∉ s ∧ 'E' ∉ s

theorem unmarked_iff {s : List Char} : Unmarked s ↔ 'e' ∉ s.map lowerMark := by
  simp only [Unmarked, List.mem_map, lowerMark_eq_iff, not_exists, not_and, not_or]
  exact ⟨fun h c hc => ⟨fun he => h.1 (he ▸ hc), fun hE => h.2 (hE ▸ hc)⟩,
    fun h => ⟨fun hmem => (h _ hmem).1 rfl, fun hmem => (h _ hmem).2 rfl⟩⟩

theorem Unmarked.map_lowerMark {s : List Char} (h : Unmarked s) : s.map lowerMark = s := by
  refine (List.map_congr_left fun c hc => ?_).trans (List.map_id s)
  exact if_neg fun (heq : c = 'E') => h.2 (heq ▸ hc)

theorem SignText.mem {negative : Bool} {sign : List Char} (h : SignText negative sign) {c : Char}
    (hc : c ∈ sign) : c ∈ ['+', '-'] := by
  cases h with
  | none => cases hc
  | plus => exact List.mem_cons.mpr (.inl (List.mem_singleton.mp hc))
  | minus => exact List.mem_cons_of_mem _ hc

/-- A power of ten consists of digits and its sign. -/
theorem PowerText.isDigit_or_mem {power : Int} {s : List Char} (h : PowerText power s) {c : Char}
    (hc : c ∈ s) : c.isDigit = true ∨ c ∈ ['+', '-'] := by
  obtain ⟨hsign, -, hdigits⟩ := h
  rcases List.mem_append.mp hc with hc | hc
  · exact .inr (hsign.mem hc)
  · exact .inl (List.all_eq_true.mp hdigits c hc)

theorem PowerText.unmarked {power : Int} {s : List Char} (h : PowerText power s) : Unmarked s :=
  ⟨fun hmem => absurd (h.isDigit_or_mem hmem) (by decide),
    fun hmem => absurd (h.isDigit_or_mem hmem) (by decide)⟩

/-- The power that stands behind the mark of an exponent, if there is a mark. -/
def powerOf? : Option (List Char) → Option Int
  | none => some 0
  | some s => readExponent? s

/-- **A text is cut before its exponent.** The cut is at the first mark in lower case. -/
theorem cut_exponent_iff {r significand : List Char} {power : Int} :
    (∃ after, Text.cut 'e' (r.map lowerMark) = (significand, after) ∧ powerOf? after = some power) ↔
      Unmarked significand ∧ ∃ exponent, ExponentText power exponent ∧ r = significand ++ exponent := by
  constructor
  · intro h
    obtain ⟨after, hcut, hpower⟩ := h
    rcases Text.cut_cases 'e' (r.map lowerMark) with ⟨hnot, hwhole⟩ | ⟨before, rest, hmap, hnot, hparts⟩
    · have hr := unmarked_iff.mpr hnot
      rw [hcut, hr.map_lowerMark] at hwhole
      obtain ⟨rfl, rfl⟩ := Prod.mk.inj hwhole
      cases hpower
      exact ⟨hr, [], .none, (List.append_nil _).symm⟩
    · rw [hcut] at hparts
      obtain ⟨rfl, rfl⟩ := Prod.mk.inj hparts
      obtain ⟨front, back, rfl, hfront, hback⟩ := List.map_eq_append_iff.mp hmap
      obtain ⟨mark, s, rfl, hmark, rfl⟩ := List.map_eq_cons_iff.mp hback
      subst hfront
      have hsignificand := unmarked_iff.mpr hnot
      have hpowerText := readExponent?_eq_some_iff.mp hpower
      -- what is read as a power has no mark, so it was written as it is read
      have hs : Unmarked s := unmarked_iff.mpr hpowerText.unmarked.1
      rw [hs.map_lowerMark] at hpowerText
      rw [hsignificand.map_lowerMark]
      exact ⟨hsignificand, _, .written (lowerMark_eq_iff.mp hmark) hpowerText, rfl⟩
  · intro h
    obtain ⟨hsignificand, exponent, hexponent, rfl⟩ := h
    cases hexponent with
    | none =>
      refine ⟨none, ?_, rfl⟩
      rw [List.append_nil, hsignificand.map_lowerMark, Text.cut_of_not_mem hsignificand.1]
    | @written mark power s hmark hpower =>
      refine ⟨some s, ?_, readExponent?_eq_some_iff.mpr hpower⟩
      rw [List.map_append, hsignificand.map_lowerMark, List.map_cons, lowerMark_eq_iff.mpr hmark,
        hpower.unmarked.map_lowerMark, Text.cut_append hsignificand.1]

/-! ### Reading a numeral -/

/-- **A significand is cut at its point.** -/
theorem cut_significand_iff {s whole fraction : List Char} :
    (∃ after, Text.cut '.' s = (whole, after) ∧ after.getD [] = fraction) ↔
      '.' ∉ whole ∧ SignificandText whole fraction s := by
  constructor
  · intro h
    obtain ⟨after, hcut, rfl⟩ := h
    rcases Text.cut_cases '.' s with ⟨hnot, hwhole⟩ | ⟨before, rest, rfl, hnot, hparts⟩
    · obtain ⟨rfl, rfl⟩ := Prod.mk.inj (hcut.symm.trans hwhole)
      exact ⟨hnot, .whole _⟩
    · obtain ⟨rfl, rfl⟩ := Prod.mk.inj (hcut.symm.trans hparts)
      exact ⟨hnot, .point _ _⟩
  · intro h
    obtain ⟨hnot, hsignificand⟩ := h
    cases hsignificand with
    | whole => exact ⟨none, Text.cut_of_not_mem hnot, rfl⟩
    | point => exact ⟨some fraction, Text.cut_append hnot fraction, rfl⟩

section Significand

variable {whole fraction s : List Char} (h : SignificandText whole fraction s)

include h

theorem SignificandText.ne_nil (hne : whole ++ fraction ≠ []) : s ≠ [] := by
  cases h with
  | whole => rwa [List.append_nil] at hne
  | point => simp

variable (hdigits : (whole ++ fraction).all Char.isDigit = true)

include hdigits

/-- A significand consists of digits and its point. -/
theorem SignificandText.isDigit_or_eq_point {c : Char} (hc : c ∈ s) : c.isDigit = true ∨ c = '.' := by
  cases h with
  | whole =>
    rw [List.append_nil] at hdigits
    exact .inl (List.all_eq_true.mp hdigits c hc)
  | point =>
    rcases List.mem_append.mp hc with hwhole | htail
    · exact .inl (List.all_eq_true.mp hdigits c (List.mem_append_left _ hwhole))
    · rcases List.mem_cons.mp htail with hpoint | hfraction
      · exact .inr hpoint
      · exact .inl (List.all_eq_true.mp hdigits c (List.mem_append_right _ hfraction))

theorem SignificandText.not_mem {c : Char} (hc : c.isDigit = false) (hpoint : c ≠ '.') : c ∉ s :=
  fun hmem => by
    rcases h.isDigit_or_eq_point hdigits hmem with hdigit | heq
    · rw [hc] at hdigit
      cases hdigit
    · exact hpoint heq

theorem SignificandText.unmarked : Unmarked s :=
  ⟨h.not_mem hdigits (by decide) (by decide), h.not_mem hdigits (by decide) (by decide)⟩

/-- So does its first character. -/
theorem SignificandText.isDigit_or_eq_point_head (hne : whole ++ fraction ≠ []) (t : List Char) :
    ∀ c ∈ (s ++ t).head?, c.isDigit = true ∨ c = '.' := by
  intro c hc
  obtain ⟨d, r, rfl⟩ := List.exists_cons_of_ne_nil (h.ne_nil hne)
  cases hc
  exact h.isDigit_or_eq_point hdigits List.mem_cons_self

end Significand

theorem readDecimal?_eq (s : List Char) : readDecimal? s =
    (powerOf? (Text.cut 'e' ((splitSign s).2.map lowerMark)).2).bind fun power =>
      let (whole, after) := Text.cut '.' (Text.cut 'e' ((splitSign s).2.map lowerMark)).1
      let fraction := after.getD []
      if !(whole ++ fraction).isEmpty && (whole ++ fraction).all Char.isDigit then
        some (nearest (splitSign s).1 (digitsValue (whole ++ fraction)) (power - fraction.length))
      else none := by
  have hmark : (fun c => if c = 'E' then 'e' else c) = lowerMark := rfl
  rw [readDecimal?, hmark]
  dsimp only
  rcases Text.cut 'e' ((splitSign s).2.map lowerMark) with ⟨significand, _ | after⟩ <;> rfl

/-- **A text is read as a decimal number exactly if it is a numeral.** -/
theorem readDecimal?_eq_some_iff {s : List Char} {x : Float} :
    readDecimal? s = some x ↔ ∃ n : Numeral, n.Writes s ∧ x = n.number := by
  rw [readDecimal?_eq]
  dsimp only
  constructor
  · intro h
    obtain ⟨power, hpower, h⟩ := Option.bind_eq_some_iff.mp h
    split at h
    · next hdigits =>
      rw [Bool.and_eq_true, Bool.not_eq_true', List.isEmpty_eq_false_iff] at hdigits
      obtain ⟨sign, hsign, hs⟩ := signText_splitSign s
      obtain ⟨-, exponent, hexponent, hr⟩ := cut_exponent_iff.mp ⟨_, rfl, hpower⟩
      obtain ⟨-, hsignificand⟩ := cut_significand_iff.mp ⟨_, rfl, rfl⟩
      exact ⟨⟨_, _, _, power⟩,
        ⟨hdigits.1, hdigits.2, sign, _, exponent, hsign, hsignificand, hexponent, hr ▸ hs⟩,
        (Option.some.inj h).symm⟩
    · cases h
  · intro h
    obtain ⟨n, ⟨hne, hdigits, sign, significand, exponent, hsign, hsignificand, hexponent, rfl⟩, rfl⟩ := h
    have hwhole : '.' ∉ n.whole := fun hmem =>
      absurd (List.all_eq_true.mp hdigits _ (List.mem_append_left _ hmem)) (by decide)
    obtain ⟨after, hcut, hpower⟩ :=
      cut_exponent_iff.mpr ⟨hsignificand.unmarked hdigits, exponent, hexponent, rfl⟩
    obtain ⟨after', hcut', hfraction⟩ := cut_significand_iff.mpr ⟨hwhole, hsignificand⟩
    rw [splitSign_append hsign (not_sign (hsignificand.isDigit_or_eq_point_head hdigits hne exponent))]
    dsimp only
    rw [hcut, hpower, hcut', Option.bind_some]
    dsimp only
    rw [hfraction, show n.whole ++ n.fraction = n.digits from rfl, hdigits,
      List.isEmpty_eq_false_iff.mpr hne]
    rfl

/-- A numeral consists of digits, signs, a point and the mark of its exponent. -/
theorem Numeral.Writes.isDigit_or_mem {n : Numeral} {s : List Char} (h : n.Writes s) {c : Char}
    (hc : c ∈ s) : c.isDigit = true ∨ c ∈ ['+', '-', '.', 'e', 'E'] := by
  obtain ⟨-, hdigits, sign, significand, exponent, hsign, hsignificand, hexponent, rfl⟩ := h
  rw [List.mem_append, List.mem_append] at hc
  rcases hc with hc | hc | hc
  · have hmem := hsign.mem hc
    exact .inr (List.mem_append_left ['.', 'e', 'E'] hmem)
  · exact (hsignificand.isDigit_or_eq_point hdigits hc).imp_right fun heq => by simp [heq]
  · generalize n.power = power at hexponent
    cases hexponent with
    | none => cases hc
    | written hmark hpower =>
      rcases List.mem_cons.mp hc with rfl | hc
      · rcases hmark with rfl | rfl <;> exact .inr (by decide)
      · exact (hpower.isDigit_or_mem hc).imp_right fun hmem =>
          List.mem_append_left ['.', 'e', 'E'] hmem

/-- **A numeral is read as a number above zero if it is more than half of the least one.** -/
theorem Numeral.zero_lt_number_iff (n : Numeral) :
    0 < n.number ↔ (2 : ℚ) ^ (-1075 : Int) < n.value := by
  rw [number, Decimal.Binary.zero_lt_nearest_iff, value]
  cases n.negative with
  | false => simp [Decimal.sign]
  | true =>
    have hleast : (0 : ℚ) < 2 ^ (-1075 : Int) := by positivity
    have hsize : (0 : ℚ) ≤ digitsValue n.digits * 10 ^ (n.power - n.fraction.length) := by positivity
    refine iff_of_false (by simp) (not_lt.mpr ?_)
    rw [Decimal.sign, if_pos rfl]
    linarith

end TokenEndpoint.Coercion
