import Mathlib.Algebra.Order.Field.Power
import Mathlib.Algebra.Order.Field.Rat
import Mathlib.Tactic.FieldSimp
import Mathlib.Tactic.Linarith
import Mathlib.Tactic.NormNum
import Mathlib.Tactic.Positivity
import Mathlib.Tactic.Ring
import TokenEndpoint.Decimal.Number
/-!
Floating-point sums against exact ones. A number that is nearest to a fraction never passes a
floating-point number: what lies at or below such a number is not rounded above it, and what lies at or
above it is not rounded below. So a reading of a clock that is at least an exact sum is not below the
rounded one. Main statements:

* `below_iff` -- comparison is that of the exact values;
* `unitExponent_spec`, `ofBits_encodeUnits` -- what the nearest number is;
* `nearest_le`, `le_nearest` -- it does not pass a floating-point number;
* `not_below_add` -- nor does a rounded sum.
-/

namespace TokenEndpoint.Decimal

/-! ## 1. Values -/

/-- The exact value of a finite number. -/
def Binary.value? (x : Binary) : Option ℚ :=
  x.fraction?.map fun (n, d) => (n : ℚ) / d

/-- The exact value of a finite number. -/
def Number.value? (x : Number) : Option ℚ :=
  x.fraction?.map fun (n, d) => (n : ℚ) / d

theorem Binary.den_pos {x : Binary} {n : Int} {d : Nat} (h : x.fraction? = some (n, d)) : 0 < d := by
  cases x with
  | nan => cases h
  | infinite negative => cases h
  | finite negative m q =>
    obtain ⟨-, rfl⟩ := Prod.mk.inj (Option.some.inj h)
    split
    · exact Nat.one_pos
    · exact Nat.pow_pos Nat.two_pos

theorem Number.den_pos {x : Number} {n : Int} {d : Nat} (h : x.fraction? = some (n, d)) : 0 < d := by
  cases x with
  | whole i =>
    obtain ⟨-, rfl⟩ := Prod.mk.inj (Option.some.inj h)
    exact Nat.one_pos
  | real x => exact x.den_pos h

@[simp] theorem Number.value?_whole (i : Int) : (whole i).value? = some (i : ℚ) := by
  simp [value?, fraction?]

/-- A sign. -/
def sign (negative : Bool) : ℚ :=
  if negative then -1 else 1

/-- The value of a finite number is its significand times the power of two. -/
theorem Binary.value?_finite (negative : Bool) (m : Nat) (q : Int) :
    (finite negative m q).value? = some (sign negative * ((m : ℚ) * 2 ^ q)) := by
  rw [value?, fraction?]
  by_cases hq : 0 ≤ q
  · obtain ⟨n, rfl⟩ := Int.eq_ofNat_of_zero_le hq
    cases negative <;> simp [sign]
  · obtain ⟨n, rfl⟩ : ∃ n : Nat, q = -n := ⟨(-q).toNat, by omega⟩
    rw [if_neg hq, if_neg hq, neg_neg, Int.toNat_natCast, zpow_neg, zpow_natCast]
    cases negative <;> simp [sign, div_eq_mul_inv]

/-- **Numbers are compared as their values.** -/
theorem Number.below_iff {a b : Number} {x y : ℚ} (ha : a.value? = some x) (hb : b.value? = some y) :
    a.below b = true ↔ x < y := by
  obtain ⟨⟨n, d⟩, hn, rfl⟩ := Option.map_eq_some_iff.mp ha
  obtain ⟨⟨m, e⟩, hm, rfl⟩ := Option.map_eq_some_iff.mp hb
  have hd : (0 : ℚ) < d := by exact_mod_cast den_pos hn
  have he : (0 : ℚ) < e := by exact_mod_cast den_pos hm
  dsimp only
  rw [below, hn, hm, decide_eq_true_eq, div_lt_div_iff₀ hd he]
  exact_mod_cast Iff.rfl

/-! ## 2. Rounded quotients -/

section Quotients

variable {num den k : Nat} (hden : 0 < den)

include hden

theorem roundDiv_le (h : num ≤ k * den) : roundDiv num den ≤ k := by
  have hle : num / den ≤ k := Nat.div_le_of_le_mul (Nat.mul_comm k den ▸ h)
  have hnum : den * (num / den) + num % den = num := Nat.div_add_mod num den
  -- what is rounded up is no multiple of the denominator
  have hup (hrest : 0 < num % den) : num / den + 1 ≤ k := by
    refine Nat.lt_of_le_of_ne hle fun heq => ?_
    rw [heq, Nat.mul_comm den k] at hnum
    omega
  unfold roundDiv
  dsimp only
  split
  · exact hle
  · split
    · exact hup (by omega)
    · split
      · exact hle
      · exact hup (by omega)

theorem le_roundDiv (h : k * den ≤ num) : k ≤ roundDiv num den := by
  have hle : k ≤ num / den := (Nat.le_div_iff_mul_le hden).mpr h
  unfold roundDiv
  dsimp only
  repeat' split
  all_goals omega

/-- A half is rounded to zero. -/
theorem roundDiv_pos_iff : 0 < roundDiv num den ↔ den < 2 * num := by
  unfold roundDiv
  dsimp only
  rcases Nat.lt_or_ge num den with hlt | hge
  · rw [Nat.div_eq_of_lt hlt, Nat.mod_eq_of_lt hlt]
    repeat' split
    all_goals omega
  · have hquotient : 1 ≤ num / den := (Nat.one_le_div_iff hden).mpr hge
    repeat' split
    all_goals omega

end Quotients

/-! ## 3. Units -/

section Units

variable {num den : Nat}

/-- In other units it is the same fraction. -/
theorem value_inUnits (num den : Nat) (e : Int) :
    ((inUnits num den e).1 : ℚ) / (inUnits num den e).2 = (num : ℚ) / den / 2 ^ e := by
  rw [inUnits]
  by_cases he : 0 ≤ e
  · obtain ⟨n, rfl⟩ := Int.eq_ofNat_of_zero_le he
    simp [div_div]
  · obtain ⟨n, rfl⟩ : ∃ n : Nat, e = -n := ⟨(-e).toNat, by omega⟩
    rw [if_neg he, neg_neg, Int.toNat_natCast, zpow_neg, zpow_natCast, div_inv_eq_mul]
    dsimp only
    push_cast
    rw [Nat.pow_eq]
    push_cast
    rw [mul_div_right_comm]

section Positive

variable (hden : 0 < den)

include hden

theorem inUnits_den_pos (e : Int) : 0 < (inUnits num den e).2 := by
  rw [inUnits]
  split
  · exact Nat.mul_pos hden (Nat.pow_pos Nat.two_pos)
  · exact hden

theorem le_inUnits_iff {k : Nat} {e : Int} :
    k * (inUnits num den e).2 ≤ (inUnits num den e).1 ↔ (k : ℚ) * 2 ^ e ≤ (num : ℚ) / den := by
  have hd : (0 : ℚ) < (inUnits num den e).2 := by exact_mod_cast inUnits_den_pos hden e
  have hunit : (0 : ℚ) < 2 ^ e := by positivity
  rw [← le_div_iff₀ hunit, ← value_inUnits, le_div_iff₀ hd]
  exact_mod_cast Iff.rfl

theorem inUnits_le_iff {k : Nat} {e : Int} :
    (inUnits num den e).1 ≤ k * (inUnits num den e).2 ↔ (num : ℚ) / den ≤ (k : ℚ) * 2 ^ e := by
  have hd : (0 : ℚ) < (inUnits num den e).2 := by exact_mod_cast inUnits_den_pos hden e
  have hunit : (0 : ℚ) < 2 ^ e := by positivity
  rw [← div_le_iff₀ hunit, ← value_inUnits, div_le_iff₀ hd]
  exact_mod_cast Iff.rfl

theorem roundDiv_inUnits_pos_iff {e : Int} :
    0 < roundDiv (inUnits num den e).1 (inUnits num den e).2 ↔ 2 ^ e < 2 * ((num : ℚ) / den) := by
  have hd : (0 : ℚ) < (inUnits num den e).2 := by exact_mod_cast inUnits_den_pos hden e
  have hunit : (0 : ℚ) < 2 ^ e := by positivity
  rw [roundDiv_pos_iff (inUnits_den_pos hden e), ← one_lt_div hunit, mul_div_assoc, ← value_inUnits,
    ← mul_div_assoc, one_lt_div hd]
  exact_mod_cast Iff.rfl

end Positive

/-- A fraction lies between powers of two that the sizes of its parts give. -/
theorem fraction_bounds (hnum : 0 < num) (hden : 0 < den) :
    (2 : ℚ) ^ ((num.log2 : Int) - den.log2 - 1) ≤ (num : ℚ) / den ∧
      (num : ℚ) / den < 2 ^ ((num.log2 : Int) - den.log2 + 1) := by
  have hd : (0 : ℚ) < den := by exact_mod_cast hden
  have hnumLow : (2 : ℚ) ^ num.log2 ≤ num := by
    exact_mod_cast Nat.log2_self_le (Nat.ne_of_gt hnum)
  have hnumHigh : (num : ℚ) < 2 ^ (num.log2 + 1) := by exact_mod_cast Nat.lt_log2_self
  have hdenLow : (2 : ℚ) ^ den.log2 ≤ den := by
    exact_mod_cast Nat.log2_self_le (Nat.ne_of_gt hden)
  have hdenHigh : (den : ℚ) < 2 ^ (den.log2 + 1) := by exact_mod_cast Nat.lt_log2_self
  constructor
  · rw [le_div_iff₀ hd]
    calc (2 : ℚ) ^ ((num.log2 : Int) - den.log2 - 1) * den
        ≤ 2 ^ ((num.log2 : Int) - den.log2 - 1) * 2 ^ (den.log2 + 1) := by gcongr
      _ = 2 ^ num.log2 := by
        rw [← zpow_natCast, ← zpow_natCast, ← zpow_add₀ two_ne_zero]
        congr 1
        push_cast
        ring
      _ ≤ num := hnumLow
  · rw [div_lt_iff₀ hd]
    calc (num : ℚ) < 2 ^ (num.log2 + 1) := hnumHigh
      _ = 2 ^ ((num.log2 : Int) - den.log2 + 1) * 2 ^ den.log2 := by
        rw [← zpow_natCast, ← zpow_natCast, ← zpow_add₀ two_ne_zero]
        congr 1
        push_cast
        ring
      _ ≤ 2 ^ ((num.log2 : Int) - den.log2 + 1) * den := by gcongr

/-- **In its units a fraction is below `2 ^ 53`, and at least `2 ^ 52` unless they are the least
ones.** -/
theorem unitExponent_spec (hnum : 0 < num) (hden : 0 < den) :
    -1074 ≤ unitExponent num den ∧ (num : ℚ) / den < 2 ^ 53 * 2 ^ unitExponent num den ∧
      (unitExponent num den = -1074 ∨ 2 ^ 52 * 2 ^ unitExponent num den ≤ (num : ℚ) / den) := by
  obtain ⟨hlow, hhigh⟩ := fraction_bounds hnum hden
  rw [unitExponent]
  generalize hguess : max ((num.log2 : Int) - den.log2 - 53) (-1074) = guess
  have hmin : -1074 ≤ guess := hguess ▸ le_max_right _ _
  have hsize : (num.log2 : Int) - den.log2 - 53 ≤ guess := hguess ▸ le_max_left _ _
  have htest : Nat.pow 2 53 ≤ (inUnits num den guess).1 / (inUnits num den guess).2 ↔
      (2 : ℚ) ^ 53 * 2 ^ guess ≤ (num : ℚ) / den := by
    rw [Nat.le_div_iff_mul_le (inUnits_den_pos hden guess), le_inUnits_iff hden]
    norm_num
  split
  · next hbig =>
    rw [htest] at hbig
    have hstep : (2 : ℚ) ^ (guess + 1) = 2 * 2 ^ guess := by
      rw [zpow_add_one₀ two_ne_zero, mul_comm]
    refine ⟨by omega, ?_, Or.inr ?_⟩
    · refine lt_of_lt_of_le hhigh ?_
      rw [← zpow_natCast, ← zpow_add₀ two_ne_zero]
      exact zpow_le_zpow_right₀ one_le_two (by push_cast; omega)
    · rw [hstep]
      linarith
  · next hsmall =>
    rw [htest, not_le] at hsmall
    refine ⟨hmin, hsmall, ?_⟩
    rcases eq_or_ne guess (-1074) with hleast | hleast
    · exact Or.inl hleast
    · have hexact : guess = (num.log2 : Int) - den.log2 - 53 := by omega
      refine Or.inr (le_trans (le_of_eq ?_) hlow)
      rw [hexact, ← zpow_natCast, ← zpow_add₀ two_ne_zero]
      congr 1
      push_cast
      ring

end Units

/-! ## 4. The nearest number -/

section Nearest

/-- The number whose bits are these fields, without a sign. -/
theorem ofBits_fields (exponent fraction : Nat) (hexponent : exponent < 2047)
    (hfraction : fraction < 2 ^ 52) :
    Binary.ofBits (.ofNat (exponent * Nat.pow 2 52 + fraction)) =
      if exponent = 0 then .finite false fraction (-1074)
      else .finite false (Nat.pow 2 52 + fraction) ((exponent : Int) - 1075) := by
  have h52 : Nat.pow 2 52 = 4503599627370496 := rfl
  have h63 : Nat.pow 2 63 = 9223372036854775808 := rfl
  have hbits : (UInt64.ofNat (exponent * Nat.pow 2 52 + fraction)).toNat =
      exponent * Nat.pow 2 52 + fraction := by
    refine UInt64.toNat_ofNat_of_lt' ?_
    have hsize : UInt64.size = 18446744073709551616 := rfl
    rw [hsize, h52]
    omega
  have hpositive : ¬ Nat.pow 2 63 ≤ exponent * Nat.pow 2 52 + fraction := by
    rw [h52, h63]
    omega
  have hexp : (exponent * Nat.pow 2 52 + fraction) / Nat.pow 2 52 % 2048 = exponent := by
    rw [h52]
    omega
  have hfrac : (exponent * Nat.pow 2 52 + fraction) % Nat.pow 2 52 = fraction := by
    rw [h52]
    omega
  have hmax : exponent ≠ 2047 := by omega
  rw [Binary.ofBits, hbits, hexp, hfrac, if_neg hmax, decide_eq_false hpositive]

/-- What the bits stand for of less than `2 ^ 53` units: their value, or infinity where that is too
large. -/
theorem ofBits_encodeUnits_of_lt {m : Nat} {e : Int} (hm : m < 2 ^ 53) (he : -1074 ≤ e)
    (hleast : m < 2 ^ 52 → e = -1074) :
    Binary.ofBits (encodeUnits m e) = .infinite false ∧ (2 : ℚ) ^ (1024 : Int) ≤ m * 2 ^ e ∨
      Binary.ofBits (encodeUnits m e) = .finite false m e := by
  have hne : ¬ m = Nat.pow 2 53 := Nat.ne_of_lt hm
  rw [encodeUnits, if_neg hne]
  dsimp only
  split
  · next hlarge =>
    have hnormal : 2 ^ 52 ≤ m := by
      by_contra hsmall
      have hexact := hleast (by omega)
      omega
    have hnormal' : (2 : ℚ) ^ (52 : Int) ≤ m := by exact_mod_cast hnormal
    refine Or.inl ⟨by decide, ?_⟩
    calc (2 : ℚ) ^ (1024 : Int) = (2 : ℚ) ^ (52 : Int) * (2 : ℚ) ^ (972 : Int) := by
          rw [← zpow_add₀ two_ne_zero]
          rfl
      _ ≤ m * (2 : ℚ) ^ e := by
        gcongr
        · exact one_le_two
        · omega
  · next hrange =>
    refine Or.inr ?_
    split
    · next hsmall =>
      have hfields := ofBits_fields 0 m (by omega) hsmall
      rw [Nat.zero_mul, Nat.zero_add] at hfields
      rw [hfields, if_pos rfl, hleast hsmall]
    · next hnormal =>
      have h52 : Nat.pow 2 52 = 4503599627370496 := rfl
      rw [h52] at hnormal ⊢
      have hfields := ofBits_fields (e + 1075).toNat (m - 4503599627370496) (by omega) (by omega)
      rw [h52] at hfields
      have hexponent : (e + 1075).toNat ≠ 0 := by omega
      have hsignificand : 4503599627370496 + (m - 4503599627370496) = m := by omega
      have hexact : ((e + 1075).toNat : Int) - 1075 = e := by omega
      rw [hfields, if_neg hexponent, hsignificand, hexact]

/-- **What the bits of some units stand for.** -/
theorem ofBits_encodeUnits {m : Nat} {e : Int} (hm : m ≤ 2 ^ 53) (he : -1074 ≤ e)
    (hleast : m < 2 ^ 52 → e = -1074) :
    Binary.ofBits (encodeUnits m e) = .infinite false ∧ (2 : ℚ) ^ (1024 : Int) ≤ m * 2 ^ e ∨
      ∃ (m' : Nat) (e' : Int), Binary.ofBits (encodeUnits m e) = .finite false m' e' ∧
        (m' : ℚ) * 2 ^ e' = m * 2 ^ e := by
  rcases Nat.lt_or_eq_of_le hm with hlt | rfl
  · rcases ofBits_encodeUnits_of_lt hlt he hleast with hinf | hfin
    · exact Or.inl hinf
    · exact Or.inr ⟨m, e, hfin, rfl⟩
  · have hsame : encodeUnits (2 ^ 53) e = encodeUnits (2 ^ 52) (e + 1) := rfl
    have hvalue : ((2 ^ 52 : Nat) : ℚ) * 2 ^ (e + 1) = ((2 ^ 53 : Nat) : ℚ) * 2 ^ e := by
      rw [zpow_add_one₀ two_ne_zero]
      push_cast
      ring
    have hnext := ofBits_encodeUnits_of_lt (m := 2 ^ 52) (e := e + 1) (by norm_num) (by omega)
      fun h => absurd h (Nat.lt_irrefl _)
    rw [hsame, ← hvalue]
    rcases hnext with hinf | hfin
    · exact Or.inl hinf
    · exact Or.inr ⟨2 ^ 52, e + 1, hfin, rfl⟩

/-- The value of a floating-point number, without its sign. -/
def Representable (r : ℚ) : Prop :=
  ∃ (n : Nat) (q : Int), n < 2 ^ 53 ∧ -1074 ≤ q ∧ q ≤ 971 ∧ r = n * 2 ^ q

/-- With a smaller exponent it is less than `2 ^ 52` units. -/
theorem lt_of_exponent_lt {n : Nat} {q e : Int} (hn : n < 2 ^ 53) (h : q < e) :
    (n : ℚ) * 2 ^ q < 2 ^ 52 * 2 ^ e := by
  have hn' : (n : ℚ) < 2 ^ 53 := by exact_mod_cast hn
  have hunit : (0 : ℚ) < 2 ^ q := by positivity
  calc (n : ℚ) * 2 ^ q < 2 ^ 53 * 2 ^ q := by gcongr
    _ = 2 ^ 52 * 2 ^ (q + 1) := by
      rw [zpow_add_one₀ two_ne_zero]
      ring
    _ ≤ 2 ^ 52 * 2 ^ e := by
      gcongr
      · exact one_le_two
      · omega

/-- With an exponent at least as large it is a whole number of units. -/
theorem exists_units_eq {n : Nat} {q e : Int} (h : e ≤ q) :
    ∃ k : Nat, (n : ℚ) * 2 ^ q = k * 2 ^ e := by
  obtain ⟨d, rfl⟩ : ∃ d : Nat, q = e + d := ⟨(q - e).toNat, by omega⟩
  refine ⟨n * 2 ^ d, ?_⟩
  rw [zpow_add₀ two_ne_zero, zpow_natCast]
  push_cast
  ring

variable {num den : Nat} (hnum : 0 < num) (hden : 0 < den)

include hnum hden

/-- The nearest number in its units. -/
theorem nearestBits_units :
    ∃ (m : Nat) (e : Int), nearestBits num den = encodeUnits m e ∧
      m ≤ 2 ^ 53 ∧ -1074 ≤ e ∧ (m < 2 ^ 52 → e = -1074) ∧
      (e = -1074 ∨ 2 ^ 52 * 2 ^ e ≤ (num : ℚ) / den) ∧ (0 < m ↔ 2 ^ e < 2 * ((num : ℚ) / den)) ∧
      (∀ k : Nat, (num : ℚ) / den ≤ k * 2 ^ e → m ≤ k) ∧
      ∀ k : Nat, k * 2 ^ e ≤ (num : ℚ) / den → k ≤ m := by
  obtain ⟨hmin, hhigh, hlow⟩ := unitExponent_spec hnum hden
  generalize he : unitExponent num den = e at hmin hhigh hlow
  have hd : 0 < (inUnits num den e).2 := inUnits_den_pos hden e
  have hup (k : Nat) (h : (num : ℚ) / den ≤ k * 2 ^ e) :
      roundDiv (inUnits num den e).1 (inUnits num den e).2 ≤ k :=
    roundDiv_le hd ((inUnits_le_iff hden).mpr h)
  have hdown (k : Nat) (h : k * 2 ^ e ≤ (num : ℚ) / den) :
      k ≤ roundDiv (inUnits num den e).1 (inUnits num den e).2 :=
    le_roundDiv hd ((le_inUnits_iff hden).mpr h)
  refine ⟨_, e, ?_, hup (2 ^ 53) ?_, hmin, fun hsmall => ?_, hlow,
    roundDiv_inUnits_pos_iff hden, hup, hdown⟩
  · rw [nearestBits, if_neg (Nat.ne_of_gt hnum), he]
  · push_cast
    exact le_of_lt hhigh
  · refine hlow.resolve_right fun hle => ?_
    have hnormal := hdown (2 ^ 52) (by push_cast; exact hle)
    omega

/-- **The nearest number of a fraction that does not exceed a floating-point number does not exceed it
either.** -/
theorem nearest_le {r : ℚ} (hr : Representable r) (h : (num : ℚ) / den ≤ r) :
    ∃ (m : Nat) (e : Int), Binary.ofBits (nearestBits num den) = .finite false m e ∧
      (m : ℚ) * 2 ^ e ≤ r := by
  obtain ⟨m, e, hbits, hm, hmin, hleast, hlow, -, hup, -⟩ := nearestBits_units hnum hden
  obtain ⟨n, q, hn, hqmin, hqmax, rfl⟩ := hr
  have heq : e ≤ q := by
    by_contra hlt
    have hsmall := lt_of_exponent_lt hn (not_le.mp hlt)
    have hnormal := hlow.resolve_left (by omega)
    linarith
  obtain ⟨k, hk⟩ := exists_units_eq (n := n) heq
  have hle : (m : ℚ) * 2 ^ e ≤ n * 2 ^ q := by
    have hmk : m ≤ k := hup k (hk ▸ h)
    rw [hk]
    gcongr
  rw [hbits]
  rcases ofBits_encodeUnits hm hmin hleast with ⟨-, hinf⟩ | ⟨m', e', hfin, hvalue⟩
  · -- an infinite result would be above every floating-point number
    have hbound : (n : ℚ) * 2 ^ q < 2 ^ 52 * 2 ^ (972 : Int) := lt_of_exponent_lt hn (by omega)
    have hexact : (2 : ℚ) ^ 52 * 2 ^ (972 : Int) = 2 ^ (1024 : Int) := by
      rw [← zpow_natCast, ← zpow_add₀ two_ne_zero]
      rfl
    rw [hexact] at hbound
    exact absurd (hinf.trans hle) (not_le.mpr hbound)
  · exact ⟨m', e', hfin, hvalue ▸ hle⟩

/-- **Nor is the nearest number of a fraction that a floating-point number does not exceed below that
number.** -/
theorem le_nearest {r : ℚ} (hr : Representable r) (h : r ≤ (num : ℚ) / den) :
    Binary.ofBits (nearestBits num den) = .infinite false ∨
      ∃ (m : Nat) (e : Int), Binary.ofBits (nearestBits num den) = .finite false m e ∧
        r ≤ (m : ℚ) * 2 ^ e := by
  obtain ⟨m, e, hbits, hm, hmin, hleast, -, -, -, hdown⟩ := nearestBits_units hnum hden
  obtain ⟨n, q, hn, hq, -, rfl⟩ := hr
  have hle : (n : ℚ) * 2 ^ q ≤ m * 2 ^ e := by
    rcases le_or_gt e q with heq | hlt
    · obtain ⟨k, hk⟩ := exists_units_eq (n := n) heq
      have hkm : k ≤ m := hdown k (hk ▸ h)
      rw [hk]
      gcongr
    · have hnormal : 2 ^ 52 ≤ m := by
        by_contra hsmall
        have hexact := hleast (not_le.mp hsmall)
        omega
      have hnormal' : (2 : ℚ) ^ 52 ≤ m := by exact_mod_cast hnormal
      calc (n : ℚ) * 2 ^ q ≤ 2 ^ 52 * 2 ^ e := le_of_lt (lt_of_exponent_lt hn hlt)
        _ ≤ m * 2 ^ e := by gcongr
  rw [hbits]
  rcases ofBits_encodeUnits hm hmin hleast with ⟨hinf, -⟩ | ⟨m', e', hfin, hvalue⟩
  · exact Or.inl hinf
  · exact Or.inr ⟨m', e', hfin, hvalue ▸ hle⟩

end Nearest

/-! ## 5. Sums -/

namespace Binary

/-- A number that does not exceed a value. -/
def AtMost (x : Binary) (r : ℚ) : Prop :=
  x = .infinite true ∨ ∃ v, x.value? = some v ∧ v ≤ r

theorem abs_sign_mul (negative : Bool) {v : ℚ} (h : 0 ≤ v) : |sign negative * v| = v := by
  cases negative <;> simp [sign, abs_of_nonneg h]

/-- The value of a number that has bits can be represented. -/
theorem representable_ofBits {bits : UInt64} {v : ℚ} (h : (ofBits bits).value? = some v) :
    Representable |v| := by
  have h52 : Nat.pow 2 52 = 4503599627370496 := rfl
  have hfraction : bits.toNat % Nat.pow 2 52 < 4503599627370496 := Nat.mod_lt _ (by decide)
  have hexponent : bits.toNat / Nat.pow 2 52 % 2048 < 2048 := Nat.mod_lt _ (by decide)
  unfold ofBits at h
  dsimp only at h
  split at h
  · split at h <;> cases h
  · next hfinite =>
    split at h
    · rw [value?_finite] at h
      cases h
      refine ⟨_, -1074, ?_, le_refl _, by norm_num, abs_sign_mul _ (by positivity)⟩
      omega
    · next hnormal =>
      rw [value?_finite] at h
      cases h
      refine ⟨_, _, ?_, ?_, ?_, abs_sign_mul _ (by positivity)⟩ <;> omega

/-- The nearest number of a fraction does not exceed a floating-point number that the fraction does not
exceed. -/
theorem atMost_ofFraction {num : Int} {den : Nat} (hnum : num ≠ 0) (hden : 0 < den) {r : ℚ}
    (hr : Representable |r|) (h : (num : ℚ) / den ≤ r) : (ofFraction num den).AtMost r := by
  have habs : 0 < num.natAbs := Int.natAbs_pos.mpr hnum
  rw [ofFraction]
  rcases lt_or_gt_of_ne hnum with hneg | hpos
  · have hmagnitude : (num.natAbs : ℚ) / den = -((num : ℚ) / den) := by
      rw [Nat.cast_natAbs, abs_of_neg hneg]
      push_cast
      ring
    -- without its sign the fraction is at least this number
    obtain ⟨low, hlow, hle, hsign⟩ : ∃ low, Representable low ∧
        low ≤ (num.natAbs : ℚ) / den ∧ -low ≤ r := by
      rcases le_or_gt 0 r with hr0 | hr0
      · exact ⟨0, ⟨0, 0, by norm_num, by norm_num, by norm_num, by norm_num⟩, by positivity,
          by linarith⟩
      · rw [abs_of_neg hr0] at hr
        exact ⟨-r, hr, by linarith, by linarith⟩
    rw [decide_eq_true hneg]
    rcases le_nearest habs hden hlow hle with hinf | ⟨m, e, hfin, hm⟩
    · rw [hinf]
      exact Or.inl rfl
    · rw [hfin]
      refine Or.inr ⟨_, value?_finite true m e, ?_⟩
      rw [sign, if_pos rfl]
      linarith
  · have hmagnitude : (num.natAbs : ℚ) / den = (num : ℚ) / den := by
      rw [Nat.cast_natAbs, abs_of_pos hpos]
    have hr0 : 0 ≤ r := le_trans (by positivity) h
    rw [abs_of_nonneg hr0] at hr
    obtain ⟨m, e, hfin, hm⟩ := nearest_le habs hden hr (hmagnitude ▸ h)
    rw [decide_eq_false (not_lt.mpr (le_of_lt hpos)), hfin]
    refine Or.inr ⟨_, value?_finite false m e, ?_⟩
    rw [sign, if_neg Bool.false_ne_true, one_mul]
    exact hm

/-- **A rounded sum does not exceed a floating-point number that the exact sum does not exceed.** -/
theorem atMost_add {a b : Binary} {x y r : ℚ} (ha : a.value? = some x) (hb : b.value? = some y)
    (hr : Representable |r|) (h : x + y ≤ r) : (a.add b).AtMost r := by
  obtain ⟨⟨n, d⟩, hn, rfl⟩ := Option.map_eq_some_iff.mp ha
  obtain ⟨⟨m, e⟩, hm, rfl⟩ := Option.map_eq_some_iff.mp hb
  have hd := den_pos hn
  have he := den_pos hm
  have hsum : (n : ℚ) / d + (m : ℚ) / e = ((n * e + m * d : Int) : ℚ) / ((d * e : Nat) : ℚ) := by
    have hd' : (d : ℚ) ≠ 0 := by exact_mod_cast Nat.ne_of_gt hd
    have he' : (e : ℚ) ≠ 0 := by exact_mod_cast Nat.ne_of_gt he
    rw [div_add_div _ _ hd' he']
    push_cast
    ring
  dsimp only at h
  rw [hsum] at h
  cases a with
  | nan => cases hn
  | infinite negative => cases hn
  | finite s i p =>
    cases b with
    | nan => cases hm
    | infinite negative => cases hm
    | finite t j q =>
      rw [add, hn, hm]
      dsimp only
      split
      · next hzero =>
        rw [hzero] at h
        refine Or.inr ⟨_, value?_finite _ 0 (-1074), ?_⟩
        simpa using h
      · next hne => exact atMost_ofFraction hne (Nat.mul_pos hd he) hr h

end Binary

namespace Number

def IsWhole (x : Number) : Prop :=
  ∃ i, x = whole i

theorem not_below_of_atMost {x : Binary} {b : Number} {r : ℚ} (hb : b.value? = some r)
    (h : x.AtMost r) : b.below (real x) = false := by
  rcases h with rfl | ⟨v, hv, hle⟩
  · obtain ⟨⟨n, d⟩, hn, -⟩ := Option.map_eq_some_iff.mp hb
    rw [below, hn]
    rfl
  · have hvalue : (real x).value? = some v := hv
    rw [← Bool.not_eq_true, below_iff hb hvalue]
    exact not_lt.mpr hle

/-- **A reading that is at least an exact sum is not below the rounded one**, if the sum is one of whole
numbers or a floating-point number has the value of the reading. -/
theorem not_below_add {first reading : Number} {seconds : Int} {x r : ℚ}
    (hkind : first.IsWhole ∨ Representable |r|)
    (hexact : (Binary.ofFraction seconds 1).value? = some (seconds : ℚ))
    (hfirst : first.value? = some x) (hreading : reading.value? = some r) (h : x + seconds ≤ r) :
    reading.below (first + .whole seconds) = false := by
  cases first with
  | whole i =>
    have hsum : (whole i + whole seconds).value? = some (x + seconds) := by
      rw [value?_whole] at hfirst
      cases hfirst
      exact_mod_cast value?_whole (i + seconds)
    rw [← Bool.not_eq_true, below_iff hreading hsum]
    exact not_lt.mpr h
  | real a =>
    have hr : Representable |r| := hkind.resolve_left fun ⟨i, hi⟩ => nomatch hi
    exact not_below_of_atMost hreading (Binary.atMost_add hfirst hexact hr h)

end Number

end TokenEndpoint.Decimal
