import Mathlib
import TokenEndpoint.Proofs.Rounding
/-!
Floating-point numbers against the values that they stand for. A number and its bits are the same value,
so that what is compared with zero is the value; and of the decimal numbers those that are read as a number
above zero are the ones above half of the least floating-point number. Main statements:

* `ofFloat_ofBits` -- the number with given bits has the value that the bits stand for;
* `le_zero_iff`, `zero_lt_iff`, `not_le_zero_iff` -- comparison with zero is that of the values;
* `isNaN_nearest`, `zero_lt_nearest_iff` -- what decimal numbers are read as.
-/

namespace TokenEndpoint.Decimal

open Float.Model

namespace Binary

/-! ## 1. Bits and their fields -/

/-- The number with these fields in its bits. -/
def ofFields (negative : Bool) (exponent fraction : Nat) : Binary :=
  if exponent = 2047 then if fraction = 0 then infinite negative else nan
  else if exponent = 0 then finite negative fraction (-1074)
  else finite negative (Nat.pow 2 52 + fraction) ((exponent : Int) - 1075)

/-- A sign as the model of floating-point numbers has it. -/
def signOf (negative : Bool) : UnpackedFloat.Sign :=
  if negative then .negative else .positive

/-- A number as the model of floating-point numbers unpacks it: zero stands by itself. -/
def unpacked : Binary → UnpackedFloat
  | nan => .notANumber
  | infinite negative => .infinity (signOf negative)
  | finite negative m q =>
    if h : 0 < m then .finite (signOf negative) m q h else .zero (signOf negative)

/-! ### Fields in the model -/

section Model

variable (bits : BitVec 64)

/-- The exponent among some bits. -/
abbrev exponentBits : BitVec 11 := @UnpackedFloat.unpackExponent .binary64 bits

/-- The fraction among some bits. -/
abbrev fractionBits : BitVec 52 := @UnpackedFloat.unpackMantissa .binary64 bits

theorem toNat_fractionBits : (fractionBits bits).toNat = bits.toNat % Nat.pow 2 52 := by
  simp [UnpackedFloat.unpackMantissa_def]

theorem toNat_exponentBits : (exponentBits bits).toNat = bits.toNat / Nat.pow 2 52 % 2048 := by
  simp [UnpackedFloat.unpackExponent_def, Nat.shiftRight_eq_div_pow]

theorem msb_eq (bits : BitVec 64) : bits.msb = decide (Nat.pow 2 63 ≤ bits.toNat) :=
  BitVec.msb_eq_decide bits

theorem sign_bits : UnpackedFloat.Sign.ofBitVec (@UnpackedFloat.unpackSign .binary64 bits) =
    signOf bits.msb := by
  have h63 : Nat.pow 2 63 = 9223372036854775808 := rfl
  have hlt := bits.isLt
  have hzero :
      @UnpackedFloat.unpackSign .binary64 bits = 0#1 ↔ bits.toNat / Nat.pow 2 63 % 2 = 0 := by
    rw [← BitVec.toNat_inj]
    simp [UnpackedFloat.unpackSign_def, Nat.shiftRight_eq_div_pow]
  rw [h63] at hzero
  rw [msb_eq, UnpackedFloat.Sign.ofBitVec, signOf, h63]
  by_cases h : 9223372036854775808 ≤ bits.toNat
  · rw [if_neg (hzero.not.mpr (by omega)), decide_eq_true h]
    rfl
  · rw [if_pos (hzero.mpr (by omega)), decide_eq_false h]
    rfl

/-- A number by the fields that the model finds in its bits. -/
theorem ofBits_eq (bits : UInt64) :
    ofBits bits = ofFields bits.toBitVec.msb (exponentBits bits.toBitVec).toNat
      (fractionBits bits.toBitVec).toNat := by
  rw [msb_eq, toNat_exponentBits, toNat_fractionBits]
  rfl

/-- The leading digit of a normal number is not among its bits. -/
theorem toNat_one_append (fraction : BitVec 52) :
    (1#1 ++ fraction).toNat = Nat.pow 2 52 + fraction.toNat := by
  rw [BitVec.toNat_append, ← Nat.shiftLeft_add_eq_or_of_lt fraction.isLt]
  rfl

/-- **A number is unpacked from its bits as it is taken apart.** -/
theorem unpack_bits (bits : UInt64) :
    UnpackedFloat.unpack .binary64 bits.toBitVec = (ofBits bits).unpacked := by
  have hones : exponentBits bits.toBitVec = -1#11 ↔ (exponentBits bits.toBitVec).toNat = 2047 :=
    BitVec.toNat_inj.symm
  have hzeros : exponentBits bits.toBitVec = 0#11 ↔ (exponentBits bits.toBitVec).toNat = 0 :=
    BitVec.toNat_inj.symm
  have hnone : fractionBits bits.toBitVec = 0#52 ↔ (fractionBits bits.toBitVec).toNat = 0 :=
    BitVec.toNat_inj.symm
  rw [ofBits_eq, UnpackedFloat.unpack, sign_bits, ofFields]
  by_cases he : (exponentBits bits.toBitVec).toNat = 2047
  · rw [if_pos (hones.mpr he), if_pos he]
    by_cases hm : (fractionBits bits.toBitVec).toNat = 0
    · rw [if_pos (hnone.mpr hm), if_pos hm]
      rfl
    · rw [if_neg (hnone.not.mpr hm), if_neg hm]
      rfl
  · rw [if_neg (hones.not.mpr he), if_neg he]
    by_cases hz : (exponentBits bits.toBitVec).toNat = 0
    · rw [if_pos (hzeros.mpr hz), if_pos hz, unpacked]
      by_cases hm : (fractionBits bits.toBitVec).toNat = 0
      · rw [dif_pos (hnone.mpr hm), dif_neg (by omega)]
      · rw [dif_neg (hnone.not.mpr hm), dif_pos (by omega)]
        congr 1
        rw [hz]
        rfl
    · rw [if_neg (hzeros.not.mpr hz), if_neg hz, unpacked, dif_pos (Nat.add_pos_left (by decide) _)]
      congr 1
      exact toNat_one_append _

end Model

/-! ## 2. Floating-point numbers -/

/-- **The number with given bits has the value that the bits stand for.** -/
theorem ofFloat_ofBits (bits : UInt64) : ofFloat (Float.ofBits bits) = ofBits bits := by
  show ofBits
    (.ofBitVec ((UnpackedFloat.unpack .binary64 bits.toBitVec).pack .binary64)) = ofBits bits
  rw [UnpackedFloat.pack_unpack]
  split
  · next hnan =>
    -- all bits of no number are packed to the same ones
    rw [UnpackedFloat.isNaNBits, decide_eq_true_eq] at hnan
    have hexponent : (exponentBits bits.toBitVec).toNat = 2047 := congrArg BitVec.toNat hnan.1
    have hfraction : (fractionBits bits.toBitVec).toNat ≠ 0 := BitVec.toNat_inj.not.mpr hnan.2
    rw [ofBits_eq bits, ofFields, if_pos hexponent, if_neg hfraction]
    rfl
  · rfl

theorem unpack_toModel (x : Float) : x.toModel.unpack = (ofFloat x).unpacked :=
  unpack_bits x.toBits

theorem isNaN_iff (x : Float) : x.isNaN = true ↔ ofFloat x = nan := by
  show x.toModel.unpack.isNaN = true ↔ _
  rw [unpack_toModel, UnpackedFloat.isNaN_iff]
  cases ofFloat x with
  | nan => exact iff_of_true rfl rfl
  | infinite negative => exact iff_of_false nofun nofun
  | finite negative m q =>
    rw [unpacked]
    split <;> exact iff_of_false nofun nofun

/-! ## 3. The order about zero -/

section Order

variable {r : ℚ} {negative : Bool} {m : Nat} {q : Int}

/-- A number that lies above a value. -/
def Above (x : Binary) (r : ℚ) : Prop :=
  x = infinite false ∨ ∃ v, x.value? = some v ∧ r < v

@[simp] theorem not_atMost_nan : ¬ nan.AtMost r := fun h => by
  rcases h with h | ⟨v, hv, -⟩
  · cases h
  · cases hv

@[simp] theorem not_above_nan : ¬ nan.Above r := fun h => by
  rcases h with h | ⟨v, hv, -⟩
  · cases h
  · cases hv

@[simp] theorem atMost_infinite : (infinite negative).AtMost r ↔ negative = true := by
  simp [AtMost, value?, fraction?]

@[simp] theorem above_infinite : (infinite negative).Above r ↔ negative = false := by
  simp [Above, value?, fraction?]

@[simp] theorem atMost_finite :
    (finite negative m q).AtMost r ↔ sign negative * ((m : ℚ) * 2 ^ q) ≤ r := by
  simp [AtMost, value?_finite]

@[simp] theorem above_finite :
    (finite negative m q).Above r ↔ r < sign negative * ((m : ℚ) * 2 ^ q) := by
  simp [Above, value?_finite]

/-- A number is at most a value, above it, or none. -/
theorem not_atMost_iff {x : Binary} : ¬ x.AtMost r ↔ x.Above r ∨ x = nan := by
  cases x <;> simp

theorem finite_atMost_zero_iff : (finite negative m q).AtMost 0 ↔ m = 0 ∨ negative = true := by
  have hunit : (0 : ℚ) < 2 ^ q := by positivity
  have hnonneg : (0 : ℚ) ≤ m * 2 ^ q := by positivity
  rw [atMost_finite]
  cases negative with
  | true => simp [sign, hnonneg]
  | false => simp [sign, mul_nonpos_iff_pos_imp_nonpos, not_le.mpr hunit]

/-- **Comparison with zero is that of the value.** -/
theorem le_zero_iff (x : Float) : x ≤ 0 ↔ (ofFloat x).AtMost 0 := by
  show decide (x.toModel.unpack.le (.zero .positive) = true) = true ↔ _
  rw [unpack_toModel, decide_eq_true_iff]
  cases ofFloat x with
  | nan => simp [unpacked, UnpackedFloat.le, UnpackedFloat.compare]
  | infinite negative =>
    cases negative <;> simp [unpacked, signOf, UnpackedFloat.le, UnpackedFloat.compare]
  | finite negative m q =>
    rw [finite_atMost_zero_iff, unpacked]
    split
    · next hpos =>
      cases negative <;> simp [signOf, UnpackedFloat.le, UnpackedFloat.compare, Nat.ne_of_gt hpos]
    · next hzero => simp [UnpackedFloat.le, UnpackedFloat.compare, Nat.eq_zero_of_not_pos hzero]

theorem zero_lt_iff (x : Float) : 0 < x ↔ (ofFloat x).Above 0 := by
  show decide (UnpackedFloat.lt (.zero .positive) x.toModel.unpack = true) = true ↔ _
  rw [unpack_toModel, decide_eq_true_iff]
  cases ofFloat x with
  | nan => simp [unpacked, UnpackedFloat.lt, UnpackedFloat.compare]
  | infinite negative =>
    cases negative <;> simp [unpacked, signOf, UnpackedFloat.lt, UnpackedFloat.compare]
  | finite negative m q =>
    rw [above_finite, ← not_le, ← atMost_finite, finite_atMost_zero_iff, unpacked]
    split
    · next hpos =>
      cases negative <;> simp [signOf, UnpackedFloat.lt, UnpackedFloat.compare, Nat.ne_of_gt hpos]
    · next hzero => simp [UnpackedFloat.lt, UnpackedFloat.compare, Nat.eq_zero_of_not_pos hzero]

/-- **What is not at or below zero is above it, or no number.** -/
theorem not_le_zero_iff (x : Float) : ¬ x ≤ 0 ↔ 0 < x ∨ x.isNaN = true := by
  rw [le_zero_iff, zero_lt_iff, isNaN_iff, not_atMost_iff]

end Order

/-! ## 4. The nearest number -/

section Nearest

@[simp] theorem withSign_ofFields (negative negative' : Bool) (exponent fraction : Nat) :
    (ofFields negative exponent fraction).withSign negative' = ofFields negative' exponent fraction := by
  unfold ofFields
  repeat' split
  all_goals rfl

/-- With the first bit a number is negative. -/
theorem ofBits_signed (bits : UInt64) :
    ofBits (bits ||| 0x8000000000000000) = (ofBits bits).withSign true := by
  have hsign : (bits.toBitVec ||| 0x8000000000000000#64).msb = true := by
    rw [BitVec.msb_or, show (0x8000000000000000#64).msb = true from rfl, Bool.or_true]
  have hexponent : exponentBits (bits.toBitVec ||| 0x8000000000000000#64) =
      exponentBits bits.toBitVec := by
    simp [UnpackedFloat.unpackExponent_def, BitVec.extractLsb'_or]
  have hfraction : fractionBits (bits.toBitVec ||| 0x8000000000000000#64) =
      fractionBits bits.toBitVec := by
    simp [UnpackedFloat.unpackMantissa_def, BitVec.extractLsb'_or]
  have hbits : (bits ||| 0x8000000000000000).toBitVec = bits.toBitVec ||| 0x8000000000000000#64 := rfl
  rw [ofBits_eq, ofBits_eq, hbits, hsign, hexponent, hfraction, withSign_ofFields]

/-- The bits of a decimal number without its sign. -/
def sizeBits (digits : Nat) (exponent : Int) : UInt64 :=
  let places : Int := (Nat.toDigits 10 digits).length
  if digits = 0 ∨ exponent + places < -330 then 0
  else if 310 < exponent + places then 0x7ff0000000000000
  else if 0 ≤ exponent then nearestBits (digits * Nat.pow 10 exponent.toNat) 1
  else nearestBits digits (Nat.pow 10 (-exponent).toNat)

/-- A number that is neither negative nor none. -/
def Unsigned (x : Binary) : Prop :=
  x = infinite false ∨ ∃ m q, x = finite false m q

theorem Unsigned.withSign {x : Binary} (h : x.Unsigned) : x.withSign false = x := by
  rcases h with rfl | ⟨m, q, rfl⟩ <;> rfl

theorem Unsigned.withSign_ne_nan {x : Binary} (h : x.Unsigned) (negative : Bool) :
    x.withSign negative ≠ nan := by
  rcases h with rfl | ⟨m, q, rfl⟩ <;> nofun

/-- A negative number is not above zero. -/
theorem Unsigned.not_above_withSign {x : Binary} (h : x.Unsigned) : ¬ (x.withSign true).Above 0 := by
  rcases h with rfl | ⟨m, q, rfl⟩
  · simp [Binary.withSign]
  · have hnonneg : (0 : ℚ) ≤ m * 2 ^ q := by positivity
    simpa [Binary.withSign, sign] using hnonneg

theorem ofBits_zero : ofBits 0 = finite false 0 (-1074) := rfl

/-- **A fraction is nearest to a number above zero if it is more than half of the least one.** -/
theorem nearestBits_spec (num : Nat) {den : Nat} (hden : 0 < den) :
    (ofBits (nearestBits num den)).Unsigned ∧
      ((ofBits (nearestBits num den)).Above 0 ↔ (2 : ℚ) ^ (-1075 : Int) < (num : ℚ) / den) := by
  rcases Nat.eq_zero_or_pos num with rfl | hnum
  · rw [nearestBits, if_pos rfl, ofBits_zero]
    exact ⟨Or.inr ⟨_, _, rfl⟩, by simp⟩
  obtain ⟨m, e, hbits, hm, hmin, hsmall, hlow, hpos, -⟩ := nearestBits_units hnum hden
  have hunit : (0 : ℚ) < 2 ^ e := by positivity
  have hiff : 0 < (m : ℚ) * 2 ^ e ↔ (2 : ℚ) ^ (-1075 : Int) < (num : ℚ) / den := by
    rw [mul_pos_iff_of_pos_right hunit, Nat.cast_pos, hpos]
    rcases hlow with rfl | hnormal
    · have hhalf : (2 : ℚ) ^ (-1074 : Int) = 2 * 2 ^ (-1075 : Int) := by
        rw [mul_comm, ← zpow_add_one₀ two_ne_zero]
        rfl
      rw [hhalf, mul_lt_mul_iff_right₀ two_pos]
    · have hmono : (2 : ℚ) ^ (-1075 : Int) < 2 ^ e := zpow_lt_zpow_right₀ one_lt_two (by omega)
      exact iff_of_true (by linarith) (by linarith)
  rw [hbits, ← hiff]
  rcases ofBits_encodeUnits hm hmin hsmall with ⟨hinf, hlarge⟩ | ⟨m', e', hfin, hvalue⟩
  · rw [hinf]
    exact ⟨Or.inl rfl, iff_of_true (by simp) (lt_of_lt_of_le (by positivity) hlarge)⟩
  · rw [hfin]
    exact ⟨Or.inr ⟨m', e', rfl⟩, by simp [sign, ← hvalue]⟩

/-- Below the powers of ten that are computed nothing is half of the least number. -/
theorem ten_zpow_le : (10 : ℚ) ^ (-330 : Int) ≤ 2 ^ (-1075 : Int) := by
  have hbase : (2 : ℚ) ^ 215 ≤ 10 ^ 66 := by norm_num
  have hpower : ((2 : ℚ) ^ 215) ^ 5 ≤ (10 ^ 66) ^ 5 := pow_le_pow_left₀ (by positivity) hbase 5
  rw [← pow_mul, ← pow_mul] at hpower
  rw [zpow_neg, zpow_neg]
  exact inv_anti₀ (by positivity) hpower

/-- A number of so many digits, in powers of ten. -/
theorem toDigits_bounds {n : Nat} (h : 0 < n) :
    (10 : ℚ) ^ ((Nat.toDigits 10 n).length - 1 : Int) ≤ n ∧
      (n : ℚ) < 10 ^ ((Nat.toDigits 10 n).length : Int) := by
  have hpos : 0 < (Nat.toDigits 10 n).length := Nat.length_toDigits_pos
  obtain ⟨k, hk⟩ : ∃ k, (Nat.toDigits 10 n).length = k + 1 := ⟨_, (Nat.succ_pred hpos.ne').symm⟩
  have hhigh : n < 10 ^ (k + 1) := (Nat.length_toDigits_le_iff (by decide) k.succ_pos).mp hk.le
  have hlow : 10 ^ k ≤ n := by
    rcases Nat.eq_zero_or_pos k with rfl | hk'
    · exact h
    · have hmore := (Nat.length_toDigits_le_iff (b := 10) (n := n) (by decide) hk').not.mp (by omega)
      exact Nat.not_lt.mp hmore
  rw [hk]
  push_cast
  rw [add_sub_cancel_right, zpow_natCast]
  exact ⟨by exact_mod_cast hlow, by exact_mod_cast hhigh⟩

/-- **A decimal number is nearest to a number above zero if it is more than half of the least one.** -/
theorem sizeBits_spec (digits : Nat) (exponent : Int) :
    (ofBits (sizeBits digits exponent)).Unsigned ∧
      ((ofBits (sizeBits digits exponent)).Above 0 ↔
        (2 : ℚ) ^ (-1075 : Int) < digits * 10 ^ exponent) := by
  unfold sizeBits
  dsimp only
  split
  · next hsmall =>
    rw [ofBits_zero]
    refine ⟨Or.inr ⟨_, _, rfl⟩, iff_of_false (by simp) (not_lt.mpr ?_)⟩
    rcases Nat.eq_zero_or_pos digits with rfl | hdigits
    · simp
    · have hplaces := hsmall.resolve_left hdigits.ne'
      calc (digits : ℚ) * 10 ^ exponent
          ≤ 10 ^ ((Nat.toDigits 10 digits).length : Int) * 10 ^ exponent := by
            gcongr
            exact (toDigits_bounds hdigits).2.le
        _ = 10 ^ (exponent + (Nat.toDigits 10 digits).length) := by
            rw [← zpow_add₀ (by norm_num), add_comm]
        _ ≤ 10 ^ (-330 : Int) := zpow_le_zpow_right₀ (by norm_num) (by omega)
        _ ≤ 2 ^ (-1075 : Int) := ten_zpow_le
  · next hbig =>
    have hdigits : 0 < digits := Nat.pos_of_ne_zero fun h => hbig (Or.inl h)
    split
    · next hlarge =>
      refine ⟨Or.inl rfl, iff_of_true (Or.inl rfl) ?_⟩
      calc (2 : ℚ) ^ (-1075 : Int) < 1 := zpow_lt_one_of_neg₀ one_lt_two (by decide)
        _ ≤ 10 ^ (310 : Int) := one_le_zpow₀ (by norm_num) (by decide)
        _ ≤ 10 ^ ((Nat.toDigits 10 digits).length - 1 + exponent) :=
            zpow_le_zpow_right₀ (by norm_num) (by omega)
        _ = 10 ^ ((Nat.toDigits 10 digits).length - 1 : Int) * 10 ^ exponent :=
            zpow_add₀ (by norm_num) _ _
        _ ≤ digits * 10 ^ exponent := by
            gcongr
            exact (toDigits_bounds hdigits).1
    · split
      · next hexp =>
        obtain ⟨n, rfl⟩ := Int.eq_ofNat_of_zero_le hexp
        have hspec := nearestBits_spec (digits * Nat.pow 10 n) Nat.one_pos
        simpa using hspec
      · next hexp =>
        obtain ⟨n, rfl⟩ : ∃ n : Nat, exponent = -n := ⟨(-exponent).toNat, by omega⟩
        have hspec := nearestBits_spec digits (show 0 < Nat.pow 10 n from Nat.pow_pos (by decide))
        simpa [div_eq_mul_inv] using hspec

theorem ofFloat_nearest (negative : Bool) (digits : Nat) (exponent : Int) :
    ofFloat (nearest negative digits exponent) =
      (ofBits (sizeBits digits exponent)).withSign negative := by
  have hnearest : nearest negative digits exponent =
      Float.ofBits (if negative then sizeBits digits exponent ||| 0x8000000000000000
        else sizeBits digits exponent) := rfl
  rw [hnearest, ofFloat_ofBits]
  cases negative with
  | true => rw [if_pos rfl, ofBits_signed]
  | false => rw [if_neg Bool.false_ne_true, (sizeBits_spec digits exponent).1.withSign]

/-- **A decimal number is read as a number.** -/
theorem isNaN_nearest (negative : Bool) (digits : Nat) (exponent : Int) :
    (nearest negative digits exponent).isNaN = false := by
  rw [← Bool.not_eq_true, isNaN_iff, ofFloat_nearest]
  exact (sizeBits_spec digits exponent).1.withSign_ne_nan negative

/-- **It is read as a positive one if it has no minus and is more than half of the least number.** -/
theorem zero_lt_nearest_iff (negative : Bool) (digits : Nat) (exponent : Int) :
    0 < nearest negative digits exponent ↔
      negative = false ∧ (2 : ℚ) ^ (-1075 : Int) < digits * 10 ^ exponent := by
  obtain ⟨hsize, habove⟩ := sizeBits_spec digits exponent
  rw [zero_lt_iff, ofFloat_nearest]
  cases negative with
  | true => simp [hsize.not_above_withSign]
  | false => simp [hsize.withSign, habove]

/-- Half of the least number lies between two and three of the last powers of ten. -/
example : ¬ 0 < nearest false 2 (-324) ∧ 0 < nearest false 3 (-324) := by decide +kernel

end Nearest

end Binary
end TokenEndpoint.Decimal
