/-
# Three quarters, in floating point

`Pool.probeBudget` takes three quarters of a large rest in whole numbers. A
program that multiplies the rest by `0.75` as a 64-bit floating-point number
and cuts off the fraction gets the same number as long as the rest is below
`2 ^ 51`: then neither the conversion nor the product has more than the 53
binary digits that such a number holds, so nothing is rounded
(`toUInt64_three_quarters`).

A positive number below `2 ^ 53` is stored with its digits shifted up to
exactly 53 of them, `scaled n` with exponent `-spare n`.
-/
import HostRotation.Pool.Search
import Mathlib

namespace HostRotation

open Float.Model UnpackedFloat

section Stored

/-- Digits `m` and an exponent `e` as a stored number has them: exactly 53
digits, and an exponent in range. -/
structure IsNormal (m : Nat) (e : Int) : Prop where
  le : 2 ^ 52 ≤ m
  lt : m < 2 ^ 53
  lower : -1074 ≤ e
  upper : e ≤ 970

/-- The first digit is left out when a number is stored and put back when it is
read. -/
theorem toNat_leading_append {m : Nat} (hle : 2 ^ 52 ≤ m) (hlt : m < 2 ^ 53) :
    (1#1 ++ BitVec.ofNat 52 m).toNat = m := by
  have hshift : (1 % 2 ^ 1) <<< 52 = 2 ^ 52 * 1 := rfl
  rw [BitVec.toNat_append, BitVec.toNat_ofNat, BitVec.toNat_ofNat, hshift,
    ← Nat.two_pow_add_eq_or_of_lt (Nat.mod_lt m (by decide : 0 < 2 ^ 52)) 1]
  omega

namespace IsNormal

variable {m : Nat} {e : Int}

theorem pos (h : IsNormal m e) : 0 < m := Nat.lt_of_lt_of_le (by decide) h.le

theorem log2_eq (h : IsNormal m e) : m.log2 = 52 :=
  (Nat.log2_eq_iff h.pos.ne').mpr ⟨h.le, h.lt⟩

theorem targetExponent_eq (h : IsNormal m e) :
    Format.binary64.targetExponent (totalExponent m e) = e := by
  have := h.lower
  simp only [Format.targetExponent, totalExponent, h.log2_eq, Format.minExponent,
    Format.mantissaBits]
  omega

theorem toNat_exponent (h : IsNormal m e) :
    (BitVec.ofNat Format.binary64.exponentBits (e + Format.binary64.exponentBias +
      Format.binary64.mantissaBitsWithoutImplicit).toNat).toNat = (e + 1075).toNat := by
  have := h.lower
  have := h.upper
  simp [Format.exponentBias]
  omega

/-- Such a number is read as it was stored. -/
theorem unpack_pack (h : IsNormal m e) :
    (Float.Model.pack (.finite .positive m e h.pos)).unpack = .finite .positive m e h.pos := by
  have hlower := h.lower
  have hupper := h.upper
  -- an exponent of all zeros or all ones means something else
  have hne : ∀ v : BitVec Format.binary64.exponentBits, v.toNat = 0 ∨ v.toNat = 2047 →
      BitVec.ofNat Format.binary64.exponentBits (e + Format.binary64.exponentBias +
        Format.binary64.mantissaBitsWithoutImplicit).toNat ≠ v := by
    rintro v hv rfl
    rw [h.toNat_exponent] at hv
    omega
  unfold Float.Model.unpack Float.Model.pack UnpackedFloat.pack
  simp only [h.log2_eq]
  rw [if_neg (by simp [Format.exponentBias]; omega), if_pos (by simp [Format.mantissaBits])]
  unfold UnpackedFloat.unpack
  simp only [unpackExponent_packComponents, unpackMantissa_packComponents]
  rw [if_neg (hne _ (.inr (by decide))), if_neg (hne _ (.inl (by decide)))]
  simp only [h.toNat_exponent, unpackSign_packComponents, Sign.ofBitVec_toBitVec,
    toNat_leading_append h.le h.lt]
  congr 1
  simp [Format.exponentBias]
  omega

end IsNormal

end Stored

section Rounding

/-- Shifting digits out at the end divides. -/
theorem mantissa_shiftRight (m : ExtendedMantissa) :
    ∀ k : Nat, (m >>> k).mantissa = m.mantissa / 2 ^ k
  | 0 => by simp [HShiftRight.hShiftRight, Nat.repeat]
  | k + 1 => by
    have ih := mantissa_shiftRight m k
    calc (m >>> (k + 1)).mantissa = (m >>> k).mantissa / 2 := rfl
      _ = m.mantissa / 2 ^ (k + 1) := by rw [ih, Nat.div_div_eq_div_mul, Nat.pow_succ]

/-- Zeros at the end are shifted out without a trace. -/
theorem shiftRight_zeros (m : Nat) : ∀ k : Nat,
    (⟨m * 2 ^ k, false, false⟩ : ExtendedMantissa) >>> k = ⟨m, false, false⟩
  | 0 => by simp [HShiftRight.hShiftRight, Nat.repeat]
  | k + 1 => by
    have ih := shiftRight_zeros (m * 2) k
    rw [Nat.mul_assoc, ← Nat.pow_succ'] at ih
    calc (⟨m * 2 ^ (k + 1), false, false⟩ : ExtendedMantissa) >>> (k + 1)
        = ((⟨m * 2 ^ (k + 1), false, false⟩ : ExtendedMantissa) >>> k).shiftRightOne := rfl
      _ = ⟨m, false, false⟩ := by rw [ih]; simp [ExtendedMantissa.shiftRightOne]

theorem log2_mul_two_pow {m : Nat} (hm : m ≠ 0) (k : Nat) :
    (m * 2 ^ k).log2 = m.log2 + k := by
  induction k with
  | zero => simp
  | succ k ih =>
    have hne : m * 2 ^ k ≠ 0 := Nat.mul_ne_zero hm (Nat.two_pow_pos k).ne'
    rw [Nat.pow_succ', Nat.mul_left_comm, Nat.log2_two_mul hne, ih, Nat.add_assoc]

/-- Shifting to the exponent of a stored number drops the zeros. -/
theorem shiftToTargetExponent_exact {m : Nat} {e : Int} (k : Nat) (h : IsNormal m (e + k)) :
    shiftToTargetExponent .binary64 (m * 2 ^ k) e .exact = (⟨m, false, false⟩, e + k) := by
  have htarget : Format.binary64.targetExponent (totalExponent (m * 2 ^ k) e) = e + k := by
    rw [← h.targetExponent_eq, totalExponent, totalExponent, log2_mul_two_pow h.pos.ne']
    congr 1
    omega
  have hshift : (e + (k : Int) - e).toNat = k := by omega
  simp only [shiftToTargetExponent, htarget, shiftToExponent, hshift,
    ExtendedMantissa.ofMantissaAndAccuracy, shiftRight_zeros]

/-- What has no more than 53 digits, zeros at the end apart, is not rounded. -/
theorem roundWithAccuracy_exact {m : Nat} {e : Int} (k : Nat) (h : IsNormal m (e + k))
    (s : Sign) : roundWithAccuracy .binary64 s (m * 2 ^ k) e .exact =
      .finite s m (e + k) h.pos := by
  have hagain := shiftToTargetExponent_exact 0 (by simpa using h : IsNormal m (e + k + (0 : Nat)))
  simp only [Nat.pow_zero, Nat.mul_one, Nat.cast_zero, Int.add_zero] at hagain
  simp [roundWithAccuracy, shiftToTargetExponent_exact k h, ExtendedMantissa.roundedMantissa,
    ExtendedMantissa.accuracy, Accuracy.roundToNearestEven, hagain, h.pos.ne']

end Rounding

section Numbers

/-- How many of the 53 digits a number leaves free. -/
def spare (n : Nat) : Nat := 52 - n.log2

/-- The number with its free digits filled with zeros. -/
def scaled (n : Nat) : Nat := n * 2 ^ spare n

variable {n : Nat}

theorem log2_le_of_lt (hpos : 0 < n) (hlt : n < 2 ^ 53) : n.log2 ≤ 52 :=
  Nat.le_of_lt_succ ((Nat.log2_lt hpos.ne').mpr hlt)

theorem isNormal_scaled (hpos : 0 < n) (hlt : n < 2 ^ 53) {e : Int} (hlower : -1074 ≤ e)
    (hupper : e ≤ 970) : IsNormal (scaled n) e := by
  have hlog : (scaled n).log2 = 52 := by
    have := log2_le_of_lt hpos hlt
    rw [scaled, log2_mul_two_pow hpos.ne', spare]
    omega
  have hne : scaled n ≠ 0 := Nat.mul_ne_zero hpos.ne' (Nat.two_pow_pos _).ne'
  obtain ⟨hle, hlt⟩ := (Nat.log2_eq_iff hne).mp hlog
  exact ⟨hle, hlt, hlower, hupper⟩

/-- A whole number of at most 53 digits is stored exactly. -/
theorem unpack_toFloat {r : UInt64} (hpos : 0 < r.toNat) (hlt : r.toNat < 2 ^ 53)
    (h : IsNormal (scaled r.toNat) (-spare r.toNat)) :
    r.toFloat.toModel.unpack = .finite .positive (scaled r.toNat) (-spare r.toNat) h.pos := by
  have hlog := log2_le_of_lt hpos hlt
  have hround : UnpackedFloat.round .binary64 .positive r.toNat 0 =
      .finite .positive (scaled r.toNat) (-spare r.toNat) h.pos := by
    have htarget : Format.binary64.targetExponent (totalExponent r.toNat 0) = -spare r.toNat := by
      simp only [Format.targetExponent, totalExponent, Format.minExponent, Format.mantissaBits,
        spare]
      omega
    have hshift : (0 - -(spare r.toNat : Int)).toNat = spare r.toNat := by omega
    have hexact := roundWithAccuracy_exact 0 (by simpa using h :
      IsNormal (scaled r.toNat) (-spare r.toNat + (0 : Nat))) .positive
    simpa [UnpackedFloat.round, htarget, decreaseExponent, hshift, Nat.shiftLeft_eq,
      scaled] using hexact
  have hsign : compare (r.toNat : Int) 0 = .gt := by
    rw [compare_gt_iff_gt]
    omega
  calc r.toFloat.toModel.unpack
      = (Float.Model.pack (UnpackedFloat.round .binary64 .positive r.toNat 0)).unpack := by
        simp [UInt64.toFloat, Float.Model.ofUInt64, UnpackedFloat.ofUInt64, UnpackedFloat.ofNat,
          UnpackedFloat.ofInt, UnpackedFloat.normalize, hsign]
    _ = .finite .positive (scaled r.toNat) (-spare r.toNat) h.pos := by
        rw [hround, h.unpack_pack]

theorem unpack_three_quarters :
    (0.75 : Float).toModel.unpack = .finite .positive (3 * 2 ^ 51) (-53) (by decide) := rfl

/-- The digits of a product with three quarters. -/
theorem scaled_mul_three_quarters (hpos : 0 < n) (hlt : n < 2 ^ 51) :
    ∃ k : Nat, scaled n * (3 * 2 ^ 51) = scaled (3 * n) * 2 ^ k ∧
      (-(spare n : Int) + -53) + k = -2 - (spare (3 * n) : Int) := by
  have hle : spare (3 * n) ≤ spare n := by
    have hself : 2 ^ n.log2 ≤ 3 * n :=
      Nat.le_trans (Nat.log2_self_le hpos.ne') (Nat.le_mul_of_pos_left n (by decide))
    have := (Nat.le_log2 (by omega : 3 * n ≠ 0)).mpr hself
    unfold spare
    omega
  refine ⟨spare n + 51 - spare (3 * n), ?_, by omega⟩
  calc scaled n * (3 * 2 ^ 51) = 3 * n * 2 ^ (spare n + 51) := by
        rw [scaled, Nat.pow_add]
        ring
    _ = 3 * n * 2 ^ (spare (3 * n) + (spare n + 51 - spare (3 * n))) := by
        congr 2
        omega
    _ = scaled (3 * n) * 2 ^ (spare n + 51 - spare (3 * n)) := by
        rw [scaled, Nat.pow_add, ← Nat.mul_assoc]

/-- The product with three quarters is stored exactly. -/
theorem unpack_mul_three_quarters {r : UInt64} (hpos : 0 < r.toNat) (hlt : r.toNat < 2 ^ 51)
    (h : IsNormal (scaled (3 * r.toNat)) (-2 - spare (3 * r.toNat))) :
    (r.toFloat * 0.75).toModel.unpack =
      .finite .positive (scaled (3 * r.toNat)) (-2 - spare (3 * r.toNat)) h.pos := by
  obtain ⟨k, hdigits, hexponent⟩ := scaled_mul_three_quarters hpos hlt
  have hstored := unpack_toFloat hpos (by omega)
    (isNormal_scaled hpos (by omega) (by unfold spare; omega) (by omega))
  have hexact : roundWithAccuracy .binary64 .positive (scaled r.toNat * (3 * 2 ^ 51))
      (-(spare r.toNat : Int) + -53) .exact =
        .finite .positive (scaled (3 * r.toNat)) (-2 - spare (3 * r.toNat)) h.pos := by
    have hnormal : IsNormal (scaled (3 * r.toNat)) (-(spare r.toNat : Int) + -53 + k) := by
      rwa [hexponent]
    rw [hdigits, roundWithAccuracy_exact k hnormal .positive]
    simp only [hexponent]
  calc (r.toFloat * 0.75).toModel.unpack
      = (Float.Model.pack (UnpackedFloat.mul .binary64 r.toFloat.toModel.unpack
          (0.75 : Float).toModel.unpack)).unpack := rfl
    _ = (Float.Model.pack (roundWithAccuracy .binary64 .positive
          (scaled r.toNat * (3 * 2 ^ 51)) (-(spare r.toNat : Int) + -53) .exact)).unpack := by
        rw [hstored, unpack_three_quarters]
        rfl
    _ = _ := by rw [hexact, h.unpack_pack]

/-- Cutting off the fraction of a stored number. -/
theorem toInt_finite (m k : Nat) (hm : 0 < m) (low high : Int) :
    toInt low high (.finite .positive m (-k) hm) = (m / 2 ^ k : Nat) := by
  have hshift : (0 - -(k : Int)).toNat = k := by omega
  simp [toInt, roundToInt, decreaseExponent, shiftToExponent, Sign.apply, mantissa_shiftRight,
    ExtendedMantissa.ofMantissaAndAccuracy]

/-- Below `2 ^ 51` the product with `0.75` is exact, and cutting off its fraction
gives the budget of a search. -/
theorem toUInt64_three_quarters (r : UInt64) (hlarge : Pool.fullDrawLimit ≤ r.toNat)
    (hlt : r.toNat < 2 ^ 51) :
    (r.toFloat * 0.75).toUInt64.toNat = Pool.probeBudget r.toNat := by
  have hpos : 0 < r.toNat := Nat.lt_of_lt_of_le (by decide) hlarge
  have hexponent : -2 - (spare (3 * r.toNat) : Int) = -((spare (3 * r.toNat) + 2 : Nat) : Int) := by
    omega
  have hwhole : scaled (3 * r.toNat) / 2 ^ (spare (3 * r.toNat) + 2) = 3 * r.toNat / 4 := by
    rw [scaled, Nat.pow_add, ← Nat.div_div_eq_div_mul, Nat.mul_div_cancel _ (Nat.two_pow_pos _)]
  have hint : (r.toFloat * 0.75).toModel.unpack.toInt 0 (UInt64.size - 1) =
      (3 * r.toNat / 4 : Nat) := by
    rw [unpack_mul_three_quarters hpos hlt
      (isNormal_scaled (by omega) (by omega) (by unfold spare; omega) (by omega))]
    simp only [hexponent]
    rw [toInt_finite, hwhole]
  calc (r.toFloat * 0.75).toUInt64.toNat
      = (UInt64.ofNatClamp ((r.toFloat * 0.75).toModel.unpack.toInt 0
          (UInt64.size - 1)).toNat).toNat := rfl
    _ = 3 * r.toNat / 4 := by
        have hsmall : 3 * r.toNat / 4 < UInt64.size := by
          unfold UInt64.size
          omega
        rw [hint, Int.toNat_natCast, UInt64.ofNatClamp_eq_ofNat _ hsmall]
        exact UInt64.toNat_ofNat_of_lt hsmall
    _ = Pool.probeBudget r.toNat := by rw [Pool.probeBudget, if_neg (by omega)]

end Numbers
end HostRotation
