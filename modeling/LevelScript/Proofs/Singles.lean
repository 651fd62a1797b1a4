import LevelScript.Number.Single
import Mathlib

/-!
Bit patterns and the numbers they stand for.

A pattern without its sign bit is an exponent of eight bits above a fraction of twenty-three, and
it is the larger, the larger the number it stands for.  Comparing patterns with the one of ten
million therefore asks of the number itself whether it is finite and at most ten million either
way.
-/

namespace LevelScript

namespace Single

open Float.Model (Format)
open Float.Model.UnpackedFloat

/-- Numbers that are finite and at most ten million either way. -/
def IsModerate (x : Single) : Prop :=
  x.value.isFinite ∧ -10000000 ≤ x.value ∧ x.value ≤ 10000000

/-- What a pattern without its sign bit stands for.  Subnormal numbers share the least exponent
with the least normal ones, so one equation gives the pattern of both. -/
inductive Stands : Nat → Float.Model.UnpackedFloat → Prop
  | notANumber {pattern : Nat} (h : 0x7f800000 < pattern) : Stands pattern .notANumber
  | infinity (sign : Sign) : Stands 0x7f800000 (.infinity sign)
  | zero (sign : Sign) : Stands 0 (.zero sign)
  | finite (sign : Sign) {pattern mantissa : Nat} {exponent : Int} (hpos : 0 < mantissa)
      (hmantissa : mantissa < 2 ^ 24) (hlow : -149 ≤ exponent) (hhigh : exponent ≤ 104)
      (hnormal : 2 ^ 23 ≤ mantissa ∨ exponent = -149)
      (hpattern : (pattern : Int) = (exponent + 149) * 2 ^ 23 + mantissa) :
      Stands pattern (.finite sign mantissa exponent hpos)

/-! ### The fields of a pattern -/

theorem toNat_unpackMantissa (bits : BitVec 32) :
    (@unpackMantissa .binary32 bits).toNat = bits.toNat % 2 ^ 23 :=
  rfl

theorem toNat_unpackExponent (bits : BitVec 32) :
    (@unpackExponent .binary32 bits).toNat = bits.toNat / 2 ^ 23 % 2 ^ 8 := by
  simp only [unpackExponent, BitVec.toNat_cast, BitVec.extractLsb_toNat, Nat.shiftRight_eq_div_pow]

theorem toNat_one_append (fraction : BitVec 23) :
    (1#1 ++ fraction).toNat = 2 ^ 23 + fraction.toNat := by
  rw [BitVec.toNat_append, ← Nat.shiftLeft_add_eq_or_of_lt fraction.isLt]
  rfl

theorem exponentBias_binary32 : (Format.binary32.exponentBias : Int) = 127 :=
  rfl

/-! ### Numbers -/

theorem stands_unpack (bits : BitVec 32) :
    Stands (bits.toNat % 2 ^ 31) (unpack .binary32 bits) := by
  have hfraction := toNat_unpackMantissa bits
  have hexponent := toNat_unpackExponent bits
  have hmantissa := toNat_one_append (@unpackMantissa .binary32 bits)
  rw [unpack]
  simp only [BitVec.toNat_eq, exponentBias_binary32]
  split
  next htop =>
    have htop : (@unpackExponent .binary32 bits).toNat = 255 := htop
    split
    next hzero =>
      have hzero : (@unpackMantissa .binary32 bits).toNat = 0 := hzero
      rw [show bits.toNat % 2 ^ 31 = 0x7f800000 by omega]
      exact .infinity _
    next hzero =>
      have hzero : (@unpackMantissa .binary32 bits).toNat ≠ 0 := hzero
      exact .notANumber (by omega)
  next htop =>
    have htop : (@unpackExponent .binary32 bits).toNat ≠ 255 := htop
    split
    next hlow =>
      have hlow : (@unpackExponent .binary32 bits).toNat = 0 := hlow
      split
      next hzero =>
        have hzero : (@unpackMantissa .binary32 bits).toNat = 0 := hzero
        rw [show bits.toNat % 2 ^ 31 = 0 by omega]
        exact .zero _
      next => exact .finite _ _ (by omega) (by omega) (by omega) (.inr (by omega)) (by omega)
    next hlow =>
      have hlow : (@unpackExponent .binary32 bits).toNat ≠ 0 := hlow
      exact .finite _ _ (by omega) (by omega) (by omega) (.inl (by omega)) (by omega)

/-! ### Comparing -/

/-- Magnitudes compare by their exponents, and by their mantissas where these are equal. -/
theorem isLE_then_iff (exponent : Int) (mantissa : Nat) :
    ((compare exponent 0).then (compare mantissa 10000000)).isLE ↔
      exponent < 0 ∨ exponent = 0 ∧ mantissa ≤ 10000000 := by
  rw [Ordering.isLE_then_iff_or, Int.compare_eq_lt, Int.compare_eq_eq, Nat.isLE_compare]

theorem swap_then (exponent : Int) (mantissa : Nat) :
    ((compare 0 exponent).then (compare 10000000 mantissa)).swap =
      (compare exponent 0).then (compare mantissa 10000000) := by
  rw [Ordering.swap_then, ← Std.OrientedOrd.eq_swap, ← Std.OrientedOrd.eq_swap]

theorem Stands.le_iff {pattern : Nat} {number : Float.Model.UnpackedFloat}
    (h : Stands pattern number) :
    pattern ≤ plausibleBound ↔
      number.isFinite ∧
        (Float.Model.UnpackedFloat.finite .negative 10000000 0 (by decide)).le number ∧
        number.le (.finite .positive 10000000 0 (by decide)) := by
  cases h with
  | notANumber hpattern =>
      exact iff_of_false (Nat.not_le.mpr (Nat.lt_trans (by decide) hpattern))
        fun hfinite => Bool.noConfusion hfinite.1
  | infinity sign => cases sign <;> exact iff_of_false (by decide) (by decide)
  | zero sign => cases sign <;> exact iff_of_true (by decide) (by decide)
  | @finite sign _ mantissa exponent hpos hmantissa hlow hhigh hnormal hpattern =>
      have hbound : pattern ≤ plausibleBound ↔
          exponent < 0 ∨ exponent = 0 ∧ mantissa ≤ 10000000 := by
        rw [plausibleBound]
        omega
      rw [hbound, ← isLE_then_iff]
      cases sign with
      | positive => exact ⟨fun hle => ⟨rfl, rfl, hle⟩, fun hle => hle.2.2⟩
      | negative =>
          rw [← swap_then]
          exact ⟨fun hle => ⟨rfl, hle, rfl⟩, fun hle => hle.2.1⟩

theorem le_iff_unpack (v w : Float32) : v ≤ w ↔ v.toModel.unpack.le w.toModel.unpack :=
  decide_eq_true_iff

theorem magnitude_eq (x : Single) : x.magnitude = x.bits.toBitVec.toNat % 2 ^ 31 := by
  rw [magnitude, UInt32.toNat_and]
  exact Nat.and_two_pow_sub_one_eq_mod _ 31

/-- A number packs what its pattern stands for, which gives the pattern back unless it is no
number. -/
theorem stands_value (x : Single) : Stands x.magnitude x.value.toModel.unpack := by
  have hstands := stands_unpack x.bits.toBitVec
  have hvalue : x.value.toModel.unpack =
      unpack .binary32 (pack .binary32 (unpack .binary32 x.bits.toBitVec)) := rfl
  rw [magnitude_eq, hvalue, pack_unpack]
  split
  next hnan =>
    have hnumber : unpack .binary32 x.bits.toBitVec = .notANumber := by
      rw [isNaNBits, decide_eq_true_iff] at hnan
      rw [unpack, if_pos hnan.1, if_neg hnan.2]
    rw [hnumber] at hstands
    rw [unpack_packedNaN]
    exact hstands
  next => exact hstands

/-- Level data may hold the moderate numbers, and no others. -/
theorem isPlausible_iff (x : Single) : x.isPlausible ↔ x.IsModerate := by
  rw [isPlausible, decide_eq_true_iff, x.stands_value.le_iff, IsModerate, le_iff_unpack,
    le_iff_unpack]
  rfl

instance : DecidablePred IsModerate := fun x =>
  decidable_of_iff _ x.isPlausible_iff

end Single

end LevelScript
