import Mathlib.Tactic.Ring
import DualityDice.Random.Generator

namespace DualityDice

namespace Bounds

def size (bounds : Bounds) : Nat :=
  bounds.high.toNat - bounds.low.toNat + 1

def Admits (bounds : Bounds) (value : UInt32) : Prop :=
  bounds.low ≤ value ∧ value ≤ bounds.high

theorem size_pos (bounds : Bounds) : 0 < bounds.size :=
  Nat.succ_pos _

theorem low_add_size (bounds : Bounds) :
    bounds.low.toNat + bounds.size = bounds.high.toNat + 1 := by
  have horder := UInt32.le_iff_toNat_le.mp bounds.low_le_high
  rw [size]
  omega

theorem size_le (bounds : Bounds) : bounds.size ≤ 2 ^ 32 := by
  have hhigh := bounds.high.toNat_lt
  have hsize := bounds.low_add_size
  omega

end Bounds

namespace Generator

section Scale

variable {size first second : Nat}

/-- The place of a number of 64 bits, given by its two words, when all such numbers are
shared out evenly among `size` places. -/
def scale (size first second : Nat) : Nat :=
  (first * 2 ^ 32 + second) * size / 2 ^ 64

theorem scale_eq_add_carry (size first second : Nat) :
    scale size first second =
      first * size / 2 ^ 32 + (first * size % 2 ^ 32 + second * size / 2 ^ 32) / 2 ^ 32 := by
  have hsplit : first * size + second * size / 2 ^ 32 =
      first * size % 2 ^ 32 + second * size / 2 ^ 32 + 2 ^ 32 * (first * size / 2 ^ 32) := by
    have hfirst := Nat.mod_add_div (first * size) (2 ^ 32)
    omega
  calc
    scale size first second = (2 ^ 32 * (first * size) + second * size) / (2 ^ 32 * 2 ^ 32) := by
      rw [scale]
      congr 1
      ring
    _ = (first * size + second * size / 2 ^ 32) / 2 ^ 32 := by
      rw [← Nat.div_div_eq_div_mul, Nat.mul_add_div (by decide)]
    _ = first * size / 2 ^ 32 +
          (first * size % 2 ^ 32 + second * size / 2 ^ 32) / 2 ^ 32 := by
      rw [hsplit, Nat.add_mul_div_left _ _ (by decide), Nat.add_comm]

theorem scale_lt (hsize : 0 < size) (hfirst : first < 2 ^ 32) (hsecond : second < 2 ^ 32) :
    scale size first second < size := by
  have hnumber : first * 2 ^ 32 + second < 2 ^ 64 := by omega
  rw [scale]
  exact Nat.div_lt_of_lt_mul (Nat.mul_lt_mul_of_pos_right hnumber hsize)

theorem refinement_lt (hsize : 0 < size) (hsecond : second < 2 ^ 32) :
    second * size / 2 ^ 32 < size :=
  Nat.div_lt_of_lt_mul (Nat.mul_lt_mul_of_pos_right hsecond hsize)

theorem scale_eq_ite (first : Nat) (hsize : 0 < size) (hle : size ≤ 2 ^ 32) (hsecond : second < 2 ^ 32) :
    scale size first second =
      if 2 ^ 32 ≤ first * size % 2 ^ 32 + second * size / 2 ^ 32 then
        first * size / 2 ^ 32 + 1
      else first * size / 2 ^ 32 := by
  have hfraction : first * size % 2 ^ 32 < 2 ^ 32 := Nat.mod_lt _ (by decide)
  have hrefinement := refinement_lt hsize hsecond
  rw [scale_eq_add_carry]
  split <;> omega

theorem scale_of_fraction_le (hsize : 0 < size) (hsecond : second < 2 ^ 32)
    (hfraction : first * size % 2 ^ 32 + size ≤ 2 ^ 32) :
    scale size first second = first * size / 2 ^ 32 := by
  have hrefinement := refinement_lt hsize hsecond
  rw [scale_eq_add_carry]
  omega

theorem scale_full (hsecond : second < 2 ^ 32) : scale (2 ^ 32) first second = first := by
  rw [scale]
  omega

end Scale

section Words

def whole (width word : UInt32) : UInt32 :=
  ((word.toUInt64 * width.toUInt64) >>> 32).toUInt32

def fraction (width word : UInt32) : UInt32 :=
  (word.toUInt64 * width.toUInt64).toUInt32

variable (width word : UInt32)

theorem toNat_product :
    (word.toUInt64 * width.toUInt64).toNat = word.toNat * width.toNat := by
  have hproduct : word.toNat * width.toNat < 2 ^ 32 * 2 ^ 32 :=
    Nat.mul_lt_mul'' word.toNat_lt width.toNat_lt
  rw [UInt64.toNat_mul, UInt32.toNat_toUInt64, UInt32.toNat_toUInt64]
  exact Nat.mod_eq_of_lt hproduct

theorem toNat_whole : (whole width word).toNat = word.toNat * width.toNat / 2 ^ 32 := by
  have hquotient : word.toNat * width.toNat / 2 ^ 32 < 2 ^ 32 :=
    Nat.div_lt_of_lt_mul (Nat.mul_lt_mul'' word.toNat_lt width.toNat_lt)
  rw [whole, UInt64.toNat_toUInt32, UInt64.toNat_shiftRight, toNat_product]
  change (word.toNat * width.toNat) >>> 32 % 2 ^ 32 = _
  rw [Nat.shiftRight_eq_div_pow, Nat.mod_eq_of_lt hquotient]

theorem toNat_fraction :
    (fraction width word).toNat = word.toNat * width.toNat % 2 ^ 32 := by
  rw [fraction, UInt64.toNat_toUInt32, toNat_product]

theorem carries_iff (first second : UInt32) :
    first.toUInt64 + second.toUInt64 ≥ 0x100000000 ↔
      2 ^ 32 ≤ first.toNat + second.toNat := by
  have hfirst := first.toNat_lt
  have hsecond := second.toNat_lt
  rw [ge_iff_le, UInt64.le_iff_toNat_le, UInt64.toNat_add, UInt32.toNat_toUInt64,
    UInt32.toNat_toUInt64, Nat.mod_eq_of_lt (by omega)]
  rfl

end Words

theorem toNat_width (bounds : Bounds) : (width bounds).toNat = bounds.size % 2 ^ 32 := by
  rw [width, UInt32.toNat_add, UInt32.toNat_sub_of_le _ _ bounds.low_le_high]
  rfl

theorem width_eq_zero_iff (bounds : Bounds) : width bounds = 0 ↔ bounds.size = 2 ^ 32 := by
  have hsize := bounds.size_pos
  have hle := bounds.size_le
  rw [← UInt32.toNat_inj, toNat_width, UInt32.toNat_zero]
  omega

theorem toNat_width_of_ne_zero {bounds : Bounds} (h : width bounds ≠ 0) :
    (width bounds).toNat = bounds.size := by
  have hle := bounds.size_le
  rw [ne_eq, width_eq_zero_iff] at h
  rw [toNat_width]
  omega

theorem toNat_zero_sub_width {bounds : Bounds} (h : width bounds ≠ 0) :
    (0 - width bounds).toNat = 2 ^ 32 - bounds.size := by
  have hsize := bounds.size_pos
  rw [UInt32.toNat_sub, toNat_width_of_ne_zero h, UInt32.toNat_zero]
  omega

theorem toNat_low_add {bounds : Bounds} {place : UInt32} (h : place.toNat < bounds.size) :
    (bounds.low + place).toNat = bounds.low.toNat + place.toNat := by
  have hsize := bounds.low_add_size
  have hhigh := bounds.high.toNat_lt
  rw [UInt32.toNat_add]
  exact Nat.mod_eq_of_lt (by omega)

section Places

variable {bounds : Bounds} (first second : UInt32)

theorem scale_words_lt (bounds : Bounds) (first second : UInt32) :
    scale bounds.size first.toNat second.toNat < bounds.size :=
  scale_lt bounds.size_pos first.toNat_lt second.toNat_lt

theorem toNat_whole_of_not_lt (h : width bounds ≠ 0)
    (hfraction : ¬fraction (width bounds) first > 0 - width bounds) :
    (whole (width bounds) first).toNat = scale bounds.size first.toNat second.toNat := by
  have hvalues := toNat_width_of_ne_zero h
  rw [gt_iff_lt, UInt32.lt_iff_toNat_lt, toNat_fraction, toNat_zero_sub_width h, hvalues,
    Nat.not_lt] at hfraction
  have hle := bounds.size_le
  rw [toNat_whole, hvalues]
  exact (scale_of_fraction_le bounds.size_pos second.toNat_lt (by omega)).symm

theorem toNat_carried (h : width bounds ≠ 0) :
    (if (fraction (width bounds) first).toUInt64 +
          (whole (width bounds) second).toUInt64 ≥ 0x100000000 then
        whole (width bounds) first + 1
      else whole (width bounds) first).toNat =
      scale bounds.size first.toNat second.toNat := by
  have hvalues := toNat_width_of_ne_zero h
  have hle := bounds.size_le
  have hplace := scale_words_lt bounds first second
  have hscale := scale_eq_ite first.toNat bounds.size_pos hle second.toNat_lt
  rw [hscale] at hplace ⊢
  simp only [carries_iff, toNat_fraction, toNat_whole, hvalues]
  split
  · rename_i hcarry
    rw [if_pos hcarry] at hplace
    rw [UInt32.toNat_add, toNat_whole, hvalues]
    exact Nat.mod_eq_of_lt (Nat.lt_of_lt_of_le hplace hle)
  · rw [toNat_whole, hvalues]

end Places

section Draw

variable (bounds : Bounds) (generator : Generator)

theorem draw_eq_ite :
    draw bounds generator =
      if width bounds = 0 then generator.next
      else if fraction (width bounds) generator.next.1 > 0 - width bounds then
        (bounds.low +
          (if (fraction (width bounds) generator.next.1).toUInt64 +
              (whole (width bounds) generator.next.2.next.1).toUInt64 ≥ 0x100000000 then
            whole (width bounds) generator.next.1 + 1
          else whole (width bounds) generator.next.1), generator.next.2.next.2)
      else (bounds.low + whole (width bounds) generator.next.1, generator.next.2) := rfl

/-- A draw takes its value from the next two words, though it leaves the second one waiting
where that word carries nothing. -/
theorem toNat_draw :
    (draw bounds generator).1.toNat =
      bounds.low.toNat +
        scale bounds.size generator.next.1.toNat generator.next.2.next.1.toNat := by
  have hplace := scale_words_lt bounds generator.next.1 generator.next.2.next.1
  rw [draw_eq_ite]
  by_cases hwidth : width bounds = 0
  · have hfull := (width_eq_zero_iff bounds).mp hwidth
    have hhigh := bounds.high.toNat_lt
    have hlow := bounds.low_add_size
    rw [if_pos hwidth, hfull, scale_full generator.next.2.next.1.toNat_lt]
    omega
  · rw [if_neg hwidth]
    split
    · have hcarried := toNat_carried generator.next.1 generator.next.2.next.1 hwidth
      rw [← hcarried] at hplace ⊢
      exact toNat_low_add hplace
    · rename_i hfraction
      have hwhole := toNat_whole_of_not_lt generator.next.1 generator.next.2.next.1 hwidth
        hfraction
      rw [← hwhole] at hplace ⊢
      exact toNat_low_add hplace

theorem admits_draw : bounds.Admits (draw bounds generator).1 := by
  have hplace := scale_words_lt bounds generator.next.1 generator.next.2.next.1
  have hvalue := toNat_draw bounds generator
  have hlow := bounds.low_add_size
  constructor <;> rw [UInt32.le_iff_toNat_le] <;> omega

end Draw

end Generator

end DualityDice
