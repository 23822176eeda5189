import Mathlib.Data.Set.Card
import Mathlib.Order.Interval.Finset.Nat
import DualityDice.Proofs.Random.Scaling

/-!
Draws are fair: of all pairs of words, those that lead to one value within bounds are as many
as those that lead to another, give or take one.
-/

namespace DualityDice.Generator

section Places

variable {total size place number : Nat}

/-- The least of `total` numbers that is scaled to a place or beyond it. -/
def firstAt (total size place : Nat) : Nat :=
  (place * total + (size - 1)) / size

theorem firstAt_le_iff (hsize : 0 < size) :
    firstAt total size place ≤ number ↔ place * total ≤ number * size := by
  rw [firstAt, Nat.div_le_iff_le_mul_add_pred hsize, Nat.mul_comm size number]
  omega

theorem scaled_eq_iff (htotal : 0 < total) (hsize : 0 < size) :
    number * size / total = place ↔
      firstAt total size place ≤ number ∧ number < firstAt total size (place + 1) := by
  rw [← Nat.not_le, firstAt_le_iff hsize, firstAt_le_iff hsize, Nat.not_le,
    ← Nat.div_lt_iff_lt_mul htotal, ← Nat.le_div_iff_mul_le htotal]
  omega

theorem lt_of_lt_firstAt_succ (hplace : place < size)
    (h : number < firstAt total size (place + 1)) : number < total := by
  rw [← Nat.not_le, firstAt_le_iff (Nat.zero_lt_of_lt hplace)] at h
  by_contra hlarge
  apply h
  calc
    (place + 1) * total ≤ size * total := Nat.mul_le_mul_right _ hplace
    _ ≤ size * number := Nat.mul_le_mul_left _ (Nat.not_lt.mp hlarge)
    _ = number * size := Nat.mul_comm size number

theorem firstAt_succ (total : Nat) {size : Nat} (place : Nat) (hsize : 0 < size) :
    firstAt total size place + total / size ≤ firstAt total size (place + 1) ∧
      firstAt total size (place + 1) ≤ firstAt total size place + (total / size + 1) := by
  have hbegins : place * total ≤ firstAt total size place * size :=
    (firstAt_le_iff hsize).mp (Nat.le_refl _)
  have hends : place * total + total ≤ firstAt total size (place + 1) * size := by
    rw [← Nat.succ_mul]
    exact (firstAt_le_iff hsize).mp (Nat.le_refl _)
  have hshare : total / size * size ≤ total := Nat.div_mul_le_self total size
  have hmore : total < (total / size + 1) * size := by
    rw [Nat.mul_comm]
    exact Nat.lt_mul_div_succ total hsize
  refine ⟨?_, ?_⟩
  · have hfits : total / size ≤ firstAt total size (place + 1) := by
      apply Nat.le_of_mul_le_mul_right _ hsize
      exact hshare.trans (Nat.le_trans (Nat.le_add_left _ _) hends)
    have hback : firstAt total size place ≤ firstAt total size (place + 1) - total / size := by
      rw [firstAt_le_iff hsize, Nat.sub_mul]
      exact Nat.le_sub_of_add_le (Nat.le_trans (Nat.add_le_add_left hshare _) hends)
    exact Nat.add_le_of_le_sub hfits hback
  · rw [firstAt_le_iff hsize, Nat.succ_mul, Nat.add_mul]
    exact Nat.add_le_add hbegins (Nat.le_of_lt hmore)

end Places

def numberOf (pair : UInt32 × UInt32) : Nat :=
  pair.1.toNat * 2 ^ 32 + pair.2.toNat

theorem numberOf_injective : Function.Injective numberOf := by
  rintro ⟨first, second⟩ ⟨third, fourth⟩ h
  have hsecond := second.toNat_lt
  have hfourth := fourth.toNat_lt
  change first.toNat * 2 ^ 32 + second.toNat = third.toNat * 2 ^ 32 + fourth.toNat at h
  rw [Prod.mk.injEq, ← UInt32.toNat_inj, ← UInt32.toNat_inj]
  omega

theorem exists_numberOf_eq {number : Nat} (h : number < 2 ^ 64) :
    ∃ pair, numberOf pair = number := by
  refine ⟨(UInt32.ofNat (number / 2 ^ 32), UInt32.ofNat (number % 2 ^ 32)), ?_⟩
  unfold numberOf
  rw [UInt32.toNat_ofNat_of_lt' (show number / 2 ^ 32 < UInt32.size by rw [UInt32.size]; omega),
    UInt32.toNat_ofNat_of_lt' (show number % 2 ^ 32 < UInt32.size by rw [UInt32.size]; omega)]
  omega

/-- Whether two words lead to a value: it is drawn in every state whose next words they are. -/
def LeadsTo (bounds : Bounds) (value : UInt32) (pair : UInt32 × UInt32) : Prop :=
  ∀ generator : Generator, generator.next.1 = pair.1 → generator.next.2.next.1 = pair.2 →
    (draw bounds generator).1 = value

noncomputable def hits (bounds : Bounds) (value : UInt32) : Nat :=
  {pair | LeadsTo bounds value pair}.ncard

section Hits

variable {bounds : Bounds} {value : UInt32}

theorem leadsTo_iff (pair : UInt32 × UInt32) :
    LeadsTo bounds value pair ↔
      bounds.low.toNat + numberOf pair * bounds.size / 2 ^ 64 = value.toNat := by
  constructor
  · intro h
    rw [← h ⟨Vector.replicate 8 0, 0, [pair.1, pair.2]⟩ rfl rfl, toNat_draw]
    rfl
  · rintro h generator hfirst hsecond
    rw [← UInt32.toNat_inj, toNat_draw, hfirst, hsecond]
    exact h

theorem hits_eq (h : bounds.Admits value) :
    hits bounds value =
      firstAt (2 ^ 64) bounds.size (value.toNat - bounds.low.toNat + 1) -
        firstAt (2 ^ 64) bounds.size (value.toNat - bounds.low.toNat) := by
  have hlow : bounds.low.toNat ≤ value.toNat := UInt32.le_iff_toNat_le.mp h.1
  have hhigh : value.toNat ≤ bounds.high.toNat := UInt32.le_iff_toNat_le.mp h.2
  have hsize := bounds.low_add_size
  generalize hplace : value.toNat - bounds.low.toNat = place
  have himage : numberOf '' {pair | LeadsTo bounds value pair} =
      Finset.Ico (firstAt (2 ^ 64) bounds.size place)
        (firstAt (2 ^ 64) bounds.size (place + 1)) := by
    ext number
    rw [Finset.coe_Ico, Set.mem_Ico, ← scaled_eq_iff (by decide) bounds.size_pos, Set.mem_image]
    constructor
    · rintro ⟨pair, hpair, rfl⟩
      have hvalue := (leadsTo_iff pair).mp hpair
      omega
    · intro hnumber
      have hlt := ((scaled_eq_iff (by decide) bounds.size_pos).mp hnumber).2
      obtain ⟨pair, rfl⟩ := exists_numberOf_eq (lt_of_lt_firstAt_succ (by omega) hlt)
      refine ⟨pair, (leadsTo_iff pair).mpr ?_, rfl⟩
      omega
  rw [hits, ← Set.ncard_image_of_injective _ numberOf_injective, himage, Set.ncard_coe_finset,
    Nat.card_Ico]

theorem hits_bounds (h : bounds.Admits value) :
    2 ^ 64 / bounds.size ≤ hits bounds value ∧
      hits bounds value ≤ 2 ^ 64 / bounds.size + 1 := by
  obtain ⟨hleast, hmost⟩ :=
    firstAt_succ (2 ^ 64) (value.toNat - bounds.low.toNat) bounds.size_pos
  rw [hits_eq h]
  exact ⟨Nat.le_sub_of_add_le' hleast, Nat.sub_le_iff_le_add'.mpr hmost⟩

end Hits

section Draw

variable (bounds : Bounds) (generator : Generator)

/-- The second word is taken just where the fraction that the first one leaves is so great that
a carry is possible. Where all words are allowed, no fraction is left. -/
theorem after_draw :
    (draw bounds generator).2 =
      if 2 ^ 32 - bounds.size < generator.next.1.toNat * bounds.size % 2 ^ 32 then
        generator.next.2.next.2
      else generator.next.2 := by
  rw [draw_eq_ite]
  by_cases hwidth : width bounds = 0
  · have hfull := (width_eq_zero_iff bounds).mp hwidth
    rw [if_pos hwidth, hfull, Nat.mul_mod_left, if_neg (Nat.not_lt_zero _)]
  · have hfraction : fraction (width bounds) generator.next.1 > 0 - width bounds ↔
        2 ^ 32 - bounds.size < generator.next.1.toNat * bounds.size % 2 ^ 32 := by
      rw [gt_iff_lt, UInt32.lt_iff_toNat_lt, toNat_fraction, toNat_zero_sub_width hwidth,
        toNat_width_of_ne_zero hwidth]
    rw [if_neg hwidth]
    by_cases hcarry : 2 ^ 32 - bounds.size < generator.next.1.toNat * bounds.size % 2 ^ 32
    · rw [if_pos (hfraction.mpr hcarry), if_pos hcarry]
    · rw [if_neg (hfraction.not.mpr hcarry), if_neg hcarry]

end Draw

/-- The value drawn is the next two words, taken as one number of 64 bits and scaled to the
size of the bounds, whether the second word is taken or left. No sum on the way wraps. Any two
values have equally many pairs of words, give or take one. -/
theorem draw_scales_evenly (bounds : Bounds) :
    (∀ generator : Generator,
      let first := generator.next.1
      let second := generator.next.2.next.1
      let scaled := (first.toNat * 2 ^ 32 + second.toNat) * bounds.size / 2 ^ 64
      (draw bounds generator).1.toNat = bounds.low.toNat + scaled ∧
      (draw bounds generator).2 =
        (if 2 ^ 32 - bounds.size < first.toNat * bounds.size % 2 ^ 32 then
          generator.next.2.next.2
        else generator.next.2) ∧
      (bounds.low ≤ (draw bounds generator).1 ∧ (draw bounds generator).1 ≤ bounds.high) ∧
      (bounds.size = 2 ^ 32 → (draw bounds generator).1 = first) ∧
      bounds.low.toNat + scaled < 2 ^ 32 ∧
      (bounds.size < 2 ^ 32 → (width bounds).toNat = bounds.size ∧
        (2 ^ 32 ≤ (fraction (width bounds) first).toNat + (whole (width bounds) second).toNat →
          (whole (width bounds) first + 1).toNat = (whole (width bounds) first).toNat + 1))) ∧
    (∀ value other, bounds.Admits value → bounds.Admits other →
      2 ^ 64 / bounds.size ≤ hits bounds value ∧ hits bounds value ≤ hits bounds other + 1) := by
  refine ⟨?_, ?_⟩
  · intro generator first second scaled
    have hvalue : (draw bounds generator).1.toNat = bounds.low.toNat + scaled :=
      toNat_draw bounds generator
    refine ⟨hvalue, after_draw bounds generator, admits_draw bounds generator, ?_, ?_, ?_⟩
    · intro hfull
      rw [draw_eq_ite, if_pos ((width_eq_zero_iff bounds).mpr hfull)]
    · rw [← hvalue]
      exact (draw bounds generator).1.toNat_lt
    · intro hsize
      have hwidth : width bounds ≠ 0 := by
        rw [ne_eq, width_eq_zero_iff]
        exact Nat.ne_of_lt hsize
      have hvalues := toNat_width_of_ne_zero hwidth
      refine ⟨hvalues, ?_⟩
      intro hcarry
      have hplace := scale_words_lt bounds first second
      rw [scale_eq_ite first.toNat bounds.size_pos bounds.size_le second.toNat_lt, ← hvalues,
        ← toNat_fraction, ← toNat_whole, ← toNat_whole, if_pos hcarry, hvalues] at hplace
      rw [UInt32.toNat_add]
      exact Nat.mod_eq_of_lt (Nat.lt_trans hplace hsize)
  · intro value other hvalue hother
    obtain ⟨hleast, hmost⟩ := hits_bounds hvalue
    exact ⟨hleast, Nat.le_trans hmost (Nat.add_le_add_right (hits_bounds hother).1 1)⟩

/-- A roll of twelve sides whose first word leaves so great a fraction that the second one
carries. No side of the die has two pairs of words more than another. -/
theorem draw_carries_for_twelve_sides :
    let bounds : Bounds := ⟨1, 12, by decide⟩
    let generator : Generator := ⟨Vector.replicate 8 0, 0, [2863311530, 4294967295, 5]⟩
    (draw bounds generator).1.toNat = 1 + (2863311530 * 2 ^ 32 + 4294967295) * 12 / 2 ^ 64 ∧
      (draw bounds generator).1 = 9 ∧ (draw bounds generator).2.waiting = [5] ∧
      hits bounds 9 ≤ hits bounds 1 + 1 := by
  intro bounds generator
  obtain ⟨hdraws, hfair⟩ := draw_scales_evenly bounds
  have hnine : bounds.Admits 9 := ⟨by decide, by decide⟩
  have hone : bounds.Admits 1 := ⟨by decide, by decide⟩
  refine ⟨(hdraws generator).1, ?_, ?_, (hfair 9 1 hnine hone).2⟩
  · decide +kernel
  · decide +kernel

end DualityDice.Generator
