import Mathlib.Data.List.Forall2
import DualityDice.Proofs.Answer
import DualityDice.Proofs.Random.Scaling
import DualityDice.Proofs.Report.Clauses

namespace DualityDice

section Words

variable {value : UInt32}

theorem toInt_toInt32 (h : value.toNat < 2 ^ 31) : value.toInt32.toInt = value.toNat := by
  change value.toBitVec.toInt = value.toNat
  exact BitVec.toInt_eq_toNat_of_lt (by
    change 2 * value.toNat < 2 ^ 32
    omega)

theorem toInt_neg_toInt32 (h : value.toNat < 2 ^ 31) :
    (-value.toInt32).toInt = -(value.toNat : Int) := by
  rw [Int32.toInt_neg, toInt_toInt32 h]
  exact Int.bmod_eq_of_le (by omega) (by omega)

theorem ModifierDie.toNat_lt_of_admits {die : ModifierDie} (h : die.bounds.Admits value) :
    value.toNat < 2 ^ 31 := by
  have hsides : value.toNat ≤ die.sides.toNat := UInt32.le_iff_toNat_le.mp h.2
  have hfew : die.sides.toNat < 2 ^ 31 := by cases die <;> decide
  omega

end Words

def Admitted (values : List UInt32) (bounds : List Bounds) : Prop :=
  List.Forall₂ (fun value bounds => bounds.Admits value) values bounds

theorem Generator.admitted_drawAll (bounds : List Bounds) (generator : Generator) :
    Admitted (Source.drawAll bounds generator).1 bounds := by
  induction bounds generalizing generator with
  | nil => exact .nil
  | cons first rest ih =>
      rw [Source.drawAll_cons]
      exact .cons (Generator.admits_draw first generator) (ih _)

theorem admitted_of_forall_draws {values : List UInt32} {bounds : List Bounds}
    (hlength : values.length = bounds.length)
    (h : ∀ draw ∈ List.zipWith Draw.mk bounds values, draw.bounds.Admits draw.value) :
    Admitted values bounds := by
  induction values generalizing bounds with
  | nil =>
      obtain rfl := List.length_eq_zero_iff.mp hlength.symm
      exact .nil
  | cons value values ih =>
      cases bounds with
      | nil => contradiction
      | cons first rest =>
          rw [List.zipWith_cons_cons, List.forall_mem_cons] at h
          exact .cons h.1 (ih (Nat.succ.inj hlength) h.2)

namespace Request

structure Fits (request : Request) (outcome : Outcome) : Prop where
  hope : 1 ≤ outcome.hopeValue ∧ outcome.hopeValue ≤ request.hopeDie.sides
  fear : 1 ≤ outcome.fearValue ∧ outcome.fearValue ≤ 12
  normal : request.rollType = .normal → outcome.modifierValue.toInt = 0
  advantage : request.rollType = .advantage →
    1 ≤ outcome.modifierValue.toInt ∧
      outcome.modifierValue.toInt ≤ request.modifierDie.sides.toNat
  disadvantage : request.rollType = .disadvantage →
    -(request.modifierDie.sides.toNat : Int) ≤ outcome.modifierValue.toInt ∧
      outcome.modifierValue.toInt ≤ -1
  hopeDie : outcome.hopeDie = request.hopeDie
  modifierDie : outcome.modifierDie = request.modifierDie
  flatModifier : outcome.flatModifier = request.flatModifier

/-- Whether the report of an outcome shows the clause of a modifier die just where the
request calls for that die and the roll is not critical. -/
structure ShownBy (request : Request) (outcome : Outcome) : Prop where
  advantage : Report.advantageLabel <:+: Report.line outcome ↔
    request.rollType = .advantage ∧ outcome.isCritical = false
  disadvantage : Report.disadvantageLabel <:+: Report.line outcome ↔
    request.rollType = .disadvantage ∧ outcome.isCritical = false
  clause : request.rollType ≠ .normal → outcome.isCritical = false →
    Report.sign (request.rollType = .disadvantage) ++
      Report.face outcome.modifierValue.toInt.natAbs ++ [' '] ++
      Report.modifierLabel (request.rollType = .disadvantage) ++ [' '] ++
      Report.parenthesized request.modifierDie.label <:+: Report.line outcome

variable {request : Request} {outcome : Outcome}

theorem Fits.modifier_pos_iff (h : request.Fits outcome) :
    0 < outcome.modifierValue.toInt ↔ request.rollType = .advantage := by
  have hnormal := h.normal
  have hadvantage := h.advantage
  have hdisadvantage := h.disadvantage
  cases htype : request.rollType with
  | normal => simp [hnormal htype]
  | advantage =>
      have hrange := hadvantage htype
      simp only [iff_true]
      omega
  | disadvantage =>
      have hrange := hdisadvantage htype
      simp only [reduceCtorEq, iff_false]
      omega

theorem Fits.modifier_neg_iff (h : request.Fits outcome) :
    outcome.modifierValue.toInt < 0 ↔ request.rollType = .disadvantage := by
  have hnormal := h.normal
  have hadvantage := h.advantage
  have hdisadvantage := h.disadvantage
  cases htype : request.rollType with
  | normal => simp [hnormal htype]
  | advantage =>
      have hrange := hadvantage htype
      simp only [reduceCtorEq, iff_false]
      omega
  | disadvantage =>
      have hrange := hdisadvantage htype
      simp only [iff_true]
      omega

theorem Fits.shownBy (h : request.Fits outcome) : request.ShownBy outcome := by
  refine ⟨?_, ?_, fun htype hcritical => ?_⟩
  · rw [Report.advantageLabel_isInfix_line_iff, h.modifier_pos_iff, and_comm]
  · rw [Report.disadvantageLabel_isInfix_line_iff, h.modifier_neg_iff, and_comm]
  · have hvalue : outcome.modifierValue ≠ 0 := by
      rw [ne_eq, ← Report.toInt_eq_zero_iff]
      cases hside : request.rollType with
      | normal => contradiction
      | advantage =>
          have hpositive := h.modifier_pos_iff.mpr hside
          omega
      | disadvantage =>
          have hnegative := h.modifier_neg_iff.mpr hside
          omega
    have hclause := Report.modifierClause_isInfix_line hcritical
    rw [Report.modifierClause_eq, if_neg hvalue, h.modifierDie] at hclause
    simpa only [h.modifier_neg_iff] using hclause

theorem drawnOnce_eq (request : Request) :
    request.drawnOnce = fearBounds :: request.hopeDie.bounds ::
      if request.rollType = .normal then [] else [request.modifierDie.bounds] := by
  unfold drawnOnce
  cases request.rollType <;> rfl

theorem fits_outcomeOf {values : List UInt32} (h : Admitted values request.drawnOnce) :
    request.Fits (request.outcomeOf values) := by
  rw [Admitted, drawnOnce_eq] at h
  obtain ⟨fear, _, hfear, hbehind, rfl⟩ := List.forall₂_cons_right_iff.mp h
  obtain ⟨hope, rest, hhope, hrest, rfl⟩ := List.forall₂_cons_right_iff.mp hbehind
  have hvalue (htype : request.rollType ≠ .normal) :
      request.modifierDie.bounds.Admits (rest.getD 0 0) := by
    rw [if_neg htype] at hrest
    obtain ⟨value, _, hvalue, _, rfl⟩ := List.forall₂_cons_right_iff.mp hrest
    exact hvalue
  refine ⟨hhope, hfear, ?_, ?_, ?_, rfl, rfl, rfl⟩
  · intro htype
    change (request.rollType.modifierOf _).toInt = 0
    rw [htype]
    rfl
  · intro htype
    change 1 ≤ (request.rollType.modifierOf (rest.getD 0 0)).toInt ∧
      (request.rollType.modifierOf (rest.getD 0 0)).toInt ≤ _
    have hadmits := hvalue (by rw [htype]; decide)
    have hlow := UInt32.le_iff_toNat_le.mp hadmits.1
    have hhigh := UInt32.le_iff_toNat_le.mp hadmits.2
    rw [htype, RollType.modifierOf, toInt_toInt32 (ModifierDie.toNat_lt_of_admits hadmits)]
    exact ⟨Int.ofNat_le.mpr hlow, Int.ofNat_le.mpr hhigh⟩
  · intro htype
    change _ ≤ (request.rollType.modifierOf (rest.getD 0 0)).toInt ∧
      (request.rollType.modifierOf (rest.getD 0 0)).toInt ≤ -1
    have hadmits := hvalue (by rw [htype]; decide)
    have hlow := UInt32.le_iff_toNat_le.mp hadmits.1
    have hhigh := UInt32.le_iff_toNat_le.mp hadmits.2
    rw [htype, RollType.modifierOf, toInt_neg_toInt32 (ModifierDie.toNat_lt_of_admits hadmits)]
    exact ⟨Int.neg_le_neg (Int.ofNat_le.mpr hhigh), Int.neg_le_neg (Int.ofNat_le.mpr hlow)⟩

theorem exists_drawnOnce_of_mem_outcomesOf {n : Nat} {values : List UInt32}
    (h : Admitted values (request.drawnTimes n)) (hmem : outcome ∈ request.outcomesOf n values) :
    ∃ drawn, Admitted drawn request.drawnOnce ∧ outcome = request.outcomeOf drawn := by
  induction n generalizing values with
  | zero => contradiction
  | succ n ih =>
      rw [drawnTimes_succ] at h
      rcases List.mem_cons.mp hmem with rfl | hrest
      · exact ⟨_, List.forall₂_take_append _ _ _ h, rfl⟩
      · exact ih (List.forall₂_drop_append _ _ _ h) hrest

section Rolls

variable {σ : Type} [Source σ] {source : σ}

theorem fits_of_mem_roll
    (h : Admitted (Source.drawAll (request.drawnTimes request.rolls.toNat) source).1
      (request.drawnTimes request.rolls.toNat))
    (hmem : outcome ∈ (request.roll source).1) : request.Fits outcome := by
  rw [roll_eq_drawAll] at hmem
  obtain ⟨drawn, hdrawn, rfl⟩ := exists_drawnOnce_of_mem_outcomesOf h hmem
  exact fits_outcomeOf hdrawn

/-- Whether every value that the rolls of a request draw keeps to the bounds that are asked
for. -/
def KeepsBounds (request : Request) (source : σ) : Prop :=
  ∀ draw ∈ (request.roll (Traced.mk source [])).2.draws, draw.bounds.Admits draw.value

theorem admitted_of_keepsBounds (h : request.KeepsBounds source) :
    Admitted (Source.drawAll (request.drawnTimes request.rolls.toNat) source).1
      (request.drawnTimes request.rolls.toNat) := by
  rw [KeepsBounds, roll_eq_drawAll, Traced.draws_drawAll] at h
  exact admitted_of_forall_draws (Source.length_drawAll _ source) h

end Rolls

/-- The rolls of a request show what its dice can show, and the report of each has the clause
of a modifier die just where it should: from a generator in any state, and from any other
source whose draws for the rolls keep to their bounds. -/
theorem rolls_stay_on_dice (request : Request) :
    (∀ generator : Generator, ∀ outcome ∈ (request.roll generator).1,
      request.Fits outcome ∧ request.ShownBy outcome) ∧
    (∀ (σ : Type) [Source σ] (source : σ), request.KeepsBounds source →
      ∀ outcome ∈ (request.roll source).1, request.Fits outcome ∧ request.ShownBy outcome) ∧
    (∀ value, request.modifierDie.bounds.Admits value →
      value.toInt32.toInt = value.toNat ∧ (-value.toInt32).toInt = -(value.toNat : Int)) := by
  refine ⟨?_, ?_, ?_⟩
  · intro generator outcome hmem
    have hfits := fits_of_mem_roll (Generator.admitted_drawAll _ generator) hmem
    exact ⟨hfits, hfits.shownBy⟩
  · intro σ _ source hkeeps outcome hmem
    have hfits := fits_of_mem_roll (admitted_of_keepsBounds hkeeps) hmem
    exact ⟨hfits, hfits.shownBy⟩
  · intro value hadmits
    have hlt := ModifierDie.toNat_lt_of_admits hadmits
    exact ⟨toInt_toInt32 hlt, toInt_neg_toInt32 hlt⟩

theorem scripted_rolls_stay_on_dice :
    let request : Request := ⟨2, .d20, .disadvantage, .d10, -3⟩
    let source : Script := ⟨[12, 20, 10], 0⟩
    let outcome : Outcome := ⟨20, 12, .d20, .d10, -10, -3⟩
    request.KeepsBounds source ∧ (request.roll source).1 = [outcome, outcome] ∧
      outcome.isCritical = false ∧ request.Fits outcome ∧ request.ShownBy outcome := by
  intro request source outcome
  have hkeeps : request.KeepsBounds source := by
    unfold KeepsBounds Bounds.Admits
    decide +kernel
  have hrolled : (request.roll source).1 = [outcome, outcome] := by
    decide +kernel
  have hmem : outcome ∈ (request.roll source).1 := by
    rw [hrolled]
    exact List.mem_cons_self
  obtain ⟨hfits, hshown⟩ :=
    (rolls_stay_on_dice request).2.1 Script source hkeeps outcome hmem
  exact ⟨hkeeps, hrolled, rfl, hfits, hshown⟩

end Request

end DualityDice
