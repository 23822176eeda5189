import DualityDice.Proofs.Answer
import DualityDice.Proofs.Numeral.Length
import DualityDice.Proofs.Report.Numbered
import DualityDice.Proofs.Report.Unambiguous

namespace DualityDice

namespace Report

open Numeral

section Words

theorem toNat_lt_pow (word : UInt32) : word.toNat < 10 ^ 10 := by
  have hlt := word.toNat_lt
  omega

theorem natAbs_toInt_lt_pow (word : Int32) : word.toInt.natAbs < 10 ^ 10 := by
  have hlow := word.le_toInt
  have hhigh := word.toInt_lt
  omega

variable {n : Nat}

theorem length_bold_le (h : n < 10 ^ 10) : (bold n).length ≤ 14 := by
  have hdigits := (length_ofNat_le_iff (by decide)).mpr h
  simp only [bold, List.length_append, List.length_cons, List.length_nil]
  omega

theorem length_face_le (h : n < 10 ^ 10) : (face n).length ≤ 16 := by
  have hbold := length_bold_le h
  simp only [face, List.length_append, List.length_singleton]
  omega

theorem length_ordinal_le (h : n < 10 ^ 10) : (ordinal n).length ≤ 12 := by
  have hdigits := (length_ofNat_le_iff (by decide)).mpr h
  simp only [ordinal, List.length_append, List.length_cons, List.length_nil]
  omega

theorem length_total_le (outcome : Outcome) : (ofInt outcome.total).length ≤ 11 := by
  obtain ⟨hlow, hhigh⟩ := total_bounds outcome
  exact length_ofInt_le (by decide) (by omega) (by omega)

end Words

section Clauses

theorem length_hopeDie (die : HopeDie) : (parenthesized die.label).length = 5 := by
  cases die <;> rfl

theorem length_modifierDie_le (die : ModifierDie) : (parenthesized die.label).length ≤ 5 := by
  cases die <;> decide

theorem length_modifierLabel_le (negative : Bool) : (modifierLabel negative).length ≤ 11 := by
  cases negative <;> decide +kernel

theorem length_sign (negative : Bool) : (sign negative).length = 3 := by
  cases negative <;> rfl

theorem length_hopeLabel : hopeLabel.length = 9 := rfl

theorem length_fearDie : fearDie.length = 10 := rfl

variable (outcome : Outcome)

theorem length_hopeClause_le : (hopeClause outcome).length ≤ 32 := by
  have hface := length_face_le (toNat_lt_pow outcome.hopeValue)
  simp only [hopeClause, List.length_append, List.length_singleton, length_hopeLabel,
    length_hopeDie]
  omega

theorem length_modifierClause_le : (modifierClause outcome).length ≤ 37 := by
  rw [modifierClause_eq]
  split
  · exact Nat.zero_le 37
  · have hface := length_face_le (natAbs_toInt_lt_pow outcome.modifierValue)
    have hlabel := length_modifierLabel_le (decide (outcome.modifierValue.toInt < 0))
    have hdie := length_modifierDie_le outcome.modifierDie
    simp only [List.length_append, List.length_singleton, length_sign]
    omega

theorem length_flatClause_le : (flatClause outcome).length ≤ 17 := by
  rw [flatClause_eq]
  split
  · exact Nat.zero_le 17
  · have hbold := length_bold_le (natAbs_toInt_lt_pow outcome.flatModifier)
    rw [List.length_append, length_sign]
    omega

end Clauses

section Lines

theorem length_criticalLine_le (outcome : Outcome) : (criticalLine outcome).length ≤ 84 := by
  have htotal := length_total_le outcome
  have hhope := length_hopeClause_le outcome
  have hquote : "`".toList.length = 1 := rfl
  have hlabel : criticalLabel.length = 16 := rfl
  have hopening : "` (**".toList.length = 5 := rfl
  have harrow : "**) ⟵ ".toList.length = 6 := rfl
  have hequals : " = ".toList.length = 3 := rfl
  unfold criticalLine
  simp only [List.length_append, hquote, hlabel, hopening, harrow, hequals, length_fearDie]
  omega

theorem length_favoredLine_le {side : Text} (hside : side.length ≤ 9) (outcome : Outcome) :
    (favoredLine side outcome).length ≤ 146 := by
  have htotal := length_total_le outcome
  have hhope := length_hopeClause_le outcome
  have hface := length_face_le (toNat_lt_pow outcome.fearValue)
  have hmodifier := length_modifierClause_le outcome
  have hflat := length_flatClause_le outcome
  have hquote : "`".toList.length = 1 := rfl
  have hcom : " com ".toList.length = 5 := rfl
  have harrow : "` ⟵ ".toList.length = 4 := rfl
  have hplus : " + ".toList.length = 3 := rfl
  unfold favoredLine
  simp only [List.length_append, List.length_singleton, hquote, hcom, harrow, hplus,
    length_fearDie]
  omega

theorem length_line_le (outcome : Outcome) : (line outcome).length ≤ 146 := by
  unfold line
  split
  · exact Nat.le_trans (length_criticalLine_le outcome) (by decide)
  · exact length_favoredLine_le (by decide +kernel) outcome
  · exact length_favoredLine_le (by decide +kernel) outcome

theorem length_le_of_mem_numberedFrom {start : Nat} {outcomes : List Outcome} {entry : Text}
    (hentry : entry ∈ numberedFrom start outcomes) (hfew : start + outcomes.length ≤ 10 ^ 10) :
    entry.length ≤ 158 := by
  rw [numberedFrom_eq_mapIdx, List.mem_mapIdx] at hentry
  obtain ⟨place, hplace, rfl⟩ := hentry
  have hordinal : (ordinal (start + place)).length ≤ 12 := length_ordinal_le (by omega)
  have hline := length_line_le outcomes[place]
  rw [List.length_append]
  omega

theorem length_le_of_mem_splitAll {outcomes : List Outcome} {entry : Text}
    (hentry : entry ∈ (ofOutcomes outcomes).splitAll '\n') (hfew : outcomes.length < 10 ^ 10) :
    entry.length ≤ 158 := by
  rcases mem_splitAll_ofOutcomes hentry with rfl | ⟨outcome, rfl⟩ | hnumbered
  · exact Nat.zero_le 158
  · exact Nat.le_trans (length_line_le outcome) (by decide)
  · exact length_le_of_mem_numberedFrom hnumbered (by omega)

end Lines

end Report

/-- A reply has no more lines than rolls are allowed, and no line is wider than 160 characters,
so that the limit bounds the length of a reply to a text of any length from any source. -/
theorem limit_bounds_reply {σ : Type} [Source σ] {allowed : UInt32} {text answer : Text}
    {source : σ} (h : (reply allowed text source).1 = some answer) :
    (answer.splitAll '\n').length ≤ allowed.toNat ∧
      (∀ entry ∈ answer.splitAll '\n', entry.length ≤ 160) ∧
      answer.length < 161 * allowed.toNat := by
  obtain ⟨request, hread, hlimit, rfl⟩ := exists_request_of_reply_eq_some h
  have hrolls : request.rolls.toNat ≤ allowed.toNat :=
    UInt32.le_iff_toNat_le.mp (UInt32.not_lt.mp hlimit)
  have hcount := length_splitAll_report hread source
  have hwidth : ∀ entry ∈ (Report.ofOutcomes (request.roll source).1).splitAll '\n',
      entry.length ≤ 160 := by
    intro entry hentry
    have hfew : (request.roll source).1.length < 10 ^ 10 := by
      rw [Request.length_roll]
      exact Report.toNat_lt_pow request.rolls
    exact Nat.le_trans (Report.length_le_of_mem_splitAll hentry hfew) (by decide)
  refine ⟨by omega, hwidth, ?_⟩
  exact Text.length_lt_of_splitAll hwidth (by omega)

theorem limit_bounds_two_widest_lines :
    let source : Script := ⟨[1000000000, 1000000001, 2147483648], 0⟩
    let text := "2#dd20iii-2147483648".toList
    ∃ answer, (reply 2 text source).1 = some answer ∧ (answer.splitAll '\n').length ≤ 2 ∧
      (∀ entry ∈ answer.splitAll '\n', entry.length ≤ 160) ∧ answer.length < 161 * 2 ∧
      answer.length = 2 * (3 + 146) + 1 := by
  intro source text
  let request : Request := ⟨2, .d20, .disadvantage, .d10, -2147483648⟩
  have hread : Request.ofText? text = some request := by decide +kernel
  have hlimit : ¬(2 : UInt32) < request.rolls := by decide
  have hanswer := congrArg Prod.fst (reply_of_not_lt hread hlimit source)
  obtain ⟨hlines, hwidth, hlength⟩ := limit_bounds_reply hanswer
  exact ⟨_, hanswer, hlines, hwidth, hlength, by decide +kernel⟩

end DualityDice
