import DualityDice.Proofs.Report.Lines
import DualityDice.Proofs.Report.Reader

namespace DualityDice.Report

variable {outcome : Outcome}

theorem modifierClause_isInfix_line (h : outcome.isCritical = false) :
    modifierClause outcome <:+: line outcome := by
  obtain ⟨side, hline, _⟩ := line_of_not_critical (Bool.eq_false_iff.mp h)
  rw [hline]
  unfold favoredLine
  exact (List.suffix_append _ _).isInfix.trans (List.prefix_append _ _).isInfix

theorem modifierLabel_isInfix_line (h : outcome.isCritical = false)
    (hvalue : outcome.modifierValue ≠ 0) :
    modifierLabel (decide (outcome.modifierValue.toInt < 0)) <:+: line outcome := by
  refine List.IsInfix.trans ?_ (modifierClause_isInfix_line h)
  rw [modifierClause_eq, if_neg hvalue]
  dsimp only
  rw [List.append_assoc _ [' ']]
  exact (List.suffix_append _ _).isInfix.trans (List.prefix_append _ _).isInfix

theorem foreign_advantage : Foreign 'V' :=
  ⟨by decide, by decide +kernel⟩

theorem foreign_disadvantage : Foreign 'D' :=
  ⟨by decide, by decide +kernel⟩

theorem advantageLabel_isInfix_line_iff :
    advantageLabel <:+: line outcome ↔
      outcome.isCritical = false ∧ 0 < outcome.modifierValue.toInt := by
  constructor
  · intro hlabel
    have hletter : 'V' ∈ line outcome := hlabel.subset (by decide +kernel)
    by_contra hcondition
    refine notMem_line foreign_advantage ?_ hletter
    intro hcritical
    apply notMem_modifierClause foreign_advantage
    · exact fun hpositive => absurd ⟨hcritical, hpositive⟩ hcondition
    · exact fun _ => by decide +kernel
  · rintro ⟨hcritical, hpositive⟩
    have hvalue : outcome.modifierValue ≠ 0 := by
      rw [ne_eq, ← toInt_eq_zero_iff]
      omega
    have hlabel := modifierLabel_isInfix_line hcritical hvalue
    rwa [decide_eq_false (by omega)] at hlabel

theorem disadvantageLabel_isInfix_line_iff :
    disadvantageLabel <:+: line outcome ↔
      outcome.isCritical = false ∧ outcome.modifierValue.toInt < 0 := by
  constructor
  · intro hlabel
    have hletter : 'D' ∈ line outcome := hlabel.subset (by decide +kernel)
    by_contra hcondition
    refine notMem_line foreign_disadvantage ?_ hletter
    intro hcritical
    apply notMem_modifierClause foreign_disadvantage
    · exact fun _ => by decide +kernel
    · exact fun hnegative => absurd ⟨hcritical, hnegative⟩ hcondition
  · rintro ⟨hcritical, hnegative⟩
    have hvalue : outcome.modifierValue ≠ 0 := by
      rw [ne_eq, ← toInt_eq_zero_iff]
      omega
    have hlabel := modifierLabel_isInfix_line hcritical hvalue
    rwa [decide_eq_true hnegative] at hlabel

end DualityDice.Report
