import DualityDice.Proofs.Report.Reader

namespace DualityDice.Report

def Told.total : Told → Int
  | critical value _ => 2 * value.toNat
  | favored hopeValue fearValue _ modifierValue _ flatModifier =>
      hopeValue.toNat + fearValue.toNat + modifierValue.toInt + flatModifier.toInt

def Told.favor : Told → Favor
  | critical _ _ => .critical
  | favored hopeValue fearValue _ _ _ _ =>
      if fearValue.toNat < hopeValue.toNat then .hope else .fear

def heading (favor : Favor) (total : Int) : Text :=
  match favor with
  | .critical =>
      "`".toList ++ criticalLabel ++ "` (**".toList ++ Numeral.ofInt total ++ "**) ⟵ ".toList
  | .hope =>
      "`".toList ++ Numeral.ofInt total ++ " com ".toList ++ hopeLabel ++ "` ⟵ ".toList
  | .fear =>
      "`".toList ++ Numeral.ofInt total ++ " com ".toList ++ fearLabel ++ "` ⟵ ".toList

theorem total_told (outcome : Outcome) : (told outcome).total = outcome.total := by
  unfold told
  split
  · rename_i hcritical
    have hequal : outcome.hopeValue = outcome.fearValue := eq_of_beq hcritical
    rw [Told.total, Outcome.total, if_pos hcritical, ← hequal]
    exact Int.two_mul _
  · rename_i hcritical
    rw [Told.total, Outcome.total, if_neg hcritical]

theorem favor_told (outcome : Outcome) : (told outcome).favor = outcome.favor := by
  unfold told
  split
  · rename_i hcritical
    rw [Told.favor, Outcome.favor, if_pos hcritical]
  · rename_i hcritical
    simp only [Told.favor, Outcome.favor, if_neg hcritical, UInt32.lt_iff_toNat_lt]

theorem total_bounds (outcome : Outcome) :
    -4294967296 ≤ outcome.total ∧ outcome.total ≤ 12884901884 := by
  have hhope := outcome.hopeValue.toNat_lt
  have hfear := outcome.fearValue.toNat_lt
  have hmodifier := outcome.modifierValue.le_toInt
  have hmodifier' := outcome.modifierValue.toInt_lt
  have hflat := outcome.flatModifier.le_toInt
  have hflat' := outcome.flatModifier.toInt_lt
  rw [Outcome.total]
  split <;> omega

theorem isSigned64_total (outcome : Outcome) : Numeral.isSigned64 outcome.total = true := by
  obtain ⟨hlow, hhigh⟩ := total_bounds outcome
  rw [Numeral.isSigned64, Bool.and_eq_true, decide_eq_true_eq, decide_eq_true_eq]
  omega

theorem heading_isPrefix_line (outcome : Outcome) :
    heading outcome.favor outcome.total <+: line outcome := by
  unfold line
  split
  · rename_i hfavor
    rw [hfavor]
    unfold heading criticalLine
    exact ⟨hopeClause outcome ++ " = ".toList ++ fearDie, by simp only [List.append_assoc]⟩
  · rename_i hfavor
    rw [hfavor]
    unfold heading favoredLine
    exact ⟨hopeClause outcome ++ " + ".toList ++ face outcome.fearValue.toNat ++ [' '] ++
      fearDie ++ modifierClause outcome ++ flatClause outcome,
      by simp only [List.append_assoc]⟩
  · rename_i hfavor
    rw [hfavor]
    unfold heading favoredLine
    exact ⟨hopeClause outcome ++ " + ".toList ++ face outcome.fearValue.toNat ++ [' '] ++
      fearDie ++ modifierClause outcome ++ flatClause outcome,
      by simp only [List.append_assoc]⟩

theorem namedDie_eq_iff (value : Int32) (first second : ModifierDie) :
    ((if value = 0 then none else some first) = if value = 0 then none else some second) ↔
      (value ≠ 0 → first = second) := by
  split
  · rename_i hzero
    simp [hzero]
  · rename_i hne
    simp [hne]

theorem told_eq_iff (first second : Outcome) :
    told first = told second ↔
      (first.isCritical = true ∧ second.isCritical = true ∧
        first.hopeValue = second.hopeValue ∧ first.hopeDie = second.hopeDie) ∨
      (first.isCritical = false ∧ second.isCritical = false ∧
        first.hopeValue = second.hopeValue ∧ first.fearValue = second.fearValue ∧
        first.hopeDie = second.hopeDie ∧ first.modifierValue = second.modifierValue ∧
        first.flatModifier = second.flatModifier ∧
        (first.modifierValue ≠ 0 → first.modifierDie = second.modifierDie)) := by
  unfold told
  cases hfirst : first.isCritical <;> cases hsecond : second.isCritical
  · simp only [Bool.false_eq_true, if_false, Told.favored.injEq, false_and, true_and,
      false_or]
    constructor
    · rintro ⟨hhope, hfear, hdie, hvalue, hmodifier, hflat⟩
      rw [← hvalue, namedDie_eq_iff] at hmodifier
      exact ⟨hhope, hfear, hdie, hvalue, hflat, hmodifier⟩
    · rintro ⟨hhope, hfear, hdie, hvalue, hflat, hmodifier⟩
      rw [← hvalue, namedDie_eq_iff]
      exact ⟨hhope, hfear, hdie, rfl, hmodifier, hflat⟩
  · simp
  · simp
  · simp

theorem hopeClause_congr {first second : Outcome} (hvalue : first.hopeValue = second.hopeValue)
    (hdie : first.hopeDie = second.hopeDie) : hopeClause first = hopeClause second := by
  unfold hopeClause
  rw [hvalue, hdie]

theorem modifierClause_congr {first second : Outcome}
    (hvalue : first.modifierValue = second.modifierValue)
    (hdie : first.modifierValue ≠ 0 → first.modifierDie = second.modifierDie) :
    modifierClause first = modifierClause second := by
  rw [modifierClause_eq, modifierClause_eq, ← hvalue]
  split
  · rfl
  · rename_i hne
    rw [hdie hne]

theorem flatClause_congr {first second : Outcome}
    (hflat : first.flatModifier = second.flatModifier) :
    flatClause first = flatClause second := by
  unfold flatClause
  rw [hflat]

theorem criticalLine_congr {first second : Outcome} (htotal : first.total = second.total)
    (hclause : hopeClause first = hopeClause second) :
    criticalLine first = criticalLine second := by
  unfold criticalLine
  rw [htotal, hclause]

theorem line_of_told_eq {first second : Outcome} (h : told first = told second) :
    line first = line second := by
  have hfavor : first.favor = second.favor := by
    rw [← favor_told, h, favor_told]
  have htotal : first.total = second.total := by
    rw [← total_told, h, total_told]
  rcases (told_eq_iff first second).mp h with
    ⟨hfirst, hsecond, hhope, hdie⟩ | ⟨_, _, hhope, hfear, hdie, hvalue, hflat, hmodifier⟩
  · rw [(line_of_critical hfirst).2, (line_of_critical hsecond).2]
    exact criticalLine_congr htotal (hopeClause_congr hhope hdie)
  · have hclause := hopeClause_congr hhope hdie
    have hfavored (side : Text) : favoredLine side first = favoredLine side second := by
      unfold favoredLine
      rw [htotal, hclause, hfear, modifierClause_congr hvalue hmodifier,
        flatClause_congr hflat]
    unfold line
    rw [hfavor]
    split
    · exact criticalLine_congr htotal hclause
    · exact hfavored hopeLabel
    · exact hfavored fearLabel

/-- Two reports are equal just when both tell of critical rolls with the same Hope value and
Hope die, or both of others with the same values, modifiers and dice, where a modifier die that
adds nothing does not count. One reader gives what every report tells. -/
theorem reports_unambiguous :
    (∀ first second : Outcome,
      line first = line second ↔
        (first.isCritical = true ∧ second.isCritical = true ∧
          first.hopeValue = second.hopeValue ∧ first.hopeDie = second.hopeDie) ∨
        (first.isCritical = false ∧ second.isCritical = false ∧
          first.hopeValue = second.hopeValue ∧ first.fearValue = second.fearValue ∧
          first.hopeDie = second.hopeDie ∧ first.modifierValue = second.modifierValue ∧
          first.flatModifier = second.flatModifier ∧
          (first.modifierValue ≠ 0 → first.modifierDie = second.modifierDie))) ∧
    (∀ outcome : Outcome,
      read? (line outcome) =
          some ⟨(told outcome).favor, (told outcome).total, told outcome⟩ ∧
        heading (told outcome).favor (told outcome).total <+: line outcome ∧
        Numeral.isSigned64 (told outcome).total = true) := by
  constructor
  · intro first second
    rw [← told_eq_iff]
    constructor
    · intro hline
      have hread := read?_line first
      rw [hline, read?_line second, Option.some.injEq, Reading.mk.injEq] at hread
      exact hread.2.2.symm
    · exact line_of_told_eq
  · intro outcome
    rw [favor_told, total_told]
    exact ⟨read?_line outcome, heading_isPrefix_line outcome, isSigned64_total outcome⟩

end DualityDice.Report
