import Mathlib.Data.List.Forall2
import DualityDice.Proofs.Numeral.Start
import DualityDice.Proofs.Report.Lines

namespace DualityDice.Report

variable {first second : List Outcome}

theorem numberedFrom_eq_mapIdx (start : Nat) (outcomes : List Outcome) :
    numberedFrom start outcomes =
      outcomes.mapIdx fun place outcome => ordinal (start + place) ++ line outcome := by
  induction outcomes generalizing start with
  | nil => rfl
  | cons outcome rest ih =>
      rw [numberedFrom, ih, List.mapIdx_cons]
      simp only [ordinal, Nat.add_zero, Nat.add_assoc, Nat.add_comm 1]

theorem numberedFrom_eq_iff (start : Nat) :
    numberedFrom start first = numberedFrom start second ↔
      List.Forall₂ (fun outcome other => line outcome = line other) first second := by
  induction first generalizing start second with
  | nil =>
      cases second with
      | nil => simp
      | cons other others => simp [numberedFrom]
  | cons outcome rest ih =>
      cases second with
      | nil => simp [numberedFrom]
      | cons other others =>
          rw [numberedFrom, numberedFrom, List.cons.injEq, ih, List.forall₂_cons,
            List.append_cancel_left_eq]

theorem exists_numbered_eq_cons (outcome : Outcome) (rest : List Outcome) :
    ∃ c more, numbered (outcome :: rest) = c :: more ∧ c.isDigit = true := by
  obtain ⟨c, digits, hdigits, hdigit⟩ := Numeral.exists_ofNat_eq_cons 1
  rw [numbered, numberedFrom, hdigits, Text.joinLines]
  cases numberedFrom (1 + 1) rest with
  | nil =>
      rw [List.intercalate_singleton]
      exact ⟨c, _, rfl, hdigit⟩
  | cons next more =>
      rw [List.intercalate_cons_cons]
      exact ⟨c, _, rfl, hdigit⟩

theorem numbered_eq_nil_iff {outcomes : List Outcome} : numbered outcomes = [] ↔ outcomes = [] := by
  cases outcomes with
  | nil => exact iff_of_true rfl rfl
  | cons outcome rest =>
      obtain ⟨c, more, hnumbered, _⟩ := exists_numbered_eq_cons outcome rest
      simp [hnumbered]

theorem numbered_eq_iff :
    numbered first = numbered second ↔
      List.Forall₂ (fun outcome other => line outcome = line other) first second := by
  rw [← numberedFrom_eq_iff 1]
  constructor
  -- The empty list stands apart, as its text is split into one empty line.
  · intro h
    by_cases hfirst : first = []
    · have hsecond : second = [] := by
        rw [← numbered_eq_nil_iff, ← h, numbered_eq_nil_iff]
        exact hfirst
      rw [hfirst, hsecond]
    · have hsecond : second ≠ [] := by
        rw [ne_eq, ← numbered_eq_nil_iff, ← h, numbered_eq_nil_iff]
        exact hfirst
      rw [← splitAll_numbered hfirst, h, splitAll_numbered hsecond]
  · intro h
    rw [numbered, h, numbered]

theorem line_ne_numbered (outcome : Outcome) (outcomes : List Outcome) :
    line outcome ≠ numbered outcomes := by
  obtain ⟨rest, hline⟩ := exists_line_eq_cons outcome
  intro h
  rw [hline] at h
  cases outcomes with
  | nil => contradiction
  | cons next others =>
      obtain ⟨c, more, hnumbered, hdigit⟩ := exists_numbered_eq_cons next others
      rw [hnumbered] at h
      rw [← (List.cons.inj h).1] at hdigit
      contradiction

theorem ofOutcomes_of_length_ne_one {outcomes : List Outcome} (h : outcomes.length ≠ 1) :
    ofOutcomes outcomes = numbered outcomes := by
  unfold ofOutcomes
  split
  · contradiction
  · rfl

theorem ofOutcomes_eq_iff :
    ofOutcomes first = ofOutcomes second ↔
      List.Forall₂ (fun outcome other => line outcome = line other) first second := by
  by_cases hfirst : first.length = 1
  · obtain ⟨outcome, rfl⟩ := List.length_eq_one_iff.mp hfirst
    by_cases hsecond : second.length = 1
    · obtain ⟨other, rfl⟩ := List.length_eq_one_iff.mp hsecond
      rw [List.forall₂_cons, ofOutcomes, ofOutcomes]
      simp
    · rw [ofOutcomes_of_length_ne_one hsecond]
      refine iff_of_false (line_ne_numbered outcome second) ?_
      exact fun h => hsecond (h.length_eq ▸ hfirst)
  · rw [ofOutcomes_of_length_ne_one hfirst]
    by_cases hsecond : second.length = 1
    · obtain ⟨other, rfl⟩ := List.length_eq_one_iff.mp hsecond
      refine iff_of_false (line_ne_numbered other first).symm ?_
      exact fun h => hfirst (h.length_eq.trans hsecond)
    · rw [ofOutcomes_of_length_ne_one hsecond, numbered_eq_iff]

/-- A numbered report has a line for each roll, in order: its number from one on, a full stop,
a space and its report. No lone report is a numbered one. -/
theorem numbered_reports_split_back :
    (∀ (outcome : Outcome) (rest : List Outcome),
      (numbered (outcome :: rest)).splitAll '\n' =
        (outcome :: rest).mapIdx fun place outcome =>
          Numeral.ofNat (place + 1) ++ ['.', ' '] ++ line outcome) ∧
    (∀ first second : List Outcome,
      ofOutcomes first = ofOutcomes second ↔
        List.Forall₂ (fun outcome other => line outcome = line other) first second) ∧
    ∀ (outcome : Outcome) (outcomes : List Outcome), line outcome ≠ numbered outcomes := by
  refine ⟨?_, fun first second => ofOutcomes_eq_iff, line_ne_numbered⟩
  intro outcome rest
  rw [splitAll_numbered (List.cons_ne_nil outcome rest), numberedFrom_eq_mapIdx]
  simp only [ordinal, Nat.add_comm 1]

end DualityDice.Report
