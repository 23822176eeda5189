import DualityDice.Proofs.Text.Lines
import DualityDice.Report

namespace DualityDice.Report

def phrases : List Text :=
  [hopeLabel, fearLabel, criticalLabel, ['*', '*'], ['['], [']'], ['('], [')'], [' '], ['d'],
    ['-'], " (d".toList, " + ".toList, " - ".toList, " = ".toList, "`".toList, "` (**".toList,
    "**) ⟵ ".toList, " com ".toList, "` ⟵ ".toList]

/-- Whether a character can stand in a report only within the label of a modifier die. -/
structure Foreign (c : Char) : Prop where
  not_isDigit : c.isDigit = false
  notMem : ∀ text ∈ phrases, c ∉ text

section Characters

variable {c : Char} {outcome : Outcome}

theorem notMem_ofNat (h : Foreign c) (n : Nat) : c ∉ Numeral.ofNat n := by
  intro hmem
  have hdigit := Numeral.isDigit_of_mem_ofNat hmem
  rw [h.not_isDigit] at hdigit
  contradiction

theorem notMem_ofInt (h : Foreign c) (n : Int) : c ∉ Numeral.ofInt n := by
  cases n with
  | ofNat n => exact notMem_ofNat h n
  | negSucc n =>
      have hminus : c ∉ ['-'] := h.notMem _ (by simp [phrases])
      rw [List.mem_singleton] at hminus
      rw [Numeral.ofInt, List.mem_cons, not_or]
      exact ⟨hminus, notMem_ofNat h (n + 1)⟩

theorem notMem_bold (h : Foreign c) (n : Nat) : c ∉ bold n := by
  simp only [bold, List.mem_append, not_or]
  exact ⟨⟨h.notMem _ (by simp [phrases]), notMem_ofNat h n⟩, h.notMem _ (by simp [phrases])⟩

theorem notMem_face (h : Foreign c) (n : Nat) : c ∉ face n := by
  simp only [face, List.mem_append, not_or]
  exact ⟨⟨h.notMem _ (by simp [phrases]), notMem_bold h n⟩, h.notMem _ (by simp [phrases])⟩

theorem notMem_parenthesized {label : Text} (h : Foreign c) (hlabel : c ∉ label) :
    c ∉ parenthesized label := by
  simp only [parenthesized, List.mem_append, not_or]
  exact ⟨⟨h.notMem _ (by simp [phrases]), hlabel⟩, h.notMem _ (by simp [phrases])⟩

theorem notMem_dieLabel (h : Foreign c) (sides : Nat) : c ∉ 'd' :: Numeral.ofNat sides := by
  have hd : c ∉ ['d'] := h.notMem _ (by simp [phrases])
  rw [List.mem_singleton] at hd
  rw [List.mem_cons, not_or]
  exact ⟨hd, notMem_ofNat h sides⟩

theorem notMem_fearDie (h : Foreign c) : c ∉ fearDie := by
  unfold fearDie
  simp only [List.mem_append, not_or, and_assoc]
  exact ⟨h.notMem _ (by simp [phrases]), h.notMem _ (by simp [phrases]), notMem_ofNat h _,
    h.notMem _ (by simp [phrases])⟩

theorem notMem_hopeClause (h : Foreign c) (outcome : Outcome) : c ∉ hopeClause outcome := by
  unfold hopeClause
  simp only [List.mem_append, not_or, and_assoc]
  exact ⟨notMem_face h _, h.notMem _ (by simp [phrases]), h.notMem _ (by simp [phrases]),
    h.notMem _ (by simp [phrases]), notMem_parenthesized h (notMem_dieLabel h _)⟩

theorem notMem_modifierClause (h : Foreign c)
    (hadvantage : 0 < outcome.modifierValue.toInt → c ∉ advantageLabel)
    (hdisadvantage : outcome.modifierValue.toInt < 0 → c ∉ disadvantageLabel) :
    c ∉ modifierClause outcome := by
  have hdie : c ∉ parenthesized outcome.modifierDie.label :=
    notMem_parenthesized h (notMem_dieLabel h _)
  have hspace : c ∉ [' '] := h.notMem _ (by simp [phrases])
  unfold modifierClause
  dsimp only
  split
  · rename_i hpositive
    simp only [List.mem_append, not_or, and_assoc]
    exact ⟨h.notMem _ (by simp [phrases]), notMem_face h _, hspace, hadvantage hpositive, hspace,
      hdie⟩
  · split
    · rename_i hnegative
      simp only [List.mem_append, not_or, and_assoc]
      exact ⟨h.notMem _ (by simp [phrases]), notMem_face h _, hspace, hdisadvantage hnegative,
        hspace, hdie⟩
    · exact List.not_mem_nil

theorem notMem_flatClause (h : Foreign c) (outcome : Outcome) : c ∉ flatClause outcome := by
  unfold flatClause
  dsimp only
  split
  · rw [List.mem_append, not_or]
    exact ⟨h.notMem _ (by simp [phrases]), notMem_bold h _⟩
  · split
    · rw [List.mem_append, not_or]
      exact ⟨h.notMem _ (by simp [phrases]), notMem_bold h _⟩
    · exact List.not_mem_nil

theorem notMem_criticalLine (h : Foreign c) (outcome : Outcome) : c ∉ criticalLine outcome := by
  unfold criticalLine
  simp only [List.mem_append, not_or, and_assoc]
  exact ⟨h.notMem _ (by simp [phrases]), h.notMem _ (by simp [phrases]),
    h.notMem _ (by simp [phrases]), notMem_ofInt h _, h.notMem _ (by simp [phrases]),
    notMem_hopeClause h _, h.notMem _ (by simp [phrases]), notMem_fearDie h⟩

theorem notMem_favoredLine {side : Text} (h : Foreign c) (hside : side ∈ phrases)
    (hmodifier : c ∉ modifierClause outcome) : c ∉ favoredLine side outcome := by
  have hside : c ∉ side := h.notMem side hside
  have hspace : c ∉ [' '] := h.notMem _ (by simp [phrases])
  have hquote : c ∉ "`".toList := h.notMem _ (by simp [phrases])
  have hcom : c ∉ " com ".toList := h.notMem _ (by simp [phrases])
  have harrow : c ∉ "` ⟵ ".toList := h.notMem _ (by simp [phrases])
  have hplus : c ∉ " + ".toList := h.notMem _ (by simp [phrases])
  unfold favoredLine
  simp only [List.mem_append, not_or, and_assoc]
  exact ⟨hquote, notMem_ofInt h _, hcom, hside, harrow, notMem_hopeClause h _, hplus,
    notMem_face h _, hspace, notMem_fearDie h, hmodifier, notMem_flatClause h _⟩

theorem notMem_line (h : Foreign c)
    (hmodifier : outcome.isCritical = false → c ∉ modifierClause outcome) :
    c ∉ line outcome := by
  by_cases hcritical : outcome.isCritical = true
  · rw [line, Outcome.favor, if_pos hcritical]
    exact notMem_criticalLine h outcome
  · have hclause := hmodifier (Bool.eq_false_iff.mpr hcritical)
    unfold line
    split
    · exact notMem_criticalLine h outcome
    · exact notMem_favoredLine h (by simp [phrases]) hclause
    · exact notMem_favoredLine h (by simp [phrases]) hclause

end Characters

structure Absent (c : Char) : Prop extends Foreign c where
  advantage : c ∉ advantageLabel
  disadvantage : c ∉ disadvantageLabel
  ne_stop : c ≠ '.'

theorem absent_lineFeed : Absent '\n' :=
  ⟨⟨by decide, by decide +kernel⟩, by decide +kernel, by decide +kernel, by decide⟩

theorem Absent.notMem_line {c : Char} (h : Absent c) (outcome : Outcome) : c ∉ line outcome := by
  apply Report.notMem_line h.toForeign
  intro _
  exact notMem_modifierClause h.toForeign (fun _ => h.advantage) fun _ => h.disadvantage

theorem exists_line_eq_cons (outcome : Outcome) : ∃ rest, line outcome = '`' :: rest := by
  unfold line
  split
  · exact ⟨_, rfl⟩
  · exact ⟨_, rfl⟩
  · exact ⟨_, rfl⟩

theorem length_numberedFrom (start : Nat) (outcomes : List Outcome) :
    (numberedFrom start outcomes).length = outcomes.length := by
  induction outcomes generalizing start with
  | nil => rfl
  | cons outcome rest ih => simp [numberedFrom, ih]

def ordinal (place : Nat) : Text :=
  Numeral.ofNat place ++ ['.', ' ']

theorem numberedFrom_eq_zipWith (start : Nat) (outcomes : List Outcome) :
    numberedFrom start outcomes =
      List.zipWith (· ++ ·) ((List.range' start outcomes.length).map ordinal)
        (outcomes.map line) := by
  induction outcomes generalizing start with
  | nil => rfl
  | cons outcome rest ih =>
      rw [numberedFrom, ih, List.length_cons, List.range'_succ, List.map_cons, List.map_cons,
        List.zipWith_cons_cons, ordinal]

theorem Absent.notMem_of_mem_numberedFrom {c : Char} {start : Nat} {outcomes : List Outcome}
    {entry : Text} (h : Absent c) (hentry : entry ∈ numberedFrom start outcomes) : c ∉ entry := by
  induction outcomes generalizing start with
  | nil => contradiction
  | cons outcome rest ih =>
      rcases List.mem_cons.mp hentry with rfl | hentry
      · have hspace : c ∉ [' '] := h.notMem _ (by simp [phrases])
        rw [List.mem_singleton] at hspace
        simp [notMem_ofNat h.toForeign, h.notMem_line, h.ne_stop, hspace]
      · exact ih hentry

theorem splitAll_numbered {outcomes : List Outcome} (h : outcomes ≠ []) :
    (numbered outcomes).splitAll '\n' = numberedFrom 1 outcomes := by
  apply Text.splitAll_joinLines
  · intro hnil
    have hlength := length_numberedFrom 1 outcomes
    rw [hnil, List.length_nil, eq_comm, List.length_eq_zero_iff] at hlength
    exact h hlength
  · intro entry hentry
    exact absent_lineFeed.notMem_of_mem_numberedFrom hentry

theorem splitAll_line (outcome : Outcome) : (line outcome).splitAll '\n' = [line outcome] := by
  have hlone : line outcome = Text.joinLines [line outcome] := by
    simp [Text.joinLines]
  calc
    (line outcome).splitAll '\n' = (Text.joinLines [line outcome]).splitAll '\n' := by
      rw [← hlone]
    _ = [line outcome] := by
      apply Text.splitAll_joinLines (List.cons_ne_nil _ _)
      simp [absent_lineFeed.notMem_line]

theorem mem_splitAll_ofOutcomes {outcomes : List Outcome} {text : Text}
    (h : text ∈ (ofOutcomes outcomes).splitAll '\n') :
    text = [] ∨ (∃ outcome, text = line outcome) ∨ text ∈ numberedFrom 1 outcomes := by
  unfold ofOutcomes at h
  split at h
  · rw [splitAll_line, List.mem_singleton] at h
    exact .inr (.inl ⟨_, h⟩)
  · by_cases hnil : outcomes = []
    · rw [hnil] at h
      exact .inl (List.mem_singleton.mp h)
    · rw [splitAll_numbered hnil] at h
      exact .inr (.inr h)

theorem length_splitAll_ofOutcomes {outcomes : List Outcome} (h : outcomes ≠ []) :
    ((ofOutcomes outcomes).splitAll '\n').length = outcomes.length := by
  unfold ofOutcomes
  split
  · rw [splitAll_line]
    rfl
  · rw [splitAll_numbered h, length_numberedFrom]

end DualityDice.Report
