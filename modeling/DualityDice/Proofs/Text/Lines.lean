import DualityDice.Text.Basic

namespace DualityDice.Text

theorem splitAll_eq_splitOn (mark : Char) (text : Text) :
    text.splitAll mark = List.splitOn mark text := by
  induction text with
  | nil => rfl
  | cons c rest ih =>
      obtain ⟨part, parts, hparts⟩ :=
        List.exists_cons_of_ne_nil (List.splitOn_ne_nil mark rest)
      rw [splitAll, ih, List.splitOn_cons_eq_if_modifyHead, hparts]
      simp

theorem length_splitAll (mark : Char) (text : Text) :
    (text.splitAll mark).length = text.count mark + 1 := by
  induction text with
  | nil => rfl
  | cons c rest ih =>
      obtain ⟨part, parts, hparts⟩ : ∃ part parts, splitAll mark rest = part :: parts := by
        rw [splitAll_eq_splitOn]
        exact List.exists_cons_of_ne_nil (List.splitOn_ne_nil mark rest)
      rw [splitAll]
      split
      · rename_i hmark
        rw [List.length_cons, ih, hmark, List.count_cons_self]
      · rename_i hmark
        rw [hparts] at ih ⊢
        rw [List.count_cons_of_ne hmark, ← ih]
        rfl

theorem splitAll_joinLines {lines : List Text} (hne : lines ≠ [])
    (h : ∀ line ∈ lines, '\n' ∉ line) : (joinLines lines).splitAll '\n' = lines := by
  rw [splitAll_eq_splitOn, joinLines]
  exact List.splitOn_intercalate '\n' h hne

theorem joinLines_splitAll (text : Text) : joinLines (text.splitAll '\n') = text := by
  rw [splitAll_eq_splitOn, joinLines]
  exact List.intercalate_splitOn '\n'

theorem joinLines_append_lineFeed {lines : List Text} (hne : lines ≠ []) :
    joinLines lines ++ ['\n'] = lines.flatMap fun line => line ++ ['\n'] := by
  induction lines with
  | nil => contradiction
  | cons line rest ih =>
      cases rest with
      | nil => rw [joinLines, List.intercalate_singleton, List.flatMap_singleton]
      | cons next rest =>
          have hrest := ih (List.cons_ne_nil next rest)
          rw [joinLines] at hrest ⊢
          rw [List.intercalate_cons_cons, List.append_assoc _ _ ['\n'], hrest]
          rfl

theorem length_flatMap_lineFeed_le {lines : List Text} {width : Nat}
    (h : ∀ line ∈ lines, line.length ≤ width) :
    (lines.flatMap fun line => line ++ ['\n']).length ≤ (width + 1) * lines.length := by
  induction lines with
  | nil => exact Nat.zero_le _
  | cons line rest ih =>
      obtain ⟨hline, hrest⟩ := List.forall_mem_cons.mp h
      have hlines := ih hrest
      rw [List.flatMap_cons, List.length_append, List.length_append, List.length_singleton,
        List.length_cons, Nat.mul_succ]
      omega

theorem length_lt_of_splitAll {text : Text} {width count : Nat}
    (hwidth : ∀ line ∈ text.splitAll '\n', line.length ≤ width)
    (hcount : (text.splitAll '\n').length ≤ count) : text.length < (width + 1) * count := by
  have hne : text.splitAll '\n' ≠ [] := by
    rw [splitAll_eq_splitOn]
    exact List.splitOn_ne_nil '\n' text
  have hlines := joinLines_append_lineFeed hne
  rw [joinLines_splitAll] at hlines
  calc
    text.length < (text ++ ['\n']).length := by
      rw [List.length_append, List.length_singleton]
      exact Nat.lt_succ_self text.length
    _ ≤ (width + 1) * (text.splitAll '\n').length := by
      rw [hlines]
      exact length_flatMap_lineFeed_le hwidth
    _ ≤ (width + 1) * count := Nat.mul_le_mul_left _ hcount

end DualityDice.Text
