import DualityDice.Request.Reader

namespace DualityDice.Text

def asciiCount (text : Text) : Nat :=
  text.countP fun c => c.toNat < 0x80

theorem asciiCount_append (text other : Text) :
    asciiCount (text ++ other) = asciiCount text + asciiCount other :=
  List.countP_append

theorem asciiCount_le_length (text : Text) : asciiCount text ≤ text.length :=
  List.countP_le_length

theorem asciiCount_of_ascii {text : Text} (h : ∀ c ∈ text, c.toNat < 0x80) :
    asciiCount text = text.length := by
  rw [asciiCount, List.countP_eq_length]
  exact fun c hc => decide_eq_true (h c hc)

/-- The one character that becomes two keeps its dot as a mark beyond ASCII. -/
theorem asciiCount_lowerChar_le (c : Char) : asciiCount (lowerChar c) ≤ 1 := by
  unfold lowerChar
  split
  · exact asciiCount_le_length _
  · split
    · decide
    · split
      · exact asciiCount_le_length _
      · exact asciiCount_le_length _

theorem asciiCount_lowercaseAfter_le (text : Text) (letterBefore : Bool) :
    asciiCount (lowercaseAfter letterBefore text) ≤ text.length := by
  induction text generalizing letterBefore with
  | nil => exact Nat.le_refl 0
  | cons c rest ih =>
      have hrest := ih (if isCaseIgnorable c then letterBefore else isCased c)
      have hfirst : asciiCount
          (if c = 'Σ' then if letterBefore && !startsCased rest then ['ς'] else ['σ']
            else lowerChar c) ≤ 1 := by
        split
        · split
          · exact asciiCount_le_length _
          · exact asciiCount_le_length _
        · exact asciiCount_lowerChar_le c
      rw [lowercaseAfter, asciiCount_append, List.length_cons]
      omega

theorem asciiCount_normalize_le (text : Text) :
    asciiCount (Request.normalize text) ≤ text.length := by
  have hkept : asciiCount (Request.normalize text) ≤ asciiCount (lowercase text) :=
    List.filter_sublist.countP_le
  exact Nat.le_trans hkept (asciiCount_lowercaseAfter_le text false)

end DualityDice.Text
