import DualityDice.Request.Reader

namespace DualityDice.Text

def IsPlain (c : Char) : Prop :=
  c.toNat < 0x80 ∧ c.toLower = c ∧ isBlank c = false

instance (c : Char) : Decidable (IsPlain c) :=
  inferInstanceAs (Decidable (_ ∧ _))

theorem isPlain_of_isDigit {c : Char} (h : c.isDigit = true) : IsPlain c := by
  obtain ⟨hlow, hhigh⟩ : 48 ≤ c.toNat ∧ c.toNat ≤ 57 := Char.isDigit_iff_toNat.mp h
  refine ⟨by omega, ?_, ?_⟩
  · have hsmall : ¬(c.val ≥ 'A'.val ∧ c.val ≤ 'Z'.val) := by
      rintro ⟨hcapital, _⟩
      rw [ge_iff_le, UInt32.le_iff_toNat_le] at hcapital
      change 65 ≤ c.toNat at hcapital
      omega
    exact dif_neg hsmall
  · have houtside : ∀ range ∈ blankRanges, range.last < 48 ∨ 57 < range.first := by
      decide
    rw [isBlank, CharRange.anyContains, List.any_eq_false]
    intro range hrange
    have := houtside range hrange
    simp only [CharRange.contains, Bool.and_eq_true, decide_eq_true_eq]
    omega

theorem lowercaseAfter_of_ascii {text : Text} (h : ∀ c ∈ text, c.toNat < 0x80)
    (letterBefore : Bool) : lowercaseAfter letterBefore text = toLowerAscii text := by
  induction text generalizing letterBefore with
  | nil => rfl
  | cons c rest ih =>
      have hascii := h c List.mem_cons_self
      have hsigma : c ≠ 'Σ' := by
        rintro rfl
        exact absurd hascii (by decide)
      rw [lowercaseAfter, ih fun d hd => h d (List.mem_cons_of_mem c hd)]
      simp [hsigma, lowerChar, hascii, toLowerAscii]

theorem lowercaseAfter_of_plain {text : Text} (h : ∀ c ∈ text, IsPlain c)
    (letterBefore : Bool) : lowercaseAfter letterBefore text = text := by
  rw [lowercaseAfter_of_ascii fun c hc => (h c hc).1, toLowerAscii]
  exact (List.map_congr_left fun c hc => (h c hc).2.1).trans (List.map_id text)

theorem toNat_lt_of_toNat_toLower_lt {c : Char} (h : c.toLower.toNat < 0x80) :
    c.toNat < 0x80 := by
  unfold Char.toLower at h
  split at h
  · rename_i hcapital
    have hlast : c.toNat ≤ 90 := UInt32.le_iff_toNat_le.mp hcapital.2
    omega
  · exact h

theorem normalize_eq_of_toLowerAscii {text lowered : Text}
    (h : toLowerAscii text = lowered) (hascii : ∀ c ∈ lowered, c.toNat < 0x80) :
    Request.normalize text = dropBlanks lowered := by
  have htext : ∀ c ∈ text, c.toNat < 0x80 := by
    intro c hc
    apply toNat_lt_of_toNat_toLower_lt
    exact hascii _ (h ▸ List.mem_map_of_mem hc)
  rw [Request.normalize, lowercase, lowercaseAfter_of_ascii htext, h]

theorem dropBlanks_of_plain {text : Text} (h : ∀ c ∈ text, IsPlain c) :
    dropBlanks text = text := by
  rw [dropBlanks, List.filter_eq_self]
  intro c hc
  rw [(h c hc).2.2]
  rfl

theorem normalize_of_plain {text : Text} (h : ∀ c ∈ text, IsPlain c) :
    Request.normalize text = text := by
  rw [Request.normalize, lowercase, lowercaseAfter_of_plain h, dropBlanks_of_plain h]

end DualityDice.Text
