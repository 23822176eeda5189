import Mathlib.Data.List.Basic
import DualityDice.Proofs.Text.Lowercase
import DualityDice.Proofs.Text.Trim

/-!
The normal form of a text, character by character, once those beyond ASCII are taken for one.
The form of a sigma is lost in that, so that no character's part in it hangs on its neighbours.
-/

namespace DualityDice.Text

/-- A character as readers of rolls see it, to whom all beyond ASCII look alike. -/
def blur (c : Char) : Char :=
  if c.toNat < 0x80 then c else 'σ'

/-- What a character leaves of itself in a normal form that is blurred. -/
def imprint (c : Char) : Text :=
  (dropBlanks (lowerChar c)).map blur

section Blur

variable {c mark : Char}

theorem blur_of_lt (h : c.toNat < 0x80) : blur c = c :=
  if_pos h

theorem blur_of_le (h : 0x80 ≤ c.toNat) : blur c = 'σ' :=
  if_neg (Nat.not_lt.mpr h)

theorem blur_eq_iff (hmark : mark.toNat < 0x80) : blur c = mark ↔ c = mark := by
  by_cases hascii : c.toNat < 0x80
  · rw [blur_of_lt hascii]
  · rw [blur_of_le (Nat.le_of_not_lt hascii)]
    constructor
    · rintro rfl
      exact absurd hmark (by decide)
    · rintro rfl
      contradiction

theorem isDigit_blur (c : Char) : (blur c).isDigit = c.isDigit := by
  by_cases hascii : c.toNat < 0x80
  · rw [blur_of_lt hascii]
  · have hother : c.isDigit = false := by
      rw [Bool.eq_false_iff]
      exact fun hdigit => hascii (isPlain_of_isDigit hdigit).1
    rw [blur_of_le (Nat.le_of_not_lt hascii), hother]
    decide

theorem map_blur_eq_iff {text marks : Text} (hmarks : ∀ mark ∈ marks, mark.toNat < 0x80) :
    text.map blur = marks ↔ text = marks := by
  induction marks generalizing text with
  | nil => exact List.map_eq_nil_iff
  | cons mark marks ih =>
      obtain ⟨hmark, hrest⟩ := List.forall_mem_cons.mp hmarks
      cases text with
      | nil => simp
      | cons c text =>
          rw [List.map_cons, List.cons.injEq, List.cons.injEq, blur_eq_iff hmark, ih hrest]

theorem flatMap_blur_dropBlanks (text : Text) :
    (text.flatMap fun c => (dropBlanks [c]).map blur) = (dropBlanks text).map blur := by
  induction text with
  | nil => rfl
  | cons c rest ih =>
      rw [List.flatMap_cons, ih, ← List.map_append, ← dropBlanks_append, List.singleton_append]

end Blur

section CaseRuns

variable {run : CaseRun} {c : Char}

/-- The code points that are no small letters beyond ASCII which stay as they are: ASCII, the
surrogates, white space, and the two capitals with a small letter in ASCII. -/
def offRange : List CharRange :=
  ⟨0, 0x7F⟩ :: ⟨0x130, 0x130⟩ :: ⟨0x212A, 0x212A⟩ :: ⟨0xD800, 0xDFFF⟩ :: blankRanges

/-- A character beyond ASCII that no letter of ASCII and no white space comes from. -/
def Remote (c : Char) : Prop :=
  ∀ range ∈ offRange, c.toNat < range.first ∨ range.last < c.toNat

theorem Remote.le (h : Remote c) : 0x80 ≤ c.toNat := by
  have hascii : c.toNat < 0 ∨ 0x7F < c.toNat := h ⟨0, 0x7F⟩ (by simp [offRange])
  omega

theorem Remote.ne_dotted (h : Remote c) : c ≠ '\u0130' := by
  rintro rfl
  have hdotted : 0x130 < 0x130 ∨ 0x130 < 0x130 := h ⟨0x130, 0x130⟩ (by simp [offRange])
  omega

theorem Remote.ne_kelvin (h : Remote c) : c.toNat ≠ 0x212A := by
  have hkelvin : c.toNat < 0x212A ∨ 0x212A < c.toNat := h ⟨0x212A, 0x212A⟩ (by simp [offRange])
  omega

theorem Remote.isBlank_eq_false (h : Remote c) : isBlank c = false := by
  rw [isBlank, CharRange.anyContains, List.any_eq_false]
  intro range hrange
  have hclear := h range (by simp [offRange, hrange])
  simp only [CharRange.contains, Bool.and_eq_true, decide_eq_true_eq]
  omega

theorem Remote.map_blur_dropBlanks (h : Remote c) : (dropBlanks [c]).map blur = ['σ'] := by
  rw [dropBlanks, List.filter_cons_of_pos (by rw [h.isBlank_eq_false]; rfl), List.filter_nil,
    List.map_singleton, blur_of_le h.le]

theorem last_of_mem_caseRuns : ∀ run ∈ caseRuns, run.first = 0x212A → run.last = 0x212A := by
  decide +kernel

theorem remote_lower (hrun : run ∈ caseRuns) (hc : run.contains c = true)
    (hkelvin : c.toNat ≠ 0x212A) : Remote (run.lower c) := by
  have hruns : ∀ run ∈ caseRuns, run.first = 0x212A ∨
      0 ≤ run.first + run.shift ∧ run.last + run.shift < 0x110000 ∧
        ∀ range ∈ offRange,
          run.last + run.shift < range.first ∨ range.last < run.first + run.shift := by
    decide +kernel
  simp only [CaseRun.contains, Bool.and_eq_true, decide_eq_true_eq] at hc
  rcases hruns run hrun with hfirst | ⟨hpos, hbound, hclear⟩
  · have hlast := last_of_mem_caseRuns run hrun hfirst
    omega
  · have hsurrogate : run.last + run.shift < 0xD800 ∨ 0xDFFF < run.first + run.shift :=
      hclear ⟨0xD800, 0xDFFF⟩ (by simp [offRange])
    have hvalid : (c.toNat + run.shift).toNat.isValidChar := by
      unfold Nat.isValidChar
      omega
    have hcode := CaseRun.toNat_lower hvalid
    intro range hrange
    have hrange := hclear range hrange
    omega

theorem imprint_of_remote (h : Remote c) : imprint c = ['σ'] := by
  have hlower : ∃ d, lowerChar c = [d] ∧ Remote d := by
    rw [lowerChar, if_neg (Nat.not_lt.mpr h.le), if_neg h.ne_dotted]
    split
    · rename_i run hfound
      have hcontains := List.find?_some hfound
      exact ⟨_, rfl, remote_lower (List.mem_of_find?_eq_some hfound) hcontains h.ne_kelvin⟩
    · exact ⟨c, rfl, h⟩
  obtain ⟨d, hd, hremote⟩ := hlower
  rw [imprint, hd, hremote.map_blur_dropBlanks]

theorem imprint_of_mem_lowerChar {d : Char} (h : d ∈ lowerChar c) :
    imprint d = (dropBlanks [d]).map blur := by
  have hletters : ∀ code ∈ List.range 0x80,
      lowerChar (Char.ofNat code).toLower = [(Char.ofNat code).toLower] := by
    decide +kernel
  -- Of the capitals beyond ASCII, the dotted I and the Kelvin sign have letters of ASCII in
  -- their small forms; all other small forms are remote.
  by_cases hascii : c.toNat < 0x80
  · rw [lowerChar, if_pos hascii, List.mem_singleton] at h
    have hletter := hletters c.toNat (List.mem_range.mpr hascii)
    rw [Char.ofNat_toNat, ← h] at hletter
    rw [imprint, hletter]
  · by_cases hdotted : c = '\u0130'
    · rw [lowerChar, if_neg hascii, if_pos hdotted] at h
      rcases List.mem_cons.mp h with rfl | hmark
      · decide +kernel
      · obtain rfl := List.mem_singleton.mp hmark
        decide +kernel
    · cases hfound : caseRuns.find? fun run => run.contains c with
      | none =>
          have hself : lowerChar c = [c] := by
            rw [lowerChar, if_neg hascii, if_neg hdotted, hfound]
          rw [hself, List.mem_singleton] at h
          rw [h, imprint, hself]
      | some run =>
          have hcontains := List.find?_some hfound
          rw [lowerChar, if_neg hascii, if_neg hdotted, hfound] at h
          obtain rfl := List.mem_singleton.mp h
          by_cases hkelvin : c.toNat = 0x212A
          · have hsign : c = Char.ofNat 0x212A := by rw [← hkelvin, Char.ofNat_toNat]
            have hk : lowerChar c = ['k'] := by
              rw [hsign]
              decide +kernel
            rw [lowerChar, if_neg hascii, if_neg hdotted, hfound] at hk
            rw [(List.cons.inj hk).1]
            decide +kernel
          · have hremote := remote_lower (List.mem_of_find?_eq_some hfound) hcontains hkelvin
            rw [imprint_of_remote hremote, hremote.map_blur_dropBlanks]

end CaseRuns

theorem flatMap_imprint_lowerChar (c : Char) : (lowerChar c).flatMap imprint = imprint c := by
  calc
    (lowerChar c).flatMap imprint = (lowerChar c).flatMap fun d => (dropBlanks [d]).map blur :=
      List.flatMap_congr fun d hd => imprint_of_mem_lowerChar hd
    _ = imprint c := flatMap_blur_dropBlanks (lowerChar c)

theorem imprint_sigma : imprint 'Σ' = ['σ'] ∧ imprint 'ς' = ['σ'] ∧ imprint 'σ' = ['σ'] := by
  decide +kernel

theorem imprint_of_isBlank {c : Char} (h : isBlank c = true) : imprint c = [] := by
  rw [imprint, (neutral_of_isBlank h).lower, dropBlanks_cons_of_isBlank h]
  rfl

theorem imprint_of_ascii {c : Char} (h : c.toNat < 0x80) :
    imprint c = (dropBlanks [c.toLower]).map blur := by
  rw [imprint, lowerChar, if_pos h]

/-- Blurred, a normal form is made of what each character leaves of itself. -/
theorem map_blur_dropBlanks_lowercaseAfter (letterBefore : Bool) (text : Text) :
    (dropBlanks (lowercaseAfter letterBefore text)).map blur = text.flatMap imprint := by
  induction text generalizing letterBefore with
  | nil => rfl
  | cons c rest ih =>
      rw [lowercaseAfter, dropBlanks_append, List.map_append, ih, List.flatMap_cons]
      congr 1
      split
      · rename_i hsigma
        rw [hsigma, imprint_sigma.1]
        split
        · decide +kernel
        · decide +kernel
      · rfl

theorem map_blur_normalize (text : Text) :
    (Request.normalize text).map blur = text.flatMap imprint :=
  map_blur_dropBlanks_lowercaseAfter false text

theorem flatMap_imprint_lowercaseAfter (letterBefore : Bool) (text : Text) :
    (lowercaseAfter letterBefore text).flatMap imprint = text.flatMap imprint := by
  induction text generalizing letterBefore with
  | nil => rfl
  | cons c rest ih =>
      rw [lowercaseAfter, List.flatMap_append, ih, List.flatMap_cons]
      congr 1
      split
      · rename_i hsigma
        obtain ⟨hcapital, hfinal, hsmall⟩ := imprint_sigma
        rw [hsigma, hcapital]
        split
        · rw [List.flatMap_singleton, hfinal]
        · rw [List.flatMap_singleton, hsmall]
      · exact flatMap_imprint_lowerChar c

end DualityDice.Text
