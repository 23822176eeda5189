import DualityDice.Proofs.Text.Plain

namespace DualityDice.Text

/-- A character of ASCII, not the null character, that no other one is lower-cased to. -/
structure Lone (mark : Char) : Prop where
  pos : 0 < mark.toNat
  ascii : mark.toNat < 0x80
  not_isLower : mark.isLower = false

instance (mark : Char) : Decidable (Lone mark) :=
  decidable_of_iff (0 < mark.toNat ∧ mark.toNat < 0x80 ∧ mark.isLower = false)
    ⟨fun h => ⟨h.1, h.2.1, h.2.2⟩, fun h => ⟨h.pos, h.ascii, h.not_isLower⟩⟩

section Lone

variable {mark c : Char}

theorem eq_of_toLower_eq (hmark : mark.isLower = false) (h : c.toLower = mark) : c = mark := by
  by_cases hcapital : c.val ≥ 'A'.val ∧ c.val ≤ 'Z'.val
  · have hcode : c.toNat ∈ List.range' 65 26 := by
      rw [List.mem_range'_1]
      exact ⟨UInt32.le_iff_toNat_le.mp hcapital.1,
        Nat.lt_succ_of_le (UInt32.le_iff_toNat_le.mp hcapital.2)⟩
    have hletters : ∀ code ∈ List.range' 65 26, (Char.ofNat code).toLower.isLower = true := by
      decide
    have hletter := hletters _ hcode
    rw [Char.ofNat_toNat, h, hmark] at hletter
    contradiction
  · unfold Char.toLower at h
    rwa [dif_neg hcapital] at h

theorem CaseRun.toNat_lower {run : CaseRun}
    (hvalid : (c.toNat + run.shift).toNat.isValidChar) :
    (run.lower c).toNat = (c.toNat + run.shift).toNat := by
  unfold CaseRun.lower Char.ofNat
  rw [dif_pos hvalid]
  rfl

theorem not_lone_lower {run : CaseRun} (hrun : run ∈ caseRuns) (hc : run.contains c = true) :
    ¬Lone (run.lower c) := by
  have hruns : ∀ run ∈ caseRuns, 0x80 ≤ (run.first : Int) + run.shift ∨
      run.first = 0x212A ∧ run.last = 0x212A ∧ run.shift = -8383 := by
    decide +kernel
  simp only [CaseRun.contains, Bool.and_eq_true, decide_eq_true_eq] at hc
  intro hlone
  rcases hruns run hrun with hbeyond | ⟨hfirst, hlast, hshift⟩
  · have hpos := hlone.pos
    have hascii := hlone.ascii
    by_cases hvalid : (c.toNat + run.shift).toNat.isValidChar
    · have hcode := CaseRun.toNat_lower hvalid
      omega
    · have hnull : (run.lower c).toNat = 0 := by
        unfold CaseRun.lower Char.ofNat
        rw [dif_neg hvalid]
        rfl
      omega
  · have hkelvin : (c.toNat + run.shift).toNat = 0x6B := by omega
    have hletter := hlone.not_isLower
    rw [CaseRun.lower, hkelvin] at hletter
    exact absurd hletter (by decide)

theorem eq_of_mem_lowerChar (hmark : Lone mark) (h : mark ∈ lowerChar c) : mark = c := by
  unfold lowerChar at h
  split at h
  · rw [List.mem_singleton] at h
    exact (eq_of_toLower_eq hmark.not_isLower h.symm).symm
  · split at h
    · rcases List.mem_cons.mp h with rfl | hdot
      · exact absurd hmark (by decide)
      · obtain rfl := List.mem_singleton.mp hdot
        exact absurd hmark (by decide)
    · split at h
      · rename_i run hfound
        have hcontains := List.find?_some hfound
        obtain rfl := List.mem_singleton.mp h
        exact absurd hmark (not_lone_lower (List.mem_of_find?_eq_some hfound) hcontains)
      · exact List.mem_singleton.mp h

theorem mem_of_mem_lowercaseAfter {text : Text} {letterBefore : Bool} (hmark : Lone mark)
    (h : mark ∈ lowercaseAfter letterBefore text) : mark ∈ text := by
  induction text generalizing letterBefore with
  | nil => contradiction
  | cons c rest ih =>
      rw [lowercaseAfter] at h
      rcases List.mem_append.mp h with hfirst | hrest
      · split at hfirst
        · have hsigma : mark = 'ς' ∨ mark = 'σ' := by
            split at hfirst
            · exact .inl (List.mem_singleton.mp hfirst)
            · exact .inr (List.mem_singleton.mp hfirst)
          rcases hsigma with rfl | rfl
          · exact absurd hmark (by decide)
          · exact absurd hmark (by decide)
        · rw [eq_of_mem_lowerChar hmark hfirst]
          exact List.mem_cons_self
      · exact List.mem_cons_of_mem c (ih hrest)

theorem mem_of_mem_normalize {text : Text} (hmark : Lone mark)
    (h : mark ∈ Request.normalize text) : mark ∈ text :=
  mem_of_mem_lowercaseAfter hmark (List.mem_filter.mp h).1

end Lone

theorem exists_normalize_cons {c : Char} (h : IsPlain c) (rest : Text) :
    ∃ more, Request.normalize (c :: rest) = c :: more := by
  obtain ⟨hascii, hlower, hblank⟩ := h
  have hsigma : c ≠ 'Σ' := by
    rintro rfl
    exact absurd hascii (by decide)
  refine ⟨dropBlanks (lowercaseAfter (if isCaseIgnorable c then false else isCased c) rest), ?_⟩
  rw [Request.normalize, lowercase, lowercaseAfter, if_neg hsigma, lowerChar, if_pos hascii, hlower,
    List.singleton_append, dropBlanks, List.filter_cons_of_pos (by rw [hblank]; rfl), ← dropBlanks]

end DualityDice.Text
