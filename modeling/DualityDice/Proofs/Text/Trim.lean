import Mathlib.Data.List.TakeWhile
import DualityDice.Request.Reader

namespace DualityDice.Text

def blankCodes : List Nat :=
  blankRanges.flatMap fun range => List.range' range.first (range.last + 1 - range.first)

theorem toNat_mem_blankCodes {c : Char} (h : isBlank c = true) : c.toNat ∈ blankCodes := by
  rw [isBlank, CharRange.anyContains, List.any_eq_true] at h
  obtain ⟨range, hrange, hcontains⟩ := h
  simp only [CharRange.contains, Bool.and_eq_true, decide_eq_true_eq] at hcontains
  rw [blankCodes, List.mem_flatMap]
  refine ⟨range, hrange, ?_⟩
  rw [List.mem_range'_1]
  omega

/-- How lower-casing sees white space: as a character of its own that is no letter
and is not passed over. -/
structure Neutral (c : Char) : Prop where
  ne_sigma : c ≠ 'Σ'
  not_ignorable : isCaseIgnorable c = false
  not_cased : isCased c = false
  lower : lowerChar c = [c]

theorem neutral_of_isBlank {c : Char} (h : isBlank c = true) : Neutral c := by
  have hcodes : ∀ code ∈ blankCodes,
      Char.ofNat code ≠ 'Σ' ∧ isCaseIgnorable (Char.ofNat code) = false ∧
        isCased (Char.ofNat code) = false ∧
        lowerChar (Char.ofNat code) = [Char.ofNat code] := by
    decide +kernel
  obtain ⟨hsigma, hignorable, hcased, hlower⟩ := hcodes _ (toNat_mem_blankCodes h)
  rw [Char.ofNat_toNat] at hsigma hignorable hcased hlower
  exact ⟨hsigma, hignorable, hcased, hlower⟩

theorem lowercaseAfter_cons_of_neutral {c : Char} (h : Neutral c) (letterBefore : Bool)
    (rest : Text) :
    lowercaseAfter letterBefore (c :: rest) = c :: lowercaseAfter false rest := by
  simp [lowercaseAfter, h.ne_sigma, h.not_ignorable, h.not_cased, h.lower]

theorem startsCased_append_blanks (text : Text) {blanks : Text}
    (h : ∀ c ∈ blanks, isBlank c = true) : startsCased (text ++ blanks) = startsCased text := by
  induction text with
  | nil =>
      cases blanks with
      | nil => rfl
      | cons c rest =>
          have hneutral := neutral_of_isBlank (h c List.mem_cons_self)
          simp [startsCased, hneutral.not_ignorable, hneutral.not_cased]
  | cons c rest ih => simp [startsCased, ih]

theorem dropBlanks_append (first second : Text) :
    dropBlanks (first ++ second) = dropBlanks first ++ dropBlanks second :=
  List.filter_append first second

theorem dropBlanks_cons_of_isBlank {c : Char} (h : isBlank c = true) (rest : Text) :
    dropBlanks (c :: rest) = dropBlanks rest := by
  simp [dropBlanks, h]

theorem dropBlanks_lowercaseAfter_blanks {blanks : Text} (h : ∀ c ∈ blanks, isBlank c = true)
    (letterBefore : Bool) : dropBlanks (lowercaseAfter letterBefore blanks) = [] := by
  induction blanks generalizing letterBefore with
  | nil => rfl
  | cons c rest ih =>
      have hblank := h c List.mem_cons_self
      rw [lowercaseAfter_cons_of_neutral (neutral_of_isBlank hblank),
        dropBlanks_cons_of_isBlank hblank]
      exact ih (fun d hd => h d (List.mem_cons_of_mem c hd)) false

theorem dropBlanks_lowercaseAfter_append_blanks (text : Text) {blanks : Text}
    (h : ∀ c ∈ blanks, isBlank c = true) (letterBefore : Bool) :
    dropBlanks (lowercaseAfter letterBefore (text ++ blanks)) =
      dropBlanks (lowercaseAfter letterBefore text) := by
  induction text generalizing letterBefore with
  | nil => exact dropBlanks_lowercaseAfter_blanks h letterBefore
  | cons c rest ih =>
      rw [List.cons_append, lowercaseAfter, lowercaseAfter, startsCased_append_blanks rest h]
      rw [dropBlanks_append, dropBlanks_append, ih]

theorem normalize_append_blanks (text : Text) {blanks : Text}
    (h : ∀ c ∈ blanks, isBlank c = true) :
    Request.normalize (text ++ blanks) = Request.normalize text :=
  dropBlanks_lowercaseAfter_append_blanks text h false

theorem normalize_trimStart (text : Text) :
    Request.normalize (trimStart isBlank text) = Request.normalize text := by
  induction text with
  | nil => rfl
  | cons c rest ih =>
      rw [trimStart, List.dropWhile_cons]
      split
      · rename_i hblank
        have hrest : Request.normalize (c :: rest) = Request.normalize rest := by
          rw [Request.normalize, lowercase,
            lowercaseAfter_cons_of_neutral (neutral_of_isBlank hblank),
            dropBlanks_cons_of_isBlank hblank]
          rfl
        rw [hrest, ← ih, trimStart]
      · rfl

theorem exists_eq_trimEnd_append (among : Char → Bool) (text : Text) :
    ∃ cut, text = trimEnd among text ++ cut ∧ ∀ c ∈ cut, among c = true := by
  refine ⟨(text.reverse.takeWhile among).reverse, ?_, ?_⟩
  · rw [trimEnd, ← List.reverse_append, List.takeWhile_append_dropWhile, List.reverse_reverse]
  · intro c hc
    rw [List.mem_reverse] at hc
    exact List.all_eq_true.mp List.all_takeWhile c hc

theorem normalize_trim (text : Text) :
    Request.normalize text.trim = Request.normalize text := by
  obtain ⟨cut, hcut, hblanks⟩ := exists_eq_trimEnd_append isBlank (trimStart isBlank text)
  calc
    Request.normalize text.trim = Request.normalize (trimStart isBlank text) := by
      conv => rhs; rw [hcut]
      exact (normalize_append_blanks _ hblanks).symm
    _ = Request.normalize text := normalize_trimStart text

theorem trim_append_blanks {before behind : Text} (text : Text)
    (hbefore : ∀ c ∈ before, isBlank c = true) (hbehind : ∀ c ∈ behind, isBlank c = true) :
    (before ++ text ++ behind).trim = text.trim := by
  have hstart : trimStart isBlank (before ++ text ++ behind) =
      trimStart isBlank (text ++ behind) := by
    rw [List.append_assoc]
    exact List.dropWhile_append_of_pos hbefore
  have hreverse : ∀ c ∈ behind.reverse, isBlank c = true := by
    simpa using hbehind
  rw [trim, hstart, trim, trimStart, List.dropWhile_append]
  split
  · rename_i hempty
    rw [List.isEmpty_iff] at hempty
    rw [trimStart, hempty, List.dropWhile_eq_nil_iff.mpr hbehind]
  · rw [trimEnd, List.reverse_append, List.dropWhile_append_of_pos hreverse]
    rfl

theorem trim_trimStart (text : Text) : (trimStart isBlank text).trim = text.trim := by
  have hcut : ∀ c ∈ text.takeWhile isBlank, isBlank c = true :=
    fun c hc => List.all_eq_true.mp List.all_takeWhile c hc
  calc
    (trimStart isBlank text).trim =
        trim (text.takeWhile isBlank ++ trimStart isBlank text ++ []) :=
      (trim_append_blanks _ hcut fun _ hc => absurd hc List.not_mem_nil).symm
    _ = text.trim := by
      rw [List.append_nil, trimStart, List.takeWhile_append_dropWhile]

theorem trim_trimEnd (text : Text) : (trimEnd isBlank text).trim = text.trim := by
  obtain ⟨cut, hcut, hblanks⟩ := exists_eq_trimEnd_append isBlank text
  calc
    (trimEnd isBlank text).trim = trim ([] ++ trimEnd isBlank text ++ cut) :=
      (trim_append_blanks _ (fun _ hc => absurd hc List.not_mem_nil) hblanks).symm
    _ = text.trim := by rw [List.nil_append, ← hcut]

/-- A character that is no white space parts a text into two that are trimmed each on
its own side. -/
theorem trim_append_cons {c : Char} (h : isBlank c = false) (before behind : Text) :
    (before ++ c :: behind).trim = trimStart isBlank before ++ c :: trimEnd isBlank behind := by
  have hstart : trimStart isBlank (before ++ c :: behind) =
      trimStart isBlank before ++ c :: behind := by
    rw [trimStart, List.dropWhile_append]
    split
    · rename_i hempty
      rw [List.isEmpty_iff] at hempty
      rw [trimStart, hempty, List.dropWhile_cons_of_neg (by simp [h])]
      rfl
    · rfl
  have hend (first : Text) : trimEnd isBlank (first ++ c :: behind) =
      first ++ c :: trimEnd isBlank behind := by
    rw [trimEnd, List.reverse_append, List.reverse_cons, List.append_assoc,
      List.dropWhile_append]
    split
    · rename_i hempty
      rw [List.isEmpty_iff] at hempty
      rw [trimEnd, hempty, List.singleton_append, List.dropWhile_cons_of_neg (by simp [h])]
      simp
    · rw [trimEnd]
      simp
  rw [trim, hstart, hend]

theorem mem_of_mem_trim {text : Text} {c : Char} (h : c ∈ text.trim) : c ∈ text := by
  rw [trim, trimEnd, List.mem_reverse] at h
  have hstart : c ∈ trimStart isBlank text :=
    List.mem_reverse.mp ((List.dropWhile_sublist isBlank).mem h)
  exact (List.dropWhile_sublist isBlank).mem hstart

theorem ofText?_eq_of_normalize_eq {text other : Text}
    (h : Request.normalize text = Request.normalize other) :
    Request.ofText? text = Request.ofText? other := by
  unfold Request.ofText?
  rw [h]

theorem ofText?_trim (text : Text) : Request.ofText? text.trim = Request.ofText? text :=
  ofText?_eq_of_normalize_eq (normalize_trim text)

end DualityDice.Text
