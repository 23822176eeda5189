import DualityDice.Proofs.Spelling.Reading
import DualityDice.Proofs.Text.Blur

namespace DualityDice

namespace Text

variable {mark : Char}

theorem splitFirst_map_blur (hmark : mark.toNat < 0x80) (text : Text) :
    splitFirst mark (text.map blur) =
      (splitFirst mark text).map fun (before, behind) => (before.map blur, behind.map blur) := by
  induction text with
  | nil => rfl
  | cons c rest ih =>
      rw [List.map_cons, splitFirst, splitFirst, ih]
      simp only [blur_eq_iff hmark]
      split
      · rfl
      · rw [Option.map_map, Option.map_map]
        rfl

theorem dropStart?_map_blur {start : Text} (hstart : ∀ mark ∈ start, mark.toNat < 0x80)
    (text : Text) :
    dropStart? (text.map blur) start = (dropStart? text start).map (List.map blur) := by
  induction start generalizing text with
  | nil => cases text <;> rfl
  | cons mark start ih =>
      obtain ⟨hmark, hrest⟩ := List.forall_mem_cons.mp hstart
      cases text with
      | nil => rfl
      | cons c rest =>
          rw [List.map_cons, dropStart?, dropStart?, ih hrest]
          simp only [blur_eq_iff hmark]
          split <;> rfl

end Text

open Text (blur blur_eq_iff blur_of_lt isDigit_blur map_blur_eq_iff)

theorem Numeral.isDigits_map_blur_iff {text : Text} : IsDigits (text.map blur) ↔ IsDigits text := by
  simp [IsDigits, isDigit_blur]

theorem Numeral.map_blur_of_isDigits {text : Text} (h : IsDigits text) : text.map blur = text := by
  rw [map_blur_eq_iff]
  intro c hc
  exact (Text.isPlain_of_isDigit (h.2 c hc)).1

theorem Numeral.toNat?_map_blur (text : Text) : toNat? (text.map blur) = toNat? text := by
  rw [toNat?_eq_ite, toNat?_eq_ite]
  by_cases hdigits : IsDigits text
  · rw [map_blur_of_isDigits hdigits]
  · rw [if_neg hdigits, if_neg (mt isDigits_map_blur_iff.mp hdigits)]

theorem Numeral.readSigned32?_map_blur {sign : Char} (hsign : sign = '+' ∨ sign = '-')
    (digits : Text) :
    readSigned32? (blur sign :: digits.map blur) = readSigned32? (sign :: digits) := by
  have hself : blur sign = sign := by
    rcases hsign with rfl | rfl
    · decide
    · decide
  rw [hself, readSigned32?, readSigned32?, toInt?_cons_eq_ite _ hsign, toInt?_cons_eq_ite _ hsign]
  by_cases hdigits : IsDigits digits
  · rw [map_blur_of_isDigits hdigits]
  · rw [if_neg hdigits, if_neg (mt isDigits_map_blur_iff.mp hdigits)]

theorem Markers.scan_map_blur (markers : Markers) (body : Text) :
    markers.scan (body.map blur) = markers.scan body := by
  induction body generalizing markers with
  | nil => rfl
  | cons c rest ih =>
      have hv : blur c = 'v' ↔ c = 'v' := blur_eq_iff (by decide)
      have hi : blur c = 'i' ↔ c = 'i' := blur_eq_iff (by decide)
      have hsign : (blur c = '+' ∨ blur c = '-') ↔ (c = '+' ∨ c = '-') :=
        or_congr (blur_eq_iff (by decide)) (blur_eq_iff (by decide))
      rw [List.map_cons, scan, scan]
      simp only [hv, hi, hsign, ih]
      split
      · rfl
      split
      · rfl
      split
      · rename_i hc
        rw [Numeral.readSigned32?_map_blur hc]
      · rfl

namespace Request

theorem countOf?_map_blur (count : Text) : countOf? (count.map blur) = countOf? count := by
  rw [countOf?, countOf?, Numeral.toNat?_map_blur]

theorem hopeDieOf_map_blur (body : Text) : hopeDieOf (body.map blur) = hopeDieOf body := by
  apply Spelling.hopeDieOf_congr
  rw [← List.map_take]
  exact map_blur_eq_iff (by simp)

theorem ofBody?_map_blur (rolls : UInt32) (body : Text) :
    ofBody? rolls (body.map blur) = ofBody? rolls body := by
  rw [ofBody?, ofBody?, Markers.scan_map_blur, hopeDieOf_map_blur]

theorem ofNormalized?_map_blur (text : Text) :
    ofNormalized? (text.map blur) = ofNormalized? text := by
  have hbody (rolls : UInt32) (behind : Text) :
      (Text.dropStart? (behind.map blur) ['d', 'd']).bind (ofBody? rolls) =
        (behind.dropStart? ['d', 'd']).bind (ofBody? rolls) := by
    rw [Text.dropStart?_map_blur (by simp), Option.bind_map]
    congr 1
    funext body
    exact ofBody?_map_blur rolls body
  rw [ofNormalized?, ofNormalized?, Text.splitFirst_map_blur (by decide)]
  cases text.splitFirst '#' with
  | none => exact hbody 1 text
  | some parts =>
      obtain ⟨count, behind⟩ := parts
      change (countOf? (count.map blur)).bind _ = (countOf? count).bind _
      rw [countOf?_map_blur]
      congr 1
      funext rolls
      exact hbody rolls behind

/-- What is read of a text is told by what its characters leave of themselves one by one. -/
theorem ofText?_eq_of_imprints {text other : Text}
    (h : text.flatMap Text.imprint = other.flatMap Text.imprint) :
    ofText? text = ofText? other := by
  rw [Spelling.ofText?_eq_ofNormalized?, Spelling.ofText?_eq_ofNormalized?,
    ← ofNormalized?_map_blur, Text.map_blur_normalize, h, ← Text.map_blur_normalize,
    ofNormalized?_map_blur]

end Request

def Text.switchCase (c : Char) : Char :=
  if c.isUpper then c.toLower else c.toUpper

theorem Text.imprint_switchCase {c : Char} (h : c.isAlpha = true) :
    imprint (switchCase c) = imprint c := by
  have hletters : ∀ code ∈ List.range 0x80, (switchCase (Char.ofNat code)).toNat < 0x80 ∧
      ((Char.ofNat code).isAlpha = true →
        (switchCase (Char.ofNat code)).toLower = (Char.ofNat code).toLower) := by
    decide +kernel
  have hascii : c.toNat < 0x80 := by
    rcases Bool.or_eq_true_iff.mp h with hupper | hlower
    · have hlast : c.toNat ≤ 90 := UInt32.le_iff_toNat_le.mp (of_decide_eq_true hupper).2
      omega
    · have hlast : c.toNat ≤ 122 :=
        UInt32.le_iff_toNat_le.mp (of_decide_eq_true (Bool.and_eq_true_iff.mp hlower).2)
      omega
  obtain ⟨hswitched, hlower⟩ := hletters c.toNat (List.mem_range.mpr hascii)
  rw [Char.ofNat_toNat] at hswitched hlower
  rw [imprint_of_ascii hswitched, imprint_of_ascii hascii, hlower h]

/-- White space may be put into a text anywhere or taken out of it, and its letters may change
their case: what is read of it stays the same. -/
theorem Spelling.blind_to_blanks_and_case (text : Text) :
    (∀ before behind c, text = before ++ behind → Text.isBlank c = true →
      Request.ofText? (before ++ c :: behind) = Request.ofText? text) ∧
    (∀ before behind c, text = before ++ c :: behind → Text.isBlank c = true →
      Request.ofText? (before ++ behind) = Request.ofText? text) ∧
    (∀ before behind c, text = before ++ c :: behind → c.isAlpha = true →
      Request.ofText? (before ++ Text.switchCase c :: behind) = Request.ofText? text) ∧
    Request.ofText? text.lowercase = Request.ofText? text := by
  have hblank (before behind : Text) {c : Char} (hc : Text.isBlank c = true) :
      Request.ofText? (before ++ c :: behind) = Request.ofText? (before ++ behind) := by
    apply Request.ofText?_eq_of_imprints
    rw [List.flatMap_append, List.flatMap_cons, Text.imprint_of_isBlank hc, List.nil_append,
      List.flatMap_append]
  refine ⟨?_, ?_, ?_, ?_⟩
  · rintro before behind c rfl hc
    exact hblank before behind hc
  · rintro before behind c rfl hc
    exact (hblank before behind hc).symm
  · rintro before behind c rfl hc
    apply Request.ofText?_eq_of_imprints
    rw [List.flatMap_append, List.flatMap_cons, Text.imprint_switchCase hc, List.flatMap_append,
      List.flatMap_cons]
  · exact Request.ofText?_eq_of_imprints (Text.flatMap_imprint_lowercaseAfter false text)

/-- White space behind a capital sigma changes its small form, but not what is read. -/
theorem Spelling.blind_to_form_of_sigma :
    let text := "2#ddΑΣΒV".toList
    let spaced := "2#ddΑΣ\u3000ΒV".toList
    Request.normalize spaced ≠ Request.normalize text ∧
      Request.ofText? spaced = Request.ofText? text ∧
      Request.ofText? "2#ddΑΣΒv".toList = Request.ofText? text ∧
      Request.ofText? text = some ⟨2, .d12, .advantage, .d6, 0⟩ := by
  intro text spaced
  obtain ⟨hinsert, _, hswitch, _⟩ := Spelling.blind_to_blanks_and_case text
  exact ⟨by decide +kernel, hinsert "2#ddΑΣ".toList "ΒV".toList '\u3000' rfl (by decide),
    hswitch "2#ddΑΣΒ".toList [] 'V' rfl (by decide), by decide +kernel⟩

end DualityDice
