import DualityDice.Proofs.Spelling.Reading

namespace DualityDice.Spelling

open Numeral

/-- What may stand before a number sign: nothing, text that is no numeral, or a
numeral from one to the greatest word. -/
def AdmitsCount (count : Text) : Prop :=
  count = [] ∨ (∃ c ∈ count, c.isDigit = false) ∨
    (IsDigits count ∧ 1 ≤ value count ∧ value count ≤ 4294967295)

/-- A body without a sign, or one whose first sign has digits behind it and
nothing else, with a signed word for its value. -/
def AdmitsFlat (body : Text) : Prop :=
  ('+' ∉ body ∧ '-' ∉ body) ∨
    ∃ sign digits, signedPart body = sign :: digits ∧ IsDigits digits ∧
      -2147483648 ≤ signedValue sign digits ∧ signedValue sign digits ≤ 2147483647

/-- The normalized texts that are rolls: an admissible count before the first
number sign, if there is one, and `dd` with an admissible body. -/
structure IsRoll (text : Text) : Prop where
  count : ∀ count, countPart text = some count → AdmitsCount count
  body : ∃ body, rollPart text = 'd' :: 'd' :: body ∧ AdmitsFlat body

theorem admitsCount_iff (count : Text) :
    AdmitsCount count ↔
      1 ≤ countValue (some count) ∧ countValue (some count) ≤ 4294967295 := by
  rw [AdmitsCount, ← or_assoc, ← not_isDigits_iff, countValue]
  split
  · rename_i hdigits
    simp [hdigits]
  · rename_i hdigits
    simp [hdigits]

theorem signedPart_eq_nil_iff (body : Text) :
    signedPart body = [] ↔ '+' ∉ body ∧ '-' ∉ body := by
  induction body with
  | nil => simp [signedPart]
  | cons c rest ih =>
      cases hsign : isSign c with
      | true =>
          rcases isSign_iff.mp hsign with rfl | rfl
          · simp [signedPart, isSign]
          · simp [signedPart, isSign]
      | false =>
          have hne : c ≠ '+' ∧ c ≠ '-' := by simpa [isSign] using hsign
          have hrest : signedPart (c :: rest) = signedPart rest := by
            simp [signedPart, hsign]
          rw [hrest, ih]
          simp [hne.1.symm, hne.2.symm]

theorem admitsFlat_iff (body : Text) :
    AdmitsFlat body ↔
      (∀ sign digits, signedPart body = sign :: digits → IsDigits digits) ∧
        ∃ flat : Int32, flat.toInt = flatValue (signedPart body) := by
  rw [AdmitsFlat, ← signedPart_eq_nil_iff, exists_toInt_eq_iff]
  cases signedPart body with
  | nil => simp [flatValue]
  | cons sign digits =>
      simp only [reduceCtorEq, false_or, List.cons.injEq, flatValue]
      constructor
      · rintro ⟨_, _, ⟨rfl, rfl⟩, hdigits, hrange⟩
        exact ⟨by rintro _ _ ⟨rfl, rfl⟩; exact hdigits, hrange⟩
      · rintro ⟨hdigits, hrange⟩
        exact ⟨_, _, ⟨rfl, rfl⟩, hdigits _ _ ⟨rfl, rfl⟩, hrange⟩

theorem countPart_admits_iff (text : Text) :
    (∀ count, countPart text = some count → AdmitsCount count) ↔
      1 ≤ countValue (countPart text) ∧ countValue (countPart text) ≤ 4294967295 := by
  cases countPart text with
  | none => simp [countValue]
  | some count => simp [admitsCount_iff]

theorem isRoll_iff_exists_tells (text : Text) :
    IsRoll text ↔ ∃ request, Tells text request := by
  constructor
  · rintro ⟨hcount, body, hbegins, hbody⟩
    obtain rfl := eq_bodyPart_of_rollPart_eq hbegins
    obtain ⟨hlow, hhigh⟩ := (countPart_admits_iff text).mp hcount
    obtain ⟨rolls, hrolls⟩ := (exists_toNat_eq_iff _).mpr hhigh
    have hne : rolls ≠ 0 := by
      rw [← toNat_ne_zero_iff]
      omega
    obtain ⟨hsigned, flat, hflat⟩ := (admitsFlat_iff _).mp hbody
    exact ⟨⟨rolls, _, _, _, flat⟩, hbegins, hne, hrolls, rfl, rfl, rfl, hsigned, hflat⟩
  · rintro ⟨request, h⟩
    refine ⟨?_, bodyPart text, h.begins, ?_⟩
    · have hne := toNat_ne_zero_iff.mpr h.rolls_ne_zero
      rw [countPart_admits_iff, ← exists_toNat_eq_iff, ← h.rolls]
      exact ⟨by omega, request.rolls, rfl⟩
    · rw [admitsFlat_iff]
      exact ⟨h.signed, request.flatModifier, h.flatModifier⟩

/-- The texts that are read are the rolls of the language. The error for every
other text names it without the white space around it, and the shortcut for the
plain roll changes nothing. -/
theorem reads_exactly_rolls (text : Text) :
    ((Request.ofText? text).isSome ↔ IsRoll (Request.normalize text)) ∧
    (∀ request, Request.read text = .ok request ↔ Request.ofText? text = some request) ∧
    (∀ error, Request.read text = .error error ↔
      ¬IsRoll (Request.normalize text) ∧ error = .notARoll text.trim) ∧
    Request.ofText? text = Request.ofNormalized? (Request.normalize text) := by
  have hsome : (Request.ofText? text).isSome ↔ IsRoll (Request.normalize text) := by
    rw [isRoll_iff_exists_tells, Option.isSome_iff_exists]
    simp only [ofText?_eq_some_iff]
  refine ⟨hsome, ?_, ?_, ofText?_eq_ofNormalized? text⟩
  · intro request
    unfold Request.read
    cases Request.ofText? text with
    | none => simp
    | some found => simp
  · intro error
    rw [← hsome]
    unfold Request.read
    cases Request.ofText? text with
    | none => simp [eq_comm]
    | some found => simp

example : Request.ofText? "1#2#dd".toList = none := by decide +kernel

example : Request.ofText? "0002#dd#+3".toList = some { rolls := 2, flatModifier := 3 } := by
  decide +kernel

end DualityDice.Spelling
