import DualityDice.Proofs.Numeral
import DualityDice.Request.Reader

/-!
The parts of a spelling: what stands before the first number sign, what stands
behind `dd`, and in that the text before the first sign of a flat modifier and
the text from it on. The readers are given by these parts in
`ofNormalized?_eq_some_iff`.
-/

namespace DualityDice.Spelling

open Numeral

def countPart (text : Text) : Option Text :=
  if '#' ∈ text then some (text.takeWhile (· != '#')) else none

def rollPart (text : Text) : Text :=
  if '#' ∈ text then (text.dropWhile (· != '#')).tail else text

def bodyPart (text : Text) : Text :=
  (rollPart text).drop 2

def isSign (c : Char) : Bool :=
  c == '+' || c == '-'

def isMarker (c : Char) : Bool :=
  c == 'v' || c == 'i'

def unsignedPart (body : Text) : Text :=
  body.takeWhile fun c => !isSign c

def signedPart (body : Text) : Text :=
  body.dropWhile fun c => !isSign c

/-- The number of rolls that the text before the number sign tells: its value
if it is a numeral, and one otherwise. -/
def countValue : Option Text → Nat
  | some count => if IsDigits count then value count else 1
  | none => 1

/-- The flat modifier that a sign and the digits behind it tell, zero if there
is no sign. -/
def flatValue : Text → Int
  | [] => 0
  | sign :: digits => signedValue sign digits

theorem countPart_of_notMem {text : Text} (h : '#' ∉ text) : countPart text = none := by
  rw [countPart, if_neg h]

theorem rollPart_of_notMem {text : Text} (h : '#' ∉ text) : rollPart text = text := by
  rw [rollPart, if_neg h]

theorem isSign_iff {c : Char} : isSign c = true ↔ c = '+' ∨ c = '-' := by
  simp [isSign]

theorem isMarker_iff {c : Char} : isMarker c = true ↔ c = 'v' ∨ c = 'i' := by
  simp [isMarker]

theorem isSign_of_signedPart_eq_cons {body rest : Text} {sign : Char}
    (h : signedPart body = sign :: rest) : isSign sign = true := by
  have hne : body.dropWhile (fun c => !isSign c) ≠ [] := by
    rw [← signedPart, h]
    exact List.cons_ne_nil sign rest
  have hhead := List.head_dropWhile_not (fun c => !isSign c) hne
  simp only [← signedPart.eq_1, h, List.head_cons] at hhead
  simpa using hhead

theorem splitFirst_eq_map (text : Text) :
    text.splitFirst '#' = (countPart text).map fun count => (count, rollPart text) := by
  induction text with
  | nil => rfl
  | cons c rest ih =>
      rw [Text.splitFirst, ih]
      split
      · rename_i hc
        simp [countPart, rollPart, hc]
      · rename_i hc
        simp only [countPart, rollPart, List.mem_cons, Ne.symm hc, false_or]
        split
        · simp [hc]
        · simp

theorem parts_append_cons {before : Text} (behind : Text) (h : '#' ∉ before) :
    countPart (before ++ '#' :: behind) = some before ∧
      rollPart (before ++ '#' :: behind) = behind := by
  have hsplit : (before ++ '#' :: behind).splitFirst '#' = some (before, behind) :=
    Text.splitFirst_eq_some_iff.mpr ⟨rfl, h⟩
  rw [splitFirst_eq_map, Option.map_eq_some_iff] at hsplit
  obtain ⟨count, hcount, hparts⟩ := hsplit
  rw [Prod.mk.injEq] at hparts
  rw [hcount, hparts.1]
  exact ⟨rfl, hparts.2⟩

theorem unsignedPart_append {passed : Text} (rest : Text)
    (h : ∀ c ∈ passed, isSign c = false) :
    unsignedPart (passed ++ rest) = passed ++ unsignedPart rest := by
  apply List.takeWhile_append_of_pos
  intro c hc
  rw [h c hc]
  rfl

theorem signedPart_append {passed : Text} (rest : Text)
    (h : ∀ c ∈ passed, isSign c = false) :
    signedPart (passed ++ rest) = signedPart rest := by
  apply List.dropWhile_append_of_pos
  intro c hc
  rw [h c hc]
  rfl

theorem countOf?_eq_some_iff {count : Text} {rolls : UInt32} :
    Request.countOf? count = some rolls ↔
      rolls ≠ 0 ∧ rolls.toNat = countValue (some count) := by
  rw [Request.countOf?, toNat?_eq_ite, countValue, ← toNat_ne_zero_iff]
  split
  · rename_i hdigits
    have hnone : ¬IsDigits count := by simpa using hdigits
    rw [if_neg hnone, Option.some.injEq, ← UInt32.toNat_inj, UInt32.toNat_one]
    omega
  · rename_i n hdigits
    obtain ⟨hcount, rfl⟩ : IsDigits count ∧ value count = n := by simpa using hdigits
    rw [if_pos hcount]
    split
    · simp_all
    · rw [toWord32?_eq_some_iff]
      omega

def rollsOf? (text : Text) : Option UInt32 :=
  match countPart text with
  | some count => Request.countOf? count
  | none => some 1

theorem rollsOf?_eq_some_iff {text : Text} {rolls : UInt32} :
    rollsOf? text = some rolls ↔
      rolls ≠ 0 ∧ rolls.toNat = countValue (countPart text) := by
  unfold rollsOf?
  cases countPart text with
  | some count => exact countOf?_eq_some_iff
  | none =>
      rw [countValue, Option.some.injEq, ← UInt32.toNat_inj, UInt32.toNat_one]
      rw [← toNat_ne_zero_iff]
      omega

theorem eq_bodyPart_of_rollPart_eq {text body : Text}
    (h : rollPart text = 'd' :: 'd' :: body) : body = bodyPart text := by
  rw [bodyPart, h]
  rfl

theorem ofNormalized?_eq_bind (text : Text) :
    Request.ofNormalized? text =
      (rollsOf? text).bind fun rolls =>
        ((rollPart text).dropStart? ['d', 'd']).bind (Request.ofBody? rolls) := by
  rw [Request.ofNormalized?, splitFirst_eq_map, rollsOf?]
  cases hcount : countPart text with
  | some count => rfl
  | none =>
      have hroll : rollPart text = text := by
        unfold countPart at hcount
        split at hcount
        · contradiction
        · rename_i h
          exact rollPart_of_notMem h
      rw [hroll]
      rfl

theorem ofNormalized?_eq_some_iff_ofBody? {text : Text} {request : Request} :
    Request.ofNormalized? text = some request ↔
      ∃ rolls, rollsOf? text = some rolls ∧
        rollPart text = 'd' :: 'd' :: bodyPart text ∧
        Request.ofBody? rolls (bodyPart text) = some request := by
  simp only [ofNormalized?_eq_bind, Option.bind_eq_some_iff, Text.dropStart?_eq_some_iff,
    List.cons_append, List.nil_append]
  constructor
  · rintro ⟨rolls, hrolls, body, hbegins, hread⟩
    obtain rfl := eq_bodyPart_of_rollPart_eq hbegins
    exact ⟨rolls, hrolls, hbegins, hread⟩
  · rintro ⟨rolls, hrolls, hbegins, hread⟩
    exact ⟨rolls, hrolls, _, hbegins, hread⟩

end DualityDice.Spelling
