import DualityDice.Proofs.Numeral.Length
import DualityDice.Proofs.Spelling.Canonical
import DualityDice.Proofs.Spelling.Meaning
import DualityDice.Proofs.Text.Ascii

/-!
The canonical spelling is a shortest one. Each part of it has a part of every other spelling for
itself in which as many characters are ASCII, and lower-casing brings no more of them into a text
than the text has characters.
-/

namespace DualityDice

namespace ModifierDie

theorem markers_ofMarkers_le (count : Nat) : (ofMarkers count).markers ≤ max 1 count := by
  match count with
  | 0 | 1 | 2 => decide
  | count + 3 => exact Nat.le_trans (Nat.le_add_left 3 count) (Nat.le_max_right 1 _)

end ModifierDie

theorem RollType.length_markersFor (rollType : RollType) (die : ModifierDie) :
    (rollType.markersFor die).length = if rollType = .normal then 0 else die.markers := by
  cases rollType with
  | normal => rfl
  | advantage => exact List.length_replicate
  | disadvantage => exact List.length_replicate

namespace Spelling

open Numeral Text

section Ascii

theorem ascii_of_isDigits {digits : Text} (h : IsDigits digits) :
    ∀ c ∈ digits, c.toNat < 0x80 :=
  fun c hc => (isPlain_of_isDigit (h.2 c hc)).1

theorem ascii_of_isSign {c : Char} (h : isSign c = true) : c.toNat < 0x80 := by
  rcases isSign_iff.mp h with rfl | rfl
  · decide
  · decide

theorem countP_isMarker_le (text : Text) : text.countP isMarker ≤ asciiCount text := by
  apply List.countP_mono_left
  intro c _ hmarker
  rcases isMarker_iff.mp hmarker with rfl | rfl
  · decide
  · decide

end Ascii

def leadOf : Option Text → Text
  | some count => count ++ ['#']
  | none => []

theorem eq_leadOf_append_rollPart (text : Text) :
    text = leadOf (countPart text) ++ rollPart text := by
  by_cases h : '#' ∈ text
  · obtain ⟨count, roll, rfl, hcount⟩ := List.eq_append_cons_of_mem h
    obtain ⟨hfirst, hlast⟩ := parts_append_cons roll hcount
    rw [hfirst, hlast, leadOf, List.append_assoc, List.singleton_append]
  · rw [countPart_of_notMem h, rollPart_of_notMem h]
    rfl

theorem eq_unsignedPart_append_signedPart (body : Text) :
    body = unsignedPart body ++ signedPart body :=
  List.takeWhile_append_dropWhile.symm

theorem length_countText_le {rolls : UInt32} {count : Option Text}
    (h : rolls.toNat = countValue count) :
    (Request.countText rolls).length ≤ asciiCount (leadOf count) := by
  unfold Request.countText
  split
  · exact Nat.zero_le _
  · rename_i hrolls
    have hne : countValue count ≠ 1 := by
      rw [← h, ne_eq, ← UInt32.toNat_one, UInt32.toNat_inj]
      exact hrolls
    cases count with
    | none => contradiction
    | some count =>
        rw [countValue] at h hne
        split at h
        · rename_i hdigits
          have hsign : asciiCount ['#'] = 1 := rfl
          have hascii := asciiCount_of_ascii (ascii_of_isDigits hdigits)
          have hlength := length_ofNat_value_le hdigits
          rw [leadOf, asciiCount_append, hascii, hsign, List.length_append, h]
          exact Nat.add_le_add_right hlength 1
        · rename_i hdigits
          exact absurd (if_neg hdigits) hne

theorem length_flatText_le {text : Text} {request : Request} (h : Tells text request) :
    (Request.flatText request.flatModifier).length ≤ asciiCount (signedPart (bodyPart text)) := by
  unfold Request.flatText
  split
  · exact Nat.zero_le _
  · rename_i hflat
    have hvalue := h.flatModifier
    cases hsigned : signedPart (bodyPart text) with
    | nil =>
        rw [hsigned, flatValue, ← Int32.toInt_zero, Int32.toInt_inj] at hvalue
        contradiction
    | cons sign digits =>
        have hdigits := h.signed sign digits hsigned
        have hmagnitude : request.flatModifier.toInt.natAbs = value digits := by
          rw [hvalue, hsigned, flatValue, signedValue]
          split <;> omega
        have hascii : asciiCount (sign :: digits) = (sign :: digits).length := by
          apply asciiCount_of_ascii
          rw [List.forall_mem_cons]
          exact ⟨ascii_of_isSign (isSign_of_signedPart_eq_cons hsigned),
            ascii_of_isDigits hdigits⟩
        rw [hascii, signed, List.length_cons, List.length_cons, hmagnitude]
        exact Nat.succ_le_succ (length_ofNat_value_le hdigits)

theorem length_markersFor_ofBody_le (body : Text) :
    ((Markers.ofBody body).rollType.markersFor
        (.ofMarkers (Markers.ofBody body).count.toNat)).length ≤
      (unsignedPart body).countP isMarker := by
  rw [RollType.length_markersFor]
  split
  · exact Nat.zero_le _
  · rename_i hrollType
    have hpos : (unsignedPart body).countP isMarker ≠ 0 := by
      intro hzero
      have hfew : (unsignedPart body).countP isMarker < UInt32.size := by
        rw [hzero]
        decide
      exact hrollType ((rollType_eq_normal_iff hfew).mpr hzero)
    -- The count begins again at zero behind the greatest word, which only makes it less.
    have hcount : (Markers.ofBody body).count.toNat ≤ (unsignedPart body).countP isMarker := by
      rw [Markers.count_ofBody, UInt32.toNat_ofNat']
      exact Nat.mod_le _ _
    have hmarkers := ModifierDie.markers_ofMarkers_le (Markers.ofBody body).count.toNat
    omega

theorem unsignedPart_of_d20 {body : Text} (h : Request.hopeDieOf body = .d20) :
    unsignedPart body = ['2', '0'] ++ unsignedPart (body.drop 2) := by
  have hbody := List.take_append_drop 2 body
  rw [(hopeDieOf_eq_d20_iff body).mp h] at hbody
  rw [← hbody]
  rfl

theorem length_canonicalPassed_le {text : Text} {request : Request} (h : Tells text request) :
    request.canonicalPassed.length ≤ asciiCount (unsignedPart (bodyPart text)) := by
  have hmarkers := length_markersFor_ofBody_le (bodyPart text)
  rw [← h.rollType, ← h.modifierDie] at hmarkers
  rw [Request.canonicalPassed, List.length_append]
  split
  · rename_i hdie
    have hpassed := unsignedPart_of_d20 (h.hopeDie ▸ hdie)
    have hrest := countP_isMarker_le (unsignedPart ((bodyPart text).drop 2))
    have hascii : asciiCount ['2', '0'] = 2 := rfl
    have hnone : ['2', '0'].countP isMarker = 0 := rfl
    rw [hpassed, List.countP_append] at hmarkers
    rw [hpassed, asciiCount_append]
    simp only [List.length_cons, List.length_nil]
    omega
  · rw [List.length_nil, Nat.zero_add]
    exact Nat.le_trans hmarkers (countP_isMarker_le _)

theorem Tells.length_canonical_le {text : Text} {request : Request} (h : Tells text request) :
    request.canonical.length ≤ asciiCount text := by
  have hcount := length_countText_le h.rolls
  have hpassed := length_canonicalPassed_le h
  have hflat := length_flatText_le h
  have hbegins : asciiCount ['d', 'd'] = 2 := rfl
  calc
    request.canonical.length =
        (Request.countText request.rolls).length +
          (2 + (request.canonicalPassed.length +
            (Request.flatText request.flatModifier).length)) := by
      rw [Request.canonical_eq]
      simp only [List.length_append, List.length_cons]
      omega
    _ ≤ asciiCount (leadOf (countPart text)) +
          (asciiCount ['d', 'd'] + (asciiCount (unsignedPart (bodyPart text)) +
            asciiCount (signedPart (bodyPart text)))) := by
      omega
    _ = asciiCount (leadOf (countPart text) ++ (['d', 'd'] ++
          (unsignedPart (bodyPart text) ++ signedPart (bodyPart text)))) := by
      simp only [asciiCount_append]
    _ = asciiCount text := by
      rw [← eq_unsignedPart_append_signedPart, List.cons_append, List.singleton_append,
        ← h.begins, ← eq_leadOf_append_rollPart]

end Spelling

namespace Request

/-- The canonical spelling of a request that some text spells is a spelling of it, and no other
text that spells the request is shorter. -/
theorem canonical_is_shortest {text : Text} {request : Request}
    (h : ofText? text = some request) :
    ofText? request.canonical = some request ∧ request.canonical.length ≤ text.length := by
  refine ⟨ofText?_canonical_of_ofText? h, ?_⟩
  calc
    request.canonical.length ≤ Text.asciiCount (normalize text) :=
      (Spelling.ofText?_eq_some_iff.mp h).length_canonical_le
    _ ≤ text.length := Text.asciiCount_normalize_le text

/-- A spelling that is as short, though a letter of it becomes two when it is lower-cased, and
one that is longer for its zeros, a marker too many and a letter that says nothing. -/
theorem canonical_shortest_beside_dotted_capital :
    let request : Request := ⟨3, .d20, .disadvantage, .d10, -7⟩
    let text := "3#DD20İvI-7".toList
    let longer := "03#dd20iviKi-007".toList
    ofText? text = some request ∧ text.length < (normalize text).length ∧
      request.canonical.length ≤ text.length ∧ ofText? longer = some request ∧
      request.canonical.length ≤ longer.length ∧
      request.canonical.length = text.length := by
  intro request text longer
  have hread : ofText? text = some request := by decide +kernel
  have hlonger : ofText? longer = some request := by decide +kernel
  exact ⟨hread, by decide +kernel, (canonical_is_shortest hread).2, hlonger,
    (canonical_is_shortest hlonger).2, by decide +kernel⟩

end Request

end DualityDice
