import DualityDice.Proofs.Spelling.Reading
import DualityDice.Proofs.Text.Plain
import DualityDice.Request.Canonical

namespace DualityDice.Request

open Numeral Spelling

def canonicalPassed (request : Request) : Text :=
  (if request.hopeDie = .d20 then ['2', '0'] else []) ++
    request.rollType.markersFor request.modifierDie

/-- The request with a d6 for a modifier die that is not rolled. -/
def settled (request : Request) : Request :=
  { request with
    modifierDie := if request.rollType = .normal then .d6 else request.modifierDie }

theorem canonical_eq (request : Request) :
    request.canonical =
      countText request.rolls ++
        'd' :: 'd' :: (request.canonicalPassed ++ flatText request.flatModifier) := by
  simp [canonical, canonicalPassed]

theorem settled_eq_self_iff (request : Request) :
    request.settled = request ↔
      (request.rollType = .normal → request.modifierDie = .d6) := by
  rw [settled]
  constructor
  · intro h hnormal
    have hdie := congrArg modifierDie h
    rwa [if_pos hnormal, eq_comm] at hdie
  · intro h
    split
    · rename_i hnormal
      rw [← h hnormal]
    · rfl

section Characters

theorem isMarker_of_mem_markersFor {rollType : RollType} {die : ModifierDie} {c : Char}
    (h : c ∈ rollType.markersFor die) : isMarker c = true := by
  cases rollType with
  | normal => contradiction
  | advantage => rw [List.eq_of_mem_replicate h]; rfl
  | disadvantage => rw [List.eq_of_mem_replicate h]; rfl

theorem mem_canonicalPassed {request : Request} {c : Char}
    (h : c ∈ request.canonicalPassed) : c.isDigit = true ∨ isMarker c = true := by
  rw [canonicalPassed, List.mem_append] at h
  rcases h with h | h
  · left
    split at h
    · simp only [List.mem_cons, List.not_mem_nil, or_false] at h
      rcases h with rfl | rfl
      · rfl
      · rfl
    · contradiction
  · right
    exact isMarker_of_mem_markersFor h

theorem mem_flatText {flat : Int32} {c : Char} (h : c ∈ flatText flat) :
    c.isDigit = true ∨ isSign c = true := by
  unfold flatText at h
  split at h
  · contradiction
  · rcases List.mem_cons.mp h with rfl | h
    · right
      split <;> rfl
    · left
      exact isDigit_of_mem_ofNat h

theorem mem_countText {rolls : UInt32} {c : Char} (h : c ∈ countText rolls) :
    c.isDigit = true ∨ c = '#' := by
  unfold countText at h
  split at h
  · contradiction
  · rcases List.mem_append.mp h with h | h
    · left
      exact isDigit_of_mem_ofNat h
    · right
      exact List.mem_singleton.mp h

theorem isPlain_of_mem_canonical {request : Request} {c : Char}
    (h : c ∈ request.canonical) : Text.IsPlain c := by
  simp only [canonical_eq, List.mem_append, List.mem_cons] at h
  rcases h with h | rfl | rfl | h | h
  · rcases mem_countText h with h | rfl
    · exact Text.isPlain_of_isDigit h
    · decide
  · decide
  · decide
  · rcases mem_canonicalPassed h with h | h
    · exact Text.isPlain_of_isDigit h
    · rcases isMarker_iff.mp h with rfl | rfl
      · decide
      · decide
  · rcases mem_flatText h with h | h
    · exact Text.isPlain_of_isDigit h
    · rcases isSign_iff.mp h with rfl | rfl
      · decide
      · decide

theorem normalize_canonical (request : Request) :
    normalize request.canonical = request.canonical :=
  Text.normalize_of_plain fun _ => isPlain_of_mem_canonical

theorem numberSign_notMem_roll (request : Request) :
    '#' ∉ 'd' :: 'd' :: (request.canonicalPassed ++ flatText request.flatModifier) := by
  simp only [List.mem_cons, List.mem_append]
  rintro (h | h | h | h)
  · contradiction
  · contradiction
  · exact absurd (mem_canonicalPassed h) (by decide)
  · exact absurd (mem_flatText h) (by decide)

end Characters

section Parts

variable (request : Request)

theorem numberSign_notMem_ofNat (n : Nat) : '#' ∉ ofNat n := by
  intro h
  exact absurd (isDigit_of_mem_ofNat h) (by decide)

theorem countValue_canonical :
    countValue (countPart request.canonical) = request.rolls.toNat := by
  rw [canonical_eq, countText]
  split
  · rename_i hone
    rw [List.nil_append, countPart_of_notMem (numberSign_notMem_roll request), hone]
    rfl
  · rw [List.append_assoc, List.singleton_append,
      (parts_append_cons _ (numberSign_notMem_ofNat request.rolls.toNat)).1, countValue,
      if_pos (isDigits_ofNat _), value_ofNat]

theorem rollPart_canonical :
    rollPart request.canonical =
      'd' :: 'd' :: (request.canonicalPassed ++ flatText request.flatModifier) := by
  rw [canonical_eq, countText]
  split
  · exact rollPart_of_notMem (numberSign_notMem_roll request)
  · rw [List.append_assoc, List.singleton_append]
    exact (parts_append_cons _ (numberSign_notMem_ofNat request.rolls.toNat)).2

theorem bodyPart_canonical :
    bodyPart request.canonical =
      request.canonicalPassed ++ flatText request.flatModifier := by
  rw [bodyPart, rollPart_canonical]
  rfl

theorem parts_flatText (flat : Int32) :
    unsignedPart (flatText flat) = [] ∧ signedPart (flatText flat) = flatText flat := by
  unfold flatText
  split
  · exact ⟨rfl, rfl⟩
  · unfold signed
    split
    · exact ⟨rfl, rfl⟩
    · exact ⟨rfl, rfl⟩

theorem isSign_of_mem_canonicalPassed {c : Char} (h : c ∈ request.canonicalPassed) :
    isSign c = false := by
  rw [← Bool.not_eq_true, isSign_iff]
  rintro (rfl | rfl)
  · exact absurd (mem_canonicalPassed h) (by decide)
  · exact absurd (mem_canonicalPassed h) (by decide)

theorem unsignedPart_canonical :
    unsignedPart (bodyPart request.canonical) = request.canonicalPassed := by
  rw [bodyPart_canonical,
    unsignedPart_append _ fun _ => isSign_of_mem_canonicalPassed request,
    (parts_flatText _).1, List.append_nil]

theorem signedPart_canonical :
    signedPart (bodyPart request.canonical) = flatText request.flatModifier := by
  rw [bodyPart_canonical,
    signedPart_append _ fun _ => isSign_of_mem_canonicalPassed request,
    (parts_flatText _).2]

theorem flatValue_flatText (flat : Int32) : flatValue (flatText flat) = flat.toInt := by
  unfold flatText
  split
  · rename_i hzero
    rw [hzero]
    rfl
  · rw [signed, flatValue, signedValue, value_ofNat]
    rcases Int.lt_or_le flat.toInt 0 with hlow | hhigh
    · rw [if_pos hlow, if_pos rfl]
      omega
    · rw [if_neg (Int.not_lt.mpr hhigh), if_neg (by decide)]
      omega

theorem head_markersFor_append {rollType : RollType} {die : ModifierDie} {flat : Int32}
    {c : Char} {rest : Text} (h : rollType.markersFor die ++ flatText flat = c :: rest) :
    isMarker c = true ∨ isSign c = true := by
  cases hmarkers : rollType.markersFor die with
  | nil =>
      right
      rw [hmarkers, List.nil_append, ← (parts_flatText flat).2] at h
      exact isSign_of_signedPart_eq_cons h
  | cons d others =>
      left
      rw [hmarkers, List.cons_append, List.cons.injEq] at h
      rw [← h.1]
      exact isMarker_of_mem_markersFor (hmarkers ▸ List.mem_cons_self)

theorem hopeDieOf_canonical :
    hopeDieOf (bodyPart request.canonical) = request.hopeDie := by
  rw [bodyPart_canonical, canonicalPassed]
  cases request.hopeDie with
  | d20 => exact (hopeDieOf_eq_d20_iff _).mpr rfl
  | d12 =>
      rw [if_neg (by decide), List.nil_append]
      cases hread : hopeDieOf (request.rollType.markersFor request.modifierDie ++
          flatText request.flatModifier) with
      | d12 => rfl
      | d20 =>
          rw [hopeDieOf_eq_d20_iff] at hread
          have hhead := List.take_append_drop 2
            (request.rollType.markersFor request.modifierDie ++ flatText request.flatModifier)
          rw [hread] at hhead
          exact absurd (head_markersFor_append hhead.symm) (by decide)

theorem markers_canonical :
    (Markers.ofBody (bodyPart request.canonical)).rollType = request.rollType ∧
      ModifierDie.ofMarkers (Markers.ofBody (bodyPart request.canonical)).count.toNat =
        request.settled.modifierDie := by
  rw [Markers.ofBody, unsignedPart_canonical, canonicalPassed, settled]
  cases request.hopeDie <;> cases request.rollType <;> cases request.modifierDie <;>
    exact ⟨rfl, rfl⟩

theorem signed_flatText {flat : Int32} {sign : Char} {digits : Text}
    (h : flatText flat = sign :: digits) : IsDigits digits := by
  unfold flatText at h
  split at h
  · contradiction
  · rw [signed, List.cons.injEq] at h
    rw [← h.2]
    exact isDigits_ofNat _

end Parts

theorem tells_canonical {request : Request} (h : request.rolls ≠ 0) :
    Tells request.canonical request.settled where
  begins := by rw [rollPart_canonical, bodyPart_canonical]
  rolls_ne_zero := h
  rolls := (countValue_canonical request).symm
  hopeDie := (hopeDieOf_canonical request).symm
  rollType := (markers_canonical request).1.symm
  modifierDie := (markers_canonical request).2.symm
  signed := by
    intro sign digits hsigned
    rw [signedPart_canonical] at hsigned
    exact signed_flatText hsigned
  flatModifier := by
    rw [signedPart_canonical, flatValue_flatText]
    rfl

/-- A canonical spelling is read as the request that it spells, but for a
modifier die that is not rolled. It is no roll where the request asks for none. -/
theorem ofText?_canonical (request : Request) :
    ofText? request.canonical =
      if request.rolls = 0 then none else some request.settled := by
  split
  · rename_i hzero
    rw [Option.eq_none_iff_forall_ne_some]
    intro found hfound
    have htells := ofText?_eq_some_iff.mp hfound
    have hrolls := htells.rolls
    rw [normalize_canonical, countValue_canonical, hzero] at hrolls
    exact htells.rolls_ne_zero (UInt32.toNat_inj.mp hrolls)
  · rename_i hrolls
    rw [ofText?_eq_some_iff, normalize_canonical]
    exact tells_canonical hrolls

theorem meaningful_of_ofText? {text : Text} {request : Request}
    (h : ofText? text = some request) :
    1 ≤ request.rolls ∧ (request.rollType = .normal → request.modifierDie = .d6) := by
  have htells := ofText?_eq_some_iff.mp h
  exact ⟨one_le_iff_ne_zero.mpr htells.rolls_ne_zero, htells.modifierDie_of_normal⟩

theorem ofText?_canonical_of_meaningful {request : Request} (hrolls : 1 ≤ request.rolls)
    (hdie : request.rollType = .normal → request.modifierDie = .d6) :
    ofText? request.canonical = some request := by
  rw [ofText?_canonical, if_neg (one_le_iff_ne_zero.mp hrolls),
    (settled_eq_self_iff request).mpr hdie]

theorem ofText?_canonical_of_ofText? {text : Text} {request : Request}
    (h : ofText? text = some request) : ofText? request.canonical = some request := by
  obtain ⟨hrolls, hdie⟩ := meaningful_of_ofText? h
  exact ofText?_canonical_of_meaningful hrolls hdie

/-- A canonical spelling is read as the request that it spells, but for a modifier die that is
not rolled, and is no roll where the request asks for none. The requests that texts are read as
are those that their own canonical spelling is read as. -/
theorem canonical_inverse (request : Request) :
    ofText? request.canonical =
        (if request.rolls = 0 then none else some request.settled) ∧
      ((∃ text, ofText? text = some request) ↔
        ofText? request.canonical = some request) ∧
      (ofText? request.canonical = some request ↔
        1 ≤ request.rolls ∧
          (request.rollType = .normal → request.modifierDie = .d6)) := by
  refine ⟨ofText?_canonical request, ?_, ?_⟩
  · constructor
    · rintro ⟨text, htext⟩
      obtain ⟨hrolls, hdie⟩ := meaningful_of_ofText? htext
      exact ofText?_canonical_of_meaningful hrolls hdie
    · intro h
      exact ⟨request.canonical, h⟩
  · constructor
    · exact meaningful_of_ofText?
    · rintro ⟨hrolls, hdie⟩
      exact ofText?_canonical_of_meaningful hrolls hdie

end DualityDice.Request
