import DualityDice.Proofs.Spelling.Reading

namespace DualityDice.Spelling

/-- Two normalized texts that have all in common but the characters before the
first sign that are no markers. -/
structure Alike (text other : Text) : Prop where
  count : countPart other = countPart text
  begins : rollPart other = 'd' :: 'd' :: bodyPart other
  hopeDie : (bodyPart other).take 2 = ['2', '0'] ↔ (bodyPart text).take 2 = ['2', '0']
  markers :
    (unsignedPart (bodyPart other)).filter isMarker =
      (unsignedPart (bodyPart text)).filter isMarker
  signed : signedPart (bodyPart other) = signedPart (bodyPart text)

theorem Tells.alike {text other : Text} {request : Request} (h : Tells text request)
    (halike : Alike text other) : Tells other request := by
  have hmarkers : Markers.ofBody (bodyPart other) = Markers.ofBody (bodyPart text) := by
    rw [Markers.ofBody_eq_foldl_filter, halike.markers, ← Markers.ofBody_eq_foldl_filter]
  have hhope := hopeDieOf_congr halike.hopeDie
  refine ⟨halike.begins, h.rolls_ne_zero, ?_, ?_, ?_, ?_, ?_, ?_⟩
  · rw [halike.count]
    exact h.rolls
  · rw [hhope]
    exact h.hopeDie
  · rw [hmarkers]
    exact h.rollType
  · rw [hmarkers]
    exact h.modifierDie
  · rw [halike.signed]
    exact h.signed
  · rw [halike.signed]
    exact h.flatModifier

section Markers

variable {body : Text} (hfew : (unsignedPart body).countP isMarker < UInt32.size)

include hfew

theorem rollType_eq_normal_iff :
    (Markers.ofBody body).rollType = .normal ↔ (unsignedPart body).countP isMarker = 0 := by
  rw [Markers.rollType_ofBody hfew]
  cases hfirst : (unsignedPart body).find? isMarker with
  | none =>
      rw [List.find?_eq_none] at hfirst
      simp only [Option.map_none, Option.getD_none, true_iff]
      exact List.countP_eq_zero.mpr hfirst
  | some marker =>
      have hpositive : 0 < (unsignedPart body).countP isMarker :=
        List.countP_pos_iff.mpr
          ⟨marker, List.mem_of_find?_eq_some hfirst, List.find?_some hfirst⟩
      simp only [Option.map_some, Option.getD_some, Markers.kindOf_ne_normal, false_iff]
      omega

theorem rollType_eq_advantage_iff :
    (Markers.ofBody body).rollType = .advantage ↔
      (unsignedPart body).find? isMarker = some 'v' := by
  rw [Markers.rollType_ofBody hfew]
  cases (unsignedPart body).find? isMarker with
  | none => simp
  | some marker => simp [Markers.kindOf]

theorem rollType_eq_disadvantage_iff :
    (Markers.ofBody body).rollType = .disadvantage ↔
      (unsignedPart body).find? isMarker = some 'i' := by
  rw [Markers.rollType_ofBody hfew]
  cases hfirst : (unsignedPart body).find? isMarker with
  | none => simp
  | some marker =>
      rcases isMarker_iff.mp (List.find?_some hfirst) with rfl | rfl
      · simp [Markers.kindOf]
      · simp [Markers.kindOf]

theorem toNat_count_ofBody :
    (Markers.ofBody body).count.toNat = (unsignedPart body).countP isMarker := by
  rw [Markers.count_ofBody]
  exact UInt32.toNat_ofNat_of_lt' hfew

end Markers

/-- What a request that is read says, part by part: the count, the Hope die, the first marker,
the number of markers and the flat modifier. Any text that is alike is read as the same
request. -/
theorem meaning_of_parts {text : Text} {request : Request}
    (hread : Request.ofText? text = some request)
    (hfew : (unsignedPart (bodyPart (Request.normalize text))).countP isMarker < UInt32.size) :
    let spelling := Request.normalize text
    let passed := unsignedPart (bodyPart spelling)
    rollPart spelling = 'd' :: 'd' :: bodyPart spelling ∧
    request.rolls.toNat = countValue (countPart spelling) ∧
    (request.hopeDie = .d20 ↔ (bodyPart spelling).take 2 = ['2', '0']) ∧
    (request.rollType = .normal ↔ passed.countP isMarker = 0) ∧
    (request.rollType = .advantage ↔ passed.find? isMarker = some 'v') ∧
    (request.rollType = .disadvantage ↔ passed.find? isMarker = some 'i') ∧
    (request.modifierDie = .d6 ↔ passed.countP isMarker ≤ 1) ∧
    (request.modifierDie = .d8 ↔ passed.countP isMarker = 2) ∧
    (request.modifierDie = .d10 ↔ 3 ≤ passed.countP isMarker) ∧
    request.flatModifier.toInt = flatValue (signedPart (bodyPart spelling)) ∧
    ∀ other, Alike spelling (Request.normalize other) →
      Request.ofText? other = some request := by
  intro spelling passed
  have h : Tells spelling request := ofText?_eq_some_iff.mp hread
  have hcount := toNat_count_ofBody hfew
  refine ⟨h.begins, h.rolls, ?_, ?_, ?_, ?_, ?_, ?_, ?_, h.flatModifier, ?_⟩
  · rw [h.hopeDie]
    exact hopeDieOf_eq_d20_iff _
  · rw [h.rollType]
    exact rollType_eq_normal_iff hfew
  · rw [h.rollType]
    exact rollType_eq_advantage_iff hfew
  · rw [h.rollType]
    exact rollType_eq_disadvantage_iff hfew
  · rw [h.modifierDie, hcount]
    exact ModifierDie.ofMarkers_eq_d6_iff _
  · rw [h.modifierDie, hcount]
    exact ModifierDie.ofMarkers_eq_d8_iff _
  · rw [h.modifierDie, hcount]
    exact ModifierDie.ofMarkers_eq_d10_iff _
  · intro other halike
    exact ofText?_eq_some_iff.mpr (h.alike halike)

theorem meaning_of_mixed_markers :
    let text := "0003#DD 20xVIi y-7".toList
    let request : Request := ⟨3, .d20, .advantage, .d10, -7⟩
    let passed := unsignedPart (bodyPart (Request.normalize text))
    Request.ofText? text = some request ∧ passed.countP isMarker < UInt32.size ∧
      (request.rollType = .advantage ↔ passed.find? isMarker = some 'v') ∧
      (request.modifierDie = .d10 ↔ 3 ≤ passed.countP isMarker) ∧
      request.flatModifier.toInt =
        flatValue (signedPart (bodyPart (Request.normalize text))) ∧
      Request.ofText? "0003#dd20vii-7".toList = some request := by
  intro text request passed
  have hread : Request.ofText? text = some request := by decide +kernel
  have hfew : passed.countP isMarker < UInt32.size := by decide +kernel
  have halike :
      Alike (Request.normalize text) (Request.normalize "0003#dd20vii-7".toList) :=
    ⟨by decide +kernel, by decide +kernel, by decide +kernel, by decide +kernel,
      by decide +kernel⟩
  obtain ⟨_, _, _, _, hadvantage, _, _, _, hten, hflat, hother⟩ :=
    meaning_of_parts hread hfew
  exact ⟨hread, hfew, hadvantage, hten, hflat, hother _ halike⟩

end DualityDice.Spelling
