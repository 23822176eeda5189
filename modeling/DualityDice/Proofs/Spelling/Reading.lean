import DualityDice.Proofs.Spelling.Markers

namespace DualityDice.Spelling

/-- How the parts of a normalized text tell a request. -/
structure Tells (text : Text) (request : Request) : Prop where
  begins : rollPart text = 'd' :: 'd' :: bodyPart text
  rolls_ne_zero : request.rolls ≠ 0
  rolls : request.rolls.toNat = countValue (countPart text)
  hopeDie : request.hopeDie = Request.hopeDieOf (bodyPart text)
  rollType : request.rollType = (Markers.ofBody (bodyPart text)).rollType
  modifierDie :
    request.modifierDie = .ofMarkers (Markers.ofBody (bodyPart text)).count.toNat
  signed : ∀ sign digits,
    signedPart (bodyPart text) = sign :: digits → Numeral.IsDigits digits
  flatModifier : request.flatModifier.toInt = flatValue (signedPart (bodyPart text))

theorem hopeDieOf_eq_d20_iff (body : Text) :
    Request.hopeDieOf body = .d20 ↔ body.take 2 = ['2', '0'] := by
  have hbytes : Text.takeBytes? 2 body = some ['2', '0'] ↔ body.take 2 = ['2', '0'] := by
    rw [Text.takeBytes?_eq_some_iff, List.prefix_iff_eq_take]
    constructor
    · rintro ⟨hstart, _⟩
      exact hstart.symm
    · intro htake
      exact ⟨htake.symm, by decide⟩
  rw [Request.hopeDieOf, ← hbytes]
  split <;> simp_all

theorem hopeDieOf_congr {body other : Text}
    (h : body.take 2 = ['2', '0'] ↔ other.take 2 = ['2', '0']) :
    Request.hopeDieOf body = Request.hopeDieOf other := by
  rw [← hopeDieOf_eq_d20_iff, ← hopeDieOf_eq_d20_iff] at h
  cases hbody : Request.hopeDieOf body <;> cases hother : Request.hopeDieOf other <;> simp_all

theorem ofBody?_eq_some_iff {rolls : UInt32} {body : Text} {request : Request} :
    Request.ofBody? rolls body = some request ↔
      ∃ flat, Markers.flatOf? (signedPart body) = some flat ∧
        request =
          { rolls, hopeDie := Request.hopeDieOf body,
            rollType := (Markers.ofBody body).rollType,
            modifierDie := .ofMarkers (Markers.ofBody body).count.toNat,
            flatModifier := flat } := by
  rw [Request.ofBody?, Markers.scan_eq, Option.map_map, Option.map_eq_some_iff]
  simp only [Function.comp_apply, Markers.ofBody, eq_comm (b := request)]

theorem ofNormalized?_eq_some_iff {text : Text} {request : Request} :
    Request.ofNormalized? text = some request ↔ Tells text request := by
  rw [ofNormalized?_eq_some_iff_ofBody?]
  simp only [rollsOf?_eq_some_iff, ofBody?_eq_some_iff, Markers.flatOf?_eq_some_iff]
  constructor
  · rintro ⟨rolls, ⟨hne, hrolls⟩, hbegins, flat, ⟨hsigned, hflat⟩, rfl⟩
    exact ⟨hbegins, hne, hrolls, rfl, rfl, rfl, hsigned, hflat⟩
  · intro h
    refine ⟨request.rolls, ⟨h.rolls_ne_zero, h.rolls⟩, h.begins,
      request.flatModifier, ⟨h.signed, h.flatModifier⟩, ?_⟩
    rw [← h.hopeDie, ← h.rollType, ← h.modifierDie]

/-- The shortcut for the plain roll gives what reading its parts gives. -/
theorem ofText?_eq_ofNormalized? (text : Text) :
    Request.ofText? text = Request.ofNormalized? (Request.normalize text) := by
  change (if Request.normalize text = ['d', 'd'] then some Request.plain
    else Request.ofNormalized? (Request.normalize text)) = _
  split
  · rename_i hplain
    rw [hplain]
    rfl
  · rfl

theorem ofText?_eq_some_iff {text : Text} {request : Request} :
    Request.ofText? text = some request ↔ Tells (Request.normalize text) request := by
  rw [ofText?_eq_ofNormalized?]
  exact ofNormalized?_eq_some_iff

theorem Tells.modifierDie_of_normal {text : Text} {request : Request}
    (h : Tells text request) (hnormal : request.rollType = .normal) :
    request.modifierDie = .d6 := by
  have hcount : (Markers.ofBody (bodyPart text)).count = 0 := by
    apply Markers.consistent_ofBody
    rw [← h.rollType]
    exact hnormal
  rw [h.modifierDie, hcount]
  rfl

end DualityDice.Spelling
