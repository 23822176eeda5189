import DualityDice.Proofs.Spelling.Parts

namespace DualityDice

namespace ModifierDie

theorem ofMarkers_eq_d6_iff (count : Nat) : ofMarkers count = d6 ↔ count ≤ 1 := by
  match count with
  | 0 | 1 | 2 | _ + 3 => simp [ofMarkers]

theorem ofMarkers_eq_d8_iff (count : Nat) : ofMarkers count = d8 ↔ count = 2 := by
  match count with
  | 0 | 1 | 2 | _ + 3 => simp [ofMarkers]

theorem ofMarkers_eq_d10_iff (count : Nat) : ofMarkers count = d10 ↔ 3 ≤ count := by
  match count with
  | 0 | 1 | 2 | _ + 3 => simp [ofMarkers]

end ModifierDie

namespace Markers

open Spelling

def kindOf (c : Char) : RollType :=
  if c = 'v' then .advantage else .disadvantage

theorem kindOf_ne_normal (c : Char) : kindOf c ≠ .normal := by
  unfold kindOf
  split <;> simp

def pass (markers : Markers) (c : Char) : Markers :=
  if isMarker c then markers.mark (kindOf c) else markers

def flatOf? : Text → Option Int32
  | [] => some 0
  | signed => Numeral.readSigned32? signed

theorem scan_cons_of_isSign {c : Char} (h : isSign c = true) (markers : Markers)
    (rest : Text) :
    markers.scan (c :: rest) =
      (flatOf? (c :: rest)).map fun flat => (markers, flat) := by
  rcases isSign_iff.mp h with rfl | rfl
  · rfl
  · rfl

theorem scan_cons_of_not_isSign {c : Char} (h : isSign c = false) (markers : Markers)
    (rest : Text) :
    markers.scan (c :: rest) = (markers.pass c).scan rest := by
  have hsign : ¬(c = '+' ∨ c = '-') := by
    rw [← isSign_iff, h]
    exact Bool.false_ne_true
  rw [scan, if_neg hsign, pass, kindOf]
  split
  · simp_all [isMarker]
  · split
    · simp_all [isMarker]
    · simp_all [isMarker]

/-- The pass reads the markers before the first sign and the flat modifier from
it on. -/
theorem scan_eq (markers : Markers) (body : Text) :
    markers.scan body =
      (flatOf? (signedPart body)).map fun flat =>
        ((unsignedPart body).foldl pass markers, flat) := by
  induction body generalizing markers with
  | nil => rfl
  | cons c rest ih =>
      cases hsign : isSign c with
      | true =>
          rw [scan_cons_of_isSign hsign]
          simp [signedPart, unsignedPart, hsign]
      | false =>
          rw [scan_cons_of_not_isSign hsign, ih]
          simp [signedPart, unsignedPart, hsign]

theorem count_foldl_pass (text : Text) (markers : Markers) :
    (text.foldl pass markers).count =
      markers.count + UInt32.ofNat (text.countP isMarker) := by
  induction text generalizing markers with
  | nil => simp
  | cons c rest ih =>
      rw [List.foldl_cons, ih, List.countP_cons, pass]
      split
      · rw [mark, UInt32.ofNat_add, UInt32.add_assoc]
        congr 1
        exact UInt32.add_comm _ _
      · rfl

/-- The first marker chooses the roll type, whatever follows it. The bound keeps
the count from beginning again at zero. -/
theorem rollType_foldl_pass (text : Text) (markers : Markers)
    (hfew : markers.count.toNat + text.countP isMarker < UInt32.size) :
    (text.foldl pass markers).rollType =
      if markers.count = 0 then ((text.find? isMarker).map kindOf).getD markers.rollType
      else markers.rollType := by
  induction text generalizing markers with
  | nil => simp
  | cons c rest ih =>
      rw [List.countP_cons] at hfew
      rw [List.foldl_cons, List.find?_cons, pass]
      cases hmarker : isMarker c with
      | true =>
          simp only [hmarker, if_true] at hfew ⊢
          have hcount : (markers.mark (kindOf c)).count.toNat = markers.count.toNat + 1 := by
            rw [mark, UInt32.toNat_add, UInt32.toNat_one]
            have hnext : markers.count.toNat + 1 < UInt32.size := by omega
            exact Nat.mod_eq_of_lt hnext
          have hpositive : (markers.mark (kindOf c)).count ≠ 0 := by
            intro hzero
            rw [hzero, UInt32.toNat_zero] at hcount
            omega
          -- From here on the count is positive, so that no later marker chooses.
          rw [ih _ (by omega), if_neg hpositive]
          rfl
      | false =>
          simp only [hmarker] at hfew ⊢
          exact ih markers hfew

/-- Where no roll type has been chosen, no marker has been read. -/
def Consistent (markers : Markers) : Prop :=
  markers.rollType = .normal → markers.count = 0

theorem consistent_mark {markers : Markers} (h : markers.Consistent) (c : Char) :
    (markers.mark (kindOf c)).Consistent := by
  intro hnormal
  rw [mark] at hnormal
  split at hnormal
  · exact absurd hnormal (kindOf_ne_normal c)
  · rename_i hcount
    exact absurd (h hnormal) hcount

theorem consistent_foldl_pass (text : Text) {markers : Markers} (h : markers.Consistent) :
    (text.foldl pass markers).Consistent := by
  induction text generalizing markers with
  | nil => exact h
  | cons c rest ih =>
      rw [List.foldl_cons]
      apply ih
      unfold pass
      split
      · exact consistent_mark h c
      · exact h

def ofBody (body : Text) : Markers :=
  (unsignedPart body).foldl pass {}

theorem count_ofBody (body : Text) :
    (ofBody body).count = UInt32.ofNat ((unsignedPart body).countP isMarker) := by
  rw [ofBody, count_foldl_pass]
  exact UInt32.zero_add _

theorem rollType_ofBody {body : Text}
    (hfew : (unsignedPart body).countP isMarker < UInt32.size) :
    (ofBody body).rollType =
      (((unsignedPart body).find? isMarker).map kindOf).getD .normal := by
  rw [ofBody, rollType_foldl_pass _ _ (by simpa using hfew)]
  rfl

theorem ofBody_eq_foldl_filter (body : Text) :
    ofBody body = ((unsignedPart body).filter isMarker).foldl pass {} := by
  rw [ofBody, List.foldl_filter]
  congr 1
  funext markers c
  unfold pass
  split <;> rfl

theorem consistent_ofBody (body : Text) : (ofBody body).Consistent :=
  consistent_foldl_pass _ fun _ => rfl

theorem flatOf?_eq_some_iff {body : Text} {flat : Int32} :
    flatOf? (signedPart body) = some flat ↔
      (∀ sign digits, signedPart body = sign :: digits → Numeral.IsDigits digits) ∧
        flat.toInt = flatValue (signedPart body) := by
  cases hsigned : signedPart body with
  | nil =>
      rw [flatOf?, flatValue, Option.some.injEq, ← Int32.toInt_inj, Int32.toInt_zero]
      simp [eq_comm]
  | cons sign digits =>
      have hsign := isSign_iff.mp (isSign_of_signedPart_eq_cons hsigned)
      rw [flatOf?, Numeral.readSigned32?_cons_eq_some_iff hsign, flatValue]
      · simp
      · exact List.cons_ne_nil sign digits

end Markers

end DualityDice
