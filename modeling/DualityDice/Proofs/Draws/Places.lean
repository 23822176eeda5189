import DualityDice.Proofs.Answer

namespace DualityDice

/-- The replies to texts that share a source, one after another, and the source after them. -/
def replyAll {σ : Type} [Source σ] (allowed : UInt32) : List Text → σ → List (Option Text) × σ
  | [], source => ([], source)
  | text :: rest, source =>
      let (answer, source) := reply allowed text source
      let (answers, source) := replyAll allowed rest source
      (answer :: answers, source)

def accepted? (allowed : UInt32) (text : Text) : Option Request :=
  (Request.ofText? text).filter fun request => request.rolls ≤ allowed

def Bounds.ends (bounds : Bounds) : UInt32 × UInt32 :=
  (bounds.low, bounds.high)

/-- How an outcome is made of the values drawn from a place on: Fear first, Hope second, and
the modifier third, as a signed word, if one is rolled. What is no word is wrapped. -/
structure Request.MadeFrom (request : Request) (values : List UInt32) (place : Nat)
    (outcome : Outcome) : Prop where
  fear : values[place]? = some outcome.fearValue
  hope : values[place + 1]? = some outcome.hopeValue
  normal : request.rollType = .normal → outcome.modifierValue.toInt = 0
  advantage : request.rollType = .advantage →
    ∃ value, values[place + 2]? = some value ∧
      outcome.modifierValue.toInt = (value.toNat : Int).bmod UInt32.size
  disadvantage : request.rollType = .disadvantage →
    ∃ value, values[place + 2]? = some value ∧
      outcome.modifierValue.toInt = (-(value.toNat : Int)).bmod UInt32.size
  dice : outcome.hopeDie = request.hopeDie ∧ outcome.modifierDie = request.modifierDie
  flatModifier : outcome.flatModifier = request.flatModifier

variable {σ : Type} [Source σ]

namespace Traced

theorem map_bounds_drawAll (bounds : List Bounds) (traced : Traced σ) :
    (Source.drawAll bounds traced).2.draws.map Draw.bounds =
      traced.draws.map Draw.bounds ++ bounds := by
  induction bounds generalizing traced with
  | nil => simp [Source.drawAll]
  | cons first rest ih =>
      rw [Source.drawAll_cons]
      simp only [ih, draws_draw, List.map_append, List.map_singleton, List.append_assoc,
        List.singleton_append]

theorem map_value_drawAll (bounds : List Bounds) (traced : Traced σ) :
    (Source.drawAll bounds traced).2.draws.map Draw.value =
      traced.draws.map Draw.value ++ (Source.drawAll bounds traced.source).1 := by
  induction bounds generalizing traced with
  | nil => simp [Source.drawAll]
  | cons first rest ih =>
      simp only [Source.drawAll_cons, ih, draws_draw, draw_source, List.map_append,
        List.map_singleton, List.append_assoc, List.singleton_append]

end Traced

section Words

theorem toInt_toInt32_eq_bmod (value : UInt32) :
    value.toInt32.toInt = (value.toNat : Int).bmod UInt32.size :=
  BitVec.toInt_eq_toNat_bmod value.toBitVec

theorem toInt_neg_toInt32_eq_bmod (value : UInt32) :
    (-value.toInt32).toInt = (-(value.toNat : Int)).bmod UInt32.size := by
  rw [Int32.toInt_neg, toInt_toInt32_eq_bmod]
  exact Int.bmod_neg_bmod

end Words

namespace Request

variable {request : Request} {values : List UInt32} {place : Nat}

theorem getElem?_eq_getD {count i : Nat} (hi : i < count)
    (hlength : place + count ≤ values.length) :
    values[place + i]? = some (((values.drop place).take count).getD i 0) := by
  have hplace : place + i < values.length := by omega
  rw [List.getD_eq_getElem?_getD, List.getElem?_take_of_lt hi, List.getElem?_drop,
    List.getElem?_eq_getElem hplace, Option.getD_some]

theorem madeFrom_outcomeOf (hlength : place + request.drawnOnce.length ≤ values.length) :
    request.MadeFrom values place
      (request.outcomeOf ((values.drop place).take request.drawnOnce.length)) := by
  have hcount := request.length_drawnOnce
  have hfew : 2 ≤ request.drawnOnce.length := by
    rw [hcount]
    split <;> omega
  have hthird (hrolled : request.rollType ≠ .normal) : 2 < request.drawnOnce.length := by
    rw [hcount, if_neg hrolled]
    omega
  refine ⟨?_, getElem?_eq_getD hfew hlength, ?_, ?_, ?_, ⟨rfl, rfl⟩, rfl⟩
  · exact getElem?_eq_getD (i := 0) (by omega) hlength
  · intro hnormal
    rw [outcomeOf, hnormal]
    rfl
  · intro hadvantage
    have hrolled : request.rollType ≠ .normal := by simp [hadvantage]
    refine ⟨_, getElem?_eq_getD (hthird hrolled) hlength, ?_⟩
    rw [← toInt_toInt32_eq_bmod, outcomeOf, hadvantage]
    rfl
  · intro hdisadvantage
    have hrolled : request.rollType ≠ .normal := by simp [hdisadvantage]
    refine ⟨_, getElem?_eq_getD (hthird hrolled) hlength, ?_⟩
    rw [← toInt_neg_toInt32_eq_bmod, outcomeOf, hdisadvantage]
    rfl

theorem getElem?_outcomesOf {n j : Nat} (hj : j < n) (values : List UInt32) :
    (request.outcomesOf n values)[j]? =
      some (request.outcomeOf
        ((values.drop (j * request.drawnOnce.length)).take request.drawnOnce.length)) := by
  induction n generalizing j values with
  | zero => contradiction
  | succ n ih =>
      rw [outcomesOf]
      cases j with
      | zero => simp
      -- The first outcome takes its values off the front: place `j + 1` is place `j` of the rest.
      | succ j =>
          rw [List.getElem?_cons_succ, ih (Nat.lt_of_succ_lt_succ hj), List.drop_drop,
            Nat.succ_mul, Nat.add_comm]

/-- Outcome `j` is made of what is drawn behind the draws of the `j` outcomes before it. -/
theorem exists_madeFrom_roll (request : Request) (source : σ) {j : Nat}
    (hj : j < request.rolls.toNat) :
    ∃ outcome, (request.roll source).1[j]? = some outcome ∧
      request.MadeFrom (Source.drawAll (request.drawnTimes request.rolls.toNat) source).1
        (j * request.drawnOnce.length) outcome := by
  have hlength : j * request.drawnOnce.length + request.drawnOnce.length ≤
      (Source.drawAll (request.drawnTimes request.rolls.toNat) source).1.length := by
    rw [Source.length_drawAll, length_drawnTimes, length_drawnOnce, ← Nat.succ_mul]
    exact Nat.mul_le_mul_right _ hj
  rw [roll_eq_drawAll]
  exact ⟨_, getElem?_outcomesOf hj _, madeFrom_outcomeOf hlength⟩

theorem map_value_roll (request : Request) (traced : Traced σ) :
    (request.roll traced).2.draws.map Draw.value =
      traced.draws.map Draw.value ++
        (Source.drawAll (request.drawnTimes request.rolls.toNat) traced.source).1 := by
  rw [roll_eq_drawAll, Traced.map_value_drawAll]

theorem map_bounds_roll (request : Request) (traced : Traced σ) :
    (request.roll traced).2.draws.map Draw.bounds =
      traced.draws.map Draw.bounds ++ request.drawnTimes request.rolls.toNat := by
  rw [roll_eq_drawAll, Traced.map_bounds_drawAll]

theorem map_ends_drawnOnce (request : Request) :
    request.drawnOnce.map Bounds.ends =
      (1, 12) :: (1, request.hopeDie.sides) ::
        if request.rollType = .normal then [] else [(1, request.modifierDie.sides)] := by
  unfold drawnOnce
  cases request.rollType <;> rfl

end Request

section Texts

variable {allowed : UInt32} {text : Text} {request : Request}

theorem accepted?_eq_some_iff :
    accepted? allowed text = some request ↔
      Request.ofText? text = some request ∧ ¬allowed < request.rolls := by
  rw [accepted?, Option.filter_eq_some_iff, decide_eq_true_eq, UInt32.not_lt]

theorem accepted?_eq_none_iff : accepted? allowed text = none ↔ Refused allowed text := by
  rw [accepted?, Option.filter_eq_none_iff, Refused]
  cases Request.ofText? text with
  | none => simp
  | some request => simp [UInt32.not_le]

theorem map_bounds_reply (allowed : UInt32) (text : Text) (traced : Traced σ) :
    (reply allowed text traced).2.draws.map Draw.bounds =
      traced.draws.map Draw.bounds ++
        (accepted? allowed text).toList.flatMap fun request =>
          request.drawnTimes request.rolls.toNat := by
  cases haccepted : accepted? allowed text with
  | none =>
      rw [reply_of_refused (accepted?_eq_none_iff.mp haccepted)]
      simp
  | some request =>
      obtain ⟨hread, hlimit⟩ := accepted?_eq_some_iff.mp haccepted
      rw [reply_of_not_lt hread hlimit, Request.map_bounds_roll]
      simp

theorem isSome_reply (allowed : UInt32) (text : Text) (source : σ) :
    (reply allowed text source).1.isSome = (accepted? allowed text).isSome := by
  rw [Bool.eq_iff_iff, Option.isSome_iff_ne_none, Option.isSome_iff_ne_none, ne_eq, ne_eq,
    reply_eq_none_iff, accepted?_eq_none_iff]

theorem reply_traced (allowed : UInt32) (text : Text) (traced : Traced σ) :
    (reply allowed text traced).1 = (reply allowed text traced.source).1 ∧
      (reply allowed text traced).2.source = (reply allowed text traced.source).2 := by
  cases haccepted : accepted? allowed text with
  | none =>
      have hrefused := accepted?_eq_none_iff.mp haccepted
      rw [reply_of_refused hrefused, reply_of_refused hrefused]
      exact ⟨rfl, rfl⟩
  | some request =>
      obtain ⟨hread, hlimit⟩ := accepted?_eq_some_iff.mp haccepted
      obtain ⟨houtcomes, hsource⟩ := Request.roll_traced request traced
      rw [reply_of_not_lt hread hlimit, reply_of_not_lt hread hlimit, houtcomes]
      exact ⟨rfl, hsource⟩

theorem replyAll_cons (rest : List Text) (source : σ) :
    replyAll allowed (text :: rest) source =
      ((reply allowed text source).1 :: (replyAll allowed rest (reply allowed text source).2).1,
        (replyAll allowed rest (reply allowed text source).2).2) := rfl

theorem map_bounds_replyAll (allowed : UInt32) (texts : List Text) (traced : Traced σ) :
    (replyAll allowed texts traced).2.draws.map Draw.bounds =
      traced.draws.map Draw.bounds ++
        (texts.filterMap (accepted? allowed)).flatMap fun request =>
          request.drawnTimes request.rolls.toNat := by
  induction texts generalizing traced with
  | nil => simp [replyAll]
  | cons text rest ih =>
      rw [replyAll_cons, ih, map_bounds_reply, List.filterMap_cons]
      cases accepted? allowed text <;> simp

theorem replyAll_traced (allowed : UInt32) (texts : List Text) (traced : Traced σ) :
    replyAll allowed texts traced.source =
      ((replyAll allowed texts traced).1, (replyAll allowed texts traced).2.source) := by
  induction texts generalizing traced with
  | nil => rfl
  | cons text rest ih =>
      obtain ⟨hanswer, hsource⟩ := reply_traced allowed text traced
      rw [replyAll_cons, replyAll_cons, ← hsource, ih, hanswer]

theorem map_isSome_replyAll (allowed : UInt32) (texts : List Text) (source : σ) :
    (replyAll allowed texts source).1.map Option.isSome =
      texts.map fun text => (accepted? allowed text).isSome := by
  induction texts generalizing source with
  | nil => rfl
  | cons text rest ih => rw [replyAll_cons, List.map_cons, List.map_cons, ih, isSome_reply]

end Texts

/-- A roll draws two or three values for each repetition, within bounds that follow from the
request whatever is drawn, and each outcome is made of the values in its own place. Texts that
share a source draw what their requests need, one after another, and only those that get a
reply draw at all. -/
theorem each_draw_has_its_place (request : Request) (source : σ) :
    request.drawnOnce.map Bounds.ends =
      (1, 12) :: (1, request.hopeDie.sides) ::
        (if request.rollType = .normal then [] else [(1, request.modifierDie.sides)]) ∧
    (∃ outcomes traced,
      request.roll (Traced.mk source []) = (outcomes, traced) ∧
      request.roll source = (outcomes, traced.source) ∧
      traced.draws.map Draw.bounds =
        (List.replicate request.rolls.toNat request.drawnOnce).flatten ∧
      traced.draws.length =
        request.rolls.toNat * (if request.rollType = .normal then 2 else 3) ∧
      outcomes.length = request.rolls.toNat ∧
      ∀ j < request.rolls.toNat, ∃ outcome, outcomes[j]? = some outcome ∧
        request.MadeFrom (traced.draws.map Draw.value)
          (j * if request.rollType = .normal then 2 else 3) outcome) ∧
    ∀ (allowed : UInt32) (texts : List Text), ∃ answers traced,
      replyAll allowed texts (Traced.mk source []) = (answers, traced) ∧
      replyAll allowed texts source = (answers, traced.source) ∧
      answers.map Option.isSome = texts.map (fun text => (accepted? allowed text).isSome) ∧
      traced.draws.map Draw.bounds =
        (texts.filterMap (accepted? allowed)).flatMap fun accepted =>
          (List.replicate accepted.rolls.toNat accepted.drawnOnce).flatten := by
  refine ⟨request.map_ends_drawnOnce, ?_, ?_⟩
  · obtain ⟨houtcomes, hsource⟩ := Request.roll_traced request (Traced.mk source [])
    have hdraws : _ = 0 + _ := request.length_draws_roll (Traced.mk source [])
    have hvalues : _ = [] ++ _ := request.map_value_roll (Traced.mk source [])
    rw [Nat.zero_add] at hdraws
    rw [List.nil_append] at hvalues
    refine ⟨(request.roll (Traced.mk source [])).1, (request.roll (Traced.mk source [])).2, rfl,
      Prod.ext houtcomes.symm hsource.symm, request.map_bounds_roll (Traced.mk source []), hdraws,
      request.length_roll _, ?_⟩
    intro j hj
    rw [hvalues, houtcomes, ← Request.length_drawnOnce]
    exact request.exists_madeFrom_roll source hj
  · intro allowed texts
    exact ⟨_, _, rfl, replyAll_traced allowed texts (Traced.mk source []),
      map_isSome_replyAll allowed texts _, map_bounds_replyAll allowed texts _⟩

theorem scripted_draws_have_their_place :
    let source : Script := ⟨[3, 4294967295, 7, 5, 6, 2147483648], 0⟩
    let request : Request := ⟨2, .d20, .disadvantage, .d8, 1⟩
    ∃ outcome, (request.roll source).1[1]? = some outcome ∧ outcome.fearValue = 5 ∧
      outcome.hopeValue = 6 ∧ outcome.modifierValue.toInt = -2147483648 := by
  intro source request
  obtain ⟨_, ⟨outcomes, traced, htraced, hroll, _, _, _, hmade⟩, _⟩ :=
    each_draw_has_its_place request source
  obtain ⟨outcome, houtcome, hfrom⟩ := hmade 1 (by decide)
  have hvalues : traced.draws.map Draw.value = [3, 4294967295, 7, 5, 6, 2147483648] := by
    have hsecond : traced = (request.roll (Traced.mk source [])).2 := by rw [htraced]
    rw [hsecond]
    decide
  rw [hvalues] at hfrom
  obtain ⟨value, hvalue, hmodifier⟩ := hfrom.disadvantage rfl
  obtain rfl := Option.some.inj hvalue
  refine ⟨outcome, ?_, (Option.some.inj hfrom.fear).symm, (Option.some.inj hfrom.hope).symm, ?_⟩
  · rw [hroll]
    exact houtcome
  · rw [hmodifier]
    decide

end DualityDice
