import DualityDice.Proofs.Draws
import DualityDice.Proofs.Reply
import DualityDice.Proofs.Report.Lines
import DualityDice.Proofs.Spelling.Reading
import DualityDice.Random.Script

namespace DualityDice

variable {σ : Type} [Source σ]

namespace Request

theorem length_roll (request : Request) (source : σ) :
    (request.roll source).1.length = request.rolls.toNat :=
  length_rollTimes request request.rolls.toNat source

theorem roll_eq_drawAll (request : Request) (source : σ) :
    request.roll source =
      (request.outcomesOf request.rolls.toNat
          (Source.drawAll (request.drawnTimes request.rolls.toNat) source).1,
        (Source.drawAll (request.drawnTimes request.rolls.toNat) source).2) :=
  rollTimes_eq_drawAll request request.rolls.toNat source

theorem roll_traced (request : Request) (traced : Traced σ) :
    (request.roll traced).1 = (request.roll traced.source).1 ∧
      (request.roll traced).2.source = (request.roll traced.source).2 := by
  obtain ⟨hvalues, hsource⟩ :=
    Traced.drawAll_eq (request.drawnTimes request.rolls.toNat) traced
  simp only [roll_eq_drawAll]
  exact ⟨by rw [hvalues], hsource⟩

theorem length_draws_roll (request : Request) (traced : Traced σ) :
    (request.roll traced).2.draws.length =
      traced.draws.length +
        request.rolls.toNat * if request.rollType = .normal then 2 else 3 := by
  rw [roll_eq_drawAll, Traced.length_draws_drawAll, length_drawnTimes]

theorem roll_ne_nil {text : Text} {request : Request}
    (hread : ofText? text = some request) (source : σ) : (request.roll source).1 ≠ [] := by
  have hrolls := (Spelling.ofText?_eq_some_iff.mp hread).rolls_ne_zero
  intro hnil
  have hlength := length_roll request source
  rw [hnil, List.length_nil] at hlength
  exact Numeral.toNat_ne_zero_iff.mpr hrolls hlength.symm

end Request

variable {allowed : UInt32} {text : Text} {request : Request}

theorem length_splitAll_report (hread : Request.ofText? text = some request) (source : σ) :
    ((Report.ofOutcomes (request.roll source).1).splitAll '\n').length =
      request.rolls.toNat := by
  rw [Report.length_splitAll_ofOutcomes (Request.roll_ne_nil hread source),
    Request.length_roll]

theorem draws_le_of_rolls_le (h : request.rolls ≤ allowed) :
    (request.rolls.toNat * if request.rollType = .normal then 2 else 3) ≤
      3 * allowed.toNat := by
  have hrolls : request.rolls.toNat ≤ allowed.toNat := UInt32.le_iff_toNat_le.mp h
  split <;> omega

theorem reply_of_limit_le {more : UInt32} {answer : Text} {source : σ}
    (hanswer : (reply allowed text source).1 = some answer) (hmore : allowed ≤ more) :
    reply more text source = reply allowed text source := by
  obtain ⟨request, hread, hlimit, _⟩ := exists_request_of_reply_eq_some hanswer
  have hlimit' : ¬more < request.rolls :=
    UInt32.not_lt.mpr (UInt32.le_trans (UInt32.not_lt.mp hlimit) hmore)
  rw [reply_of_not_lt hread hlimit, reply_of_not_lt hread hlimit']

/-- A text gets no reply just when it is no roll or asks for more rolls than are allowed, and
then nothing is drawn. Otherwise the reply has a line for each roll, and as many values are
drawn as its rolls need. A greater limit changes no answer. -/
theorem refuses_or_answers_completely (allowed : UInt32) (text : Text) (source : σ) :
    ((reply allowed text source).1 = none ↔
      Request.ofText? text = none ∨
        ∃ request, Request.ofText? text = some request ∧ allowed < request.rolls) ∧
    ((reply allowed text source).1 = none →
      (reply allowed text source).2 = source ∧
        reply allowed text (Traced.mk source []) = (none, Traced.mk source [])) ∧
    (∀ request, Request.ofText? text = some request → request.rolls ≤ allowed →
      ∃ answer traced,
        reply allowed text (Traced.mk source []) = (some answer, traced) ∧
        reply allowed text source = (some answer, traced.source) ∧
        (answer.splitAll '\n').length = request.rolls.toNat ∧
        traced.draws.length =
          (request.rolls.toNat * if request.rollType = .normal then 2 else 3) ∧
        traced.draws.length ≤ 3 * allowed.toNat) ∧
    (∀ answer more, (reply allowed text source).1 = some answer → allowed ≤ more →
      reply more text source = reply allowed text source) := by
  refine ⟨reply_eq_none_iff source, ?_, ?_, ?_⟩
  · intro hnone
    have hrefused : Refused allowed text := (reply_eq_none_iff source).mp hnone
    rw [reply_of_refused hrefused, reply_of_refused hrefused]
    exact ⟨rfl, rfl⟩
  · intro request hread hrolls
    have hlimit : ¬allowed < request.rolls := UInt32.not_lt.mpr hrolls
    obtain ⟨houtcomes, hsource⟩ := Request.roll_traced request (Traced.mk source [])
    have hdraws := Request.length_draws_roll request (Traced.mk source [])
    rw [show (Traced.mk source []).draws = [] from rfl, List.length_nil, Nat.zero_add]
      at hdraws
    refine ⟨Report.ofOutcomes (request.roll source).1,
      (request.roll (Traced.mk source [])).2, ?_, ?_, length_splitAll_report hread source,
      hdraws, ?_⟩
    · rw [reply_of_not_lt hread hlimit, houtcomes]
    · rw [reply_of_not_lt hread hlimit, hsource]
    · rw [hdraws]
      exact draws_le_of_rolls_le hrolls
  · intro answer more hanswer hmore
    exact reply_of_limit_le hanswer hmore

theorem answers_from_unbounded_script :
    let source : Script := ⟨[4294967295, 7, 0], 0⟩
    let text := "2#dd20vv".toList
    reply 1 text source = (none, source) ∧
      (∃ answer traced,
        reply 2 text (Traced.mk source []) = (some answer, traced) ∧
        reply 2 text source = (some answer, traced.source) ∧
        (answer.splitAll '\n').length = 2 ∧ traced.draws.length = 6 ∧
        traced.draws.length ≤ 3 * 2) ∧
      reply 3 text source = reply 2 text source := by
  intro source text
  have hread : Request.ofText? text = some ⟨2, .d20, .advantage, .d8, 0⟩ := by
    decide +kernel
  have hnone : (reply 1 text source).1 = none :=
    (refuses_or_answers_completely 1 text source).1.mpr (.inr ⟨_, hread, by decide⟩)
  obtain ⟨_, hrefused, _, _⟩ := refuses_or_answers_completely 1 text source
  obtain ⟨_, _, hanswered, hmore⟩ := refuses_or_answers_completely 2 text source
  obtain ⟨answer, traced, htraced, hreply, hlines, hdraws, hbound⟩ :=
    hanswered _ hread (by decide)
  refine ⟨?_, ⟨answer, traced, htraced, hreply, hlines, hdraws, hbound⟩, ?_⟩
  · exact Prod.ext hnone (hrefused hnone).1
  · exact hmore answer 3 (by rw [hreply]) (by decide)

end DualityDice
