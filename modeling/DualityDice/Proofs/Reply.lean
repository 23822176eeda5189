import DualityDice.Bot

namespace DualityDice

/-- Whether a text gets no reply: it is no roll, or asks for more rolls than are
allowed. -/
def Refused (allowed : UInt32) (text : Text) : Prop :=
  Request.ofText? text = none ∨
    ∃ request, Request.ofText? text = some request ∧ allowed < request.rolls

section

variable {σ : Type} [Source σ] {allowed : UInt32} {text : Text} {request : Request}

theorem reply_of_lt (hread : Request.ofText? text = some request)
    (hlimit : allowed < request.rolls) (source : σ) :
    reply allowed text source = (none, source) := by
  rw [reply, hread]
  simp only [Request.checkLimit, if_pos hlimit]

theorem reply_of_not_lt (hread : Request.ofText? text = some request)
    (hlimit : ¬allowed < request.rolls) (source : σ) :
    reply allowed text source =
      (some (Report.ofOutcomes (request.roll source).1), (request.roll source).2) := by
  rw [reply, hread]
  simp only [Request.checkLimit, if_neg hlimit]

theorem reply_of_refused (h : Refused allowed text) (source : σ) :
    reply allowed text source = (none, source) := by
  rcases h with hread | ⟨request, hread, hlimit⟩
  · rw [reply, hread]
  · exact reply_of_lt hread hlimit source

theorem exists_request_of_not_refused (h : ¬Refused allowed text) :
    ∃ request, Request.ofText? text = some request ∧ ¬allowed < request.rolls := by
  cases hread : Request.ofText? text with
  | none => exact absurd (.inl hread) h
  | some request =>
      refine ⟨request, rfl, ?_⟩
      intro hlimit
      exact h (.inr ⟨request, hread, hlimit⟩)

theorem reply_eq_none_iff (source : σ) :
    (reply allowed text source).1 = none ↔ Refused allowed text := by
  constructor
  · intro hnone
    apply Classical.byContradiction
    intro h
    obtain ⟨request, hread, hlimit⟩ := exists_request_of_not_refused h
    rw [reply_of_not_lt hread hlimit] at hnone
    contradiction
  · intro h
    rw [reply_of_refused h]

theorem exists_request_of_reply_eq_some {answer : Text} {source : σ}
    (h : (reply allowed text source).1 = some answer) :
    ∃ request, Request.ofText? text = some request ∧ ¬allowed < request.rolls ∧
      answer = Report.ofOutcomes (request.roll source).1 := by
  have hanswered : ¬Refused allowed text := by
    rw [← reply_eq_none_iff source, h]
    exact Option.some_ne_none answer
  obtain ⟨request, hread, hlimit⟩ := exists_request_of_not_refused hanswered
  rw [reply_of_not_lt hread hlimit] at h
  exact ⟨request, hread, hlimit, (Option.some.inj h).symm⟩

end

end DualityDice
