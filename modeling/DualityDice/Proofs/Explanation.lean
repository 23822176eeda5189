import DualityDice.Program
import DualityDice.Proofs.Spelling.Canonical

namespace DualityDice

theorem Text.eq_of_append_cons_eq {mark : Char} {before behind other last : Text}
    (h : before ++ mark :: behind = other ++ mark :: last) (hbehind : mark ∉ behind)
    (hlast : mark ∉ last) : behind = last := by
  have hfirst : splitFirst mark (before ++ mark :: behind).reverse =
      some (behind.reverse, before.reverse) :=
    splitFirst_eq_some_iff.mpr ⟨by simp, by simpa using hbehind⟩
  have hsecond : splitFirst mark (other ++ mark :: last).reverse =
      some (last.reverse, other.reverse) :=
    splitFirst_eq_some_iff.mpr ⟨by simp, by simpa using hlast⟩
  rw [h, hsecond, Option.some.injEq, Prod.mk.injEq] at hfirst
  exact (List.reverse_inj.mp hfirst.1).symm

theorem Request.notMem_canonical {request : Request} {c : Char} (h : ¬Text.IsPlain c) :
    c ∉ request.canonical :=
  fun hmem => h (isPlain_of_mem_canonical hmem)

namespace Explanation

def heading (request : Request) : Text :=
  Text.joinLines (grid request).lines ++ "\n\n  Canonical notation: ".toList

theorem ofRequest_eq (request : Request) :
    ofRequest request = heading request ++ request.canonical ++ ['\n'] := rfl

theorem exists_heading_eq (request : Request) : ∃ start, heading request = start ++ [' '] :=
  ⟨Text.joinLines (grid request).lines ++ "\n\n  Canonical notation:".toList, by
    rw [heading, List.append_assoc]
    rfl⟩

theorem canonical_eq_of_ofRequest_eq {first second : Request}
    (h : ofRequest first = ofRequest second) : first.canonical = second.canonical := by
  obtain ⟨start, hstart⟩ := exists_heading_eq first
  obtain ⟨other, hother⟩ := exists_heading_eq second
  have hspace : ∀ request : Request, ' ' ∉ request.canonical ++ ['\n'] := by
    intro request hmem
    rcases List.mem_append.mp hmem with hmem | hmem
    · exact Request.notMem_canonical (by decide) hmem
    · exact absurd hmem (by decide)
  rw [ofRequest_eq, ofRequest_eq, hstart, hother] at h
  simp only [List.append_assoc, List.singleton_append] at h
  exact List.append_cancel_right (Text.eq_of_append_cons_eq h (hspace first) (hspace second))

theorem ofRequest_inj {first second : Request} (hfirst : ∃ text, Request.ofText? text = some first)
    (hsecond : ∃ text, Request.ofText? text = some second) :
    ofRequest first = ofRequest second ↔ first = second := by
  constructor
  · intro h
    obtain ⟨text, htext⟩ := hfirst
    obtain ⟨other, hother⟩ := hsecond
    have hread := Request.ofText?_canonical_of_ofText? htext
    rw [canonical_eq_of_ofRequest_eq h, Request.ofText?_canonical_of_ofText? hother] at hread
    exact (Option.some.inj hread).symm
  · rintro rfl
    rfl

end Explanation

namespace Program

section

variable (surroundings : Surroundings) (settings : Settings) {spelling : Text}

theorem perform_explain_of_some {request : Request} (h : Request.ofText? spelling = some request) :
    perform surroundings settings (.explain spelling) =
      ⟨0, Explanation.ofRequest request, []⟩ := by
  rw [perform, Explanation.run, Request.read, h]
  rfl

theorem perform_explain_of_none (h : Request.ofText? spelling = none) :
    perform surroundings settings (.explain spelling) =
      ⟨1, [], complaintOf (.notARoll spelling.trim)⟩ := by
  rw [perform, Explanation.run, Request.read, h]
  rfl

theorem status_perform_explain_eq_zero_iff :
    (perform surroundings settings (.explain spelling)).status = 0 ↔
      ∃ request, Request.ofText? spelling = some request := by
  cases h : Request.ofText? spelling with
  | none =>
      rw [perform_explain_of_none surroundings settings h]
      simp
  | some request =>
      rw [perform_explain_of_some surroundings settings h]
      simp

end

end Program

end DualityDice
