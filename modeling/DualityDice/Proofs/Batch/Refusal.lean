import Mathlib.Algebra.Ring.Nat
import DualityDice.Program
import DualityDice.Proofs.Answer
import DualityDice.Proofs.Batch

namespace DualityDice

inductive RefusedWith (allowed : UInt32) (spelling : Text) : Error → Prop where
  | notARoll (hread : Request.ofText? spelling = none) :
      RefusedWith allowed spelling (.notARoll spelling.trim)
  | tooManyRolls {request : Request} (hread : Request.ofText? spelling = some request)
      (hlimit : allowed < request.rolls) :
      RefusedWith allowed spelling (.tooManyRolls request.rolls allowed)

section

variable {allowed : UInt32} {spelling : Text}

theorem Refused.exists_error (h : Refused allowed spelling) :
    ∃ error, RefusedWith allowed spelling error := by
  rcases h with hread | ⟨request, hread, hlimit⟩
  · exact ⟨_, .notARoll hread⟩
  · exact ⟨_, .tooManyRolls hread hlimit⟩

theorem exists_accepts_of_not_refused (h : ¬Refused allowed spelling) :
    ∃ request, Accepts allowed spelling request := by
  obtain ⟨request, hread, hlimit⟩ := exists_request_of_not_refused h
  exact ⟨request, hread, UInt32.not_lt.mp hlimit⟩

theorem Accepts.not_refused {request : Request} (h : Accepts allowed spelling request) :
    ¬Refused allowed spelling := by
  rintro (hnone | ⟨other, hother, hlimit⟩)
  · rw [h.1] at hnone
    contradiction
  · obtain rfl := Option.some.inj (h.1.symm.trans hother)
    exact absurd hlimit (UInt32.not_lt.mpr h.2)

end

namespace Batch

section Reading

variable {allowed : UInt32}

theorem readOne_of_refusedWith {spelling : Text} {error : Error}
    (h : RefusedWith allowed spelling error) : readOne allowed spelling = .error error := by
  cases h with
  | notARoll hread =>
      rw [readOne, Request.read, hread]
      rfl
  | tooManyRolls hread hlimit =>
      rw [readOne, Request.read, hread]
      change (Request.checkLimit _ allowed >>= _) = _
      rw [Request.checkLimit, if_pos hlimit]
      rfl

/-- The texts before the first refused one are read, and those behind it are not
looked at. -/
theorem read_of_first_refused {before after : List Text} {spelling : Text} {error : Error}
    (hbefore : ∀ earlier ∈ before, ¬Refused allowed earlier)
    (h : RefusedWith allowed spelling error) :
    read allowed (before ++ spelling :: after) = .error error := by
  induction before with
  | nil =>
      rw [List.nil_append, read_cons, readOne_of_refusedWith h]
      rfl
  | cons earlier before ih =>
      obtain ⟨request, haccepts⟩ := exists_accepts_of_not_refused (hbefore earlier List.mem_cons_self)
      have hrest := ih fun other hother => hbefore other (List.mem_cons_of_mem earlier hother)
      rw [List.cons_append, read_cons, readOne_eq_ok_iff.mpr haccepts, hrest]
      rfl

theorem exists_first_refused {spellings : List Text}
    (h : ∃ spelling ∈ spellings, Refused allowed spelling) :
    ∃ before spelling after error, spellings = before ++ spelling :: after ∧
      (∀ earlier ∈ before, ¬Refused allowed earlier) ∧ RefusedWith allowed spelling error := by
  induction spellings with
  | nil =>
      obtain ⟨_, hmem, _⟩ := h
      contradiction
  | cons first rest ih =>
      by_cases hfirst : Refused allowed first
      · obtain ⟨error, herror⟩ := hfirst.exists_error
        exact ⟨[], first, rest, error, rfl, by simp, herror⟩
      · obtain ⟨spelling, hmem, hrefused⟩ := h
        have hrest : spelling ∈ rest := by
          rcases List.mem_cons.mp hmem with rfl | hrest
          · contradiction
          · exact hrest
        obtain ⟨before, found, after, error, rfl, hbefore, herror⟩ := ih ⟨spelling, hrest, hrefused⟩
        refine ⟨first :: before, found, after, error, rfl, ?_, herror⟩
        rintro earlier hearlier
        rcases List.mem_cons.mp hearlier with rfl | hearlier
        · exact hfirst
        · exact hbefore earlier hearlier

end Reading

section Lines

def HasLineForEachRoll (request : Request) (block : Text) : Prop :=
  (block.splitAll '\n').length = request.rolls.toNat

variable {σ : Type} [Source σ] {allowed : UInt32}

theorem hasLineForEachRoll_reports {spellings : List Text} {requests : List Request}
    (h : List.Forall₂ (Accepts allowed) spellings requests) (source : σ) :
    List.Forall₂ HasLineForEachRoll requests (reports requests source) := by
  induction h generalizing source with
  | nil => exact .nil
  | cons hfirst _ ih =>
      rw [reports_cons]
      exact .cons (length_splitAll_report hfirst.1 source) (ih _)

theorem count_lineFeed_blocks {requests : List Request} {blocks : List Text}
    (h : List.Forall₂ HasLineForEachRoll requests blocks) :
    (blocks.flatMap fun block => block ++ ['\n']).count '\n' =
      (requests.map fun request => request.rolls.toNat).sum := by
  induction h with
  | nil => rfl
  | cons hblock _ ih =>
      rw [HasLineForEachRoll, Text.length_splitAll] at hblock
      rw [List.flatMap_cons, List.count_append, List.count_append, ih, List.map_cons,
        List.sum_cons, List.count_singleton_self, hblock]

end Lines

end Batch

namespace Program

section

variable {surroundings : Surroundings} {settings : Settings} {spellings : List Text}
  {asJson : Bool}

theorem perform_roll_of_error {error : Error}
    (h : Batch.run settings spellings asJson surroundings.key = .error error) :
    perform surroundings settings (.roll spellings asJson) =
      ⟨statusOf error, [], complaintOf error⟩ := by
  rw [perform, h]
  rfl

theorem perform_roll_of_ok {printed : Text}
    (h : Batch.run settings spellings asJson surroundings.key = .ok printed) :
    perform surroundings settings (.roll spellings asJson) = ⟨0, printed, []⟩ := by
  rw [perform, h]
  rfl

end

theorem statusOf_of_refusedWith {allowed : UInt32} {spelling : Text} {error : Error}
    (h : RefusedWith allowed spelling error) : statusOf error = 1 := by
  cases h <;> rfl

/-- A batch with a refused text prints nothing, complains of the first such text alone and
makes no source. A batch without one ends well, and in plain text prints a block for each text
with a line for each of its rolls. -/
theorem roll_all_or_nothing (surroundings : Surroundings) (settings : Settings)
    (spellings : List Text) (asJson : Bool) :
    (∀ before spelling after error, spellings = before ++ spelling :: after →
      (∀ earlier ∈ before, ¬Refused settings.maxRolls earlier) →
      RefusedWith settings.maxRolls spelling error →
        perform surroundings settings (.roll spellings asJson) = ⟨1, [], complaintOf error⟩ ∧
        (∀ seed key, Batch.run { settings with seed } spellings asJson key = .error error) ∧
        ∀ (σ : Type) [Source σ] (make : Unit → σ),
          Batch.runOver make settings.maxRolls spellings asJson = (.error error, none)) ∧
    ((∃ spelling ∈ spellings, Refused settings.maxRolls spelling) →
      ∃ before spelling after error, spellings = before ++ spelling :: after ∧
        (∀ earlier ∈ before, ¬Refused settings.maxRolls earlier) ∧
        RefusedWith settings.maxRolls spelling error) ∧
    ((∀ spelling ∈ spellings, ¬Refused settings.maxRolls spelling) →
      ∃ requests printed, List.Forall₂ (Accepts settings.maxRolls) spellings requests ∧
        perform surroundings settings (.roll spellings asJson) = ⟨0, printed, []⟩ ∧
        (asJson = false → ∃ blocks : List Text,
          printed = (blocks.flatMap fun block => block ++ ['\n']) ∧
          List.Forall₂ Batch.HasLineForEachRoll requests blocks ∧
          printed.count '\n' = (requests.map fun request => request.rolls.toNat).sum)) ∧
    Batch.run settings spellings asJson surroundings.key =
      (Batch.runOver (fun _ => Generator.start settings.seed surroundings.key)
        settings.maxRolls spellings asJson).1 := by
  refine ⟨?_, Batch.exists_first_refused, ?_, rfl⟩
  · rintro before spelling after error rfl hbefore hrefused
    have hread : Batch.read settings.maxRolls (before ++ spelling :: after) = .error error :=
      Batch.read_of_first_refused hbefore hrefused
    refine ⟨?_, fun seed key => ?_, fun σ _ make => ?_⟩
    · rw [perform_roll_of_error (Batch.run_of_read_error hread asJson _),
        statusOf_of_refusedWith hrefused]
    · have hother : Batch.read { settings with seed }.maxRolls (before ++ spelling :: after) =
          .error error := hread
      exact Batch.run_of_read_error hother asJson key
    · exact Batch.runOver_of_read_error make hread asJson
  · intro haccepted
    obtain ⟨requests, hread⟩ :=
      Batch.exists_read_eq_ok fun spelling h => exists_accepts_of_not_refused (haccepted spelling h)
    have haccepts := Batch.read_eq_ok_iff.mp hread
    refine ⟨requests, _, haccepts,
      perform_roll_of_ok (Batch.run_of_read_ok hread asJson surroundings.key), ?_⟩
    rintro rfl
    have hblocks := Batch.hasLineForEachRoll_reports haccepts
      (Generator.start settings.seed surroundings.key)
    have hcount := Batch.count_lineFeed_blocks hblocks
    rw [← Batch.report_roll] at hcount
    exact ⟨_, Batch.report_roll _ _, hblocks, hcount⟩

theorem roll_refuses_third_of_four :
    let surroundings : Surroundings := ⟨⟨[], fun _ => none⟩, [], [], Vector.replicate 8 0⟩
    (∀ asJson, perform surroundings .standard
        (.roll ["dd".toList, "100#dd".toList, "101#DD".toList, "dd+".toList] asJson) =
      ⟨1, [], "error: too many rolls: 101 (max 100)\n".toList⟩) ∧
    ∃ printed, perform surroundings .standard
        (.roll ["2#dd".toList, "3#ddv".toList] false) = ⟨0, printed, []⟩ ∧
      printed.count '\n' = 5 := by
  intro surroundings
  constructor
  · intro asJson
    have hbefore : ∀ earlier ∈ ["dd".toList, "100#dd".toList],
        ¬Refused Settings.standard.maxRolls earlier := by
      intro earlier hearlier
      rcases List.mem_pair.mp hearlier with rfl | rfl
      · have haccepts : Accepts 100 "dd".toList .plain := ⟨by decide +kernel, by decide⟩
        exact haccepts.not_refused
      · have haccepts : Accepts 100 "100#dd".toList { rolls := 100 } :=
          ⟨by decide +kernel, by decide⟩
        exact haccepts.not_refused
    have hread : Request.ofText? "101#DD".toList = some { rolls := 101 } := by
      decide +kernel
    have hrefused : RefusedWith Settings.standard.maxRolls "101#DD".toList
        (.tooManyRolls 101 100) :=
      .tooManyRolls hread (by decide)
    have hmessage : complaintOf (.tooManyRolls 101 100) =
        "error: too many rolls: 101 (max 100)\n".toList := by
      decide +kernel
    rw [← hmessage]
    exact ((roll_all_or_nothing surroundings .standard _ asJson).1 _ _ ["dd+".toList] _ rfl
      hbefore hrefused).1
  · have hread : Batch.read Settings.standard.maxRolls ["2#dd".toList, "3#ddv".toList] =
        .ok [{ rolls := 2 }, { rolls := 3, rollType := .advantage }] := by
      decide +kernel
    have haccepted : ∀ spelling ∈ ["2#dd".toList, "3#ddv".toList],
        ¬Refused Settings.standard.maxRolls spelling := by
      intro spelling hspelling
      rcases List.mem_pair.mp hspelling with rfl | rfl
      · have haccepts : Accepts 100 "2#dd".toList { rolls := 2 } :=
          ⟨by decide +kernel, by decide⟩
        exact haccepts.not_refused
      · have haccepts : Accepts 100 "3#ddv".toList { rolls := 3, rollType := .advantage } :=
          ⟨by decide +kernel, by decide⟩
        exact haccepts.not_refused
    obtain ⟨requests, printed, haccepts, hperform, hlines⟩ :=
      (roll_all_or_nothing surroundings .standard _ false).2.2.1 haccepted
    obtain ⟨_, _, _, hcount⟩ := hlines rfl
    obtain rfl := Except.ok.inj (hread.symm.trans (Batch.read_eq_ok_iff.mpr haccepts))
    exact ⟨printed, hperform, hcount⟩

end Program

end DualityDice
