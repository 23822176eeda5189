import Mathlib.Data.List.Forall2
import DualityDice.Batch
import DualityDice.Proofs.Reply

namespace DualityDice

/-- Whether a text is read as a request that keeps to the limit. -/
def Accepts (allowed : UInt32) (spelling : Text) (request : Request) : Prop :=
  Request.ofText? spelling = some request ∧ request.rolls ≤ allowed

theorem reply_of_accepts {σ : Type} [Source σ] {allowed : UInt32} {spelling : Text}
    {request : Request} (h : Accepts allowed spelling request) (source : σ) :
    reply allowed spelling source =
      (some (Report.ofOutcomes (request.roll source).1), (request.roll source).2) :=
  reply_of_not_lt h.1 (UInt32.not_lt.mpr h.2) source

theorem Generator.start_of_seed {chosen : Option UInt64} {seed : UInt64}
    (h : chosen = some seed) (fallback : ChaCha.Key) : start chosen fallback = ofSeed seed := by
  rw [h]
  rfl

namespace Batch

section Reading

variable {allowed : UInt32}

theorem readOne_eq_ok_iff {spelling : Text} {request : Request} :
    readOne allowed spelling = .ok request ↔ Accepts allowed spelling request := by
  unfold readOne Request.read Accepts
  cases hread : Request.ofText? spelling with
  | none =>
      constructor
      · intro h
        cases h
      · rintro ⟨h, _⟩
        cases h
  | some found =>
      rw [Option.some.injEq]
      change (found.checkLimit allowed >>= fun _ => .ok found) = .ok request ↔ _
      unfold Request.checkLimit
      split
      · rename_i hlimit
        constructor
        · intro h
          cases h
        · rintro ⟨rfl, hrolls⟩
          exact absurd hlimit (UInt32.not_lt.mpr hrolls)
      · rename_i hlimit
        constructor
        · intro h
          obtain rfl := Except.ok.inj h
          exact ⟨rfl, UInt32.not_lt.mp hlimit⟩
        · rintro ⟨rfl, _⟩
          rfl

theorem read_cons (spelling : Text) (rest : List Text) :
    read allowed (spelling :: rest) =
      (readOne allowed spelling).bind fun request =>
        (read allowed rest).map fun requests => request :: requests := by
  rw [read]
  cases readOne allowed spelling with
  | error _ => rfl
  | ok request => cases read allowed rest <;> rfl

theorem read_eq_ok_iff {spellings : List Text} {requests : List Request} :
    read allowed spellings = .ok requests ↔
      List.Forall₂ (Accepts allowed) spellings requests := by
  induction spellings generalizing requests with
  | nil =>
      rw [List.forall₂_nil_left_iff, read, Except.ok.injEq]
      exact eq_comm
  | cons spelling rest ih =>
      rw [List.forall₂_cons_left_iff, read_cons]
      constructor
      · intro h
        cases hfirst : readOne allowed spelling with
        | error _ =>
            rw [hfirst] at h
            cases h
        | ok request =>
            rw [hfirst] at h
            cases hrest : read allowed rest with
            | error _ =>
                rw [hrest] at h
                cases h
            | ok others =>
                rw [hrest] at h
                exact ⟨request, others, readOne_eq_ok_iff.mp hfirst, ih.mp hrest,
                  (Except.ok.inj h).symm⟩
      · rintro ⟨request, others, hfirst, hrest, rfl⟩
        rw [readOne_eq_ok_iff.mpr hfirst, ih.mpr hrest]
        rfl

theorem exists_spelling_of_read {spellings : List Text} {requests : List Request}
    (h : read allowed spellings = .ok requests) {request : Request} (hmem : request ∈ requests) :
    ∃ spelling ∈ spellings, Accepts allowed spelling request := by
  rw [read_eq_ok_iff] at h
  induction h with
  | nil => contradiction
  | cons hfirst _ ih =>
      rcases List.mem_cons.mp hmem with rfl | hrest
      · exact ⟨_, List.mem_cons_self, hfirst⟩
      · obtain ⟨spelling, hspelling, haccepts⟩ := ih hrest
        exact ⟨spelling, List.mem_cons_of_mem _ hspelling, haccepts⟩

theorem exists_read_eq_ok {spellings : List Text}
    (h : ∀ spelling ∈ spellings, ∃ request, Accepts allowed spelling request) :
    ∃ requests, read allowed spellings = .ok requests := by
  induction spellings with
  | nil => exact ⟨[], rfl⟩
  | cons spelling rest ih =>
      obtain ⟨request, hfirst⟩ := h spelling List.mem_cons_self
      obtain ⟨requests, hrest⟩ :=
        ih fun other hother => h other (List.mem_cons_of_mem spelling hother)
      exact ⟨request :: requests, read_eq_ok_iff.mpr (.cons hfirst (read_eq_ok_iff.mp hrest))⟩

end Reading

section Rolling

variable {σ : Type} [Source σ]

theorem roll_cons (request : Request) (rest : List Request) (source : σ) :
    roll (request :: rest) source =
      (⟨request, (request.roll source).1⟩ :: (roll rest (request.roll source).2).1,
        (roll rest (request.roll source).2).2) := rfl

theorem map_request_roll (requests : List Request) (source : σ) :
    (roll requests source).1.map Entry.request = requests := by
  induction requests generalizing source with
  | nil => rfl
  | cons request rest ih => rw [roll_cons, List.map_cons, ih]

theorem length_roll (requests : List Request) (source : σ) :
    (roll requests source).1.length = requests.length := by
  rw [← List.length_map Entry.request, map_request_roll]

theorem exists_roll_of_mem {requests : List Request} {source : σ} {entry : Entry}
    (h : entry ∈ (roll requests source).1) :
    entry.request ∈ requests ∧ ∃ state : σ, entry.outcomes = (entry.request.roll state).1 := by
  induction requests generalizing source with
  | nil => contradiction
  | cons request rest ih =>
      rw [roll_cons] at h
      rcases List.mem_cons.mp h with rfl | hrest
      · exact ⟨List.mem_cons_self, source, rfl⟩
      · obtain ⟨hmem, hstate⟩ := ih hrest
        exact ⟨List.mem_cons_of_mem request hmem, hstate⟩

def reports (requests : List Request) (source : σ) : List Text :=
  (roll requests source).1.map fun entry => Report.ofOutcomes entry.outcomes

theorem reports_cons (request : Request) (rest : List Request) (source : σ) :
    reports (request :: rest) source =
      Report.ofOutcomes (request.roll source).1 :: reports rest (request.roll source).2 := rfl

theorem length_reports (requests : List Request) (source : σ) :
    (reports requests source).length = requests.length := by
  rw [reports, List.length_map, length_roll]

theorem report_roll (requests : List Request) (source : σ) :
    report (roll requests source).1 =
      (reports requests source).flatMap fun text => text ++ ['\n'] := by
  rw [report, reports, List.flatMap_map]

end Rolling

section Running

variable {spellings : List Text}

theorem runOver_of_read_ok {σ : Type} [Source σ] {allowed : UInt32} {requests : List Request}
    (make : Unit → σ) (h : read allowed spellings = .ok requests) (asJson : Bool) :
    runOver make allowed spellings asJson =
      (.ok (if asJson then (toJson (roll requests (make ())).1).pretty ++ ['\n']
        else report (roll requests (make ())).1), some (roll requests (make ())).2) := by
  rw [runOver, h]

theorem runOver_of_read_error {σ : Type} [Source σ] {allowed : UInt32} {error : Error}
    (make : Unit → σ) (h : read allowed spellings = .error error) (asJson : Bool) :
    runOver make allowed spellings asJson = (.error error, none) := by
  rw [runOver, h]

theorem runOver_congr {σ : Type} [Source σ] {allowed : UInt32} {others : List Text}
    (make : Unit → σ) (h : read allowed others = read allowed spellings) (asJson : Bool) :
    runOver make allowed others asJson = runOver make allowed spellings asJson := by
  rw [runOver, runOver, h]

variable {settings : Settings}

theorem run_of_read_ok {requests : List Request}
    (h : read settings.maxRolls spellings = .ok requests) (asJson : Bool)
    (fallback : ChaCha.Key) :
    run settings spellings asJson fallback =
      .ok (if asJson then
          (toJson (roll requests (Generator.start settings.seed fallback)).1).pretty ++ ['\n']
        else report (roll requests (Generator.start settings.seed fallback)).1) := by
  rw [run, runOver_of_read_ok _ h]

theorem run_of_read_error {error : Error}
    (h : read settings.maxRolls spellings = .error error) (asJson : Bool)
    (fallback : ChaCha.Key) : run settings spellings asJson fallback = .error error := by
  rw [run, runOver_of_read_error _ h]

end Running

end Batch

end DualityDice
