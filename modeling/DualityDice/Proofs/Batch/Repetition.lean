import Mathlib.Algebra.Order.BigOperators.Group.List
import Mathlib.Algebra.Order.Group.Nat
import DualityDice.Proofs.Batch.Refusal
import DualityDice.Proofs.Spelling.Canonical

/-!
Asking for several rolls at once is asking for them one after another: the outcomes and the
source are the same, and the reports differ in nothing but the numbers of their lines.
-/

namespace DualityDice

namespace Request

/-- Whether requests ask for the rolls of one request in parts: they differ from it in their
numbers of rolls alone, which add up to its own. -/
def SplitsInto (request : Request) (parts : List Request) : Prop :=
  ∃ counts : List UInt32, parts = counts.map (fun rolls => { request with rolls }) ∧
    (counts.map UInt32.toNat).sum = request.rolls.toNat

def singles (request : Request) : List Request :=
  List.replicate request.rolls.toNat { request with rolls := 1 }

section Parts

variable {request : Request} {parts : List Request}

theorem splitsInto_singles (request : Request) : request.SplitsInto request.singles := by
  refine ⟨List.replicate request.rolls.toNat 1, ?_, ?_⟩
  · rw [List.map_replicate, singles]
  · rw [List.map_replicate, List.sum_replicate_nat, UInt32.toNat_one, Nat.mul_one]

theorem rolls_of_mem_singles {single : Request} (h : single ∈ request.singles) :
    single.rolls = 1 := by
  rw [List.eq_of_mem_replicate h]

theorem ofText?_canonical_of_mem_singles {text : Text} (hread : ofText? text = some request)
    {single : Request} (h : single ∈ request.singles) :
    ofText? single.canonical = some single := by
  have hone : (1 : UInt32) ≤ 1 := UInt32.le_refl 1
  rw [List.eq_of_mem_replicate h]
  exact ofText?_canonical_of_meaningful hone (meaningful_of_ofText? hread).2

theorem SplitsInto.sum_rolls (h : request.SplitsInto parts) :
    (parts.map fun part => part.rolls.toNat).sum = request.rolls.toNat := by
  obtain ⟨counts, rfl, hsum⟩ := h
  rw [List.map_map]
  exact hsum

theorem SplitsInto.rolls_le (h : request.SplitsInto parts) {part : Request}
    (hpart : part ∈ parts) : part.rolls ≤ request.rolls := by
  rw [UInt32.le_iff_toNat_le, ← h.sum_rolls]
  exact List.le_sum_of_mem (List.mem_map_of_mem hpart)

end Parts

section Times

variable {σ : Type} [Source σ]

theorem rollTimes_add (request : Request) (m n : Nat) (source : σ) :
    request.rollTimes (m + n) source =
      ((request.rollTimes m source).1 ++ (request.rollTimes n (request.rollTimes m source).2).1,
        (request.rollTimes n (request.rollTimes m source).2).2) := by
  induction m generalizing source with
  | zero =>
      rw [Nat.zero_add]
      rfl
  | succ m ih => rw [Nat.succ_add, rollTimes_succ, ih, rollTimes_succ, List.cons_append]

theorem rollTimes_of_rolls (request : Request) (rolls : UInt32) (n : Nat) (source : σ) :
    { request with rolls }.rollTimes n source = request.rollTimes n source := by
  induction n generalizing source with
  | zero => rfl
  | succ n ih =>
      have honce : { request with rolls }.rollOnce source = request.rollOnce source := rfl
      rw [rollTimes_succ, rollTimes_succ, honce, ih]

end Times

end Request

namespace Batch

section Rolled

variable {σ : Type} [Source σ]

def rolled (requests : List Request) (source : σ) : List Outcome × σ :=
  ((roll requests source).1.flatMap Entry.outcomes, (roll requests source).2)

theorem rolled_cons (request : Request) (rest : List Request) (source : σ) :
    rolled (request :: rest) source =
      ((request.roll source).1 ++ (rolled rest (request.roll source).2).1,
        (rolled rest (request.roll source).2).2) := rfl

theorem rolled_append (first rest : List Request) (source : σ) :
    rolled (first ++ rest) source =
      ((rolled first source).1 ++ (rolled rest (rolled first source).2).1,
        (rolled rest (rolled first source).2).2) := by
  induction first generalizing source with
  | nil => rfl
  | cons request first ih => rw [List.cons_append, rolled_cons, ih, rolled_cons, List.append_assoc]

theorem rolled_of_splitsInto {request : Request} {parts : List Request}
    (h : request.SplitsInto parts) (source : σ) : rolled parts source = request.roll source := by
  obtain ⟨counts, rfl, hsum⟩ := h
  rw [Request.roll, ← hsum]
  clear hsum
  induction counts generalizing source with
  | nil => rfl
  | cons rolls counts ih =>
      have hfirst : { request with rolls }.roll source = request.rollTimes rolls.toNat source :=
        Request.rollTimes_of_rolls request rolls rolls.toNat source
      rw [List.map_cons, rolled_cons, hfirst, ih, List.map_cons, List.sum_cons,
        Request.rollTimes_add]

theorem rolled_flatten {requests : List Request} {parts : List (List Request)}
    (h : List.Forall₂ Request.SplitsInto requests parts) (source : σ) :
    rolled parts.flatten source = rolled requests source := by
  induction h generalizing source with
  | nil => rfl
  | cons hfirst _ ih =>
      rw [List.flatten_cons, rolled_append, rolled_of_splitsInto hfirst, ih, rolled_cons]

theorem length_rolled (requests : List Request) (source : σ) :
    (rolled requests source).1.length =
      (requests.map fun request => request.rolls.toNat).sum := by
  induction requests generalizing source with
  | nil => rfl
  | cons request rest ih =>
      rw [rolled_cons, List.length_append, ih, Request.length_roll, List.map_cons, List.sum_cons]

def lineReports (requests : List Request) (source : σ) : List Text :=
  (rolled requests source).1.map Report.line

theorem lineReports_cons (request : Request) (rest : List Request) (source : σ) :
    lineReports (request :: rest) source =
      (request.roll source).1.map Report.line ++ lineReports rest (request.roll source).2 := by
  rw [lineReports, rolled_cons, List.map_append]
  rfl

theorem lineFeed_notMem_lineReports {requests : List Request} {source : σ} {report : Text}
    (h : report ∈ lineReports requests source) : '\n' ∉ report := by
  obtain ⟨outcome, _, rfl⟩ := List.mem_map.mp h
  exact Report.absent_lineFeed.notMem_line outcome

theorem length_lineReports (requests : List Request) (source : σ) :
    (lineReports requests source).length =
      (requests.map fun request => request.rolls.toNat).sum := by
  rw [lineReports, List.length_map, length_rolled]

end Rolled

section Lines

/-- What stands before the reports of a request's rolls: their numbers, or nothing where there
is but one. -/
def ordinals (request : Request) : List Text :=
  if request.rolls = 1 then [[]] else (List.range' 1 request.rolls.toNat).map Report.ordinal

def numberedLines (requests : List Request) (reports : List Text) : List Text :=
  List.zipWith (· ++ ·) (requests.flatMap ordinals) reports

theorem length_ordinals (request : Request) :
    (ordinals request).length = request.rolls.toNat := by
  unfold ordinals
  split
  · rename_i hone
    rw [hone]
    rfl
  · rw [List.length_map, List.length_range']

theorem ofOutcomes_append_lineFeed {request : Request} {outcomes : List Outcome}
    (hrolls : request.rolls ≠ 0) (hlength : outcomes.length = request.rolls.toNat) :
    Report.ofOutcomes outcomes ++ ['\n'] =
      (List.zipWith (· ++ ·) (ordinals request) (outcomes.map Report.line)).flatMap
        fun line => line ++ ['\n'] := by
  have hone : request.rolls = 1 ↔ outcomes.length = 1 := by
    rw [hlength, ← UInt32.toNat_inj, UInt32.toNat_one]
  unfold Report.ofOutcomes ordinals
  split
  · rw [if_pos (hone.mpr rfl)]
    simp
  · rename_i hseveral
    have hne : outcomes ≠ [] := by
      rintro rfl
      exact Numeral.toNat_ne_zero_iff.mpr hrolls hlength.symm
    have hmany : request.rolls ≠ 1 := by
      rw [ne_eq, hone, List.length_eq_one_iff]
      rintro ⟨outcome, rfl⟩
      exact hseveral outcome rfl
    have hlines : Report.numberedFrom 1 outcomes ≠ [] := by
      rw [← List.length_pos_iff, Report.length_numberedFrom, List.length_pos_iff]
      exact hne
    rw [if_neg hmany, Report.numbered, Text.joinLines_append_lineFeed hlines,
      Report.numberedFrom_eq_zipWith, hlength]

theorem report_roll_eq {σ : Type} [Source σ] {requests : List Request}
    (h : ∀ request ∈ requests, request.rolls ≠ 0) (source : σ) :
    report (roll requests source).1 =
      (numberedLines requests (lineReports requests source)).flatMap
        fun line => line ++ ['\n'] := by
  induction requests generalizing source with
  | nil => rfl
  | cons request rest ih =>
      have hlength := Request.length_roll request source
      have hfirst := ofOutcomes_append_lineFeed (h request List.mem_cons_self) hlength
      have hrest := ih (fun other hother => h other (List.mem_cons_of_mem request hother))
        (request.roll source).2
      have hordinals : (ordinals request).length =
          ((request.roll source).1.map Report.line).length := by
        rw [length_ordinals, List.length_map, hlength]
      rw [numberedLines] at hrest
      rw [roll_cons, report, List.flatMap_cons, ← report, hfirst, hrest, numberedLines,
        lineReports_cons, List.flatMap_cons, List.zipWith_append hordinals, List.flatMap_append]

theorem numberedLines_eq_self {requests : List Request} {reports : List Text}
    (h : ∀ request ∈ requests, request.rolls = 1)
    (hlength : reports.length = (requests.map fun request => request.rolls.toNat).sum) :
    numberedLines requests reports = reports := by
  induction requests generalizing reports with
  | nil =>
      rw [List.length_eq_zero_iff.mp hlength]
      rfl
  | cons request rest ih =>
      have hone := h request List.mem_cons_self
      rw [List.map_cons, List.sum_cons, hone, UInt32.toNat_one, Nat.add_comm] at hlength
      obtain ⟨report, others, rfl⟩ := List.exists_cons_of_length_eq_add_one hlength
      have hothers := ih (fun other hother => h other (List.mem_cons_of_mem request hother))
        (Nat.succ.inj hlength)
      rw [numberedLines] at hothers
      rw [numberedLines, List.flatMap_cons, ordinals, if_pos hone, List.singleton_append,
        List.zipWith_cons_cons, hothers, List.nil_append]

end Lines

section Texts

variable {allowed : UInt32} {requests : List Request} {parts : List (List Request)}

theorem sum_rolls_flatten (h : List.Forall₂ Request.SplitsInto requests parts) :
    (parts.flatten.map fun part => part.rolls.toNat).sum =
      (requests.map fun request => request.rolls.toNat).sum := by
  induction h with
  | nil => rfl
  | cons hfirst _ ih =>
      rw [List.flatten_cons, List.map_append, List.sum_append, hfirst.sum_rolls, ih,
        List.map_cons, List.sum_cons]

theorem exists_rolls_le_of_mem_flatten (h : List.Forall₂ Request.SplitsInto requests parts)
    {part : Request} (hpart : part ∈ parts.flatten) :
    ∃ request ∈ requests, part.rolls ≤ request.rolls := by
  induction h with
  | nil => contradiction
  | cons hfirst _ ih =>
      rw [List.flatten_cons, List.mem_append] at hpart
      rcases hpart with hpart | hpart
      · exact ⟨_, List.mem_cons_self, hfirst.rolls_le hpart⟩
      · obtain ⟨request, hmem, hle⟩ := ih hpart
        exact ⟨request, List.mem_cons_of_mem _ hmem, hle⟩

theorem accepts_of_splitsInto {spellings expanded : List Text}
    (haccepts : List.Forall₂ (Accepts allowed) spellings requests)
    (hparts : List.Forall₂ Request.SplitsInto requests parts)
    (hread : List.Forall₂ (fun text part => Request.ofText? text = some part) expanded
      parts.flatten) : List.Forall₂ (Accepts allowed) expanded parts.flatten := by
  have hle : ∀ part ∈ parts.flatten, part.rolls ≤ allowed := by
    intro part hpart
    obtain ⟨request, hrequest, hrolls⟩ := exists_rolls_le_of_mem_flatten hparts hpart
    obtain ⟨_, _, _, hlimit⟩ := exists_spelling_of_read (read_eq_ok_iff.mpr haccepts) hrequest
    exact UInt32.le_trans hrolls hlimit
  have hboth := ((List.forall₂_and_left _ _).mpr ⟨hle, hread.flip⟩).flip
  exact hboth.imp fun _ _ h => ⟨h.2, h.1⟩

theorem forall₂_splitsInto_singles (requests : List Request) :
    List.Forall₂ Request.SplitsInto requests (requests.map Request.singles) := by
  rw [List.forall₂_map_right_iff, List.forall₂_same]
  exact fun request _ => request.splitsInto_singles

theorem rolls_of_mem_flatMap_singles {single : Request}
    (h : single ∈ requests.flatMap Request.singles) : single.rolls = 1 := by
  obtain ⟨_, _, hmem⟩ := List.mem_flatMap.mp h
  exact Request.rolls_of_mem_singles hmem

theorem forall₂_ofText?_canonical_singles {spellings : List Text}
    (haccepts : List.Forall₂ (Accepts allowed) spellings requests) :
    List.Forall₂ (fun text part => Request.ofText? text = some part)
      ((requests.flatMap Request.singles).map Request.canonical)
      (requests.flatMap Request.singles) := by
  rw [List.forall₂_map_left_iff, List.forall₂_same]
  intro single hsingle
  obtain ⟨request, hrequest, hmem⟩ := List.mem_flatMap.mp hsingle
  obtain ⟨_, _, hspelling, _⟩ :=
    exists_spelling_of_read (read_eq_ok_iff.mpr haccepts) hrequest
  exact Request.ofText?_canonical_of_mem_singles hspelling hmem

end Texts

end Batch

namespace Program

theorem perform_roll_of_accepts {settings : Settings} {seed : UInt64} {spellings : List Text}
    {requests : List Request} (hseed : settings.seed = some seed)
    (haccepts : List.Forall₂ (Accepts settings.maxRolls) spellings requests)
    (surroundings : Surroundings) :
    perform surroundings settings (.roll spellings false) =
      ⟨0, (Batch.numberedLines requests
        (Batch.lineReports requests (Generator.ofSeed seed))).flatMap fun line => line ++ ['\n'],
        []⟩ := by
  have hread := Batch.read_eq_ok_iff.mpr haccepts
  have hrolls : ∀ request ∈ requests, request.rolls ≠ 0 := by
    intro request hrequest
    obtain ⟨spelling, _, hspelling, _⟩ := Batch.exists_spelling_of_read hread hrequest
    exact (Spelling.ofText?_eq_some_iff.mp hspelling).rolls_ne_zero
  have hrun := Batch.run_of_read_ok hread false surroundings.key
  rw [Generator.start_of_seed hseed] at hrun
  rw [perform_roll_of_ok hrun, ← Batch.report_roll_eq hrolls]
  rfl

/-- Requests rolled in turn give the outcomes that they give when their rolls are asked for in
parts, and leave the same source. So with a seed a batch prints the same reports either way,
behind the numbers that its lines have. -/
theorem repeating_is_asking_again :
    (∀ {σ : Type} [Source σ] (source : σ) (requests : List Request)
      (parts : List (List Request)), List.Forall₂ Request.SplitsInto requests parts →
      Batch.rolled parts.flatten source = Batch.rolled requests source) ∧
    (∀ request : Request, request.SplitsInto request.singles) ∧
    ∀ (settings : Settings) (seed : UInt64) (spellings : List Text) (requests : List Request),
      settings.seed = some seed →
      List.Forall₂ (Accepts settings.maxRolls) spellings requests →
      ∃ reports : List Text, (∀ report ∈ reports, '\n' ∉ report) ∧
        reports.length = (requests.map fun request => request.rolls.toNat).sum ∧
        (∀ surroundings, perform surroundings settings (.roll spellings false) =
          ⟨0, (Batch.numberedLines requests reports).flatMap fun line => line ++ ['\n'], []⟩) ∧
        (∀ (parts : List (List Request)) (expanded : List Text),
          List.Forall₂ Request.SplitsInto requests parts →
          List.Forall₂ (fun text part => Request.ofText? text = some part) expanded
            parts.flatten →
          ∀ surroundings, perform surroundings settings (.roll expanded false) =
            ⟨0, (Batch.numberedLines parts.flatten reports).flatMap fun line => line ++ ['\n'],
              []⟩) ∧
        ∀ surroundings, perform surroundings settings
            (.roll ((requests.flatMap Request.singles).map Request.canonical) false) =
          ⟨0, reports.flatMap fun line => line ++ ['\n'], []⟩ := by
  refine ⟨?_, Request.splitsInto_singles, ?_⟩
  · intro σ _ source requests parts hparts
    exact Batch.rolled_flatten hparts source
  · intro settings seed spellings requests hseed haccepts
    have hparts (parts : List (List Request)) (expanded : List Text)
        (hsplits : List.Forall₂ Request.SplitsInto requests parts)
        (hread : List.Forall₂ (fun text part => Request.ofText? text = some part) expanded
          parts.flatten) (surroundings : Surroundings) :
        perform surroundings settings (.roll expanded false) =
          ⟨0, (Batch.numberedLines parts.flatten
            (Batch.lineReports requests (Generator.ofSeed seed))).flatMap
              fun line => line ++ ['\n'], []⟩ := by
      rw [perform_roll_of_accepts hseed (Batch.accepts_of_splitsInto haccepts hsplits hread),
        Batch.lineReports, Batch.rolled_flatten hsplits, ← Batch.lineReports]
    have hlength := Batch.length_lineReports requests (Generator.ofSeed seed)
    refine ⟨Batch.lineReports requests (Generator.ofSeed seed),
      fun _ => Batch.lineFeed_notMem_lineReports, hlength,
      perform_roll_of_accepts hseed haccepts, hparts, ?_⟩
    intro surroundings
    have hsingles := Batch.forall₂_splitsInto_singles requests
    have hread := Batch.forall₂_ofText?_canonical_singles haccepts
    have hsum := Batch.sum_rolls_flatten hsingles
    have hflat : (requests.map Request.singles).flatten = requests.flatMap Request.singles :=
      List.flatMap_def.symm
    have hprinted := hparts _ _ hsingles (hflat ▸ hread) surroundings
    rw [hflat] at hsum hprinted
    rw [hprinted, Batch.numberedLines_eq_self]
    · exact fun _ => Batch.rolls_of_mem_flatMap_singles
    · rw [hsum, hlength]

theorem three_rolls_asked_in_parts :
    let settings := Settings.standard.withSeed 7
    ∃ first second third last : Text, ∀ surroundings : Surroundings,
      perform surroundings settings (.roll ["3#dd+1".toList, "ddv".toList] false) =
        ⟨0, "1. ".toList ++ first ++ "\n2. ".toList ++ second ++ "\n3. ".toList ++ third ++
          "\n".toList ++ last ++ "\n".toList, []⟩ ∧
      perform surroundings settings
          (.roll ["2#dd+1".toList, "DD + 1".toList, "ddv".toList] false) =
        ⟨0, "1. ".toList ++ first ++ "\n2. ".toList ++ second ++ "\n".toList ++ third ++
          "\n".toList ++ last ++ "\n".toList, []⟩ := by
  intro settings
  have haccepts : List.Forall₂ (Accepts settings.maxRolls) ["3#dd+1".toList, "ddv".toList]
      [{ rolls := 3, flatModifier := 1 }, { rollType := .advantage }] :=
    .cons ⟨by decide +kernel, by decide⟩ (.cons ⟨by decide +kernel, by decide⟩ .nil)
  have hsplits : List.Forall₂ Request.SplitsInto
      [{ rolls := 3, flatModifier := 1 }, { rollType := .advantage }]
      [[{ rolls := 2, flatModifier := 1 }, { flatModifier := 1 }],
        [{ rollType := .advantage }]] :=
    .cons ⟨[2, 1], rfl, rfl⟩ (.cons ⟨[1], rfl, rfl⟩ .nil)
  have hread : List.Forall₂ (fun text part => Request.ofText? text = some part)
      ["2#dd+1".toList, "DD + 1".toList, "ddv".toList]
      [{ rolls := 2, flatModifier := 1 }, { flatModifier := 1 }, { rollType := .advantage }] :=
    .cons (by decide +kernel) (.cons (by decide +kernel) (.cons (by decide +kernel) .nil))
  have hthree : (List.range' 1 3).map Report.ordinal =
      ["1. ".toList, "2. ".toList, "3. ".toList] := by
    decide +kernel
  have htwo : (List.range' 1 2).map Report.ordinal = ["1. ".toList, "2. ".toList] := by
    decide +kernel
  obtain ⟨reports, _, hlength, hwhole, hparts, _⟩ :=
    repeating_is_asking_again.2.2 settings 7 _ _ rfl haccepts
  match reports, hlength with
  | [first, second, third, last], _ =>
      refine ⟨first, second, third, last, fun surroundings => ⟨?_, ?_⟩⟩
      · rw [hwhole surroundings]
        simp [Batch.numberedLines, Batch.ordinals, hthree]
      · rw [hparts _ _ hsplits hread surroundings]
        simp [Batch.numberedLines, Batch.ordinals, htwo]

end Program

end DualityDice
