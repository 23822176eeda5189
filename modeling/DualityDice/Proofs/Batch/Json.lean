import DualityDice.Proofs.Answer
import DualityDice.Proofs.Batch
import DualityDice.Proofs.Json.Shape
import DualityDice.Proofs.Spelling.Canonical

namespace DualityDice.Batch

/-- Whether a JSON value tells an outcome, with the total and the favor that follow
from it. -/
structure TellsOutcome (value : Json) (outcome : Outcome) : Prop where
  roll : (value.member? "roll".toList).bind Outcome.ofJson? = some outcome
  total : value.member? "total".toList = some (.integer outcome.total)
  favor : (value.member? "favor".toList).bind Favor.ofJson? = some outcome.favor

/-- Whether a JSON value tells an entry: its request, a spelling of it, and an outcome
for each of its rolls. -/
structure TellsEntry (value : Json) (entry : Entry) : Prop where
  request : (value.member? "request".toList).bind Request.ofJson? = some entry.request
  spelling : ∃ spelling, value.member? "notation".toList = some (.string spelling) ∧
    Request.ofText? spelling = some entry.request
  outcomes : ∃ items, value.member? "outcomes".toList = some (.array items) ∧
    items.length = entry.request.rolls.toNat ∧
    List.Forall₂ TellsOutcome items entry.outcomes

theorem tellsOutcome_outcomeJson (outcome : Outcome) :
    TellsOutcome (outcomeJson outcome) outcome := by
  have hkeys : ["favor".toList, "roll".toList, "total".toList].Nodup := by
    decide +kernel
  have hmember {key : Text} {value : Json} (h : (key, value) ∈
      [("favor".toList, outcome.favor.toJson), ("roll".toList, outcome.toJson),
        ("total".toList, .integer outcome.total)]) :
      (outcomeJson outcome).member? key = some value :=
    Json.lookup_of_mem h hkeys
  have hfavor := hmember (.head _)
  have hroll := hmember (.tail _ (.head _))
  have htotal := hmember (.tail _ (.tail _ (.head _)))
  constructor
  · rw [hroll, Option.bind_some, Outcome.ofJson?_toJson]
  · rw [htotal]
  · rw [hfavor, Option.bind_some, Favor.ofJson?_toJson]

theorem tellsEntry_toJson {entry : Entry} {text : Text}
    (hread : Request.ofText? text = some entry.request)
    (hlength : entry.outcomes.length = entry.request.rolls.toNat) :
    TellsEntry entry.toJson entry := by
  have hkeys : ["notation".toList, "outcomes".toList, "request".toList].Nodup := by
    decide +kernel
  have hmember {key : Text} {value : Json} (h : (key, value) ∈
      [("notation".toList, .string entry.request.canonical),
        ("outcomes".toList, .array (entry.outcomes.map outcomeJson)),
        ("request".toList, entry.request.toJson)]) :
      entry.toJson.member? key = some value :=
    Json.lookup_of_mem h hkeys
  have hspelling := hmember (.head _)
  have houtcomes := hmember (.tail _ (.head _))
  have hrequest := hmember (.tail _ (.tail _ (.head _)))
  obtain ⟨hrolls, hdie⟩ := Request.meaningful_of_ofText? hread
  refine ⟨?_, ⟨entry.request.canonical, hspelling, ?_⟩,
    ⟨entry.outcomes.map outcomeJson, houtcomes, ?_, ?_⟩⟩
  · rw [hrequest, Option.bind_some, Request.ofJson?_toJson]
  · exact Request.ofText?_canonical_of_meaningful hrolls hdie
  · rw [List.length_map, hlength]
  · rw [List.forall₂_map_left_iff, List.forall₂_same]
    exact fun outcome _ => tellsOutcome_outcomeJson outcome

theorem integral_outcomeJson (outcome : Outcome) : (outcomeJson outcome).Integral :=
  ⟨trivial, outcome.integral_toJson, trivial, trivial⟩

theorem integral_toJson (entries : List Entry) : (toJson entries).Integral := by
  refine Json.integral_array_map fun entry _ => ?_
  refine ⟨trivial, ?_, entry.request.integral_toJson, trivial⟩
  exact Json.integral_array_map fun outcome _ => integral_outcomeJson outcome

/-- With one seed, a batch fails in JSON just when it fails in plain text, and with the same
error. Otherwise its JSON text is read as an array that tells, for each text in order, its
request and the outcomes that the plain text reports. -/
theorem json_tells_reported_rolls {settings : Settings} {seed : UInt64}
    (hseed : settings.seed = some seed) (spellings : List Text) (key other : ChaCha.Key) :
    (∀ error, run settings spellings true key = .error error ↔
      run settings spellings false other = .error error) ∧
    ∀ printed, run settings spellings true key = .ok printed →
      ∃ values entries, Json.read? printed = some (.array values) ∧
        List.Forall₂ (fun spelling entry => Request.ofText? spelling = some entry.request)
          spellings entries ∧
        List.Forall₂ TellsEntry values entries ∧
        run settings spellings false other =
          .ok (entries.flatMap fun entry => Report.ofOutcomes entry.outcomes ++ ['\n']) := by
  have hgenerator := Generator.start_of_seed hseed
  cases hread : read settings.maxRolls spellings with
  | error error =>
      rw [run_of_read_error hread, run_of_read_error hread]
      refine ⟨fun _ => Iff.rfl, fun printed hprinted => ?_⟩
      cases hprinted
  | ok requests =>
      rw [run_of_read_ok hread, run_of_read_ok hread, hgenerator, hgenerator]
      refine ⟨fun error => ?_, fun printed hprinted => ?_⟩
      · constructor <;> exact fun h => nomatch h
      obtain rfl := Except.ok.inj hprinted
      generalize hentries : (roll requests (Generator.ofSeed seed)).1 = entries
      refine ⟨entries.map Entry.toJson, entries, ?_, ?_, ?_, rfl⟩
      · exact Json.read?_pretty_line (integral_toJson entries)
      · have hrequests : entries.map Entry.request = requests := by
          rw [← hentries, map_request_roll]
        have haccepts := read_eq_ok_iff.mp hread
        rw [← hrequests, List.forall₂_map_right_iff] at haccepts
        exact haccepts.imp fun _ _ h => h.1
      · rw [List.forall₂_map_left_iff, List.forall₂_same]
        intro entry hentry
        rw [← hentries] at hentry
        obtain ⟨hmem, state, houtcomes⟩ := exists_roll_of_mem hentry
        obtain ⟨spelling, _, hspelling⟩ := exists_spelling_of_read hread hmem
        refine tellsEntry_toJson hspelling.1 ?_
        rw [houtcomes, Request.length_roll]

theorem json_tells_two_texts :
    let settings : Settings := Settings.standard.withSeed 7
    let spellings := ["dd".toList, "2#DD20 v-3".toList]
    let key : ChaCha.Key := Vector.replicate 8 0
    ∃ printed values entries, run settings spellings true key = .ok printed ∧
      Json.read? printed = some (.array values) ∧
      List.Forall₂ (fun spelling entry => Request.ofText? spelling = some entry.request)
        spellings entries ∧
      List.Forall₂ TellsEntry values entries ∧
      run settings spellings false key =
        .ok (entries.flatMap fun entry => Report.ofOutcomes entry.outcomes ++ ['\n']) := by
  intro settings spellings key
  have hread : read settings.maxRolls spellings =
      .ok [.plain, ⟨2, .d20, .advantage, .d6, -3⟩] := by
    decide +kernel
  have hseed : settings.seed = some 7 := rfl
  have hprinted := run_of_read_ok hread true key
  obtain ⟨values, entries, htold⟩ :=
    (json_tells_reported_rolls hseed spellings key key).2 _ hprinted
  exact ⟨_, values, entries, hprinted, htold⟩

end DualityDice.Batch
