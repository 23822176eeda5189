import DualityDice.Directory
import DualityDice.Proofs.Batch.Refusal
import DualityDice.Proofs.Settings.Loading

namespace DualityDice.Program

def overridden (invocation : CommandLine.Invocation) (loaded : Settings) : Settings where
  name :=
    match invocation.command with
    | .chat (some name) => name
    | _ => loaded.name
  seed := invocation.seed.orElse fun _ => loaded.seed
  logFilter := loaded.logFilter
  maxRolls := loaded.maxRolls

theorem settingsFor_eq_map (files : Files) (environment : Environment)
    (invocation : CommandLine.Invocation) :
    settingsFor files environment invocation =
      (Settings.load files invocation.config environment).map (overridden invocation) := by
  obtain ⟨config, seed, command⟩ := invocation
  unfold settingsFor
  cases Settings.load files config environment with
  | error _ => rfl
  | ok loaded =>
      cases seed <;> cases command with
      | chat name => cases name <;> rfl
      | _ => rfl

section Start

variable {surroundings : Surroundings} {arguments : List Text} {settings : Settings}
  {command : CommandLine.Command}

/-- A command starts just when the arguments are understood and the settings can be
loaded. -/
theorem start_eq_ok_iff :
    start surroundings arguments = .ok (settings, command) ↔
      ∃ invocation loaded, CommandLine.read arguments = .ok invocation ∧
        Settings.load surroundings.files invocation.config surroundings.environment =
          .ok loaded ∧
        overridden invocation loaded = settings ∧ invocation.command = command := by
  unfold start
  cases CommandLine.read arguments with
  | error stop => simp
  | ok invocation =>
      simp only [settingsFor_eq_map]
      cases hload : Settings.load surroundings.files invocation.config
          surroundings.environment with
      | error _ => simp [Except.map, hload]
      | ok loaded => simp [Except.map, hload]

theorem run_of_start (h : start surroundings arguments = .ok (settings, command)) :
    run surroundings arguments = perform surroundings settings command := by
  rw [run, h]

end Start

section Validity

variable {invocation : CommandLine.Invocation} {loaded : Settings}

theorem validate_overridden_iff (h : loaded.validate = .ok ()) :
    (overridden invocation loaded).validate = .ok () ↔
      ∀ name, invocation.command = .chat (some name) → name.trim ≠ [] := by
  obtain ⟨hname, hlimit⟩ := Settings.validate_eq_ok_iff.mp h
  obtain ⟨config, seed, command⟩ := invocation
  rw [Settings.validate_eq_ok_iff]
  cases command with
  | roll _ _ => simp [overridden, hname, hlimit]
  | explain _ => simp [overridden, hname, hlimit]
  | chat name =>
      cases name with
      | none => simp [overridden, hname, hlimit]
      | some name => simp [overridden, hlimit]

/-- The settings that a command runs with make sense unless the command is a chat whose own
name in the arguments is blank. They allow at least one roll even then. -/
theorem runs_on_sensible_settings_iff {surroundings : Surroundings} {arguments : List Text}
    {settings : Settings} {command : CommandLine.Command}
    (h : start surroundings arguments = .ok (settings, command)) :
    run surroundings arguments = perform surroundings settings command ∧
      settings.maxRolls ≠ 0 ∧
      (settings.validate = .ok () ↔
        ∀ name, command = .chat (some name) → name.trim ≠ []) ∧
      (∀ name, command = .chat (some name) → name.trim = [] →
        settings.name = name ∧
          settings.validate = .error (.invalidSettings .emptyName)) := by
  obtain ⟨invocation, loaded, _, hload, rfl, rfl⟩ := start_eq_ok_iff.mp h
  have hvalid := Settings.validate_of_load hload
  refine ⟨run_of_start h, (Settings.validate_eq_ok_iff.mp hvalid).2,
    validate_overridden_iff hvalid, ?_⟩
  intro name hcommand hblank
  have hname : (overridden invocation loaded).name = name := by
    simp only [overridden, hcommand]
  refine ⟨hname, Settings.validate_of_blank ?_⟩
  rw [hname]
  exact hblank

def tableSurroundings : Surroundings where
  files := Directory.toFiles
    ⟨[], [("f.toml".toList, "seed = 3\nname = \"q\"\nmax_rolls = 2\n".toUTF8.toList)]⟩
  environment := [("DUALITY_MAX_ROLLS".toList, "7".toList)]
  input := []
  key := Vector.replicate 8 0

theorem batch_runs_on_sensible_settings :
    ∃ settings blank : Settings,
      start tableSurroundings
          ["-c".toList, "f.toml".toList, "roll".toList, "-s".toList, "5".toList] =
        .ok (settings, .roll ["dd".toList] false) ∧
      settings.validate = .ok () ∧
      start tableSurroundings ["chat".toList, "-n".toList, " ".toList] =
        .ok (blank, .chat (some " ".toList)) ∧
      blank.validate ≠ .ok () := by
  have hroll : start tableSurroundings
      ["-c".toList, "f.toml".toList, "roll".toList, "-s".toList, "5".toList] =
        .ok (⟨"q".toList, some 5, "warn".toList, 7⟩, .roll ["dd".toList] false) := by
    decide +kernel
  have hchat : start tableSurroundings ["chat".toList, "-n".toList, " ".toList] =
      .ok (⟨" ".toList, none, "warn".toList, 7⟩, .chat (some " ".toList)) := by
    decide +kernel
  refine ⟨_, _, hroll, ?_, hchat, ?_⟩
  · apply (runs_on_sensible_settings_iff hroll).2.2.1.mpr
    intro name hcommand
    cases hcommand
  · intro hvalid
    exact (runs_on_sensible_settings_iff hchat).2.2.1.mp hvalid _ rfl (by decide)

theorem chat_starts_under_empty_name :
    ¬∀ (surroundings : Surroundings) (arguments : List Text) (settings : Settings)
      (command : CommandLine.Command),
      start surroundings arguments = .ok (settings, command) → settings.validate = .ok () := by
  intro hall
  have hstart : start ⟨⟨[], fun _ => none⟩, [], [], Vector.replicate 8 0⟩
      ["chat".toList, "--name".toList, []] =
        .ok (Settings.standard.withName [], .chat (some [])) := by
    decide +kernel
  exact absurd (hall _ _ _ _ hstart) (by decide)

end Validity

section Rolls

/-- Whether arguments ask for a batch of rolls and the settings can be loaded, with the seed
and the limit that come of it. A seed in the arguments counts before a loaded one. -/
inductive RollsWith (surroundings : Surroundings) (arguments : List Text) :
    List Text → Bool → UInt64 → UInt32 → Prop where
  | intro {invocation : CommandLine.Invocation} {loaded : Settings} {spellings : List Text}
      {asJson : Bool} {seed : UInt64} {allowed : UInt32}
      (hread : CommandLine.read arguments = .ok invocation)
      (hcommand : invocation.command = .roll spellings asJson)
      (hload : Settings.load surroundings.files invocation.config surroundings.environment =
        .ok loaded)
      (hseed : (invocation.seed.orElse fun _ => loaded.seed) = some seed)
      (hlimit : loaded.maxRolls = allowed) :
      RollsWith surroundings arguments spellings asJson seed allowed

def rollEnding (spellings : List Text) (asJson : Bool) (seed : UInt64) (allowed : UInt32) :
    Ending :=
  match (Batch.runOver (fun _ => Generator.ofSeed seed) allowed spellings asJson).1 with
  | .ok printed => ofResult printed none
  | .error error => ofResult [] (some error)

theorem perform_roll_of_seed (surroundings : Surroundings) {settings : Settings} {seed : UInt64}
    (h : settings.seed = some seed) (spellings : List Text) (asJson : Bool) :
    perform surroundings settings (.roll spellings asJson) =
      rollEnding spellings asJson seed settings.maxRolls := by
  have hrun : Batch.run settings spellings asJson surroundings.key =
      (Batch.runOver (fun _ => Generator.ofSeed seed) settings.maxRolls spellings asJson).1 := by
    rw [Batch.run, Generator.start_of_seed h]
  cases hprinted :
      (Batch.runOver (fun _ => Generator.ofSeed seed) settings.maxRolls spellings asJson).1 with
  | ok printed => simp only [perform, rollEnding, hrun, hprinted]
  | error error => simp only [perform, rollEnding, hrun, hprinted]

theorem run_of_rollsWith {surroundings : Surroundings} {arguments spellings : List Text}
    {asJson : Bool} {seed : UInt64} {allowed : UInt32}
    (h : RollsWith surroundings arguments spellings asJson seed allowed) :
    run surroundings arguments = rollEnding spellings asJson seed allowed := by
  obtain ⟨hread, hcommand, hload, hseed, rfl⟩ := h
  rw [run_of_start (start_eq_ok_iff.mpr ⟨_, _, hread, hload, rfl, hcommand⟩)]
  exact perform_roll_of_seed surroundings hseed spellings asJson

/-- Two batches of the same texts, from the same seed and under the same limit, end alike,
whatever else is around the program and wherever the seed and the limit come from. -/
theorem roll_ends_by_seed_and_limit {first second : Surroundings}
    {arguments others spellings : List Text} {asJson : Bool} {seed : UInt64} {allowed : UInt32}
    (hfirst : RollsWith first arguments spellings asJson seed allowed)
    (hsecond : RollsWith second others spellings asJson seed allowed) :
    run first arguments = run second others := by
  rw [run_of_rollsWith hfirst, run_of_rollsWith hsecond]

theorem roll_ends_alike_in_two_places :
    let elsewhere : Surroundings :=
      { files := ⟨[], fun _ => none⟩
        environment := [("DUALITY_SEED".toList, "4".toList), ("DUALITY_MAX_ROLLS".toList, "7".toList)]
        input := [1]
        key := Vector.replicate 8 1 }
    run tableSurroundings
        ["-c".toList, "f.toml".toList, "roll".toList, "4#dd".toList, "8#dd".toList] =
      run elsewhere ["roll".toList, "--seed=3".toList, "4#dd".toList, "8#dd".toList] := by
  intro elsewhere
  have hread : CommandLine.read
      ["-c".toList, "f.toml".toList, "roll".toList, "4#dd".toList, "8#dd".toList] =
        .ok ⟨some "f.toml".toList, none, .roll ["4#dd".toList, "8#dd".toList] false⟩ := by
    decide +kernel
  have hload : Settings.load tableSurroundings.files (some "f.toml".toList)
      tableSurroundings.environment = .ok ⟨"q".toList, some 3, "warn".toList, 7⟩ := by
    decide +kernel
  have hother : CommandLine.read
      ["roll".toList, "--seed=3".toList, "4#dd".toList, "8#dd".toList] =
        .ok ⟨none, some 3, .roll ["4#dd".toList, "8#dd".toList] false⟩ := by
    decide +kernel
  have hloaded : Settings.load elsewhere.files none elsewhere.environment =
      .ok ⟨"duality".toList, some 4, "warn".toList, 7⟩ := by
    decide +kernel
  exact roll_ends_by_seed_and_limit (.intro hread rfl hload rfl rfl)
    (.intro hother rfl hloaded rfl rfl)

end Rolls

end DualityDice.Program
