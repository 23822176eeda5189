import DualityDice.Proofs.Json.Fields
import DualityDice.Settings.Json

namespace DualityDice

section Choices

variable {value : Json}

theorem RollType.ofJson?_eq_some_iff {rollType : RollType} :
    ofJson? value = some rollType ↔ Json.Names rollType.jsonName value := by
  apply Json.choiceOf?_eq_some_iff
  · intro first second
    cases first <;> cases second <;> decide
  · intro choice
    cases choice <;> decide

theorem HopeDie.ofJson?_eq_some_iff {die : HopeDie} :
    ofJson? value = some die ↔ Json.Names die.jsonName value := by
  apply Json.choiceOf?_eq_some_iff
  · intro first second
    cases first <;> cases second <;> decide
  · intro choice
    cases choice <;> decide

theorem ModifierDie.ofJson?_eq_some_iff {die : ModifierDie} :
    ofJson? value = some die ↔ Json.Names die.jsonName value := by
  apply Json.choiceOf?_eq_some_iff
  · intro first second
    cases first <;> cases second <;> decide
  · intro choice
    cases choice <;> decide

end Choices

namespace Request

/-- The fields of a request as they are given: all of them, each with its value. -/
inductive Told (request : Request) : List (Option Json) → Prop
  | intro {flatModifier rollType hopeDie modifierDie rolls : Option Json}
      (hflat : Json.Required (· = .integer request.flatModifier.toInt) flatModifier)
      (hrollType : Json.Required (Json.Names request.rollType.jsonName) rollType)
      (hhope : Json.Required (Json.Names request.hopeDie.jsonName) hopeDie)
      (hdie : Json.Required (Json.Names request.modifierDie.jsonName) modifierDie)
      (hrolls : Json.Required (· = .integer request.rolls.toNat) rolls) :
      Told request [flatModifier, rollType, hopeDie, modifierDie, rolls]

theorem Told.ne_none {request : Request} {fields : List (Option Json)}
    (h : request.Told fields) : ∀ field ∈ fields, field ≠ none := by
  cases h with
  | intro hflat hrollType hhope hdie hrolls =>
      simp [hflat.ne_none, hrollType.ne_none, hhope.ne_none, hdie.ne_none, hrolls.ne_none]

def values (request : Request) : List Json :=
  [.integer request.flatModifier.toInt, request.rollType.toJson, request.hopeDie.toJson,
    request.modifierDie.toJson, .integer request.rolls.toNat]

theorem ofJson?_eq_some_iff {value : Json} {request : Request} :
    ofJson? value = some request ↔
      ∃ fields, value.fields? keys = some fields ∧ request.Told fields := by
  unfold ofJson?
  constructor
  · intro h
    split at h
    · rename_i hfields
      obtain ⟨flat, hflat, h⟩ := Option.bind_eq_some_iff.mp h
      obtain ⟨rollType, hrollType, h⟩ := Option.bind_eq_some_iff.mp h
      obtain ⟨hopeDie, hhope, h⟩ := Option.bind_eq_some_iff.mp h
      obtain ⟨modifierDie, hdie, h⟩ := Option.bind_eq_some_iff.mp h
      obtain ⟨rolls, hrolls, h⟩ := Option.bind_eq_some_iff.mp h
      obtain rfl := Option.some.inj h
      exact ⟨_, hfields, .intro (.given (Json.signed32?_eq_some_iff.mp hflat))
        (.given (RollType.ofJson?_eq_some_iff.mp hrollType))
        (.given (HopeDie.ofJson?_eq_some_iff.mp hhope))
        (.given (ModifierDie.ofJson?_eq_some_iff.mp hdie))
        (.given (Json.word32?_eq_some_iff.mp hrolls))⟩
    · contradiction
  · rintro ⟨_, hfields, ⟨⟨hflat⟩, ⟨hrollType⟩, ⟨hhope⟩, ⟨hdie⟩, ⟨hrolls⟩⟩⟩
    rw [hfields]
    simp only [Json.signed32?_eq_some_iff.mpr hflat, RollType.ofJson?_eq_some_iff.mpr hrollType,
      HopeDie.ofJson?_eq_some_iff.mpr hhope, ModifierDie.ofJson?_eq_some_iff.mpr hdie,
      Json.word32?_eq_some_iff.mpr hrolls, Option.bind_eq_bind, Option.bind_some]

theorem roundTrips : Json.RoundTrips keys Told values toJson ofJson? := by
  refine Json.roundTrips_of_reads (fun _ _ => ofJson?_eq_some_iff) ofJson?_toJson
    integral_toJson (fun _ => rfl) ?_
  intro request
  exact .intro (.given rfl) (.given (.inl rfl)) (.given (.inl rfl)) (.given (.inl rfl))
    (.given rfl)

end Request

namespace Outcome

/-- The fields of an outcome as they are given: all of them, each with its value. -/
inductive Told (outcome : Outcome) : List (Option Json) → Prop
  | intro {hopeValue fearValue hopeDie modifierDie modifierValue flatModifier : Option Json}
      (hhope : Json.Required (· = .integer outcome.hopeValue.toNat) hopeValue)
      (hfear : Json.Required (· = .integer outcome.fearValue.toNat) fearValue)
      (hhopeDie : Json.Required (Json.Names outcome.hopeDie.jsonName) hopeDie)
      (hdie : Json.Required (Json.Names outcome.modifierDie.jsonName) modifierDie)
      (hmodifier : Json.Required (· = .integer outcome.modifierValue.toInt) modifierValue)
      (hflat : Json.Required (· = .integer outcome.flatModifier.toInt) flatModifier) :
      Told outcome [hopeValue, fearValue, hopeDie, modifierDie, modifierValue, flatModifier]

theorem Told.ne_none {outcome : Outcome} {fields : List (Option Json)}
    (h : outcome.Told fields) : ∀ field ∈ fields, field ≠ none := by
  cases h with
  | intro hhope hfear hhopeDie hdie hmodifier hflat =>
      simp [hhope.ne_none, hfear.ne_none, hhopeDie.ne_none, hdie.ne_none, hmodifier.ne_none,
        hflat.ne_none]

def values (outcome : Outcome) : List Json :=
  [.integer outcome.hopeValue.toNat, .integer outcome.fearValue.toNat, outcome.hopeDie.toJson,
    outcome.modifierDie.toJson, .integer outcome.modifierValue.toInt,
    .integer outcome.flatModifier.toInt]

theorem ofJson?_eq_some_iff {value : Json} {outcome : Outcome} :
    ofJson? value = some outcome ↔
      ∃ fields, value.fields? keys = some fields ∧ outcome.Told fields := by
  unfold ofJson?
  constructor
  · intro h
    split at h
    · rename_i hfields
      obtain ⟨hopeValue, hhope, h⟩ := Option.bind_eq_some_iff.mp h
      obtain ⟨fearValue, hfear, h⟩ := Option.bind_eq_some_iff.mp h
      obtain ⟨hopeDie, hhopeDie, h⟩ := Option.bind_eq_some_iff.mp h
      obtain ⟨modifierDie, hdie, h⟩ := Option.bind_eq_some_iff.mp h
      obtain ⟨modifierValue, hmodifier, h⟩ := Option.bind_eq_some_iff.mp h
      obtain ⟨flatModifier, hflat, h⟩ := Option.bind_eq_some_iff.mp h
      obtain rfl := Option.some.inj h
      exact ⟨_, hfields, .intro (.given (Json.word32?_eq_some_iff.mp hhope))
        (.given (Json.word32?_eq_some_iff.mp hfear))
        (.given (HopeDie.ofJson?_eq_some_iff.mp hhopeDie))
        (.given (ModifierDie.ofJson?_eq_some_iff.mp hdie))
        (.given (Json.signed32?_eq_some_iff.mp hmodifier))
        (.given (Json.signed32?_eq_some_iff.mp hflat))⟩
    · contradiction
  · rintro ⟨_, hfields, ⟨⟨hhope⟩, ⟨hfear⟩, ⟨hhopeDie⟩, ⟨hdie⟩, ⟨hmodifier⟩, ⟨hflat⟩⟩⟩
    rw [hfields]
    simp only [Json.word32?_eq_some_iff.mpr hhope, Json.word32?_eq_some_iff.mpr hfear,
      HopeDie.ofJson?_eq_some_iff.mpr hhopeDie, ModifierDie.ofJson?_eq_some_iff.mpr hdie,
      Json.signed32?_eq_some_iff.mpr hmodifier, Json.signed32?_eq_some_iff.mpr hflat,
      Option.bind_eq_bind, Option.bind_some]

theorem roundTrips : Json.RoundTrips keys Told values toJson ofJson? := by
  refine Json.roundTrips_of_reads (fun _ _ => ofJson?_eq_some_iff) ofJson?_toJson
    integral_toJson (fun _ => rfl) ?_
  intro outcome
  exact .intro (.given rfl) (.given rfl) (.given (.inl rfl)) (.given (.inl rfl)) (.given rfl)
    (.given rfl)

end Outcome

namespace Settings

def seedValue : Option UInt64 → Json
  | some seed => .integer seed.toNat
  | none => .null

/-- The fields of settings as they are given, each with its value, or absent where the
setting has its standard value. -/
inductive Told (settings : Settings) : List (Option Json) → Prop
  | intro {name seed logFilter maxRolls : Option Json}
      (hname : Json.Defaulted (fun text value => value = .string text) standard.name
        settings.name name)
      (hseed : Json.Defaulted (fun seed value => value = seedValue seed) standard.seed
        settings.seed seed)
      (hfilter : Json.Defaulted (fun text value => value = .string text) standard.logFilter
        settings.logFilter logFilter)
      (hlimit : Json.Defaulted (fun word value => value = .integer (UInt32.toNat word))
        standard.maxRolls settings.maxRolls maxRolls) :
      Told settings [name, seed, logFilter, maxRolls]

def values (settings : Settings) : List Json :=
  [.string settings.name, seedValue settings.seed, .string settings.logFilter,
    .integer settings.maxRolls.toNat]

theorem seedOfJson?_eq_some_iff {value : Json} {seed : Option UInt64} :
    seedOfJson? value = some seed ↔ value = seedValue seed := by
  unfold seedOfJson?
  split
  · cases seed <;> simp [seedValue]
  · rename_i hnull
    rw [Option.map_eq_some_iff]
    constructor
    · rintro ⟨word, hword, rfl⟩
      exact Json.word64?_eq_some_iff.mp hword
    · intro h
      cases seed with
      | none => exact absurd h hnull
      | some word => exact ⟨word, Json.word64?_eq_some_iff.mpr h, rfl⟩

theorem ofJson?_eq_some_iff {value : Json} {settings : Settings} :
    ofJson? value = some settings ↔
      ∃ fields, value.fields? keys = some fields ∧ settings.Told fields := by
  unfold ofJson?
  constructor
  · intro h
    split at h
    · rename_i hfields
      obtain ⟨name, hname, h⟩ := Option.bind_eq_some_iff.mp h
      obtain ⟨seed, hseed, h⟩ := Option.bind_eq_some_iff.mp h
      obtain ⟨logFilter, hfilter, h⟩ := Option.bind_eq_some_iff.mp h
      obtain ⟨maxRolls, hlimit, h⟩ := Option.bind_eq_some_iff.mp h
      obtain rfl := Option.some.inj h
      exact ⟨_, hfields, .intro
        ((Json.optional_eq_some_iff fun _ _ => Json.string?_eq_some_iff).mp hname)
        ((Json.optional_eq_some_iff fun _ _ => seedOfJson?_eq_some_iff).mp hseed)
        ((Json.optional_eq_some_iff fun _ _ => Json.string?_eq_some_iff).mp hfilter)
        ((Json.optional_eq_some_iff fun _ _ => Json.word32?_eq_some_iff).mp hlimit)⟩
    · contradiction
  · rintro ⟨_, hfields, ⟨hname, hseed, hfilter, hlimit⟩⟩
    rw [hfields]
    simp only [(Json.optional_eq_some_iff fun _ _ => Json.string?_eq_some_iff).mpr hname,
      (Json.optional_eq_some_iff fun _ _ => seedOfJson?_eq_some_iff).mpr hseed,
      (Json.optional_eq_some_iff fun _ _ => Json.string?_eq_some_iff).mpr hfilter,
      (Json.optional_eq_some_iff fun _ _ => Json.word32?_eq_some_iff).mpr hlimit,
      Option.bind_eq_bind, Option.bind_some]

def keeping (settings : Settings) (kept : Text → Bool) : Settings where
  name := if kept "name".toList then settings.name else standard.name
  seed := if kept "seed".toList then settings.seed else standard.seed
  logFilter := if kept "log_filter".toList then settings.logFilter else standard.logFilter
  maxRolls := if kept "max_rolls".toList then settings.maxRolls else standard.maxRolls

section Written

variable {settings : Settings} {members : List (Text × Json)}

theorem lookup_of_toJson (h : settings.toJson = .object members) :
    Json.lookup "name".toList members = some (.string settings.name) ∧
      Json.lookup "seed".toList members =
        settings.seed.map (fun seed => .integer seed.toNat) ∧
      Json.lookup "log_filter".toList members = some (.string settings.logFilter) ∧
      Json.lookup "max_rolls".toList members = some (.integer settings.maxRolls.toNat) := by
  obtain rfl := Json.object.inj h
  cases settings.seed <;> simp [Json.lookup]

theorem ofJson?_filter (h : settings.toJson = .object members) (kept : Text → Bool) :
    ofJson? (.object (members.filter fun member => kept member.1)) =
      some (settings.keeping kept) := by
  obtain ⟨hname, hseed, hfilter, hlimit⟩ := lookup_of_toJson h
  rw [ofJson?_eq_some_iff]
  refine ⟨_, rfl, ?_⟩
  rw [keys, List.map_cons, List.map_cons, List.map_cons, List.map_cons, List.map_nil]
  simp only [Json.lookup_filter, hname, hseed, hfilter, hlimit]
  have htold : settings.Told [some (.string settings.name),
      settings.seed.map fun seed => .integer seed.toNat, some (.string settings.logFilter),
      some (.integer settings.maxRolls.toNat)] := by
    refine .intro (.given rfl) ?_ (.given rfl) (.given rfl)
    cases settings.seed with
    | none => exact .absent
    | some seed => exact .given rfl
  cases htold with
  | intro hname hseed hfilter hlimit =>
      exact .intro hname.keep hseed.keep hfilter.keep hlimit.keep

theorem ofJson?_toJson (settings : Settings) : ofJson? settings.toJson = some settings := by
  have hall := @ofJson?_filter settings _ rfl fun _ => true
  rwa [List.filter_true] at hall

theorem integral_toJson (settings : Settings) : settings.toJson.Integral := by
  unfold toJson
  cases settings.seed with
  | none => exact ⟨trivial, trivial, trivial, trivial⟩
  | some seed => exact ⟨trivial, trivial, trivial, trivial, trivial⟩

theorem roundTrips : Json.RoundTrips keys Told values toJson ofJson? := by
  refine Json.roundTrips_of_reads (fun _ _ => ofJson?_eq_some_iff) ofJson?_toJson
    integral_toJson (fun _ => rfl) ?_
  intro settings
  exact .intro (.given rfl) (.given rfl) (.given rfl) (.given rfl)

end Written

end Settings

/-- Requests, outcomes and settings are read back from what is written for them, whatever the
order of the members is and whatever others stand among them. The fields of requests and
outcomes have to be given; a setting that is not given has its standard value. -/
theorem records_round_trip :
    Json.RoundTrips Request.keys Request.Told Request.values Request.toJson Request.ofJson? ∧
    Json.RoundTrips Outcome.keys Outcome.Told Outcome.values Outcome.toJson Outcome.ofJson? ∧
    Json.RoundTrips Settings.keys Settings.Told Settings.values Settings.toJson
      Settings.ofJson? ∧
    (∀ (members : List (Text × Json)) (request : Request),
      Request.ofJson? (.object members) = some request →
      ∀ key ∈ Request.keys, key ∈ members.map Prod.fst) ∧
    (∀ (members : List (Text × Json)) (outcome : Outcome),
      Outcome.ofJson? (.object members) = some outcome →
      ∀ key ∈ Outcome.keys, key ∈ members.map Prod.fst) ∧
    (∀ (settings : Settings) (members : List (Text × Json)),
      settings.toJson = .object members →
      ("seed".toList ∈ members.map Prod.fst ↔ settings.seed ≠ none) ∧
      ∀ kept : Text → Bool,
        Settings.ofJson? (.object (members.filter fun member => kept member.1)) =
          some (settings.keeping kept)) := by
  refine ⟨Request.roundTrips, Outcome.roundTrips, Settings.roundTrips, ?_, ?_, ?_⟩
  · intro members request hread key hkey
    exact Request.roundTrips.mem_of_reads (fun _ _ h => h.ne_none) hread hkey
  · intro members outcome hread key hkey
    exact Outcome.roundTrips.mem_of_reads (fun _ _ h => h.ne_none) hread hkey
  · intro settings members hmembers
    refine ⟨?_, Settings.ofJson?_filter hmembers⟩
    obtain rfl := Json.object.inj hmembers
    cases settings.seed with
    | none => simp
    | some seed => simp

theorem records_read_from_samples :
    Request.ofJson? (.object
        [("note".toList, .boolean true), ("note".toList, .null),
          ("roll_type".toList, .string "Advantage".toList), ("repeat_count".toList, .integer 2),
          ("modifier_die".toList, .string "D8".toList), ("hope_die".toList, .string "D20".toList),
          ("base_modifier".toList, .integer (-3))]) = some ⟨2, .d20, .advantage, .d8, -3⟩ ∧
      Settings.ofJson? (.object [("max_rolls".toList, .integer 7)]) =
        some (Settings.standard.withMaxRolls 7) ∧
      Settings.ofJson? (.array [.string "ana".toList, .null, .string "warn".toList,
        .integer 100]) = some (Settings.standard.withName "ana".toList) := by
  obtain ⟨hrequests, _, hsettings, _, _, hkept⟩ := records_round_trip
  refine ⟨?_, ?_, ?_⟩
  · have hread := hrequests.reads_reordered
      [("base_modifier".toList, .integer (-3)), ("hope_die".toList, .string "D20".toList),
        ("modifier_die".toList, .string "D8".toList), ("repeat_count".toList, .integer 2),
        ("roll_type".toList, .string "Advantage".toList)]
      [("note".toList, .null), ("note".toList, .boolean true)] _ (by decide +kernel)
      (by decide +kernel) (List.reverse_perm _)
    exact hread.trans (hrequests.reads_back ⟨2, .d20, .advantage, .d8, -3⟩)
  · exact (hkept ((Settings.standard.withMaxRolls 7).withSeed 5) _ rfl).2
      fun key => key = "max_rolls".toList
  · exact hsettings.reads_items_back (Settings.standard.withName "ana".toList)

end DualityDice
