import DualityDice.Settings.Layers

namespace DualityDice

theorem bind_eq_ok_iff {ε α β : Type} {first : Except ε α} {next : α → Except ε β} {result : β} :
    (first >>= next) = .ok result ↔ ∃ value, first = .ok value ∧ next value = .ok result := by
  cases first with
  | error fault =>
      constructor
      · intro h
        cases h
      · rintro ⟨_, h, _⟩
        cases h
  | ok value =>
      constructor
      · intro h
        exact ⟨value, rfl, h⟩
      · rintro ⟨_, hvalue, h⟩
        rw [Except.ok.injEq] at hvalue
        rw [hvalue]
        exact h

namespace Settings

theorem validate_eq_ok_iff {settings : Settings} :
    settings.validate = .ok () ↔ settings.name.trim ≠ [] ∧ settings.maxRolls ≠ 0 := by
  unfold validate fault?
  by_cases hname : settings.name.trim = []
  · simp [hname]
  · by_cases hlimit : settings.maxRolls = 0
    · simp [hname, hlimit]
    · simp [hname, hlimit]

theorem validate_of_blank {settings : Settings} (h : settings.name.trim = []) :
    settings.validate = .error (.invalidSettings .emptyName) := by
  rw [validate, fault?, if_pos h]

/-- The members that the file at a path supplies. The path has to name a file; the one that
is read is the first that a full path for it names, and has to be a document in which no
table below the top level has the reserved key. -/
inductive Supplies (files : Files) : Option Text → List (Text × Toml) → Prop where
  | noPath : Supplies files none []
  | nothingRead {path : Text} {own : Bytes} (hfile : files.contents? path = some own)
      (hread : files.find? path = none) : Supplies files (some path) []
  | document {path text : Text} {own contents : Bytes} {document members : List (Text × Toml)}
      (hfile : files.contents? path = some own) (hread : files.find? path = some contents)
      (htext : Text.ofUtf8? contents = some text) (hdocument : Toml.read? text = some document)
      (hmembers : unwrapDocument document = some members) : Supplies files (some path) members

section Steps

variable {files : Files} {path : Option Text} {environment : Environment}
  {entries members : List (Text × Toml)} {settings : Settings}

theorem entriesOf_eq_ok_iff :
    entriesOf environment = .ok entries ↔ Environment.entries? environment = some entries := by
  unfold entriesOf
  cases Environment.entries? environment with
  | none => simp
  | some found => simp

theorem contentsOf_some_eq_ok_iff {path : Text} {contents : Option Bytes} :
    contentsOf files (some path) = .ok contents ↔
      (∃ own, files.contents? path = some own) ∧ files.find? path = contents := by
  unfold contentsOf
  dsimp only
  cases files.contents? path with
  | none => simp
  | some own => simp

theorem membersOf_some_eq_ok_iff {contents : Bytes} :
    membersOf (some contents) = .ok members ↔
      ∃ text document, Text.ofUtf8? contents = some text ∧ Toml.read? text = some document ∧
        unwrapDocument document = some members := by
  unfold membersOf
  dsimp only
  cases htext : Text.ofUtf8? contents with
  | none => simp
  | some text =>
      cases hdocument : Toml.read? text with
      | none => simp [hdocument]
      | some document =>
          cases hmembers : unwrapDocument document with
          | none => simp [hdocument, hmembers]
          | some found => simp [hdocument, hmembers]

theorem supplies_iff :
    Supplies files path members ↔
      ∃ contents, contentsOf files path = .ok contents ∧ membersOf contents = .ok members := by
  constructor
  · intro h
    cases h with
    | noPath => exact ⟨none, rfl, rfl⟩
    | nothingRead hfile hread =>
        exact ⟨none, contentsOf_some_eq_ok_iff.mpr ⟨⟨_, hfile⟩, hread⟩, rfl⟩
    | document hfile hread htext hdocument hmembers =>
        exact ⟨_, contentsOf_some_eq_ok_iff.mpr ⟨⟨_, hfile⟩, hread⟩,
          membersOf_some_eq_ok_iff.mpr ⟨_, _, htext, hdocument, hmembers⟩⟩
  · rintro ⟨contents, hcontents, hmembers⟩
    cases path with
    | none =>
        obtain rfl := Except.ok.inj hcontents
        obtain rfl := Except.ok.inj hmembers
        exact .noPath
    | some path =>
        obtain ⟨⟨own, hfile⟩, hread⟩ := contentsOf_some_eq_ok_iff.mp hcontents
        cases contents with
        | none =>
            obtain rfl := Except.ok.inj hmembers
            exact .nothingRead hfile hread
        | some contents =>
            obtain ⟨text, document, htext, hdocument, hunwrapped⟩ :=
              membersOf_some_eq_ok_iff.mp hmembers
            exact .document hfile hread htext hdocument hunwrapped

def checked (settings : Settings) : Except Error Settings :=
  settings.validate.map fun _ => settings

theorem checked_eq_ok_iff {result : Settings} :
    settings.checked = .ok result ↔ settings.validate = .ok () ∧ settings = result := by
  unfold checked
  cases settings.validate with
  | error _ => simp [Except.map]
  | ok _ => simp [Except.map]

theorem load_of_supplies (hentries : Environment.entries? environment = some entries)
    (hsupplies : Supplies files path members) :
    load files path environment = Layers.settings ⟨members, entries⟩ >>= checked := by
  obtain ⟨contents, hcontents, hmembers⟩ := supplies_iff.mp hsupplies
  rw [load, hcontents, entriesOf_eq_ok_iff.mpr hentries]
  change (membersOf contents >>= _) = _
  rw [hmembers]
  change (Layers.settings ⟨members, entries⟩ >>= _) = _
  cases Layers.settings ⟨members, entries⟩ with
  | error _ => rfl
  | ok found =>
      change (found.validate >>= _) = found.validate.map _
      cases found.validate <;> rfl

theorem load_eq_ok_iff :
    load files path environment = .ok settings ↔
      ∃ entries members, Environment.entries? environment = some entries ∧
        Supplies files path members ∧ Layers.settings ⟨members, entries⟩ = .ok settings ∧
        settings.validate = .ok () := by
  constructor
  · intro h
    simp only [load, bind_eq_ok_iff, Except.ok.injEq] at h
    obtain ⟨contents, hcontents, entries, hentries, members, hmembers, found, hfound, _,
      hvalid, rfl⟩ := h
    exact ⟨entries, members, entriesOf_eq_ok_iff.mp hentries,
      supplies_iff.mpr ⟨contents, hcontents, hmembers⟩, hfound, hvalid⟩
  · rintro ⟨entries, members, hentries, hsupplies, hsettings, hvalid⟩
    rw [load_of_supplies hentries hsupplies, bind_eq_ok_iff]
    exact ⟨settings, hsettings, checked_eq_ok_iff.mpr ⟨hvalid, rfl⟩⟩

theorem validate_of_load (h : load files path environment = .ok settings) :
    settings.validate = .ok () := by
  obtain ⟨_, _, _, _, _, hvalid⟩ := load_eq_ok_iff.mp h
  exact hvalid

end Steps

end Settings

end DualityDice
