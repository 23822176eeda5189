import DualityDice.Proofs.Directory
import DualityDice.Proofs.Environment.Entries
import DualityDice.Proofs.Numeral
import DualityDice.Proofs.Settings.Loading
import DualityDice.Proofs.Settings.Wrapped
import DualityDice.Proofs.Text.Utf8

/-!
Settings are layered key by key. For each of them one value counts, and only that one has to
be of the right type: what it hides, and what stands at other keys, is not looked at.
-/

namespace DualityDice.Settings

/-- The value that counts for a key: that of the text which the environment gives it, else
the one that the file has there, else none. -/
inductive Counts (environment : Environment) (members : List (Text × Toml)) (key : Text) :
    Option Toml → Prop where
  | set {text : Text} {value : Toml} (hset : environment.Sets key text)
      (hvalue : Environment.valueOf? text = some value) :
      Counts environment members key (some value)
  | written {value : Toml} (hunset : ∀ text, ¬environment.Sets key text)
      (hmem : (key, value) ∈ members) : Counts environment members key (some value)
  | missing (hunset : ∀ text, ¬environment.Sets key text)
      (hmissing : ∀ value, (key, value) ∉ members) : Counts environment members key none

/-- Whether a setting is the standard one, where no value counts for it, or else the one that
the value means. -/
inductive Takes {α : Type} (counts : Option Toml → Prop) (means : Toml → α → Prop)
    (standard : α) : α → Prop where
  | standard (hnone : counts none) : Takes counts means standard standard
  | value {value : Toml} {setting : α} (hcounts : counts (some value))
      (hmeans : means value setting) : Takes counts means standard setting

/-- Whether each setting is the one that the value which counts for its key means. The value
has to be of exactly the setting's type, and in its range. -/
structure Obeys (settings : Settings) (counts : Text → Option Toml → Prop) : Prop where
  name : Takes (counts "name".toList) (fun value name => value = .string name)
    standard.name settings.name
  seed : Takes (counts "seed".toList)
    (fun value seed => ∃ word : UInt64, value = .integer word.toNat ∧ some word = seed)
    standard.seed settings.seed
  logFilter : Takes (counts "log_filter".toList) (fun value filter => value = .string filter)
    standard.logFilter settings.logFilter
  maxRolls : Takes (counts "max_rolls".toList) (fun value word => value = .integer word.toNat)
    standard.maxRolls settings.maxRolls

section Types

variable {value : Toml}

theorem stringOf?_eq_some_iff {text : Text} :
    stringOf? value = some text ↔ value = .string text := by
  cases value <;> simp [stringOf?]

theorem word64Of?_eq_some_iff {word : UInt64} :
    word64Of? value = some word ↔ value = .integer word.toNat := by
  unfold word64Of?
  split
  · rw [Numeral.toWord64?_eq_some_iff, Toml.integer.injEq, Int.ofNat_eq_natCast, Int.natCast_inj]
    exact eq_comm
  · rename_i hother
    simp only [reduceCtorEq, false_iff]
    exact hother _

theorem word32Of?_eq_some_iff {word : UInt32} :
    word32Of? value = some word ↔ value = .integer word.toNat := by
  unfold word32Of?
  split
  · rw [Numeral.toWord32?_eq_some_iff, Toml.integer.injEq, Int.ofNat_eq_natCast, Int.natCast_inj]
    exact eq_comm
  · rename_i hother
    simp only [reduceCtorEq, false_iff]
    exact hother _

end Types

namespace Layers

variable {environment : Environment} {entries members : List (Text × Toml)} {key : Text}
  {settings : Settings}

theorem value?_eq_iff (horderly : environment.Orderly) (hkey : key ∈ keys)
    (hentries : Environment.entries? environment = some entries)
    (hkeys : (members.map Prod.fst).Nodup) {value : Option Toml} :
    value? ⟨members, entries⟩ key = value ↔ Counts environment members key value := by
  have hset := fun value => @Environment.lookup_entries_eq_some_iff _ _ _ value horderly hkey hentries
  have hunset := Environment.lookup_entries_eq_none_iff horderly hkey hentries
  unfold value?
  cases hlookup : Toml.lookup key entries with
  | some own =>
      obtain ⟨text, hsets, hvalue⟩ := (hset own).mp hlookup
      constructor
      · rintro rfl
        exact .set hsets hvalue
      · intro hcounts
        cases hcounts with
        | set hother hlast => rw [← hlookup, (hset _).mpr ⟨_, hother, hlast⟩]
        | written hnever _ => exact absurd hsets (hnever text)
        | missing hnever _ => exact absurd hsets (hnever text)
  | none =>
      have hnever := hunset.mp hlookup
      have hwritten : ∀ value, Toml.lookup key members = some value ↔ (key, value) ∈ members :=
        fun _ => Toml.lookup_eq_some_iff fun _ _ => Toml.eq_of_mem_of_nodup_keys hkeys
      constructor
      · intro hvalue
        cases value with
        | none => exact .missing hnever (Toml.lookup_eq_none_iff.mp hvalue)
        | some value => exact .written hnever ((hwritten value).mp hvalue)
      · intro hcounts
        cases hcounts with
        | set hsets _ => exact absurd hsets (hnever _)
        | written _ hmem => exact (hwritten _).mpr hmem
        | missing _ hmissing => exact Toml.lookup_eq_none_iff.mpr hmissing

theorem setting_eq_ok_iff {α : Type} {layers : Layers} {counts : Option Toml → Prop}
    {read : Toml → Option α} {means : Toml → α → Prop} {standard setting : α}
    (hcounts : ∀ value, layers.value? key = value ↔ counts value)
    (hread : ∀ value setting, read value = some setting ↔ means value setting) :
    layers.setting key read standard = .ok setting ↔ Takes counts means standard setting := by
  unfold Layers.setting
  cases hvalue : layers.value? key with
  | none =>
      have hnone := (hcounts none).mp hvalue
      constructor
      · intro h
        obtain rfl := Except.ok.inj h
        exact .standard hnone
      · intro h
        cases h with
        | standard _ => rfl
        | value hsome _ =>
            rw [← hcounts, hvalue] at hsome
            contradiction
  | some value =>
      have hsome := (hcounts (some value)).mp hvalue
      constructor
      · intro h
        dsimp only at h
        split at h
        · rename_i found hfound
          obtain rfl := Except.ok.inj h
          exact .value hsome ((hread value found).mp hfound)
        · contradiction
      · intro h
        cases h with
        | standard hnone =>
            rw [← hcounts, hvalue] at hnone
            contradiction
        | value hother hmeans =>
            rw [← hcounts, hvalue] at hother
            obtain rfl := Option.some.inj hother
            simp only [(hread _ _).mpr hmeans]

theorem settings_eq_ok_iff {layers : Layers} {counts : Text → Option Toml → Prop}
    (hcounts : ∀ key ∈ keys, ∀ value, layers.value? key = value ↔ counts key value) :
    layers.settings = .ok settings ↔ settings.Obeys counts := by
  have hname : layers.setting _ stringOf? standard.name = .ok settings.name ↔ _ :=
    setting_eq_ok_iff (hcounts "name".toList (by decide)) fun _ _ => stringOf?_eq_some_iff
  have hseed : layers.setting _ (fun value => (word64Of? value).map some) standard.seed =
      .ok settings.seed ↔ _ :=
    setting_eq_ok_iff (hcounts "seed".toList (by decide)) fun _ _ => by
      simp only [Option.map_eq_some_iff, word64Of?_eq_some_iff]
      rfl
  have hfilter : layers.setting _ stringOf? standard.logFilter = .ok settings.logFilter ↔ _ :=
    setting_eq_ok_iff (hcounts "log_filter".toList (by decide)) fun _ _ => stringOf?_eq_some_iff
  have hlimit : layers.setting _ word32Of? standard.maxRolls = .ok settings.maxRolls ↔ _ :=
    setting_eq_ok_iff (hcounts "max_rolls".toList (by decide)) fun _ _ => word32Of?_eq_some_iff
  unfold Layers.settings
  simp only [bind_eq_ok_iff, Except.ok.injEq]
  constructor
  · rintro ⟨name, hnamed, seed, hseeded, filter, hfiltered, limit, hlimited, rfl⟩
    exact ⟨hname.mp hnamed, hseed.mp hseeded, hfilter.mp hfiltered, hlimit.mp hlimited⟩
  · rintro ⟨hnamed, hseeded, hfiltered, hlimited⟩
    exact ⟨_, hname.mpr hnamed, _, hseed.mpr hseeded, _, hfilter.mpr hfiltered, _,
      hlimit.mpr hlimited, rfl⟩

theorem settings_congr {first second : Layers}
    (h : ∀ key ∈ keys, first.value? key = second.value? key) :
    first.settings = second.settings := by
  have hsetting : ∀ key ∈ keys, ∀ {α : Type} (read : Toml → Option α) (standard : α),
      first.setting key read standard = second.setting key read standard := by
    intro key hkey α read standard
    unfold Layers.setting
    rw [h key hkey]
  unfold Layers.settings
  rw [hsetting "name".toList (by decide), hsetting "seed".toList (by decide),
    hsetting "log_filter".toList (by decide), hsetting "max_rolls".toList (by decide)]

end Layers

section Loading

variable {files : Files} {path : Option Text} {environment : Environment}
  {entries members : List (Text × Toml)} {settings : Settings}

theorem Supplies.nodup_keys (h : Supplies files path members) : (members.map Prod.fst).Nodup := by
  cases h with
  | noPath => exact List.nodup_nil
  | nothingRead _ _ => exact List.nodup_nil
  | document _ _ _ hdocument hmembers =>
      rw [keys_unwrapDocument hmembers]
      exact Toml.nodup_keys_of_read? hdocument

theorem value?_eq_iff_of_supplies (horderly : environment.Orderly)
    (hentries : Environment.entries? environment = some entries)
    (hsupplies : Supplies files path members) :
    ∀ key ∈ keys, ∀ value,
      Layers.value? ⟨members, entries⟩ key = value ↔ Counts environment members key value :=
  fun _ hkey _ => Layers.value?_eq_iff horderly hkey hentries hsupplies.nodup_keys

theorem load_eq_ok_iff_obeys (horderly : environment.Orderly) :
    load files path environment = .ok settings ↔
      environment.Readable ∧ settings.validate = .ok () ∧
        ∃ members, Supplies files path members ∧
          settings.Obeys (Counts environment members) := by
  rw [load_eq_ok_iff]
  constructor
  · rintro ⟨entries, members, hentries, hsupplies, hsettings, hvalid⟩
    have hcounts := value?_eq_iff_of_supplies horderly hentries hsupplies
    exact ⟨Environment.exists_entries?_iff.mp ⟨entries, hentries⟩, hvalid, members, hsupplies,
      (Layers.settings_eq_ok_iff hcounts).mp hsettings⟩
  · rintro ⟨hreadable, hvalid, members, hsupplies, hobeys⟩
    obtain ⟨entries, hentries⟩ := Environment.exists_entries?_iff.mpr hreadable
    have hcounts := value?_eq_iff_of_supplies horderly hentries hsupplies
    exact ⟨entries, members, hentries, hsupplies,
      (Layers.settings_eq_ok_iff hcounts).mpr hobeys, hvalid⟩

theorem load_congr {others : List (Text × Toml)} {otherFiles : Files} {otherPath : Option Text}
    {otherEnvironment : Environment} (horderly : environment.Orderly)
    (hother : otherEnvironment.Orderly) (hreadable : environment.Readable)
    (hotherReadable : otherEnvironment.Readable) (hsupplies : Supplies files path members)
    (hothers : Supplies otherFiles otherPath others)
    (hcounts : ∀ key ∈ keys, ∀ value,
      Counts environment members key value ↔ Counts otherEnvironment others key value) :
    load files path environment = load otherFiles otherPath otherEnvironment := by
  obtain ⟨entries, hentries⟩ := Environment.exists_entries?_iff.mpr hreadable
  obtain ⟨otherEntries, hotherEntries⟩ := Environment.exists_entries?_iff.mpr hotherReadable
  have hsame : Layers.settings ⟨members, entries⟩ = Layers.settings ⟨others, otherEntries⟩ := by
    apply Layers.settings_congr
    intro key hkey
    rw [value?_eq_iff_of_supplies horderly hentries hsupplies key hkey, hcounts key hkey,
      ← value?_eq_iff_of_supplies hother hotherEntries hothers key hkey]
  rw [load_of_supplies hentries hsupplies, load_of_supplies hotherEntries hothers, hsame]

/-- A file that is read as the path names it supplies members unless a table in it has the
reserved key, and its own members if no table stands for a value. -/
theorem supplies_of_document {path text : Text} {contents : Bytes}
    {document : List (Text × Toml)} (hfile : files.contents? path = some contents)
    (hread : files.find? path = some contents) (htext : Text.ofUtf8? contents = some text)
    (hdocument : Toml.read? text = some document) :
    ((∃ members, Supplies files (some path) members) ↔
        ∀ member ∈ document, Toml.Lacks reservedKey member.2) ∧
      ((∀ member ∈ document, Toml.Lacks reservedKey member.2 ∧ Toml.Lacks wrappedKey member.2) →
        Supplies files (some path) document) := by
  constructor
  · rw [← isSome_unwrapDocument_iff, Option.isSome_iff_exists]
    constructor
    · rintro ⟨members, hsupplies⟩
      obtain ⟨found, hcontents, hmembers⟩ := supplies_iff.mp hsupplies
      obtain ⟨_, hfound⟩ := contentsOf_some_eq_ok_iff.mp hcontents
      rw [← hfound, hread, membersOf_some_eq_ok_iff] at hmembers
      obtain ⟨own, ownDocument, hown, hownDocument, hunwrapped⟩ := hmembers
      rw [htext] at hown
      obtain rfl := Option.some.inj hown
      rw [hdocument] at hownDocument
      obtain rfl := Option.some.inj hownDocument
      exact ⟨members, hunwrapped⟩
    · rintro ⟨members, hmembers⟩
      exact ⟨members, .document hfile hread htext hdocument hmembers⟩
  · intro hlacks
    exact .document hfile hread htext hdocument (unwrapDocument_of_lacks hlacks)

/-- Settings are loaded just when file and environment can be read, the value that counts for
each key is of its type and in its range, and the whole makes sense. Each setting is then what
that value means. No other value has a part in it, nor in an error once file and environment
can be read. -/
theorem loads_by_effective_values (horderly : environment.Orderly) :
    (∀ settings, load files path environment = .ok settings ↔
      environment.Readable ∧ settings.validate = .ok () ∧
        ∃ members, Supplies files path members ∧
          settings.Obeys (Counts environment members)) ∧
    (∀ otherFiles otherPath otherEnvironment members others,
      otherEnvironment.Orderly → environment.Readable → otherEnvironment.Readable →
      Supplies files path members → Supplies otherFiles otherPath others →
      (∀ key ∈ keys, ∀ value,
        Counts environment members key value ↔ Counts otherEnvironment others key value) →
      load files path environment = load otherFiles otherPath otherEnvironment) ∧
    (∀ path text contents document, files.contents? path = some contents →
      files.find? path = some contents → Text.ofUtf8? contents = some text →
      Toml.read? text = some document →
      ((∃ members, Supplies files (some path) members) ↔
        ∀ member ∈ document, Toml.Lacks reservedKey member.2) ∧
      ((∀ member ∈ document,
          Toml.Lacks reservedKey member.2 ∧ Toml.Lacks wrappedKey member.2) →
        Supplies files (some path) document)) ∧
    ((∀ binding ∈ environment, ¬Environment.Cuttable binding.2) → environment.Readable) := by
  refine ⟨fun _ => load_eq_ok_iff_obeys horderly, ?_, ?_, Environment.readable_of_not_cuttable⟩
  · intro otherFiles otherPath otherEnvironment members others hother hreadable hotherReadable
      hsupplies hothers hcounts
    exact load_congr horderly hother hreadable hotherReadable hsupplies hothers hcounts
  · intro path text contents document hfile hread htext hdocument
    exact supplies_of_document hfile hread htext hdocument

def filesWith (text : Text) : Files :=
  Directory.toFiles ⟨[], [("f.toml".toList, text.toUtf8)]⟩

theorem contents?_filesWith (text : Text) :
    (filesWith text).contents? "f.toml".toList = some text.toUtf8 :=
  rfl

theorem find?_filesWith (text : Text) :
    (filesWith text).find? "f.toml".toList = some text.toUtf8 := by
  have hshort : Text.byteCount (Files.fullPath [] "f.toml".toList) < Directory.pathLimit := by
    decide
  exact Directory.find?_toFiles_of_contents? (contents?_filesWith text) (.inr hshort)

def maskingEnvironment : Environment :=
  [("DUALITY_SEED".toList, "3".toList), ("DUALITY_MODE".toList, "[1".toList)]

theorem maskingEnvironment_orderly : maskingEnvironment.Orderly := by
  have hseed : Environment.keyOf? "DUALITY_SEED".toList = some ["seed".toList] := by
    decide +kernel
  have hmode : Environment.keyOf? "DUALITY_MODE".toList = some ["mode".toList] := by
    decide +kernel
  have hne : "mode".toList ∉ keys := by decide
  constructor
  · rintro key hkey text other ⟨name, hname, hset⟩ ⟨last, hlast, hother⟩
    rcases List.mem_pair.mp hname with hname | hname <;> obtain ⟨rfl, rfl⟩ := Prod.mk.inj hname
    · rcases List.mem_pair.mp hlast with hlast | hlast <;> obtain ⟨rfl, rfl⟩ := Prod.mk.inj hlast
      · rfl
      · rw [hseed] at hset
        rw [hmode, ← hset] at hother
        exact absurd hother (by decide)
    · rw [hmode] at hset
      obtain rfl := List.head_eq_of_cons_eq (Option.some.inj hset)
      exact absurd hkey hne
  · intro key hkey binding hmem inner hname
    rcases List.mem_pair.mp hmem with rfl | rfl
    · rw [hseed] at hname
      exact (List.tail_eq_of_cons_eq (Option.some.inj hname)).symm
    · rw [hmode] at hname
      exact (List.tail_eq_of_cons_eq (Option.some.inj hname)).symm

theorem loads_despite_masked_seed :
    load (filesWith "seed = \"x\"\nname = \"q\"\n[duality]\nmax_rolls = -1\n".toList)
        (some "f.toml".toList) maskingEnvironment =
      .ok ⟨"q".toList, some 3, "warn".toList, 100⟩ := by
  obtain ⟨hload, _, _, hreadable⟩ := loads_by_effective_values maskingEnvironment_orderly
  have hlayers :
      ((Toml.read? "seed = \"x\"\nname = \"q\"\n[duality]\nmax_rolls = -1\n".toList).bind
        fun document => (unwrapDocument document).bind fun members =>
          (Environment.entries? maskingEnvironment).map fun entries =>
            Layers.settings ⟨members, entries⟩) =
        some (.ok ⟨"q".toList, some 3, "warn".toList, 100⟩) := by
    decide +kernel
  obtain ⟨document, hread, hunwrapped⟩ := Option.bind_eq_some_iff.mp hlayers
  obtain ⟨members, hmembers, hset⟩ := Option.bind_eq_some_iff.mp hunwrapped
  obtain ⟨entries, hentries, hsettings⟩ := Option.map_eq_some_iff.mp hset
  have hsupplies := Supplies.document (contents?_filesWith _) (find?_filesWith _)
    (Text.ofUtf8?_toUtf8 _) hread hmembers
  have hcounts := value?_eq_iff_of_supplies maskingEnvironment_orderly hentries hsupplies
  have hplain : ∀ binding ∈ maskingEnvironment, ¬Environment.Cuttable binding.2 := by
    simp [maskingEnvironment, Environment.Cuttable]
  exact (hload _).mpr ⟨hreadable hplain, by decide, members, hsupplies,
    (Layers.settings_eq_ok_iff hcounts).mp hsettings⟩

/-- A valid document is refused for the reserved key, although no setting takes a value from
the table that has it. -/
theorem refuses_reserved_key :
    ¬∀ (files : Files) (path text : Text) (document : List (Text × Toml)) (settings : Settings),
      files.contents? path = some text.toUtf8 → Toml.read? text = some document →
      settings.Obeys (Counts [] document) → settings.validate = .ok () →
      load files (some path) [] = .ok settings := by
  intro hall
  have hlayers : ((Toml.read? "x = {___figment_value_id = 5}\nseed = 1\n".toList).map
      fun document => Layers.settings ⟨document, []⟩) = some (.ok (standard.withSeed 1)) := by
    decide +kernel
  obtain ⟨document, hread, hsettings⟩ := Option.map_eq_some_iff.mp hlayers
  have hcounts : ∀ key ∈ keys, ∀ value,
      Layers.value? ⟨document, []⟩ key = value ↔ Counts [] document key value :=
    fun key hkey value => Layers.value?_eq_iff ⟨by simp [Environment.Sets], by simp⟩ hkey rfl
      (Toml.nodup_keys_of_read? hread)
  have hload := hall _ _ _ document _ (contents?_filesWith _) hread
    ((Layers.settings_eq_ok_iff hcounts).mp hsettings) (by decide)
  exact absurd hload (by decide +kernel)

end Loading

end DualityDice.Settings
