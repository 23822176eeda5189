import DualityDice.Proofs.Environment.Spelling
import DualityDice.Proofs.Settings.Effective

namespace DualityDice

namespace Environment

def variableFor (key : Text) : Text :=
  nameStart ++ key.map Char.toUpper

/-- Whether an environment gives just these keys these texts, in any order. Variables that set
no key may stand between. -/
def GivesJust (environment : Environment) (texts : List (Text × Text)) : Prop :=
  ∀ binding, (binding ∈ environment ∧ keyOf? binding.1 ≠ none) ↔
    ∃ pair ∈ texts, binding = (variableFor pair.1, pair.2)

theorem keyOf?_variableFor {key : Text} (h : key ∈ Settings.keys) :
    keyOf? (variableFor key) = some [key] := by
  have hall : ∀ key ∈ Settings.keys, keyOf? (variableFor key) = some [key] := by
    decide +kernel
  exact hall key h

def ofTexts (texts : List (Text × Text)) : Environment :=
  texts.map fun pair => (variableFor pair.1, pair.2)

section GivesJust

variable {environment : Environment} {texts : List (Text × Text)} {key text : Text}

theorem GivesJust.sets_iff (h : environment.GivesJust texts)
    (hkeys : ∀ pair ∈ texts, pair.1 ∈ Settings.keys) :
    environment.Sets key text ↔ (key, text) ∈ texts := by
  constructor
  · rintro ⟨name, hmem, hname⟩
    obtain ⟨⟨own, found⟩, hpair, hbinding⟩ := (h (name, text)).mp ⟨hmem, by simp [hname]⟩
    obtain ⟨rfl, rfl⟩ := Prod.mk.inj hbinding
    rw [keyOf?_variableFor (hkeys _ hpair)] at hname
    obtain rfl := List.head_eq_of_cons_eq (Option.some.inj hname)
    exact hpair
  · intro hpair
    obtain ⟨hmem, _⟩ := (h _).mpr ⟨_, hpair, rfl⟩
    exact ⟨variableFor key, hmem, keyOf?_variableFor (hkeys _ hpair)⟩

theorem GivesJust.orderly (h : environment.GivesJust texts)
    (hkeys : ∀ pair ∈ texts, pair.1 ∈ Settings.keys) (hnodup : (texts.map Prod.fst).Nodup) :
    environment.Orderly := by
  constructor
  · intro key _ text other htext hother
    rw [h.sets_iff hkeys] at htext hother
    exact congrArg Prod.snd (List.inj_on_of_nodup_map hnodup htext hother rfl)
  · intro key _ binding hmem inner hname
    obtain ⟨pair, hpair, rfl⟩ := (h binding).mp ⟨hmem, by simp [hname]⟩
    rw [keyOf?_variableFor (hkeys _ hpair)] at hname
    exact (List.tail_eq_of_cons_eq (Option.some.inj hname)).symm

theorem GivesJust.readable_iff (h : environment.GivesJust texts) :
    environment.Readable ↔ ∀ pair ∈ texts, valueOf? pair.2 ≠ none := by
  constructor
  · intro hreadable pair hpair
    obtain ⟨hmem, hname⟩ := (h _).mpr ⟨pair, hpair, rfl⟩
    exact hreadable (variableFor pair.1, pair.2) hmem hname
  · intro hvalues binding hmem hname
    obtain ⟨pair, hpair, rfl⟩ := (h binding).mp ⟨hmem, hname⟩
    exact hvalues pair hpair

theorem givesJust_ofTexts (hkeys : ∀ pair ∈ texts, pair.1 ∈ Settings.keys) :
    (ofTexts texts).GivesJust texts := by
  intro binding
  rw [ofTexts, List.mem_map]
  constructor
  · rintro ⟨⟨pair, hpair, rfl⟩, _⟩
    exact ⟨pair, hpair, rfl⟩
  · rintro ⟨pair, hpair, rfl⟩
    exact ⟨⟨pair, hpair, rfl⟩, by simp [keyOf?_variableFor (hkeys pair hpair)]⟩

end GivesJust

end Environment

namespace Settings

open Environment (quoted Kept valueOf? GivesJust)

/-- The text for each key that is set, with name and filter in these spellings. -/
def texts (settings : Settings) (name filter : Text) : List (Text × Text) :=
  [("name".toList, quoted name), ("log_filter".toList, quoted filter),
    ("max_rolls".toList, Numeral.ofNat settings.maxRolls.toNat)] ++
  match settings.seed with
  | some seed => [("seed".toList, Numeral.ofNat seed.toNat)]
  | none => []

section Takes

variable {environment : Environment} {members : List (Text × Toml)} {key text : Text}
  {α : Type} {means : Toml → α → Prop} {standard setting : α}

theorem takes_iff_of_sets (horderly : environment.Orderly) (hkey : key ∈ keys)
    (hsets : environment.Sets key text) :
    Takes (Counts environment members key) means standard setting ↔
      ∃ value, valueOf? text = some value ∧ means value setting := by
  constructor
  · intro htakes
    cases htakes with
    | standard hnone =>
        cases hnone with
        | missing hunset _ => exact absurd hsets (hunset text)
    | value hcounts hmeans =>
        cases hcounts with
        | set hother hvalue =>
            rw [horderly.single key hkey _ _ hother hsets] at hvalue
            exact ⟨_, hvalue, hmeans⟩
        | written hunset _ => exact absurd hsets (hunset text)
  · rintro ⟨value, hvalue, hmeans⟩
    exact .value (.set hsets hvalue) hmeans

theorem takes_iff_of_value {value : Toml} (horderly : environment.Orderly) (hkey : key ∈ keys)
    (hsets : environment.Sets key text) (hvalue : valueOf? text = some value) :
    Takes (Counts environment members key) means standard setting ↔ means value setting := by
  rw [takes_iff_of_sets horderly hkey hsets, hvalue]
  simp

theorem takes_iff_of_unset (hunset : ∀ text, ¬environment.Sets key text) :
    Takes (Counts environment [] key) means standard setting ↔ setting = standard := by
  constructor
  · intro htakes
    cases htakes with
    | standard _ => rfl
    | value hcounts _ =>
        cases hcounts with
        | set hsets _ => exact absurd hsets (hunset _)
        | written _ hmem => contradiction
  · rintro rfl
    exact .standard (.missing hunset (by simp))

end Takes

section Variables

variable {settings loaded : Settings} {files : Files} {environment : Environment}
  {name filter : Text}

theorem key_mem_of_mem_texts : ∀ pair ∈ settings.texts name filter, pair.1 ∈ keys := by
  cases hseed : settings.seed <;> simp [texts, hseed, keys]

theorem nodup_keys_texts : ((settings.texts name filter).map Prod.fst).Nodup := by
  cases hseed : settings.seed <;> simp [texts, hseed]

theorem seed_mem_texts_iff {text : Text} :
    ("seed".toList, text) ∈ settings.texts name filter ↔
      ∃ seed, settings.seed = some seed ∧ text = Numeral.ofNat seed.toNat := by
  cases hseed : settings.seed <;> simp [texts, hseed]

theorem takes_seed_iff (hgives : environment.GivesJust (settings.texts name filter))
    {seed : Option UInt64} :
    Takes (Counts environment [] "seed".toList)
        (fun value seed => ∃ word : UInt64, value = .integer word.toNat ∧ some word = seed)
        standard.seed seed ↔ seed = settings.seed := by
  have hsets := fun text => @GivesJust.sets_iff _ _ "seed".toList text hgives key_mem_of_mem_texts
  have horderly := hgives.orderly key_mem_of_mem_texts nodup_keys_texts
  cases hseed : settings.seed with
  | none =>
      have hunset : ∀ text, ¬environment.Sets "seed".toList text := by
        intro text
        rw [hsets, seed_mem_texts_iff]
        simp [hseed]
      exact takes_iff_of_unset hunset
  | some own =>
      rw [takes_iff_of_value horderly (by decide)
        ((hsets _).mpr (seed_mem_texts_iff.mpr ⟨own, hseed, rfl⟩))
        (Environment.valueOf?_ofNat own.toNat_lt)]
      constructor
      · rintro ⟨word, hword, rfl⟩
        rw [Toml.integer.injEq, Int.natCast_inj, UInt64.toNat_inj] at hword
        rw [hword]
      · rintro rfl
        exact ⟨own, rfl, rfl⟩

theorem takes_string_iff (hgives : environment.GivesJust (settings.texts name filter))
    {key inner standard text : Text} (hmem : (key, quoted inner) ∈ settings.texts name filter) :
    Takes (Counts environment [] key) (fun value text => value = .string text) standard text ↔
      valueOf? (quoted inner) = some (.string text) := by
  have horderly := hgives.orderly key_mem_of_mem_texts nodup_keys_texts
  rw [takes_iff_of_sets horderly (key_mem_of_mem_texts _ hmem)
    ((hgives.sets_iff key_mem_of_mem_texts).mpr hmem)]
  exact exists_eq_right

theorem takes_maxRolls_iff (hgives : environment.GivesJust (settings.texts name filter))
    {maxRolls : UInt32} :
    Takes (Counts environment [] "max_rolls".toList)
        (fun value word => value = .integer word.toNat) standard.maxRolls maxRolls ↔
      maxRolls = settings.maxRolls := by
  have horderly := hgives.orderly key_mem_of_mem_texts nodup_keys_texts
  have hmem : ("max_rolls".toList, Numeral.ofNat settings.maxRolls.toNat) ∈
      settings.texts name filter := by
    simp [texts]
  have hfits := Nat.lt_trans settings.maxRolls.toNat_lt (by decide : UInt32.size < UInt64.size)
  rw [takes_iff_of_value horderly (key_mem_of_mem_texts _ hmem)
    ((hgives.sets_iff key_mem_of_mem_texts).mpr hmem) (Environment.valueOf?_ofNat hfits),
    Toml.integer.injEq, Int.natCast_inj, UInt32.toNat_inj]
  exact eq_comm

theorem valueOf?_texts (hname : valueOf? (quoted name) ≠ none)
    (hfilter : valueOf? (quoted filter) ≠ none) :
    ∀ pair ∈ settings.texts name filter, valueOf? pair.2 ≠ none := by
  have hnumeral : ∀ n < UInt64.size, valueOf? (Numeral.ofNat n) ≠ none := by
    intro n hn
    simp [Environment.valueOf?_ofNat hn]
  have hmaxRolls := hnumeral _
    (Nat.lt_trans settings.maxRolls.toNat_lt (by decide : UInt32.size < UInt64.size))
  have hseed := fun seed : UInt64 => hnumeral _ seed.toNat_lt
  cases hset : settings.seed <;> simp [texts, hset, hname, hfilter, hmaxRolls, hseed]

theorem load_variables_eq_ok_iff (hgives : environment.GivesJust (settings.texts name filter)) :
    load files none environment = .ok loaded ↔
      loaded.validate = .ok () ∧ valueOf? (quoted name) = some (.string loaded.name) ∧
        valueOf? (quoted filter) = some (.string loaded.logFilter) ∧
        loaded.seed = settings.seed ∧ loaded.maxRolls = settings.maxRolls := by
  have hnameMem : ("name".toList, quoted name) ∈ settings.texts name filter := by
    simp [texts]
  have hfilterMem : ("log_filter".toList, quoted filter) ∈ settings.texts name filter := by
    simp [texts]
  rw [load_eq_ok_iff_obeys (hgives.orderly key_mem_of_mem_texts nodup_keys_texts)]
  constructor
  · rintro ⟨_, hvalid, members, hsupplies, hname, hseed, hfilter, hmaxRolls⟩
    obtain _ | _ | _ := hsupplies
    exact ⟨hvalid, (takes_string_iff hgives hnameMem).mp hname,
      (takes_string_iff hgives hfilterMem).mp hfilter, (takes_seed_iff hgives).mp hseed,
      (takes_maxRolls_iff hgives).mp hmaxRolls⟩
  · rintro ⟨hvalid, hname, hfilter, hseed, hmaxRolls⟩
    have hvalues : ∀ pair ∈ settings.texts name filter, valueOf? pair.2 ≠ none :=
      valueOf?_texts (by simp [hname]) (by simp [hfilter])
    exact ⟨hgives.readable_iff.mpr hvalues, hvalid, [], .noPath,
      (takes_string_iff hgives hnameMem).mpr hname, (takes_seed_iff hgives).mpr hseed,
      (takes_string_iff hgives hfilterMem).mpr hfilter, (takes_maxRolls_iff hgives).mpr hmaxRolls⟩

theorem sublist_of_valueOf?_quoted {inner text read : Text} (h : Toml.Spells inner text)
    (hvalue : valueOf? (quoted inner) = some (.string read)) : read.Sublist text := by
  obtain ⟨found, hfound, heq⟩ := (Environment.valueOf?_quoted_eq_some_iff h).mp hvalue
  rw [Toml.string.injEq] at heq
  rw [heq]
  exact Environment.sublist_of_unescape h hfound

theorem load_variables_eq_self_iff (hvalid : settings.validate = .ok ())
    (hname : Toml.Spells name settings.name) (hfilter : Toml.Spells filter settings.logFilter)
    (hgives : environment.GivesJust (settings.texts name filter)) :
    load files none environment = .ok settings ↔ Kept name ∧ Kept filter := by
  rw [load_variables_eq_ok_iff hgives, Environment.valueOf?_quoted_eq_string_iff hname,
    Environment.valueOf?_quoted_eq_string_iff hfilter]
  constructor
  · rintro ⟨_, hname, hfilter, _⟩
    exact ⟨hname, hfilter⟩
  · rintro ⟨hname, hfilter⟩
    exact ⟨hvalid, hname, hfilter, rfl, rfl⟩

theorem exists_kept_spells (text : Text) : ∃ inner, Toml.Spells inner text ∧ Kept inner := by
  obtain ⟨inner, hspells, hascii⟩ := Toml.exists_ascii_spells text
  exact ⟨inner, hspells, .inr fun c hc => hascii c ((List.takeWhile_sublist _).subset hc)⟩

/-- Settings that make sense are what is loaded from the variables that spell them just if
neither text is spelled with an escape behind a character that is not in ASCII. Whatever else
is loaded has the same numbers, and texts that only lack characters. -/
theorem loads_what_variables_spell (hvalid : settings.validate = .ok ()) :
    (∀ files environment name filter, Toml.Spells name settings.name →
      Toml.Spells filter settings.logFilter →
      environment.GivesJust (settings.texts name filter) →
      (load files none environment = .ok settings ↔ Kept name ∧ Kept filter) ∧
      ∀ loaded, load files none environment = .ok loaded →
        loaded.name.Sublist settings.name ∧ loaded.logFilter.Sublist settings.logFilter ∧
          loaded.seed = settings.seed ∧ loaded.maxRolls = settings.maxRolls) ∧
    ∃ name filter environment, Toml.Spells name settings.name ∧
      Toml.Spells filter settings.logFilter ∧
      environment.GivesJust (settings.texts name filter) ∧
      ∀ files, load files none environment = .ok settings := by
  constructor
  · intro files environment name filter hname hfilter hgives
    refine ⟨load_variables_eq_self_iff hvalid hname hfilter hgives, ?_⟩
    intro loaded hload
    obtain ⟨_, hloadedName, hloadedFilter, hseed, hmaxRolls⟩ :=
      (load_variables_eq_ok_iff hgives).mp hload
    exact ⟨sublist_of_valueOf?_quoted hname hloadedName,
      sublist_of_valueOf?_quoted hfilter hloadedFilter, hseed, hmaxRolls⟩
  · obtain ⟨name, hname, hnameKept⟩ := exists_kept_spells settings.name
    obtain ⟨filter, hfilter, hfilterKept⟩ := exists_kept_spells settings.logFilter
    have hgives : (Environment.ofTexts (settings.texts name filter)).GivesJust _ :=
      Environment.givesJust_ofTexts key_mem_of_mem_texts
    refine ⟨name, filter, _, hname, hfilter, hgives, ?_⟩
    intro files
    exact (load_variables_eq_self_iff hvalid hname hfilter hgives).mpr ⟨hnameKept, hfilterKept⟩

end Variables

section Accented

def accented : Settings :=
  ⟨"éx\"".toList, some 18446744073709551615, "warn".toList, 4294967295⟩

theorem spells_accented : Toml.Spells "éx\\\"".toList accented.name :=
  .cons (.plain (by decide)) (.cons (.plain (by decide)) (.cons (.short (by decide)) .nil))

theorem spells_warn : Toml.Spells "warn".toList accented.logFilter :=
  Toml.spells_self (by simp [Toml.isQuotable, Toml.isPlain])

theorem loads_accented_from_digits :
    load (filesWith []) none
        (Environment.ofTexts (accented.texts "\\u00e9x\\\"".toList "warn".toList)) =
      .ok accented := by
  have hspells : Toml.Spells "\\u00e9x\\\"".toList accented.name :=
    .cons (@Toml.Writes.four 'é' "00e9".toList rfl (by decide))
      (.cons (.plain (by decide)) (.cons (.short (by decide)) .nil))
  have hvalid : accented.validate = .ok () := by decide
  exact ((loads_what_variables_spell hvalid).1 _ _ _ _ hspells spells_warn
    (Environment.givesJust_ofTexts key_mem_of_mem_texts)).1.mpr
    ⟨.inr (by simp), .inl (by simp)⟩

theorem variables_may_lose_characters :
    ¬∀ (settings : Settings) (files : Files) (environment : Environment) (name filter : Text),
      settings.validate = .ok () → Toml.Spells name settings.name →
      Toml.Spells filter settings.logFilter →
      environment.GivesJust (settings.texts name filter) →
      load files none environment = .ok settings := by
  intro hall
  have hload := hall accented (filesWith []) _ _ _ (by decide) spells_accented spells_warn
    (Environment.givesJust_ofTexts key_mem_of_mem_texts)
  have hlost : load (filesWith []) none
      (Environment.ofTexts (accented.texts "éx\\\"".toList "warn".toList)) =
        .ok (accented.withName "é\"".toList) := by
    decide +kernel
  rw [hlost] at hload
  exact absurd hload (by decide)

end Accented

end Settings

end DualityDice
