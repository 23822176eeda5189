import DualityDice.Environment.Entries
import DualityDice.Proofs.Environment.Readable
import DualityDice.Proofs.Text.Lines
import DualityDice.Proofs.Toml.Keys
import DualityDice.Settings.Json

namespace DualityDice.Environment

def Sets (environment : Environment) (key text : Text) : Prop :=
  ∃ name, (name, text) ∈ environment ∧ keyOf? name = some [key]

/-- Whether the text of each variable that sets something has a value. -/
def Readable (environment : Environment) : Prop :=
  ∀ binding ∈ environment, keyOf? binding.1 ≠ none → valueOf? binding.2 ≠ none

def Gives (binding : Text × Text) (key : Text) (value : Toml) : Prop :=
  ∃ inner own, keyOf? binding.1 = some (key :: inner) ∧ valueOf? binding.2 = some own ∧
    value = nest inner own

/-- An environment in which the keys of the settings are each given one text at most, and no
name goes on behind such a key. -/
structure Orderly (environment : Environment) : Prop where
  single : ∀ key ∈ Settings.keys, ∀ text other,
    environment.Sets key text → environment.Sets key other → text = other
  flat : ∀ key ∈ Settings.keys, ∀ binding ∈ environment, ∀ inner,
    keyOf? binding.1 = some (key :: inner) → inner = []

theorem keyOf?_ne_some_nil (name : Text) : keyOf? name ≠ some [] := by
  intro h
  unfold keyOf? at h
  split at h
  · rename_i key _
    have hparts : (Text.trim key).splitAll '.' ≠ [] := by
      rw [Text.splitAll_eq_splitOn]
      exact List.splitOn_ne_nil '.' _
    dsimp only at h
    split at h
    · contradiction
    · exact hparts (Option.some.inj h)
  · contradiction

section Entries

variable {name text : Text} {rest environment : Environment} {entries : List (Text × Toml)}

theorem entries?_cons_of_none (h : keyOf? name = none) :
    entries? ((name, text) :: rest) = entries? rest := by
  rw [entries?, h]

theorem entries?_cons_of_some {key : Text} {inner : List Text}
    (h : keyOf? name = some (key :: inner)) :
    entries? ((name, text) :: rest) =
      (valueOf? text).bind fun value =>
        (entries? rest).map fun entries => (key, nest inner value) :: entries := by
  rw [entries?, h]
  cases valueOf? text with
  | none => rfl
  | some _ =>
      change (entries? rest >>= _) = _
      cases entries? rest <;> rfl

theorem exists_keyOf?_eq_cons (h : keyOf? name ≠ none) :
    ∃ key inner, keyOf? name = some (key :: inner) := by
  cases hkey : keyOf? name with
  | none => contradiction
  | some parts =>
      cases parts with
      | nil => exact absurd hkey (keyOf?_ne_some_nil name)
      | cons key inner => exact ⟨key, inner, rfl⟩

theorem exists_entries?_iff :
    (∃ entries, entries? environment = some entries) ↔ environment.Readable := by
  induction environment with
  | nil => simp [entries?, Readable]
  | cons binding rest ih =>
      obtain ⟨name, text⟩ := binding
      rw [Readable, List.forall_mem_cons, ← Readable, ← ih]
      by_cases hname : keyOf? name = none
      · rw [entries?_cons_of_none hname]
        simp [hname]
      · obtain ⟨key, inner, hkey⟩ := exists_keyOf?_eq_cons hname
        rw [entries?_cons_of_some hkey]
        cases valueOf? text <;> simp [hname]

theorem mem_entries_iff (h : entries? environment = some entries) {key : Text} {value : Toml} :
    (key, value) ∈ entries ↔ ∃ binding ∈ environment, Gives binding key value := by
  induction environment generalizing entries with
  | nil =>
      rw [← Option.some.inj h]
      simp
  | cons binding rest ih =>
      obtain ⟨name, text⟩ := binding
      simp only [List.mem_cons, exists_eq_or_imp]
      by_cases hname : keyOf? name = none
      · rw [entries?_cons_of_none hname] at h
        rw [ih h]
        simp [Gives, hname]
      · obtain ⟨first, inner, hfirst⟩ := exists_keyOf?_eq_cons hname
        rw [entries?_cons_of_some hfirst] at h
        obtain ⟨found, hfound, hrest⟩ := Option.bind_eq_some_iff.mp h
        obtain ⟨others, hothers, rfl⟩ := Option.map_eq_some_iff.mp hrest
        have hgives : Gives (name, text) key value ↔ (key, value) = (first, nest inner found) := by
          simp only [Gives, hfirst, hfound, Option.some.injEq, List.cons.injEq, Prod.mk.injEq]
          constructor
          · rintro ⟨_, _, ⟨rfl, rfl⟩, rfl, rfl⟩
            exact ⟨rfl, rfl⟩
          · rintro ⟨rfl, rfl⟩
            exact ⟨inner, found, ⟨rfl, rfl⟩, rfl, rfl⟩
        rw [List.mem_cons, ih hothers, hgives]

theorem readable_of_not_cuttable (h : ∀ binding ∈ environment, ¬Cuttable binding.2) :
    environment.Readable :=
  fun binding hmem _ hnone => h binding hmem (cuttable_of_valueOf?_eq_none hnone)

end Entries

section Orderly

variable {environment : Environment} {entries : List (Text × Toml)} {key : Text} {value : Toml}

theorem mem_entries_iff_of_orderly (horderly : environment.Orderly) (hkey : key ∈ Settings.keys)
    (hentries : entries? environment = some entries) :
    (key, value) ∈ entries ↔ ∃ text, environment.Sets key text ∧ valueOf? text = some value := by
  rw [mem_entries_iff hentries]
  constructor
  · rintro ⟨binding, hmem, inner, own, hname, hown, rfl⟩
    obtain rfl := horderly.flat key hkey binding hmem inner hname
    exact ⟨binding.2, ⟨binding.1, hmem, hname⟩, hown⟩
  · rintro ⟨text, ⟨name, hmem, hname⟩, hvalue⟩
    exact ⟨(name, text), hmem, [], value, hname, hvalue, rfl⟩

theorem lookup_entries_eq_some_iff (horderly : environment.Orderly) (hkey : key ∈ Settings.keys)
    (hentries : entries? environment = some entries) :
    Toml.lookup key entries = some value ↔
      ∃ text, environment.Sets key text ∧ valueOf? text = some value := by
  have hmem := fun value => @mem_entries_iff_of_orderly _ _ _ value horderly hkey hentries
  rw [Toml.lookup_eq_some_iff, hmem]
  intro first second hfirst hsecond
  obtain ⟨text, htext, hvalue⟩ := (hmem first).mp hfirst
  obtain ⟨other, hother, hlast⟩ := (hmem second).mp hsecond
  rw [horderly.single key hkey text other htext hother, hlast] at hvalue
  exact (Option.some.inj hvalue).symm

theorem lookup_entries_eq_none_iff (horderly : environment.Orderly) (hkey : key ∈ Settings.keys)
    (hentries : entries? environment = some entries) :
    Toml.lookup key entries = none ↔ ∀ text, ¬environment.Sets key text := by
  rw [Toml.lookup_eq_none_iff]
  constructor
  · rintro hall text hsets
    obtain ⟨name, hmem, hname⟩ := hsets
    have hreadable := exists_entries?_iff.mp ⟨entries, hentries⟩
    obtain ⟨value, hvalue⟩ := Option.ne_none_iff_exists'.mp
      (hreadable (name, text) hmem (by simp [hname]))
    exact hall value ((mem_entries_iff_of_orderly horderly hkey hentries).mpr
      ⟨text, ⟨name, hmem, hname⟩, hvalue⟩)
  · rintro hall value hmem
    obtain ⟨text, hsets, _⟩ := (mem_entries_iff_of_orderly horderly hkey hentries).mp hmem
    exact hall text hsets

end Orderly

end DualityDice.Environment
