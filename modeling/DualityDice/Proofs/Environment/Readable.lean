import Mathlib.Data.List.TakeWhile
import DualityDice.Environment.Value

/-!
The text of a variable has a value unless an escape in it cuts a character. So it has one
if there is no backslash in it, and if all of it is in ASCII.
-/

namespace DualityDice

theorem Toml.splitQuoted_subset {text inner rest : Text}
    (h : splitQuoted text = some (inner, rest)) : inner ⊆ text ∧ rest ⊆ text := by
  fun_induction splitQuoted text generalizing inner with
  | case1 => contradiction
  | case2 rest' =>
      obtain ⟨rfl, rfl⟩ := Prod.mk.inj (Option.some.inj h)
      exact ⟨List.nil_subset _, List.subset_cons_self _ _⟩
  | case3 c rest' ih =>
      obtain ⟨⟨part, behind⟩, hpart, heq⟩ := Option.map_eq_some_iff.mp h
      obtain ⟨rfl, rfl⟩ := Prod.mk.inj heq
      obtain ⟨hinner, hbehind⟩ := ih hpart
      exact ⟨List.cons_subset_cons _ (List.cons_subset_cons _ hinner),
        fun _ hc => List.mem_cons_of_mem _ (List.mem_cons_of_mem _ (hbehind hc))⟩
  | case4 c rest' _ _ ih =>
      obtain ⟨⟨part, behind⟩, hpart, heq⟩ := Option.map_eq_some_iff.mp h
      obtain ⟨rfl, rfl⟩ := Prod.mk.inj heq
      obtain ⟨hinner, hbehind⟩ := ih hpart
      exact ⟨List.cons_subset_cons _ hinner, fun _ hc => List.mem_cons_of_mem _ (hbehind hc)⟩

theorem Toml.unescape_eq_self {text result : Text} (hnone : '\\' ∉ text)
    (h : unescape text = some result) : result = text := by
  induction text generalizing result with
  | nil => exact (Option.some.inj h).symm
  | cons c rest ih =>
      have hc : c ≠ '\\' := fun heq => hnone (heq ▸ List.mem_cons_self)
      have hrest : '\\' ∉ rest := fun hmem => hnone (List.mem_cons_of_mem c hmem)
      unfold unescape at h
      split at h
      case h_1 heq => contradiction
      case h_2 heq => exact absurd (List.cons.inj heq).1 hc
      case h_3 heq => exact absurd (List.cons.inj heq).1 hc
      case h_4 heq => exact absurd (List.cons.inj heq).1 hc
      case h_5 heq =>
        obtain ⟨rfl, rfl⟩ := List.cons.inj heq
        split at h
        · obtain ⟨tail, htail, rfl⟩ := Option.map_eq_some_iff.mp h
          rw [ih hrest htail]
        · contradiction

theorem Text.byteCount_eq_length {text : Text} (h : ∀ c ∈ text, c.toNat < 0x80) :
    byteCount text = text.length := by
  induction text with
  | nil => rfl
  | cons c rest ih =>
      obtain ⟨hc, hrest⟩ := List.forall_mem_cons.mp h
      have hsize : c.utf8Size = 1 := Char.utf8Size_eq_one_iff.mpr (by
        rw [UInt32.le_iff_toNat_le]
        exact Nat.le_of_lt_succ hc)
      rw [byteCount, hsize, ih hrest, List.length_cons, Nat.add_comm]

theorem Text.subset_of_dropStart? {text start rest : Text} (h : text.dropStart? start = some rest) :
    rest ⊆ text := by
  rw [dropStart?_eq_some_iff.mp h]
  exact List.subset_append_right _ _

namespace Environment

def Cuttable (text : Text) : Prop :=
  '\\' ∈ text ∧ ∃ c ∈ text, 0x80 ≤ c.toNat

theorem Cuttable.mono {text rest : Text} (hrest : rest ⊆ text) (h : Cuttable rest) :
    Cuttable text := by
  obtain ⟨hbackslash, c, hmem, hc⟩ := h
  exact ⟨hrest hbackslash, c, hrest hmem, hc⟩

/-- Whether a reader of a text leaves no other characters than those of the text, and cuts a
character only where the text lets it. -/
def CutsByEscape {α : Type} (text : Text) : Except Fault (α × Text) → Prop
  | .ok (_, rest) => rest ⊆ text
  | .error .noValue => True
  | .error .cutCharacter => Cuttable text

namespace CutsByEscape

section Steps

variable {α β : Type} {text rest : Text}

theorem mono {result : Except Fault (α × Text)} (hrest : rest ⊆ text)
    (h : CutsByEscape rest result) : CutsByEscape text result := by
  match result with
  | .ok (_, last) => exact List.Subset.trans h hrest
  | .error .noValue => trivial
  | .error .cutCharacter => exact Cuttable.mono hrest h

theorem bind {first : Except Fault (α × Text)} {next : α × Text → Except Fault (β × Text)}
    (h : CutsByEscape text first)
    (hnext : ∀ value rest, CutsByEscape rest (next (value, rest))) :
    CutsByEscape text (first >>= next) := by
  match first with
  | .ok (value, rest) => exact (hnext value rest).mono h
  | .error .noValue => trivial
  | .error .cutCharacter => exact h

theorem bind_demand {part : Option α} {next : α → Except Fault (β × Text)}
    (h : ∀ found, part = some found → CutsByEscape text (next found)) :
    CutsByEscape text (demand part >>= next) := by
  cases part with
  | none => trivial
  | some found => exact h found rfl

end Steps

end CutsByEscape

section Readers

variable (text : Text)

theorem skipSpace_subset : skipSpace text ⊆ text :=
  (List.dropWhile_sublist _).subset

theorem exists_of_shorten {before : Text} (h : shorten before = .error .cutCharacter) :
    ∃ c ∈ before, 0x80 ≤ c.toNat := by
  apply Classical.byContradiction
  intro hnone
  have hascii : ∀ c ∈ before, c.toNat < 0x80 := fun c hc =>
    Nat.lt_of_not_le fun hlong => hnone ⟨c, hc, hlong⟩
  have hall := Text.takeBytes?_eq_some_iff.mpr
    ⟨List.prefix_rfl, Text.byteCount_eq_length hascii⟩
  rw [shorten, hall] at h
  contradiction

theorem forall_bne_backslash_iff {inner : Text} :
    (∀ c ∈ inner, (c != '\\') = true) ↔ '\\' ∉ inner := by
  simp only [bne_iff_ne]
  exact ⟨fun h hmem => h _ hmem rfl, fun h c hc heq => h (heq ▸ hc)⟩

theorem backslash_mem_of_dropWhile {inner escaped : Text} {c : Char}
    (h : (inner.dropWhile fun c => c != '\\') = c :: escaped) : '\\' ∈ inner := by
  apply Classical.byContradiction
  intro hnone
  rw [List.dropWhile_eq_nil_iff.mpr (forall_bne_backslash_iff.mpr hnone)] at h
  contradiction

/-- Only what stands before the first backslash is shortened. -/
theorem cuttable_of_unescape {inner : Text} (h : unescape inner = .error .cutCharacter) :
    Cuttable inner := by
  unfold unescape at h
  dsimp only at h
  cases hbefore : Toml.unescape (inner.takeWhile fun c => c != '\\') with
  | none =>
      rw [hbefore] at h
      cases h
  | some before =>
      have hplain : '\\' ∉ inner.takeWhile fun c => c != '\\' := by
        intro hmem
        simpa using List.mem_takeWhile_imp hmem
      obtain rfl := Toml.unescape_eq_self hplain hbefore
      rw [hbefore] at h
      cases hescaped : inner.dropWhile fun c => c != '\\' with
      | nil =>
          rw [hescaped] at h
          cases h
      | cons first escaped =>
          rw [hescaped] at h
          change (shorten _ >>= _) = _ at h
          cases hkept : shorten (inner.takeWhile fun c => c != '\\') with
          | ok kept =>
              rw [hkept] at h
              change (demand (Toml.unescape (first :: escaped)) >>= _) = _ at h
              cases hunescaped : Toml.unescape (first :: escaped) with
              | none =>
                  rw [hunescaped] at h
                  cases h
              | some rest =>
                  rw [hunescaped] at h
                  cases h
          | error fault =>
              rw [hkept] at h
              obtain rfl := Except.error.inj h
              obtain ⟨c, hmem, hc⟩ := exists_of_shorten hkept
              exact ⟨backslash_mem_of_dropWhile hescaped, c,
                (List.takeWhile_sublist _).subset hmem, hc⟩

theorem cutsByEscape_readQuoted : CutsByEscape text (readQuoted text) := by
  apply CutsByEscape.bind_demand
  rintro ⟨inner, rest⟩ hsplit
  obtain ⟨hinner, hrest⟩ := Toml.splitQuoted_subset hsplit
  change CutsByEscape text (unescape inner >>= fun text => .ok (text, rest))
  cases hunescaped : unescape inner with
  | ok _ => exact hrest
  | error fault =>
      cases fault with
      | noValue => trivial
      | cutCharacter => exact (cuttable_of_unescape hunescaped).mono hinner

theorem cutsByEscape_readKey : CutsByEscape text (readKey text) := by
  unfold readKey
  split
  · exact (cutsByEscape_readQuoted _).mono (List.subset_cons_self _ _)
  · dsimp only
    split
    · trivial
    · exact (List.dropWhile_sublist _).subset

theorem cutsByEscape_readBare : CutsByEscape text (.ok (readBare text)) :=
  (List.dropWhile_sublist _).subset

theorem cutsByEscape_readScalar : CutsByEscape text (readScalar text) := by
  unfold readScalar
  split
  · rename_i htrue
    exact Text.subset_of_dropStart? htrue
  · rename_i hfalse _
    exact Text.subset_of_dropStart? hfalse
  · split
    · apply (cutsByEscape_readQuoted _ |>.mono (List.subset_cons_self _ _)).bind
      intro value rest
      exact List.Subset.refl rest
    · intro c hc
      simp [hc]
    · trivial
    · exact cutsByEscape_readBare _

section Nested

variable {α : Type} {readItem : Text → Except Fault (α × Text)}

theorem cutsByEscape_readItems (hread : ∀ text, CutsByEscape text (readItem text)) (close : Char)
    (fuel : Nat) : CutsByEscape text (readItems readItem close fuel text) := by
  induction fuel generalizing text with
  | zero => trivial
  | succ fuel ih =>
      rw [readItems]
      split
      · rename_i hclose
        exact Text.subset_of_dropStart? hclose
      · apply (hread text).bind
        intro item rest
        dsimp only
        split
        · rename_i behind hcomma
          apply ((ih behind).mono (Text.subset_of_dropStart? hcomma)).bind
          intro items last
          exact List.Subset.refl last
        · apply CutsByEscape.bind_demand
          intro last hlast
          exact Text.subset_of_dropStart? hlast

theorem cutsByEscape_readPair {readValue : Text → Except Fault (Toml × Text)}
    (hread : ∀ text, CutsByEscape text (readValue text)) :
    CutsByEscape text (readPair readValue text) := by
  apply ((cutsByEscape_readKey _).mono (skipSpace_subset text)).bind
  intro key rest
  apply CutsByEscape.bind_demand
  intro behind hequals
  have hbehind := List.Subset.trans (Text.subset_of_dropStart? hequals) (skipSpace_subset rest)
  apply ((hread behind).mono hbehind).bind
  intro value last
  exact skipSpace_subset last

end Nested

theorem cutsByEscape_readValue (depth : Nat) : CutsByEscape text (readValue depth text) := by
  induction depth generalizing text with
  | zero =>
      unfold readValue
      apply ((cutsByEscape_readScalar _).mono (skipSpace_subset text)).bind
      intro value rest
      exact skipSpace_subset rest
  | succ depth ih =>
      unfold readValue
      apply CutsByEscape.mono (skipSpace_subset text)
      dsimp only
      -- A table and an array read their items one level less deep, so `ih` is about these.
      split
      case h_1 inner inside hdepth hspace =>
        obtain rfl := Nat.succ.inj hdepth
        rw [hspace]
        have hpair := fun text => cutsByEscape_readPair text ih
        apply ((cutsByEscape_readItems inside hpair _ _).mono (List.subset_cons_self _ _)).bind
        intro members rest
        exact skipSpace_subset rest
      case h_2 inner inside hdepth hspace =>
        obtain rfl := Nat.succ.inj hdepth
        rw [hspace]
        apply ((cutsByEscape_readItems inside ih _ _).mono (List.subset_cons_self _ _)).bind
        intro items rest
        exact skipSpace_subset rest
      case h_3 =>
        apply (cutsByEscape_readScalar _).bind
        intro value rest
        exact skipSpace_subset rest

end Readers

theorem cuttable_of_valueOf?_eq_none {text : Text} (h : valueOf? text = none) :
    Cuttable text := by
  have hcuts := cutsByEscape_readValue text (text.length + 1)
  unfold valueOf? at h
  split at h
  · contradiction
  · rename_i hcut
    rw [hcut] at hcuts
    exact hcuts
  · contradiction

end Environment

end DualityDice
