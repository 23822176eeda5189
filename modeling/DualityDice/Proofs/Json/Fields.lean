import Mathlib.Data.List.Nodup
import DualityDice.Proofs.Json.Shape
import DualityDice.Proofs.Numeral

namespace DualityDice

namespace Json

section Members

theorem lookup_cons (key : Text) (member : Text × Json) (rest : List (Text × Json)) :
    lookup key (member :: rest) =
      (lookup key rest).or (if member.1 = key then some member.2 else none) := by
  rw [lookup]
  cases lookup key rest <;> rfl

theorem lookup_filter (kept : Text → Bool) (key : Text) (members : List (Text × Json)) :
    lookup key (members.filter fun member => kept member.1) =
      if kept key then lookup key members else none := by
  induction members with
  | nil =>
      rw [List.filter_nil, lookup]
      split <;> rfl
  | cons member rest ih =>
      by_cases hname : member.1 = key
      · subst hname
        cases hkept : kept member.1 with
        | true => simp [List.filter_cons_of_pos, hkept, lookup_cons, ih]
        | false =>
            rw [List.filter_cons_of_neg (by rw [hkept]; decide), ih, hkept]
            rfl
      · rw [lookup_cons, if_neg hname, Option.or_none, ← ih]
        cases hkept : kept member.1 with
        | true =>
            rw [List.filter_cons_of_pos (by rw [hkept]), lookup_cons, if_neg hname, Option.or_none]
        | false => rw [List.filter_cons_of_neg (by rw [hkept]; decide)]

theorem length_filter_key_le_one {members : List (Text × Json)}
    (hkeys : (members.map Prod.fst).Nodup) (key : Text) :
    (members.filter fun member => member.1 = key).length ≤ 1 := by
  have hall : ∀ name ∈ (members.filter fun member => member.1 = key).map Prod.fst,
      name = key := by
    simp
  have hnodup : ((members.filter fun member => member.1 = key).map Prod.fst).Nodup :=
    hkeys.sublist (List.filter_sublist.map Prod.fst)
  rwa [List.eq_replicate_of_mem hall, List.nodup_replicate, List.length_map] at hnodup

/-- Where no key is repeated, a key is found alike in any order of the members, and among
members with other keys. -/
theorem lookup_of_perm {key : Text} {members others unknown : List (Text × Json)}
    (hkeys : (members.map Prod.fst).Nodup) (hunknown : key ∉ unknown.map Prod.fst)
    (h : others.Perm (members ++ unknown)) : lookup key others = lookup key members := by
  have hfind (list : List (Text × Json)) :
      lookup key (list.filter fun member => member.1 = key) = lookup key list := by
    rw [lookup_filter (fun name => name = key), if_pos (decide_eq_true rfl)]
  have hnone : unknown.filter (fun member => member.1 = key) = [] := by
    rw [List.filter_eq_nil_iff]
    intro member hmember
    rw [decide_eq_true_iff]
    rintro rfl
    exact hunknown (List.mem_map_of_mem hmember)
  have hperm := h.filter fun member => member.1 = key
  rw [List.filter_append, hnone, List.append_nil] at hperm
  rw [← hfind others, ← hfind members]
  congr 1
  rcases Nat.le_one_iff_eq_zero_or_eq_one.mp (length_filter_key_le_one hkeys key) with
    hempty | hsingle
  · rw [List.length_eq_zero_iff.mp hempty] at hperm ⊢
    exact hperm.eq_nil
  · obtain ⟨member, hmember⟩ := List.length_eq_one_iff.mp hsingle
    rw [hmember] at hperm ⊢
    exact hperm.eq_singleton

end Members

section Values

variable {value : Json}

theorem string?_eq_some_iff {text : Text} : value.string? = some text ↔ value = .string text := by
  cases value <;> simp [string?]

theorem word32?_eq_some_iff {word : UInt32} :
    value.word32? = some word ↔ value = .integer word.toNat := by
  unfold word32?
  split
  · rw [Numeral.toWord32?_eq_some_iff, integer.injEq, Int.ofNat_eq_natCast, Int.natCast_inj]
    exact eq_comm
  · rename_i hother
    simp only [reduceCtorEq, false_iff]
    exact hother _

theorem word64?_eq_some_iff {word : UInt64} :
    value.word64? = some word ↔ value = .integer word.toNat := by
  unfold word64?
  split
  · rw [Numeral.toWord64?_eq_some_iff, integer.injEq, Int.ofNat_eq_natCast, Int.natCast_inj]
    exact eq_comm
  · rename_i hother
    simp only [reduceCtorEq, false_iff]
    exact hother _

theorem signed32?_eq_some_iff {word : Int32} :
    value.signed32? = some word ↔ value = .integer word.toInt := by
  unfold signed32?
  split
  · rw [Numeral.toSigned32?_eq_some_iff, integer.injEq]
    exact eq_comm
  · rename_i hother
    simp only [reduceCtorEq, false_iff]
    exact hother _

def Names (name : Text) (value : Json) : Prop :=
  value = .string name ∨ value = .object [(name, .null)]

theorem choice?_eq_some_iff {name : Text} : value.choice? = some name ↔ Names name value := by
  unfold choice? Names
  split
  · simp
  · simp
  · rename_i hstring hobject
    simp only [reduceCtorEq, false_iff, not_or]
    exact ⟨hstring name, hobject name⟩

theorem choiceOf?_eq_some_iff {α : Type} {nameOf : α → Text} {choices : List α} {choice : α}
    (hinjective : Function.Injective nameOf) (hall : ∀ choice, choice ∈ choices) :
    choiceOf? nameOf choices value = some choice ↔ Names (nameOf choice) value := by
  unfold choiceOf?
  constructor
  · intro h
    split at h
    · rename_i name hname
      have hnamed : nameOf choice = name := by
        simpa using List.find?_some h
      rw [hnamed]
      exact choice?_eq_some_iff.mp hname
    · contradiction
  · intro h
    rw [choice?_eq_some_iff.mpr h]
    dsimp only
    cases hfound : choices.find? fun other => nameOf other = nameOf choice with
    | none =>
        have hnever := List.find?_eq_none.mp hfound choice (hall choice)
        exact absurd (decide_eq_true rfl) hnever
    | some other =>
        have hnamed : nameOf other = nameOf choice := by
          simpa using List.find?_some hfound
        rw [hinjective hnamed]

end Values

section Fields

/-- Whether a field is given and its value tells what it should. -/
inductive Required (tells : Json → Prop) : Option Json → Prop
  | given {value : Json} (h : tells value) : Required tells (some value)

/-- Whether a field is given and its value tells what it should, or is absent and has its
standard value. -/
inductive Defaulted {α : Type} (tells : α → Json → Prop) (standard : α) :
    α → Option Json → Prop
  | absent : Defaulted tells standard standard none
  | given {x : α} {value : Json} (h : tells x value) : Defaulted tells standard x (some value)

theorem Defaulted.keep {α : Type} {tells : α → Json → Prop} {standard x : α}
    {field : Option Json} (h : Defaulted tells standard x field) {kept : Bool} :
    Defaulted tells standard (if kept then x else standard) (if kept then field else none) := by
  cases kept with
  | true => exact h
  | false => exact .absent

theorem Required.ne_none {tells : Json → Prop} {field : Option Json}
    (h : Required tells field) : field ≠ none := by
  cases h with
  | given _ => exact Option.some_ne_none _

theorem optional_eq_some_iff {α : Type} {read : Json → Option α} {tells : α → Json → Prop}
    (hread : ∀ value x, read value = some x ↔ tells x value) {standard x : α}
    {field : Option Json} :
    optional standard read field = some x ↔ Defaulted tells standard x field := by
  constructor
  · intro h
    cases field with
    | none =>
        obtain rfl := Option.some.inj h
        exact .absent
    | some value => exact .given ((hread value x).mp h)
  · intro h
    cases h with
    | absent => rfl
    | given h => exact (hread _ _).mpr h

end Fields

/-- Whether records are read from what values give for their keys, and are written so that
they are read back. -/
structure RoundTrips {α : Type} (keys : List Text) (told : α → List (Option Json) → Prop)
    (values : α → List Json) (toJson : α → Json) (ofJson? : Json → Option α) : Prop where
  reads : ∀ value x, ofJson? value = some x ↔
    ∃ fields, value.fields? keys = some fields ∧ told x fields
  reads_back : ∀ x, ofJson? (toJson x) = some x
  reads_text_back : ∀ x, (read? (toJson x).compact).bind ofJson? = some x ∧
    (read? ((toJson x).pretty ++ ['\n'])).bind ofJson? = some x
  reads_items_back : ∀ x, ofJson? (.array (values x)) = some x
  reads_reordered : ∀ members unknown others : List (Text × Json),
    (members.map Prod.fst).Nodup → (∀ member ∈ unknown, member.1 ∉ keys) →
    others.Perm (members ++ unknown) → ofJson? (.object others) = ofJson? (.object members)
  writes_again : ∀ value written, (ofJson? value).map toJson = some written →
    (ofJson? written).map toJson = some written

section Records

variable {α : Type} {keys : List Text} {told : α → List (Option Json) → Prop}
  {values : α → List Json} {toJson : α → Json} {ofJson? : Json → Option α}

theorem fields?_array {items : List Json} (h : items.length = keys.length) :
    fields? keys (.array items) = some (items.map some) := by
  rw [fields?, if_pos (Nat.le_of_eq h), h, Nat.sub_self, List.replicate_zero, List.append_nil]

theorem roundTrips_of_reads
    (hreads : ∀ value x, ofJson? value = some x ↔
      ∃ fields, value.fields? keys = some fields ∧ told x fields)
    (hwritten : ∀ x, ofJson? (toJson x) = some x) (hintegral : ∀ x, (toJson x).Integral)
    (hlength : ∀ x, (values x).length = keys.length)
    (htold : ∀ x, told x ((values x).map some)) :
    RoundTrips keys told values toJson ofJson? where
  reads := hreads
  reads_back := hwritten
  reads_text_back := by
    intro x
    rw [read?_compact (hintegral x), read?_pretty_line (hintegral x)]
    exact ⟨hwritten x, hwritten x⟩
  reads_items_back := by
    intro x
    exact (hreads _ x).mpr ⟨_, fields?_array (hlength x), htold x⟩
  reads_reordered := by
    intro members unknown others hkeys hunknown hperm
    have hfields : fields? keys (.object others) = fields? keys (.object members) := by
      rw [fields?, fields?, Option.some.injEq, List.map_inj_left]
      intro key hkey
      refine lookup_of_perm hkeys ?_ hperm
      intro hmem
      obtain ⟨member, hmember, rfl⟩ := List.mem_map.mp hmem
      exact hunknown member hmember hkey
    apply Option.ext
    intro x
    rw [hreads, hreads, hfields]
  writes_again := by
    intro value written h
    obtain ⟨x, _, rfl⟩ := Option.map_eq_some_iff.mp h
    rw [hwritten, Option.map_some]

theorem RoundTrips.mem_of_reads (h : RoundTrips keys told values toJson ofJson?)
    (hgiven : ∀ x fields, told x fields → ∀ field ∈ fields, field ≠ none)
    {members : List (Text × Json)} {x : α} (hread : ofJson? (.object members) = some x)
    {key : Text} (hkey : key ∈ keys) : key ∈ members.map Prod.fst := by
  obtain ⟨fields, hfields, htold⟩ := (h.reads _ _).mp hread
  obtain rfl := Option.some.inj hfields
  by_contra habsent
  exact hgiven x _ htold _ (List.mem_map_of_mem hkey) (lookup_eq_none habsent)

end Records

end Json

end DualityDice
