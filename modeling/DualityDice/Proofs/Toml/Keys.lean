import Mathlib.Data.List.Nodup
import DualityDice.Toml.Reader

namespace DualityDice.Toml

section Lookup

variable {key : Text} {members : List (Text × Toml)}

theorem lookup_eq_none_iff : lookup key members = none ↔ ∀ value, (key, value) ∉ members := by
  induction members with
  | nil => simp [lookup]
  | cons member rest ih =>
      obtain ⟨name, own⟩ := member
      rw [lookup]
      cases hlater : lookup key rest with
      | some later =>
          have hmem : ¬∀ value, (key, value) ∉ rest := by
            rw [← ih, hlater]
            simp
          simp only [reduceCtorEq, false_iff]
          exact fun hall => hmem fun value h => hall value (List.mem_cons_of_mem _ h)
      | none =>
          rw [hlater, eq_self_iff_true, true_iff] at ih
          by_cases hname : name = key
          · simp only [hname, if_true, reduceCtorEq, false_iff]
            exact fun hall => hall own List.mem_cons_self
          · simp [hname, Ne.symm hname, ih]

theorem mem_of_lookup {value : Toml} (h : lookup key members = some value) :
    (key, value) ∈ members := by
  induction members with
  | nil => contradiction
  | cons member rest ih =>
      obtain ⟨name, own⟩ := member
      rw [lookup] at h
      cases hlater : lookup key rest with
      | some later =>
          rw [hlater] at h ih
          exact List.mem_cons_of_mem _ (ih h)
      | none =>
          rw [hlater] at h
          by_cases hname : name = key
          · simp only [hname, if_true, Option.some.injEq] at h
            rw [hname, h]
            exact List.mem_cons_self
          · simp [hname] at h

theorem lookup_eq_some_iff {value : Toml}
    (hsingle : ∀ value other, (key, value) ∈ members → (key, other) ∈ members → value = other) :
    lookup key members = some value ↔ (key, value) ∈ members := by
  constructor
  · exact mem_of_lookup
  · intro hmem
    cases hlookup : lookup key members with
    | none => exact absurd hmem (lookup_eq_none_iff.mp hlookup value)
    | some found => rw [hsingle found value (mem_of_lookup hlookup) hmem]

theorem eq_of_mem_of_nodup_keys (h : (members.map Prod.fst).Nodup) {value other : Toml}
    (hvalue : (key, value) ∈ members) (hother : (key, other) ∈ members) : value = other :=
  congrArg Prod.snd (List.inj_on_of_nodup_map h hvalue hother rfl)

end Lookup

namespace Members

theorem keys_replace (key : Text) (node : Node) (members : Members) :
    (members.replace key node).map Prod.fst = members.map Prod.fst := by
  rw [replace, List.map_map]
  rfl

/-- One step of a document at its top level: a key is added that is still free, or what
stands at a key is replaced. -/
inductive Changes (members : Members) : Members → Prop where
  | added {key : Text} (hfree : members.node? key = none) (node : Node) :
      Changes members (members.add key node)
  | replaced (key : Text) (node : Node) : Changes members (members.replace key node)

section Steps

variable {members result : Members}

theorem Changes.nodup_keys (hchanges : Changes members result)
    (h : (members.map Prod.fst).Nodup) : (result.map Prod.fst).Nodup := by
  cases hchanges with
  | @added key hfree node =>
      rw [add, List.map_append, List.nodup_append]
      refine ⟨h, List.nodup_singleton key, ?_⟩
      intro name hname other hother
      obtain ⟨member, hmember, rfl⟩ := List.mem_map.mp hname
      have hne := List.lookup_eq_none_iff.mp hfree member hmember
      rw [List.mem_singleton.mp hother]
      exact fun heq => absurd heq.symm (by simpa using hne)
  | replaced key node =>
      rw [keys_replace]
      exact h

theorem changes_insert {value : Toml} {key : List Text}
    (h : insert value key members = some result) : Changes members result := by
  match key with
  | [] => contradiction
  | [key] =>
      rw [insert] at h
      split at h
      · contradiction
      · rename_i hfree
        rw [← Option.some.inj h]
        exact .added hfree _
  | key :: next :: rest =>
      rw [insert] at h
      split at h
      case h_1 hfree =>
        obtain ⟨inner, _, hresult⟩ := Option.bind_eq_some_iff.mp h
        rw [← Option.some.inj hresult]
        exact .added hfree _
      case h_2 =>
        obtain ⟨inner, _, hresult⟩ := Option.bind_eq_some_iff.mp h
        rw [← Option.some.inj hresult]
        exact .replaced _ _
      case h_3 | h_4 =>
        split at h
        · contradiction
        · obtain ⟨inner, _, hresult⟩ := Option.bind_eq_some_iff.mp h
          rw [← Option.some.inj hresult]
          exact .replaced _ _
      case h_5 | h_6 => contradiction

theorem changes_changeAt {change : Members → Option Members} {path : List Text}
    (hchange : ∀ before after, change before = some after → Changes before after)
    (h : changeAt change path members = some result) : Changes members result := by
  cases path with
  | nil => exact hchange _ _ h
  | cons key rest =>
      rw [changeAt] at h
      split at h
      case h_1 hfree =>
        obtain ⟨inner, _, hresult⟩ := Option.bind_eq_some_iff.mp h
        rw [← Option.some.inj hresult]
        exact .added hfree _
      case h_2 | h_3 =>
        obtain ⟨inner, _, hresult⟩ := Option.bind_eq_some_iff.mp h
        rw [← Option.some.inj hresult]
        exact .replaced _ _
      case h_4 => contradiction

theorem changes_beginTable {key : Text} (h : beginTable key members = some result) :
    Changes members result := by
  unfold beginTable at h
  split at h
  · rename_i hfree
    rw [← Option.some.inj h]
    exact .added hfree _
  · rw [← Option.some.inj h]
    exact .replaced _ _
  · contradiction

theorem changes_beginItem {key : Text} (h : beginItem key members = some result) :
    Changes members result := by
  unfold beginItem at h
  split at h
  · rename_i hfree
    rw [← Option.some.inj h]
    exact .added hfree _
  · rw [← Option.some.inj h]
    exact .replaced _ _
  · contradiction

end Steps

end Members

namespace Draft

variable {draft after : Draft}

theorem changes_insert {key : List Text} {value : Toml}
    (h : draft.insert key value = some after) : Members.Changes draft.root after.root := by
  obtain ⟨root, hroot, rfl⟩ := Option.map_eq_some_iff.mp h
  exact Members.changes_changeAt (fun _ _ => Members.changes_insert) hroot

theorem changes_start {start : Text → Members → Option Members} {path : List Text}
    (hstart : ∀ name before result, start name before = some result →
      Members.Changes before result)
    (h : draft.start start path = some after) : Members.Changes draft.root after.root := by
  obtain ⟨name, _, hname⟩ := Option.bind_eq_some_iff.mp h
  obtain ⟨root, hroot, hafter⟩ := Option.bind_eq_some_iff.mp hname
  rw [← Option.some.inj hafter]
  exact Members.changes_changeAt (hstart name) hroot

/-- A line changes at most one key. -/
theorem readLine_eq_or_changes {text rest : Text}
    (h : draft.readLine text = some (after, rest)) :
    after = draft ∨ Members.Changes draft.root after.root := by
  unfold readLine at h
  split at h
  case h_1 =>
    obtain ⟨⟨path, behind⟩, _, hpath⟩ := Option.bind_eq_some_iff.mp h
    dsimp only at hpath
    split at hpath
    · obtain ⟨begun, hbegun, hafter⟩ := Option.bind_eq_some_iff.mp hpath
      obtain ⟨rfl, rfl⟩ := Prod.mk.inj (Option.some.inj hafter)
      exact .inr (changes_start (fun _ _ _ => Members.changes_beginItem) hbegun)
    · contradiction
  case h_2 =>
    obtain ⟨⟨path, behind⟩, _, hpath⟩ := Option.bind_eq_some_iff.mp h
    dsimp only at hpath
    split at hpath
    · obtain ⟨begun, hbegun, hafter⟩ := Option.bind_eq_some_iff.mp hpath
      obtain ⟨rfl, rfl⟩ := Prod.mk.inj (Option.some.inj hafter)
      exact .inr (changes_start (fun _ _ _ => Members.changes_beginTable) hbegun)
    · contradiction
  case h_3 => exact .inl (Prod.mk.inj (Option.some.inj h)).1.symm
  case h_4 =>
    split at h
    · exact .inl (Prod.mk.inj (Option.some.inj h)).1.symm
    · obtain ⟨⟨⟨key, value⟩, behind⟩, _, hpair⟩ := Option.bind_eq_some_iff.mp h
      obtain ⟨filled, hfilled, hafter⟩ := Option.bind_eq_some_iff.mp hpair
      obtain ⟨rfl, rfl⟩ := Prod.mk.inj (Option.some.inj hafter)
      exact .inr (changes_insert hfilled)

theorem nodup_keys_readLines {fuel : Nat} {text : Text} (h : readLines fuel draft text = some after)
    (hroot : (draft.root.map Prod.fst).Nodup) : (after.root.map Prod.fst).Nodup := by
  induction fuel generalizing draft text with
  | zero => contradiction
  | succ fuel ih =>
      rw [readLines] at h
      split at h
      · rw [← Option.some.inj h]
        exact hroot
      · obtain ⟨⟨next, rest⟩, hline, hrest⟩ := Option.bind_eq_some_iff.mp h
        obtain ⟨lines, _, hlines⟩ := Option.bind_eq_some_iff.mp hrest
        apply ih hlines
        rcases readLine_eq_or_changes hline with rfl | hchanges
        · exact hroot
        · exact hchanges.nodup_keys hroot

end Draft

theorem keys_finish (members : Members) : (finish members).map Prod.fst = members.map Prod.fst := by
  induction members with
  | nil => rfl
  | cons member rest ih => rw [finish, List.map_cons, List.map_cons, ih]

theorem nodup_keys_of_read? {text : Text} {document : List (Text × Toml)}
    (h : read? text = some document) : (document.map Prod.fst).Nodup := by
  obtain ⟨draft, hdraft, rfl⟩ := Option.map_eq_some_iff.mp h
  rw [keys_finish]
  exact Draft.nodup_keys_readLines hdraft List.nodup_nil

end DualityDice.Toml
