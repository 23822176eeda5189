import DualityDice.Settings.Wrapped

namespace DualityDice

namespace Toml

mutual

def Lacks (key : Text) : Toml → Prop
  | .array items => ItemsLack key items
  | .table members => MembersLack key members
  | _ => True

def ItemsLack (key : Text) : List Toml → Prop
  | [] => True
  | item :: rest => Lacks key item ∧ ItemsLack key rest

def MembersLack (key : Text) : List (Text × Toml) → Prop
  | [] => True
  | (name, value) :: rest => name ≠ key ∧ Lacks key value ∧ MembersLack key rest

end

theorem MembersLack.lookup_eq_none {key : Text} {members : List (Text × Toml)}
    (h : MembersLack key members) : lookup key members = none := by
  induction members with
  | nil => rfl
  | cons member rest ih =>
      obtain ⟨hname, _, hrest⟩ := h
      rw [lookup, ih hrest]
      exact if_neg hname

end Toml

namespace Settings

open Toml

section Equations

theorem unwrapItems_cons (item : Toml) (rest : List Toml) :
    unwrapItems (item :: rest) =
      (unwrap item).bind fun item => (unwrapItems rest).map fun items => item :: items := by
  rw [unwrapItems]
  cases unwrap item with
  | none => rfl
  | some _ => cases unwrapItems rest <;> rfl

theorem unwrapMembers_cons_of_ne {key : Text} (h : key ≠ reservedKey) (value : Toml)
    (rest : List (Text × Toml)) :
    unwrapMembers ((key, value) :: rest) =
      (unwrap value).bind fun value =>
        (unwrapMembers rest).map fun members => (key, value) :: members := by
  rw [unwrapMembers, if_neg h]
  cases unwrap value with
  | none => rfl
  | some _ => cases unwrapMembers rest <;> rfl

theorem unwrapDocument_cons (key : Text) (value : Toml) (rest : List (Text × Toml)) :
    unwrapDocument ((key, value) :: rest) =
      (unwrap value).bind fun value =>
        (unwrapDocument rest).map fun members => (key, value) :: members := by
  rw [unwrapDocument, List.mapM_cons]
  change ((unwrap value).map _ >>= _) = _
  cases unwrap value with
  | none => rfl
  | some _ =>
      change (unwrapDocument rest >>= _) = (unwrapDocument rest).map _
      cases unwrapDocument rest <;> rfl

end Equations

mutual

theorem isSome_unwrap_iff :
    ∀ value : Toml, (unwrap value).isSome ↔ Lacks reservedKey value
  | .string _ | .integer _ | .boolean _ | .real _ | .moment _ => by simp [unwrap, Lacks]
  | .array items => by
      rw [unwrap, Option.isSome_map, Lacks]
      exact isSome_unwrapItems_iff items
  | .table members => by
      rw [Lacks, ← isSome_unwrapMembers_iff members, unwrap]
      cases unwrapMembers members <;> simp

theorem isSome_unwrapItems_iff :
    ∀ items : List Toml, (unwrapItems items).isSome ↔ ItemsLack reservedKey items
  | [] => by simp [unwrapItems, ItemsLack]
  | item :: rest => by
      rw [unwrapItems_cons, ItemsLack, ← isSome_unwrap_iff item, ← isSome_unwrapItems_iff rest]
      cases unwrap item <;> simp

theorem isSome_unwrapMembers_iff :
    ∀ members : List (Text × Toml),
      (unwrapMembers members).isSome ↔ MembersLack reservedKey members
  | [] => by simp [unwrapMembers, MembersLack]
  | (key, value) :: rest => by
      by_cases hkey : key = reservedKey
      · simp [unwrapMembers, MembersLack, hkey]
      · rw [unwrapMembers_cons_of_ne hkey, MembersLack, ← isSome_unwrap_iff value,
          ← isSome_unwrapMembers_iff rest]
        cases unwrap value <;> simp [hkey]

end

mutual

theorem unwrap_of_lacks :
    ∀ value : Toml, Lacks reservedKey value → Lacks wrappedKey value → unwrap value = some value
  | .string _, _, _ | .integer _, _, _ | .boolean _, _, _ | .real _, _, _ | .moment _, _, _ => by
      simp [unwrap]
  | .array items, hreserved, hwrapped => by
      rw [unwrap, unwrapItems_of_lack items hreserved hwrapped, Option.map_some]
  | .table members, hreserved, hwrapped => by
      rw [unwrap, unwrapMembers_of_lack members hreserved hwrapped]
      change some ((lookup wrappedKey members).getD _) = _
      rw [MembersLack.lookup_eq_none hwrapped, Option.getD_none]

theorem unwrapItems_of_lack :
    ∀ items : List Toml, ItemsLack reservedKey items → ItemsLack wrappedKey items →
      unwrapItems items = some items
  | [], _, _ => by rw [unwrapItems]
  | item :: rest, hreserved, hwrapped => by
      rw [unwrapItems_cons, unwrap_of_lacks item hreserved.1 hwrapped.1,
        unwrapItems_of_lack rest hreserved.2 hwrapped.2]
      rfl

theorem unwrapMembers_of_lack :
    ∀ members : List (Text × Toml), MembersLack reservedKey members →
      MembersLack wrappedKey members → unwrapMembers members = some members
  | [], _, _ => by rw [unwrapMembers]
  | (key, value) :: rest, hreserved, hwrapped => by
      rw [unwrapMembers_cons_of_ne hreserved.1,
        unwrap_of_lacks value hreserved.2.1 hwrapped.2.1,
        unwrapMembers_of_lack rest hreserved.2.2 hwrapped.2.2]
      rfl

end

section Document

variable {document members : List (Text × Toml)}

theorem keys_unwrapDocument (h : unwrapDocument document = some members) :
    members.map Prod.fst = document.map Prod.fst := by
  induction document generalizing members with
  | nil =>
      rw [← Option.some.inj h]
      rfl
  | cons member rest ih =>
      rw [unwrapDocument_cons] at h
      obtain ⟨value, _, hvalue⟩ := Option.bind_eq_some_iff.mp h
      obtain ⟨others, hothers, rfl⟩ := Option.map_eq_some_iff.mp hvalue
      rw [List.map_cons, List.map_cons, ih hothers]

theorem isSome_unwrapDocument_iff :
    (unwrapDocument document).isSome ↔ ∀ member ∈ document, Lacks reservedKey member.2 := by
  induction document with
  | nil => simp [unwrapDocument]
  | cons member rest ih =>
      rw [unwrapDocument_cons, List.forall_mem_cons, ← ih, ← isSome_unwrap_iff]
      cases unwrap member.2 <;> simp

theorem unwrapDocument_of_lacks
    (h : ∀ member ∈ document, Lacks reservedKey member.2 ∧ Lacks wrappedKey member.2) :
    unwrapDocument document = some document := by
  induction document with
  | nil => rfl
  | cons member rest ih =>
      obtain ⟨hmember, hrest⟩ := List.forall_mem_cons.mp h
      rw [unwrapDocument_cons, unwrap_of_lacks member.2 hmember.1 hmember.2, ih hrest]
      rfl

end Document

end Settings

end DualityDice
