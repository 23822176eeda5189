import DualityDice.Outcome.Json
import DualityDice.Proofs.Json.RoundTrip

namespace DualityDice

namespace Json

theorem lookup_eq_none {key : Text} {members : List (Text × Json)}
    (h : key ∉ members.map Prod.fst) : lookup key members = none := by
  induction members with
  | nil => rfl
  | cons member rest ih =>
      rw [List.map_cons, List.mem_cons, not_or] at h
      rw [lookup, ih h.2]
      exact if_neg (Ne.symm h.1)

theorem lookup_of_mem {members : List (Text × Json)} {key : Text} {value : Json}
    (h : (key, value) ∈ members) (hkeys : (members.map Prod.fst).Nodup) :
    lookup key members = some value := by
  induction members with
  | nil => contradiction
  | cons member rest ih =>
      rw [List.map_cons, List.nodup_cons] at hkeys
      obtain ⟨habsent, hrest⟩ := hkeys
      rw [lookup]
      rcases List.mem_cons.mp h with rfl | hmem
      · rw [lookup_eq_none habsent]
        exact if_pos rfl
      · rw [ih hmem hrest]

def member? (key : Text) : Json → Option Json
  | .object members => lookup key members
  | _ => none

theorem fields?_object {keys : List Text} {values : List Json}
    {members : List (Text × Json)} (hkeys : (members.map Prod.fst).Nodup)
    (h : List.Forall₂ (fun key value => (key, value) ∈ members) keys values) :
    fields? keys (.object members) = some (values.map some) := by
  rw [fields?, Option.some.injEq]
  induction h with
  | nil => rfl
  | cons hmem _ ih => rw [List.map_cons, List.map_cons, lookup_of_mem hmem hkeys, ih]

theorem word32?_toNat (word : UInt32) : word32? (.integer word.toNat) = some word :=
  Numeral.toWord32?_toNat word

theorem signed32?_toInt (word : Int32) : signed32? (.integer word.toInt) = some word :=
  Numeral.toSigned32?_toInt word

theorem integral_array_map {α : Type} {toItem : α → Json} {entries : List α}
    (h : ∀ entry ∈ entries, Integral (toItem entry)) :
    Integral (.array (entries.map toItem)) := by
  rw [Integral, integralItems_iff, List.forall_mem_map]
  exact h

end Json

theorem RollType.ofJson?_toJson (rollType : RollType) :
    ofJson? rollType.toJson = some rollType := by
  cases rollType <;> rfl

theorem HopeDie.ofJson?_toJson (die : HopeDie) : ofJson? die.toJson = some die := by
  cases die <;> rfl

theorem ModifierDie.ofJson?_toJson (die : ModifierDie) : ofJson? die.toJson = some die := by
  cases die <;> rfl

theorem Favor.ofJson?_toJson (favor : Favor) : ofJson? favor.toJson = some favor := by
  cases favor <;> rfl

theorem Request.fields?_toJson (request : Request) :
    request.toJson.fields? keys =
      some ([.integer request.flatModifier.toInt, request.rollType.toJson,
        request.hopeDie.toJson, request.modifierDie.toJson,
        .integer request.rolls.toNat].map some) := by
  have hkeys : ["base_modifier".toList, "hope_die".toList, "modifier_die".toList,
      "repeat_count".toList, "roll_type".toList].Nodup := by
    decide +kernel
  refine Json.fields?_object hkeys (.cons ?_ (.cons ?_ (.cons ?_ (.cons ?_ (.cons ?_ .nil)))))
  all_goals simp only [List.mem_cons, true_or, or_true]

theorem Request.ofJson?_toJson (request : Request) : ofJson? request.toJson = some request := by
  rw [ofJson?, fields?_toJson]
  simp only [List.map_cons, List.map_nil, Json.signed32?_toInt, RollType.ofJson?_toJson,
    HopeDie.ofJson?_toJson, ModifierDie.ofJson?_toJson, Json.word32?_toNat,
    Option.bind_eq_bind, Option.bind_some]

theorem Request.integral_toJson (request : Request) : request.toJson.Integral :=
  ⟨trivial, trivial, trivial, trivial, trivial, trivial⟩

theorem Outcome.integral_toJson (outcome : Outcome) : outcome.toJson.Integral :=
  ⟨trivial, trivial, trivial, trivial, trivial, trivial, trivial⟩

theorem Outcome.fields?_toJson (outcome : Outcome) :
    outcome.toJson.fields? keys =
      some ([.integer outcome.hopeValue.toNat, .integer outcome.fearValue.toNat,
        outcome.hopeDie.toJson, outcome.modifierDie.toJson,
        .integer outcome.modifierValue.toInt, .integer outcome.flatModifier.toInt].map some) := by
  have hkeys : ["base_modifier".toList, "fear_value".toList, "hope_die".toList,
      "hope_value".toList, "modifier_die".toList, "modifier_value".toList].Nodup := by
    decide +kernel
  refine Json.fields?_object hkeys
    (.cons ?_ (.cons ?_ (.cons ?_ (.cons ?_ (.cons ?_ (.cons ?_ .nil))))))
  all_goals simp only [List.mem_cons, true_or, or_true]

theorem Outcome.ofJson?_toJson (outcome : Outcome) : ofJson? outcome.toJson = some outcome := by
  rw [ofJson?, fields?_toJson]
  simp only [List.map_cons, List.map_nil, Json.signed32?_toInt, HopeDie.ofJson?_toJson,
    ModifierDie.ofJson?_toJson, Json.word32?_toNat, Option.bind_eq_bind, Option.bind_some]

end DualityDice
