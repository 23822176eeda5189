import DualityDice.Proofs.Json.Number
import DualityDice.Proofs.Json.Quoted

namespace DualityDice.Json

section Spaces

variable {spaces : Text}

theorem skipSpace_append (h : ∀ c ∈ spaces, isSpace c = true) (text : Text) :
    skipSpace (spaces ++ text) = skipSpace text :=
  List.dropWhile_append_of_pos h

theorem skipSpace_cons {c : Char} (h : isSpace c = false) (rest : Text) :
    skipSpace (c :: rest) = c :: rest := by
  rw [skipSpace, List.dropWhile_cons_of_neg (by rw [h]; exact Bool.false_ne_true)]

theorem readValue_append_spaces (h : ∀ c ∈ spaces, isSpace c = true) (fuel : Nat)
    (text : Text) : readValue fuel (spaces ++ text) = readValue fuel text := by
  cases fuel with
  | zero => rfl
  | succ fuel => rw [readValue, readValue, skipSpace_append h]

theorem readItems_append_spaces (h : ∀ c ∈ spaces, isSpace c = true) (fuel : Nat)
    (text : Text) : readItems fuel (spaces ++ text) = readItems fuel text := by
  cases fuel with
  | zero => rfl
  | succ fuel => rw [readItems, readItems, readValue_append_spaces h]

theorem readMembers_append_spaces (h : ∀ c ∈ spaces, isSpace c = true) (fuel : Nat)
    (text : Text) : readMembers fuel (spaces ++ text) = readMembers fuel text := by
  cases fuel with
  | zero => rfl
  | succ fuel => rw [readMembers, readMembers, skipSpace_append h]

theorem mem_of_isSpace {c : Char} (h : isSpace c = true) : c ∈ [' ', '\n', '\r', '\t'] := by
  simp only [isSpace, Bool.or_eq_true, beq_iff_eq] at h
  rcases h with ((rfl | rfl) | rfl) | rfl <;> decide

theorem closes_cons {c : Char} (h : c ∈ [',', ']', '\x7d']) (rest : Text) :
    Closes (c :: rest) := by
  intro d hd
  obtain rfl := Option.some.inj hd
  exact List.mem_append_right [' ', '\n', '\r', '\t'] h

theorem closes_append (h : ∀ c ∈ spaces, isSpace c = true) {rest : Text}
    (hrest : Closes rest) : Closes (spaces ++ rest) := by
  intro d hd
  cases spaces with
  | nil => exact hrest d hd
  | cons c spaces =>
      obtain rfl := Option.some.inj hd
      exact List.mem_append_left [',', ']', '\x7d'] (mem_of_isSpace (h c List.mem_cons_self))

end Spaces

section Steps

variable {fuel : Nat} {rest : Text}

theorem quote_append (text rest : Text) :
    quote text ++ rest = '"' :: (text.flatMap escape ++ '"' :: rest) := by
  simp [quote]

theorem readValue_quote (text : Text) :
    readValue (fuel + 1) (quote text ++ rest) = some (.string text, rest) := by
  rw [quote_append, readValue, skipSpace_cons (by decide)]
  dsimp only
  rw [if_pos rfl, readQuoted_append]
  rfl

theorem not_structural_of_isDigit {c : Char} (h : c.isDigit = true) :
    isSpace c = false ∧ c ≠ '"' ∧ c ≠ '[' ∧ c ≠ ']' ∧ c ≠ '\x7b' ∧ c ≠ '-' := by
  have hne (d : Char) (hd : d.isDigit = false) : c ≠ d := by
    rintro rfl
    rw [hd] at h
    contradiction
  refine ⟨?_, hne _ (by decide), hne _ (by decide), hne _ (by decide), hne _ (by decide),
    hne _ (by decide)⟩
  simp [isSpace, hne]

theorem readValue_ofNat (n : Nat) (h : Closes rest) :
    readValue (fuel + 1) (Numeral.ofNat n ++ rest) = some (.integer n, rest) := by
  have hread := readNumber_ofNat_append false n h
  rw [number_ofNat] at hread
  obtain ⟨c, digits, hdigits, hdigit⟩ := Numeral.exists_ofNat_eq_cons n
  obtain ⟨hspace, hquote, harray, _, hobject, hminus⟩ := not_structural_of_isDigit hdigit
  rw [hdigits, List.cons_append] at hread ⊢
  rw [readValue, skipSpace_cons hspace]
  dsimp only
  rw [if_neg hquote, if_neg harray, if_neg hobject, if_neg hminus, if_pos hdigit, hread]

theorem readValue_ofInt (n : Int) (h : Closes rest) :
    readValue (fuel + 1) (Numeral.ofInt n ++ rest) = some (.integer n, rest) := by
  cases n with
  | ofNat n => exact readValue_ofNat n h
  | negSucc n =>
      rw [Numeral.ofInt, List.cons_append, readValue, skipSpace_cons (by decide)]
      dsimp only
      rw [if_neg (by decide), if_neg (by decide), if_neg (by decide), if_pos rfl,
        readNumber_ofNat_append true (n + 1) h, number_negative]

variable {spaces : Text} {item : Json} {items : List Json}

theorem readValue_array {c : Char} (hspaces : ∀ d ∈ spaces, isSpace d = true)
    (hspace : isSpace c = false) (hne : c ≠ ']') (text : Text) :
    readValue (fuel + 1) ('[' :: (spaces ++ c :: text)) =
      (readItems fuel (c :: text)).map fun (items, rest) => (.array items, rest) := by
  rw [readValue, skipSpace_cons (by decide)]
  dsimp only
  rw [if_neg (by decide), if_pos rfl, skipSpace_append hspaces, skipSpace_cons hspace]
  split
  · rename_i heq
    exact absurd (List.cons.inj heq).1 hne
  · rfl

theorem readItems_last {text : Text} (hspaces : ∀ d ∈ spaces, isSpace d = true)
    (hitem : readValue fuel text = some (item, spaces ++ ']' :: rest)) :
    readItems (fuel + 1) text = some ([item], rest) := by
  rw [readItems, hitem, Option.bind_eq_bind, Option.bind_some]
  dsimp only
  rw [skipSpace_append hspaces, skipSpace_cons (by decide)]
  rfl

theorem readItems_more {text more : Text}
    (hitem : readValue fuel text = some (item, ',' :: more))
    (hitems : readItems fuel more = some (items, rest)) :
    readItems (fuel + 1) text = some (item :: items, rest) := by
  rw [readItems, hitem, Option.bind_eq_bind, Option.bind_some]
  dsimp only
  rw [skipSpace_cons (by decide)]
  change (readItems fuel more).bind (fun found => some (item :: found.1, found.2)) = _
  rw [hitems]
  rfl

variable {key : Text} {value : Json} {members : List (Text × Json)}

theorem readValue_object (hspaces : ∀ d ∈ spaces, isSpace d = true) (text : Text) :
    readValue (fuel + 1) ('\x7b' :: (spaces ++ quote key ++ text)) =
      (readMembers fuel (quote key ++ text)).map
        fun (members, rest) => (.object members, rest) := by
  rw [readValue, skipSpace_cons (by decide)]
  dsimp only
  rw [if_neg (by decide), if_neg (by decide), if_pos rfl, List.append_assoc,
    skipSpace_append hspaces, quote_append, skipSpace_cons (by decide)]
  rfl

theorem readMembers_eq_bind (text : Text) :
    readMembers (fuel + 1) (quote key ++ ':' :: text) =
      (readValue fuel text).bind fun (value, rest) =>
        match skipSpace rest with
        | ',' :: rest =>
            (readMembers fuel rest).bind fun (members, rest) =>
              some ((key, value) :: members, rest)
        | '\x7d' :: rest => some ([(key, value)], rest)
        | _ => none := by
  rw [readMembers, quote_append, skipSpace_cons (by decide)]
  change (readQuoted (key.flatMap escape ++ '"' :: ':' :: text)).bind _ = _
  rw [readQuoted_append, Option.bind_some]
  dsimp only
  rw [skipSpace_cons (by decide)]
  rfl

theorem readMembers_last {text : Text} (hspaces : ∀ d ∈ spaces, isSpace d = true)
    (hvalue : readValue fuel text = some (value, spaces ++ '\x7d' :: rest)) :
    readMembers (fuel + 1) (quote key ++ ':' :: text) = some ([(key, value)], rest) := by
  rw [readMembers_eq_bind, hvalue, Option.bind_some]
  dsimp only
  rw [skipSpace_append hspaces, skipSpace_cons (by decide)]
  rfl

theorem readMembers_more {text more : Text}
    (hvalue : readValue fuel text = some (value, ',' :: more))
    (hmembers : readMembers fuel more = some (members, rest)) :
    readMembers (fuel + 1) (quote key ++ ':' :: text) =
      some ((key, value) :: members, rest) := by
  rw [readMembers_eq_bind, hvalue, Option.bind_some]
  dsimp only
  rw [skipSpace_cons (by decide)]
  change (readMembers fuel more).bind _ = _
  rw [hmembers, Option.bind_some]

end Steps

end DualityDice.Json
