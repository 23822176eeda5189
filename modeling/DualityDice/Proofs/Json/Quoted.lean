import DualityDice.Json.Reader
import DualityDice.Json.Writer
import DualityDice.Proofs.Text.Utf8

namespace DualityDice.Json

theorem hexValue?_control {n : Nat} (h : n < 0x20) :
    Text.hexValue? ['0', '0', Nat.digitChar (n / 16), Nat.digitChar (n % 16)] = some n := by
  have hall : ∀ n < 0x20,
      Text.hexValue? ['0', '0', Nat.digitChar (n / 16), Nat.digitChar (n % 16)] = some n := by
    decide
  exact hall n h

def unitBefore (c : Char) (found : List Nat × Text) : List Nat × Text :=
  (c.toNat :: found.1, found.2)

theorem readUnits_short {c d : Char} (hd : d ≠ 'u') (h : unescape? d = some c)
    (rest : Text) :
    readUnits ('\\' :: d :: rest) = (readUnits rest).map (unitBefore c) := by
  rw [readUnits, h]
  · cases readUnits rest <;> rfl
  · intro a b e f rest' heq
    exact absurd heq hd

theorem readUnits_control {c : Char} (h : c.toNat < 0x20) (rest : Text) :
    readUnits ('\\' :: 'u' :: '0' :: '0' :: Nat.digitChar (c.toNat / 16) ::
        Nat.digitChar (c.toNat % 16) :: rest) =
      (readUnits rest).map (unitBefore c) := by
  rw [readUnits, hexValue?_control h]
  cases readUnits rest <;> rfl

theorem readUnits_plain {c : Char} (hquote : c ≠ '"') (hbackslash : c ≠ '\\')
    (h : ¬c.toNat < 0x20) (rest : Text) :
    readUnits (c :: rest) = (readUnits rest).map (unitBefore c) := by
  rw [readUnits, if_neg h]
  · cases readUnits rest <;> rfl
  · exact hquote
  · intro a b d e rest' heq
    exact absurd heq hbackslash
  · intro d rest' heq
    exact absurd heq hbackslash

def shortEscaped : Text := ['"', '\\', '\n', '\r', '\t', '\x08', '\x0C']

theorem escape_of_mem_shortEscaped {c : Char} (h : c ∈ shortEscaped) :
    ∃ d, escape c = ['\\', d] ∧ d ≠ 'u' ∧ unescape? d = some c := by
  simp only [shortEscaped, List.mem_cons, List.not_mem_nil, or_false] at h
  rcases h with rfl | rfl | rfl | rfl | rfl | rfl | rfl
  · exact ⟨'"', rfl, by decide, rfl⟩
  · exact ⟨'\\', rfl, by decide, rfl⟩
  · exact ⟨'n', rfl, by decide, rfl⟩
  · exact ⟨'r', rfl, by decide, rfl⟩
  · exact ⟨'t', rfl, by decide, rfl⟩
  · exact ⟨'b', rfl, by decide, rfl⟩
  · exact ⟨'f', rfl, by decide, rfl⟩

theorem escape_of_notMem_shortEscaped {c : Char} (h : c ∉ shortEscaped) :
    escape c =
      if c.toNat < 0x20 then
        ['\\', 'u', '0', '0', Nat.digitChar (c.toNat / 16), Nat.digitChar (c.toNat % 16)]
      else [c] := by
  simp only [shortEscaped, List.mem_cons, List.not_mem_nil, or_false, not_or] at h
  obtain ⟨hquote, hbackslash, hn, hr, ht, hb, hf⟩ := h
  rw [escape, if_neg hquote, if_neg hbackslash, if_neg hn, if_neg hr, if_neg ht, if_neg hb,
    if_neg hf]

theorem readUnits_escape_append (c : Char) (rest : Text) :
    readUnits (escape c ++ rest) = (readUnits rest).map (unitBefore c) := by
  by_cases hshort : c ∈ shortEscaped
  · obtain ⟨d, hescape, hd, hread⟩ := escape_of_mem_shortEscaped hshort
    rw [hescape]
    exact readUnits_short hd hread rest
  · rw [escape_of_notMem_shortEscaped hshort]
    split
    · rename_i hcontrol
      exact readUnits_control hcontrol rest
    · rename_i hcontrol
      refine readUnits_plain ?_ ?_ hcontrol rest
      · rintro rfl
        exact hshort (by decide)
      · rintro rfl
        exact hshort (by decide)

theorem readUnits_flatMap_escape (text rest : Text) :
    readUnits (text.flatMap escape ++ '"' :: rest) = some (text.map Char.toNat, rest) := by
  induction text with
  | nil => rfl
  | cons c text ih =>
      rw [List.flatMap_cons, List.append_assoc, readUnits_escape_append, ih]
      rfl

theorem isHighSurrogate_toNat (c : Char) : isHighSurrogate c.toNat = false := by
  have hvalid : c.toNat < 0xD800 ∨ (0xDFFF < c.toNat ∧ c.toNat < 0x110000) := c.valid
  simp only [isHighSurrogate, Bool.and_eq_false_iff, decide_eq_false_iff_not]
  omega

theorem ofUnits?_map_toNat (text : Text) : ofUnits? (text.map Char.toNat) = some text := by
  induction text with
  | nil => rfl
  | cons c rest ih =>
      cases rest with
      | nil => rw [List.map_singleton, ofUnits?, Text.scalar?_toNat, Option.map_some]
      | cons d rest =>
          rw [List.map_cons] at ih
          rw [List.map_cons, List.map_cons, ofUnits?, isHighSurrogate_toNat,
            if_neg Bool.false_ne_true, Text.scalar?_toNat, ih]
          rfl

theorem readQuoted_append (text rest : Text) :
    readQuoted (text.flatMap escape ++ '"' :: rest) = some (text, rest) := by
  rw [readQuoted, readUnits_flatMap_escape]
  simp only [Option.bind_eq_bind, Option.bind_some, ofUnits?_map_toNat]

end DualityDice.Json
