import Mathlib.Algebra.Group.Nat.Defs
import DualityDice.Proofs.Text.Utf8
import DualityDice.Toml.Quoted

namespace DualityDice

namespace Text

theorem hexDigit?_digitChar {n : Nat} (h : n < 16) : hexDigit? (Nat.digitChar n) = some n := by
  have hall : ∀ n < 16, hexDigit? (Nat.digitChar n) = some n := by decide
  exact hall n h

theorem isSome_hexDigit? {digits : Text} {n : Nat} (h : hexValue? digits = some n) :
    ∀ c ∈ digits, (hexDigit? c).isSome := by
  have hall : ∀ (digits : Text) (start : Nat),
      digits.foldlM (fun value c => (hexDigit? c).map (16 * value + ·)) start = some n →
        ∀ c ∈ digits, (hexDigit? c).isSome := by
    intro digits
    induction digits with
    | nil => simp
    | cons d rest ih =>
        intro start hvalue
        rw [List.foldlM_cons] at hvalue
        obtain ⟨next, hnext, hrest⟩ := Option.bind_eq_some_iff.mp hvalue
        obtain ⟨digit, hdigit, _⟩ := Option.map_eq_some_iff.mp hnext
        exact List.forall_mem_cons.mpr ⟨by rw [hdigit, Option.isSome_some], ih next hrest⟩
  exact hall digits 0 h

def hexDigits : Nat → Nat → Text
  | 0, _ => []
  | count + 1, n => hexDigits count (n / 16) ++ [Nat.digitChar (n % 16)]

theorem length_hexDigits (count n : Nat) : (hexDigits count n).length = count := by
  induction count generalizing n with
  | zero => rfl
  | succ count ih => rw [hexDigits, List.length_append, ih, List.length_singleton]

theorem hexValue?_hexDigits (count n : Nat) :
    hexValue? (hexDigits count n) = some (n % 16 ^ count) := by
  induction count generalizing n with
  | zero =>
      rw [Nat.pow_zero, Nat.mod_one]
      rfl
  | succ count ih =>
      rw [hexValue?, hexDigits, List.foldlM_append, ← hexValue?, ih]
      have hlast := hexDigit?_digitChar (Nat.mod_lt n (by decide : 0 < 16))
      have hvalue : n % 16 ^ (count + 1) = 16 * (n / 16 % 16 ^ count) + n % 16 := by
        rw [Nat.pow_succ', Nat.mod_mul, Nat.add_comm]
      simp [hlast, hvalue]

theorem toNat_lt_of_mem_hexDigits {count n : Nat} {c : Char} (h : c ∈ hexDigits count n) :
    c.toNat < 0x80 := by
  have hdigit : ∀ n < 16, (Nat.digitChar n).toNat < 0x80 := by decide
  induction count generalizing n with
  | zero => contradiction
  | succ count ih =>
      rcases List.mem_append.mp h with h | h
      · exact ih h
      · rw [List.mem_singleton.mp h]
        exact hdigit _ (Nat.mod_lt n (by decide))

end Text

namespace Toml

def shortEscapes : List (Char × Char) :=
  [('"', '"'), ('\\', '\\'), ('b', '\x08'), ('t', '\t'), ('n', '\n'), ('f', '\x0C'), ('r', '\r')]

/-- Whether a character can be spelled so between double quotes on one line. -/
inductive Writes (c : Char) : Text → Prop where
  | plain (hc : isQuotable c = true) : Writes c [c]
  | short {letter : Char} (hmem : (letter, c) ∈ shortEscapes) : Writes c ['\\', letter]
  | four {digits : Text} (hlength : digits.length = 4)
      (hvalue : Text.hexValue? digits = some c.toNat) : Writes c ('\\' :: 'u' :: digits)
  | eight {digits : Text} (hlength : digits.length = 8)
      (hvalue : Text.hexValue? digits = some c.toNat) : Writes c ('\\' :: 'U' :: digits)

inductive Spells : Text → Text → Prop where
  | nil : Spells [] []
  | cons {c : Char} {part inner text : Text} (hpart : Writes c part)
      (hrest : Spells inner text) : Spells (part ++ inner) (c :: text)

theorem ne_of_isQuotable {c : Char} (h : isQuotable c = true) : c ≠ '"' ∧ c ≠ '\\' := by
  simp only [isQuotable, Bool.and_eq_true, bne_iff_ne] at h
  exact ⟨h.1.2, h.2⟩

theorem ne_of_mem_digits {digits : Text} {n : Nat} (h : Text.hexValue? digits = some n) :
    ∀ c ∈ digits, c ≠ '"' ∧ c ≠ '\\' := by
  intro c hc
  have hdigit := Text.isSome_hexDigit? h c hc
  constructor
  · rintro rfl
    exact absurd hdigit (by decide)
  · rintro rfl
    exact absurd hdigit (by decide)

def putBefore (part : Text) (found : Text × Text) : Text × Text :=
  (part ++ found.1, found.2)

theorem splitQuoted_backslash (c : Char) (rest : Text) :
    splitQuoted ('\\' :: c :: rest) = (splitQuoted rest).map (putBefore ['\\', c]) :=
  rfl

theorem splitQuoted_append {part : Text} (h : ∀ c ∈ part, c ≠ '"' ∧ c ≠ '\\') (rest : Text) :
    splitQuoted (part ++ rest) = (splitQuoted rest).map (putBefore part) := by
  induction part with
  | nil => cases hrest : splitQuoted rest <;> simp [hrest, putBefore]
  | cons c part ih =>
      obtain ⟨⟨hquote, hbackslash⟩, hpart⟩ := List.forall_mem_cons.mp h
      rw [List.cons_append, splitQuoted, ih hpart, Option.map_map]
      · rfl
      · exact hquote
      · intro d rest' hc
        exact absurd hc hbackslash

theorem unescape_cons {c : Char} (h : isQuotable c = true) (rest : Text) :
    unescape (c :: rest) = (unescape rest).map (c :: ·) := by
  obtain ⟨_, hbackslash⟩ := ne_of_isQuotable h
  rw [unescape, if_pos h]
  all_goals
    intros
    contradiction

theorem unescape_short {letter c : Char} (h : (letter, c) ∈ shortEscapes) (rest : Text) :
    unescape ('\\' :: letter :: rest) = (unescape rest).map (c :: ·) := by
  have hall : ∀ pair ∈ shortEscapes,
      pair.1 ≠ 'u' ∧ pair.1 ≠ 'U' ∧ unescape? pair.1 = some pair.2 := by
    decide
  obtain ⟨hu, hU, hletter⟩ := hall _ h
  rw [unescape, hletter]
  · rfl
  all_goals
    intros
    contradiction

theorem ofHex?_of_hexValue? {digits : Text} {c : Char}
    (h : Text.hexValue? digits = some c.toNat) : ofHex? digits = some c := by
  rw [ofHex?, h, Option.bind_some, Text.scalar?_toNat]

section Writes

variable {c : Char} {part : Text}

theorem Writes.splitQuoted_append (h : Writes c part) (rest : Text) :
    splitQuoted (part ++ rest) = (splitQuoted rest).map (putBefore part) := by
  cases h with
  | plain hc => exact Toml.splitQuoted_append (by simpa using ne_of_isQuotable hc) rest
  | short _ => exact splitQuoted_backslash _ rest
  | four _ hvalue | eight _ hvalue =>
      rw [List.cons_append, List.cons_append, splitQuoted_backslash,
        Toml.splitQuoted_append (ne_of_mem_digits hvalue), Option.map_map]
      rfl

theorem Writes.unescape_append (h : Writes c part) (rest : Text) :
    unescape (part ++ rest) = (unescape rest).map (c :: ·) := by
  cases h with
  | plain hc => exact unescape_cons hc rest
  | short hmem => exact unescape_short hmem rest
  | @four digits hlength hvalue =>
      have hchar := ofHex?_of_hexValue? hvalue
      match digits, hlength with
      | [a, b, d, e], _ =>
          change ((ofHex? [a, b, d, e]).bind fun char => (unescape rest).map (char :: ·)) = _
          rw [hchar, Option.bind_some]
  | @eight digits hlength hvalue =>
      have hchar := ofHex?_of_hexValue? hvalue
      match digits, hlength with
      | [a, b, d, e, f, g, h, i], _ =>
          change ((ofHex? [a, b, d, e, f, g, h, i]).bind
            fun char => (unescape rest).map (char :: ·)) = _
          rw [hchar, Option.bind_some]

theorem Writes.eq_singleton_or (h : Writes c part) :
    (isQuotable c = true ∧ part = [c]) ∨ ∃ rest, part = '\\' :: rest := by
  cases h with
  | plain hc => exact .inl ⟨hc, rfl⟩
  | short _ | four _ _ | eight _ _ => exact .inr ⟨_, rfl⟩

theorem exists_ascii_writes (c : Char) :
    ∃ part, Writes c part ∧ ∀ d ∈ part, d.toNat < 0x80 := by
  by_cases hc : isQuotable c = true ∧ c.toNat < 0x80
  · exact ⟨[c], .plain hc.1, by simpa using hc.2⟩
  · have hvalue : Text.hexValue? (Text.hexDigits 8 c.toNat) = some c.toNat := by
      rw [Text.hexValue?_hexDigits, Nat.mod_eq_of_lt]
      exact Nat.lt_trans (Text.toNat_lt c) (by decide)
    refine ⟨_, .eight (Text.length_hexDigits 8 c.toNat) hvalue, ?_⟩
    simp only [List.forall_mem_cons]
    exact ⟨by decide, by decide, fun _ => Text.toNat_lt_of_mem_hexDigits⟩

end Writes

section Spells

variable {inner text : Text}

theorem Spells.splitQuoted_append (h : Spells inner text) (rest : Text) :
    splitQuoted (inner ++ '"' :: rest) = some (inner, rest) := by
  induction h with
  | nil => rfl
  | cons hpart _ ih =>
      rw [List.append_assoc, hpart.splitQuoted_append, ih]
      rfl

theorem Spells.unescape_eq (h : Spells inner text) : unescape inner = some text := by
  induction h with
  | nil => rfl
  | cons hpart _ ih => rw [hpart.unescape_append, ih, Option.map_some]

theorem Spells.exists_append (h : Spells inner text) :
    ∃ rest, text = inner.takeWhile (· != '\\') ++ rest ∧
      Spells (inner.takeWhile (· != '\\')) (inner.takeWhile (· != '\\')) ∧
      Spells (inner.dropWhile (· != '\\')) rest := by
  induction h with
  | nil => exact ⟨[], rfl, .nil, .nil⟩
  | @cons c part inner text hpart hrest ih =>
      rcases hpart.eq_singleton_or with ⟨hc, rfl⟩ | ⟨escape, rfl⟩
      · obtain ⟨rest, htext, hbefore, hbehind⟩ := ih
        have hne : (c != '\\') = true := bne_iff_ne.mpr (ne_of_isQuotable hc).2
        simp only [List.singleton_append, List.takeWhile_cons, List.dropWhile_cons, hne, if_true]
        exact ⟨rest, congrArg (c :: ·) htext, .cons (.plain hc) hbefore, hbehind⟩
      · exact ⟨c :: text, rfl, .nil, .cons hpart hrest⟩

theorem spells_self (h : ∀ c ∈ text, isQuotable c = true) : Spells text text := by
  induction text with
  | nil => exact .nil
  | cons c text ih =>
      obtain ⟨hc, htext⟩ := List.forall_mem_cons.mp h
      exact .cons (.plain hc) (ih htext)

theorem exists_ascii_spells (text : Text) :
    ∃ inner, Spells inner text ∧ ∀ c ∈ inner, c.toNat < 0x80 := by
  induction text with
  | nil => exact ⟨[], .nil, by simp⟩
  | cons c text ih =>
      obtain ⟨inner, hinner, hascii⟩ := ih
      obtain ⟨part, hpart, hpartAscii⟩ := exists_ascii_writes c
      exact ⟨part ++ inner, .cons hpart hinner,
        List.forall_mem_append.mpr ⟨hpartAscii, hascii⟩⟩

end Spells

end Toml

end DualityDice
