import DualityDice.Proofs.Environment.Readable
import DualityDice.Proofs.Numeral.Start
import DualityDice.Proofs.Text.Plain
import DualityDice.Proofs.Toml.Spelling

namespace DualityDice

namespace Text

theorem length_le_byteCount (text : Text) : text.length ≤ byteCount text := by
  induction text with
  | nil => exact Nat.le_refl 0
  | cons c rest ih =>
      have hsize := c.utf8Size_pos
      rw [List.length_cons, byteCount]
      omega

theorem byteCount_eq_length_iff {text : Text} :
    byteCount text = text.length ↔ ∀ c ∈ text, c.toNat < 0x80 := by
  refine ⟨fun h => ?_, byteCount_eq_length⟩
  induction text with
  | nil => simp
  | cons c rest ih =>
      have hsize := c.utf8Size_pos
      have hrest := length_le_byteCount rest
      rw [byteCount, List.length_cons] at h
      have hone : c.utf8Size = 1 := by omega
      have hc := UInt32.le_iff_toNat_le.mp (Char.utf8Size_eq_one_iff.mp hone)
      exact List.forall_mem_cons.mpr ⟨Nat.lt_succ_of_le hc, ih (by omega)⟩

theorem trim_eq_self {text : Text} (h : ∀ c ∈ text, isBlank c = false) : text.trim = text := by
  have hkept : ∀ {part : Text}, (∀ c ∈ part, isBlank c = false) →
      part.dropWhile isBlank = part := by
    intro part hpart
    cases part with
    | nil => rfl
    | cons c rest =>
        rw [List.dropWhile_cons_of_neg]
        rw [hpart c List.mem_cons_self]
        exact Bool.false_ne_true
  rw [trim, trimStart, hkept h, trimEnd, hkept, List.reverse_reverse]
  intro c hc
  exact h c (List.mem_reverse.mp hc)

end Text

namespace Environment

def quoted (inner : Text) : Text :=
  '"' :: (inner ++ ['"'])

/-- Whether a spelling has no escape, or nothing but ASCII before the first one. -/
def Kept (inner : Text) : Prop :=
  '\\' ∉ inner ∨ ∀ c ∈ inner.takeWhile (· != '\\'), c.toNat < 0x80

section Quoted

variable {before kept inner text : Text}

theorem shorten_eq_ok_iff : shorten before = .ok kept ↔
    kept <+: before ∧ Text.byteCount kept = before.length := by
  rw [← Text.takeBytes?_eq_some_iff, shorten]
  cases Text.takeBytes? before.length before <;> simp

theorem shorten_eq_self_iff : shorten before = .ok before ↔ ∀ c ∈ before, c.toNat < 0x80 := by
  rw [shorten_eq_ok_iff, Text.byteCount_eq_length_iff]
  exact and_iff_right List.prefix_rfl

theorem shorten_ne_noValue (before : Text) : shorten before ≠ .error .noValue := by
  unfold shorten
  split <;> simp

/-- Of a text that is spelled so, only a part at the start can be shortened. -/
theorem exists_unescape_eq (h : Toml.Spells inner text) :
    ∃ before rest, text = before ++ rest ∧
      (Kept inner ↔ ∀ c ∈ before, c.toNat < 0x80) ∧
      unescape inner = (shorten before).map (· ++ rest) := by
  by_cases hmem : '\\' ∈ inner
  · obtain ⟨rest, htext, hbefore, hbehind⟩ := h.exists_append
    refine ⟨_, rest, htext, or_iff_right (not_not_intro hmem), ?_⟩
    have hescaped : inner.dropWhile (· != '\\') ≠ [] := by
      rw [ne_eq, List.dropWhile_eq_nil_iff, forall_bne_backslash_iff]
      exact not_not_intro hmem
    unfold unescape
    dsimp only
    rw [hbefore.unescape_eq]
    cases hdrop : inner.dropWhile (· != '\\') with
    | nil => exact absurd hdrop hescaped
    | cons c escaped =>
        rw [hdrop] at hbehind
        change (shorten _ >>= fun kept => demand (Toml.unescape (c :: escaped)) >>= _) = _
        rw [hbehind.unescape_eq]
        cases shorten (inner.takeWhile (· != '\\')) <;> rfl
  · have hall := forall_bne_backslash_iff.mpr hmem
    refine ⟨[], text, rfl, iff_of_true (.inl hmem) (by simp), ?_⟩
    unfold unescape
    dsimp only
    rw [List.takeWhile_eq_self_iff.mpr hall, List.dropWhile_eq_nil_iff.mpr hall, h.unescape_eq]
    rfl

theorem unescape_eq_ok_iff (h : Toml.Spells inner text) :
    unescape inner = .ok text ↔ Kept inner := by
  obtain ⟨before, rest, rfl, hkept, hunescape⟩ := exists_unescape_eq h
  rw [hkept, ← shorten_eq_self_iff, hunescape]
  cases shorten before <;> simp [Except.map]

theorem unescape_ne_noValue (h : Toml.Spells inner text) : unescape inner ≠ .error .noValue := by
  obtain ⟨before, rest, _, _, hunescape⟩ := exists_unescape_eq h
  have hne := shorten_ne_noValue before
  rw [hunescape]
  revert hne
  cases shorten before <;> simp [Except.map]

theorem sublist_of_unescape {read : Text} (h : Toml.Spells inner text)
    (hread : unescape inner = .ok read) : read.Sublist text := by
  obtain ⟨before, rest, rfl, _, hunescape⟩ := exists_unescape_eq h
  rw [hunescape] at hread
  cases hshorten : shorten before with
  | error _ =>
      rw [hshorten] at hread
      contradiction
  | ok kept =>
      rw [hshorten] at hread
      obtain rfl := Except.ok.inj hread
      exact (shorten_eq_ok_iff.mp hshorten).1.sublist.append_right rest

theorem readValue_quoted (h : Toml.Spells inner text) (depth : Nat) :
    readValue (depth + 1) (quoted inner) =
      (unescape inner).map fun text => (.string text, []) := by
  have hquoted : readQuoted (inner ++ ['"']) = (unescape inner).map fun text => (text, []) := by
    rw [readQuoted, h.splitQuoted_append]
    change (unescape inner >>= _) = _
    cases unescape inner <;> rfl
  have hscalar : readScalar (quoted inner) =
      (unescape inner).map fun text => (.string text, []) := by
    change (readQuoted (inner ++ ['"']) >>= _) = _
    rw [hquoted]
    cases unescape inner <;> rfl
  change (readScalar (quoted inner) >>= _) = _
  rw [hscalar]
  cases unescape inner <;> rfl

theorem valueOf?_quoted_eq_some_iff (h : Toml.Spells inner text) {value : Toml} :
    valueOf? (quoted inner) = some value ↔
      ∃ read, unescape inner = .ok read ∧ value = .string read := by
  have hne := unescape_ne_noValue h
  rw [valueOf?, readValue_quoted h]
  cases hunescape : unescape inner with
  | ok read => simp [Except.map, eq_comm]
  | error fault =>
      cases fault with
      | noValue => exact absurd hunescape hne
      | cutCharacter => simp [Except.map]

theorem valueOf?_quoted_eq_string_iff (h : Toml.Spells inner text) :
    valueOf? (quoted inner) = some (.string text) ↔ Kept inner := by
  rw [valueOf?_quoted_eq_some_iff h, ← unescape_eq_ok_iff h]
  simp

end Quoted

section Numerals

theorem ne_of_isDigit {c mark : Char} (hc : c.isDigit = true) (hmark : mark.isDigit = false) :
    c ≠ mark := by
  rintro rfl
  rw [hmark] at hc
  contradiction

theorem isReal_ofNat (n : Nat) : isReal (Numeral.ofNat n) = false := by
  obtain ⟨c, digits, hdigits, hc⟩ := Numeral.exists_ofNat_eq_cons n
  have hsign : Toml.readSign (Numeral.ofNat n) = ([], Numeral.ofNat n) := by
    rw [hdigits]
    unfold Toml.readSign
    split
    case h_1 heq | h_2 heq =>
      exact absurd (List.cons.inj heq).1 (ne_of_isDigit hc (by decide))
    case h_3 => rfl
  have hnone : (Numeral.ofNat n).dropWhile Char.isDigit = [] :=
    List.dropWhile_eq_nil_iff.mpr fun _ => Numeral.isDigit_of_mem_ofNat
  rw [isReal, hsign, hnone]

theorem bareValue_ofNat {n : Nat} (h : n < UInt64.size) :
    bareValue (Numeral.ofNat n) = .integer n := by
  have hword : Numeral.isWord64 n = true := by
    rw [UInt64.size] at h
    simp only [Numeral.isWord64, Bool.and_eq_true, decide_eq_true_eq]
    omega
  rw [bareValue, isReal_ofNat, Numeral.toInt?_ofNat, if_neg Bool.false_ne_true]
  exact if_pos hword

theorem readBare_ofNat {n : Nat} (h : n < UInt64.size) :
    readBare (Numeral.ofNat n) = (.integer n, []) := by
  have hbare : ∀ c ∈ Numeral.ofNat n, (!isSeparator c) = true := by
    intro c hc
    have hdigit := Numeral.isDigit_of_mem_ofNat hc
    have hne := fun {mark} => @ne_of_isDigit c mark hdigit
    simp [isSeparator, hne]
  have hplain : ∀ c ∈ Numeral.ofNat n, Text.isBlank c = false := fun _ hc =>
    (Text.isPlain_of_isDigit (Numeral.isDigit_of_mem_ofNat hc)).2.2
  rw [readBare, List.takeWhile_eq_self_iff.mpr hbare, List.dropWhile_eq_nil_iff.mpr hbare,
    Text.trim_eq_self hplain, bareValue_ofNat h]

theorem readScalar_of_isDigit {c : Char} (hc : c.isDigit = true) (rest : Text) :
    readScalar (c :: rest) = .ok (readBare (c :: rest)) := by
  have htrue : Text.dropStart? (c :: rest) "true".toList = none :=
    if_neg (ne_of_isDigit hc (by decide))
  have hfalse : Text.dropStart? (c :: rest) "false".toList = none :=
    if_neg (ne_of_isDigit hc (by decide))
  unfold readScalar
  rw [htrue, hfalse]
  dsimp only
  split
  case h_1 heq | h_2 heq | h_3 heq =>
    exact absurd (List.cons.inj heq).1 (ne_of_isDigit hc (by decide))
  case h_4 => rfl

theorem valueOf?_ofNat {n : Nat} (h : n < UInt64.size) :
    valueOf? (Numeral.ofNat n) = some (.integer n) := by
  have hbare := readBare_ofNat h
  obtain ⟨c, digits, hdigits, hc⟩ := Numeral.exists_ofNat_eq_cons n
  rw [hdigits] at hbare
  have hspace : skipSpace (c :: digits) = c :: digits := by
    have hne := fun {mark} => @ne_of_isDigit c mark hc
    simp [skipSpace, isSpace, hne]
  have hvalue : readValue (digits.length + 2) (c :: digits) = .ok (.integer n, []) := by
    unfold readValue
    rw [hspace]
    split
    case h_1 heq | h_2 heq =>
      exact absurd (List.cons.inj heq).1 (ne_of_isDigit hc (by decide))
    case h_3 =>
      rw [readScalar_of_isDigit hc, hbare]
      rfl
  rw [hdigits, valueOf?, List.length_cons, hvalue]

end Numerals

end Environment

end DualityDice
