import DualityDice.Text.Utf8

namespace DualityDice.Text

def toUtf8 (text : Text) : Bytes :=
  text.flatMap String.utf8EncodeChar

theorem scalar?_toNat (c : Char) : scalar? c.toNat = some c := by
  have hvalid : c.toNat.isValidChar := c.valid
  rw [scalar?, dif_pos hvalid]
  congr 1

section Bytes

variable {n : Nat}

theorem ofNat_lt {bound : UInt8} (h : n < bound.toNat) : UInt8.ofNat n < bound := by
  have hsize := bound.toNat_lt
  rw [UInt8.lt_iff_toNat_lt, UInt8.toNat_ofNat_of_lt' (by rw [UInt8.size]; omega)]
  exact h

theorem not_ofNat_lt {bound : UInt8} (hn : n < 256) (h : bound.toNat ≤ n) :
    ¬UInt8.ofNat n < bound := by
  rw [UInt8.lt_iff_toNat_lt, UInt8.toNat_ofNat_of_lt' hn]
  exact Nat.not_lt.mpr h

theorem continuation?_ofNat (hn : n < 64) :
    continuation? (UInt8.ofNat (n + 128)) = some n := by
  have hbyte : (UInt8.ofNat (n + 128)).toNat = n + 128 :=
    UInt8.toNat_ofNat_of_lt' (by rw [UInt8.size]; omega)
  have hrange : 0x80 ≤ UInt8.ofNat (n + 128) ∧ UInt8.ofNat (n + 128) < 0xC0 := by
    rw [UInt8.le_iff_toNat_le, UInt8.lt_iff_toNat_lt, hbyte]
    exact ⟨Nat.le_add_left _ _, Nat.add_lt_add_right hn 128⟩
  rw [continuation?, if_pos hrange, hbyte, Nat.add_sub_cancel]

end Bytes

theorem combine?_eq_some {least first : Nat} {payloads : List Nat} {c : Char}
    (hcode : payloads.foldl (fun code payload => 0x40 * code + payload) first = c.toNat)
    (hleast : least ≤ c.toNat) : combine? least first payloads = some c := by
  rw [combine?, hcode, if_pos hleast, scalar?_toNat]

section Characters

variable {a b d e : Nat} {c : Char}

theorem ofUtf8?_one (hcode : a = c.toNat) (ha : a < 128) (rest : Bytes) :
    ofUtf8? (UInt8.ofNat a :: rest) = (ofUtf8? rest).map (c :: ·) := by
  have hbyte : (UInt8.ofNat a).toNat = a :=
    UInt8.toNat_ofNat_of_lt' (by rw [UInt8.size]; omega)
  have hlead : UInt8.ofNat a < 0x80 := ofNat_lt ha
  rw [ofUtf8?.eq_def]
  dsimp only
  rw [if_pos hlead, hbyte, hcode, Char.ofNat_toNat]

theorem ofUtf8?_two (hcode : 64 * a + b = c.toNat) (hleast : 128 ≤ c.toNat) (ha : a < 32)
    (hb : b < 64) (rest : Bytes) :
    ofUtf8? (UInt8.ofNat (a + 192) :: UInt8.ofNat (b + 128) :: rest) =
      (ofUtf8? rest).map (c :: ·) := by
  have hbyte : (UInt8.ofNat (a + 192)).toNat = a + 192 :=
    UInt8.toNat_ofNat_of_lt' (by rw [UInt8.size]; omega)
  have hlow {bound : UInt8} (h : bound.toNat ≤ 192) : ¬UInt8.ofNat (a + 192) < bound :=
    not_ofNat_lt (by omega) (by omega)
  have hcombine : combine? 0x80 a [b] = some c := combine?_eq_some hcode hleast
  rw [ofUtf8?.eq_def]
  dsimp only
  rw [if_neg (hlow (by decide)), if_neg (hlow (by decide)),
    if_pos (ofNat_lt (show a + 192 < 224 by omega))]
  simp only [continuation?_ofNat hb, hbyte, Nat.add_sub_cancel, hcombine,
    Option.bind_eq_bind, Option.bind_some]

theorem ofUtf8?_three (hcode : 64 * (64 * a + b) + d = c.toNat) (hleast : 2048 ≤ c.toNat)
    (ha : a < 16) (hb : b < 64) (hd : d < 64) (rest : Bytes) :
    ofUtf8? (UInt8.ofNat (a + 224) :: UInt8.ofNat (b + 128) :: UInt8.ofNat (d + 128) :: rest) =
      (ofUtf8? rest).map (c :: ·) := by
  have hbyte : (UInt8.ofNat (a + 224)).toNat = a + 224 :=
    UInt8.toNat_ofNat_of_lt' (by rw [UInt8.size]; omega)
  have hlow {bound : UInt8} (h : bound.toNat ≤ 224) : ¬UInt8.ofNat (a + 224) < bound :=
    not_ofNat_lt (by omega) (by omega)
  have hcombine : combine? 0x800 a [b, d] = some c := combine?_eq_some hcode hleast
  rw [ofUtf8?.eq_def]
  dsimp only
  rw [if_neg (hlow (by decide)), if_neg (hlow (by decide)), if_neg (hlow (by decide)),
    if_pos (ofNat_lt (show a + 224 < 240 by omega))]
  simp only [continuation?_ofNat hb, continuation?_ofNat hd, hbyte, Nat.add_sub_cancel,
    hcombine, Option.bind_eq_bind, Option.bind_some]

theorem ofUtf8?_four (hcode : 64 * (64 * (64 * a + b) + d) + e = c.toNat)
    (hleast : 65536 ≤ c.toNat) (ha : a < 8) (hb : b < 64) (hd : d < 64) (he : e < 64)
    (rest : Bytes) :
    ofUtf8? (UInt8.ofNat (a + 240) :: UInt8.ofNat (b + 128) :: UInt8.ofNat (d + 128) ::
        UInt8.ofNat (e + 128) :: rest) =
      (ofUtf8? rest).map (c :: ·) := by
  have hbyte : (UInt8.ofNat (a + 240)).toNat = a + 240 :=
    UInt8.toNat_ofNat_of_lt' (by rw [UInt8.size]; omega)
  have hlow {bound : UInt8} (h : bound.toNat ≤ 240) : ¬UInt8.ofNat (a + 240) < bound :=
    not_ofNat_lt (by omega) (by omega)
  have hcombine : combine? 0x10000 a [b, d, e] = some c := combine?_eq_some hcode hleast
  rw [ofUtf8?.eq_def]
  dsimp only
  rw [if_neg (hlow (by decide)), if_neg (hlow (by decide)), if_neg (hlow (by decide)),
    if_neg (hlow (by decide)), if_pos (ofNat_lt (show a + 240 < 248 by omega))]
  simp only [continuation?_ofNat hb, continuation?_ofNat hd, continuation?_ofNat he, hbyte,
    Nat.add_sub_cancel, hcombine, Option.bind_eq_bind, Option.bind_some]

end Characters

theorem toNat_lt (c : Char) : c.toNat < 1114112 := by
  have hvalid : c.toNat < 0xD800 ∨ (0xDFFF < c.toNat ∧ c.toNat < 0x110000) := c.valid
  omega

theorem ofUtf8?_encodeChar_append (c : Char) (rest : Bytes) :
    ofUtf8? (String.utf8EncodeChar c ++ rest) = (ofUtf8? rest).map (c :: ·) := by
  have hrange := toNat_lt c
  unfold String.utf8EncodeChar
  simp only [show c.val.toNat = c.toNat from rfl]
  generalize hcode : c.toNat = code at hrange
  split
  · exact ofUtf8?_one hcode.symm (by omega) rest
  split
  · exact ofUtf8?_two (by omega) (by omega) (by omega) (by omega) rest
  split
  · exact ofUtf8?_three (by omega) (by omega) (by omega) (by omega) (by omega) rest
  · exact ofUtf8?_four (by omega) (by omega) (by omega) (by omega) (by omega) (by omega) rest

theorem ofUtf8?_toUtf8 (text : Text) : ofUtf8? text.toUtf8 = some text := by
  induction text with
  | nil => rfl
  | cons c rest ih =>
      rw [toUtf8, List.flatMap_cons, ofUtf8?_encodeChar_append, ← toUtf8, ih]
      rfl

theorem lineFeed_notMem_encodeChar {c : Char} (h : c ≠ '\n') :
    (10 : UInt8) ∉ String.utf8EncodeChar c := by
  have hcode : c.toNat ≠ 10 := by
    intro hten
    exact h (Char.toNat_inj.mp hten)
  have hbyte {n : Nat} (hten : n % 256 ≠ 10) : (10 : UInt8) ≠ UInt8.ofNat n := by
    rw [ne_eq, ← UInt8.toNat_inj, UInt8.toNat_ofNat']
    exact fun heq => hten heq.symm
  unfold String.utf8EncodeChar
  simp only [show c.val.toNat = c.toNat from rfl]
  split
  · simpa using hbyte (by omega)
  split
  · simp only [List.mem_cons, List.not_mem_nil, or_false, not_or]
    exact ⟨hbyte (by omega), hbyte (by omega)⟩
  split
  · simp only [List.mem_cons, List.not_mem_nil, or_false, not_or]
    exact ⟨hbyte (by omega), hbyte (by omega), hbyte (by omega)⟩
  · simp only [List.mem_cons, List.not_mem_nil, or_false, not_or]
    exact ⟨hbyte (by omega), hbyte (by omega), hbyte (by omega), hbyte (by omega)⟩

theorem lineFeed_notMem_toUtf8 {text : Text} (h : '\n' ∉ text) : (10 : UInt8) ∉ text.toUtf8 := by
  rw [toUtf8, List.mem_flatMap]
  rintro ⟨c, hc, hten⟩
  have hne : c ≠ '\n' := by
    rintro rfl
    exact h hc
  exact lineFeed_notMem_encodeChar hne hten

end DualityDice.Text
