import DualityDice.Proofs.Text.Utf8

namespace DualityDice.Text

def payloads? : Nat → Bytes → Option (List Nat × Bytes)
  | 0, rest => some ([], rest)
  | _ + 1, [] => none
  | count + 1, byte :: rest =>
      (continuation? byte).bind fun payload =>
        (payloads? count rest).map fun (payloads, rest) => (payload :: payloads, rest)

/-- What the first byte of a character tells: the least character that may be encoded so,
the first payload, and how many bytes continue the character. -/
def lead? (byte : UInt8) : Option (Nat × Nat × Nat) :=
  if byte < 0x80 then some (0, byte.toNat, 0)
  else if byte < 0xC0 then none
  else if byte < 0xE0 then some (0x80, byte.toNat - 0xC0, 1)
  else if byte < 0xF0 then some (0x800, byte.toNat - 0xE0, 2)
  else if byte < 0xF8 then some (0x10000, byte.toNat - 0xF0, 3)
  else none

def readChar? (byte : UInt8) (rest : Bytes) : Option (Char × Bytes) :=
  (lead? byte).bind fun (least, first, count) =>
    (payloads? count rest).bind fun (payloads, rest) =>
      (combine? least first payloads).bind fun char => some (char, rest)

section

variable (b c d : UInt8) (rest : Bytes)

theorem payloads?_one :
    payloads? 1 (b :: rest) = (continuation? b).bind fun first => some ([first], rest) := by
  change (continuation? b).bind _ = _
  cases continuation? b <;> rfl

theorem payloads?_two :
    payloads? 2 (b :: c :: rest) =
      (continuation? b).bind fun first =>
        (continuation? c).bind fun second => some ([first, second], rest) := by
  change (continuation? b).bind (fun _ => (payloads? 1 (c :: rest)).map _) = _
  rw [payloads?_one]
  cases continuation? b <;> cases continuation? c <;> rfl

theorem payloads?_three :
    payloads? 3 (b :: c :: d :: rest) =
      (continuation? b).bind fun first =>
        (continuation? c).bind fun second =>
          (continuation? d).bind fun third => some ([first, second, third], rest) := by
  change (continuation? b).bind (fun _ => (payloads? 2 (c :: d :: rest)).map _) = _
  rw [payloads?_two]
  cases continuation? b <;> cases continuation? c <;> cases continuation? d <;> rfl

theorem payloads?_of_length_lt {count : Nat} {rest : Bytes} (h : rest.length < count) :
    payloads? count rest = none := by
  induction count generalizing rest with
  | zero => contradiction
  | succ count ih =>
      cases rest with
      | nil => rfl
      | cons byte rest =>
          rw [payloads?, ih (Nat.lt_of_succ_lt_succ h)]
          cases continuation? byte <;> rfl

end

theorem combine?_of_lt {byte : UInt8} (h : byte < 0x80) :
    combine? 0 byte.toNat [] = some (Char.ofNat byte.toNat) := by
  have hlt : byte.toNat < 128 := UInt8.lt_iff_toNat_lt.mp h
  have hvalid : byte.toNat.isValidChar := .inl (by omega)
  rw [combine?, List.foldl_nil, if_pos (Nat.zero_le _), scalar?, dif_pos hvalid, Char.ofNat,
    dif_pos hvalid]

theorem ofUtf8?_cons (byte : UInt8) (rest : Bytes) :
    ofUtf8? (byte :: rest) =
      (readChar? byte rest).bind fun (char, rest) => (ofUtf8? rest).map (char :: ·) := by
  rw [ofUtf8?.eq_def]
  dsimp only
  unfold readChar? lead?
  split
  · rename_i hascii
    simp only [payloads?, combine?_of_lt hascii, Option.bind_some]
  split
  · rfl
  split
  · rcases rest with _ | ⟨b, rest⟩
    · rfl
    · simp only [payloads?_one, Option.bind_eq_bind, Option.bind_assoc, Option.bind_some]
  split
  · rcases rest with _ | ⟨b, _ | ⟨c, rest⟩⟩
    · rfl
    · simp [payloads?_of_length_lt]
    · simp only [payloads?_two, Option.bind_eq_bind, Option.bind_assoc, Option.bind_some]
  split
  · rcases rest with _ | ⟨b, _ | ⟨c, _ | ⟨d, rest⟩⟩⟩
    · rfl
    · simp [payloads?_of_length_lt]
    · simp [payloads?_of_length_lt]
    · simp only [payloads?_three, Option.bind_eq_bind, Option.bind_assoc, Option.bind_some]
  · rfl

theorem payloads?_append {count : Nat} {bytes rest : Bytes} {found : List Nat}
    (h : payloads? count bytes = some (found, rest)) (more : Bytes) :
    payloads? count (bytes ++ more) = some (found, rest ++ more) ∧ rest.length ≤ bytes.length := by
  induction count generalizing bytes found with
  | zero =>
      obtain ⟨rfl, rfl⟩ := Prod.mk.inj (Option.some.inj h)
      exact ⟨rfl, Nat.le_refl _⟩
  | succ count ih =>
      cases bytes with
      | nil => contradiction
      | cons byte bytes =>
          obtain ⟨payload, hpayload, hrest⟩ := Option.bind_eq_some_iff.mp h
          obtain ⟨⟨others, _⟩, hothers, hfound⟩ := Option.map_eq_some_iff.mp hrest
          obtain ⟨rfl, rfl⟩ := Prod.mk.inj hfound
          obtain ⟨happend, hlength⟩ := ih hothers
          refine ⟨?_, Nat.le_succ_of_le hlength⟩
          rw [List.cons_append, payloads?, hpayload, happend]
          rfl

theorem payloads?_append_cons_eq_none {count : Nat} {bytes : Bytes} {start : UInt8}
    (h : payloads? count bytes = none) (hstart : continuation? start = none) (more : Bytes) :
    payloads? count (bytes ++ start :: more) = none := by
  induction count generalizing bytes with
  | zero => contradiction
  | succ count ih =>
      cases bytes with
      | nil =>
          rw [List.nil_append, payloads?, hstart]
          rfl
      | cons byte bytes =>
          rw [List.cons_append, payloads?]
          cases hpayload : continuation? byte with
          | none => rfl
          | some payload =>
              rw [payloads?, hpayload] at h
              rw [ih (Option.map_eq_none_iff.mp h)]
              rfl

theorem readChar?_append_cons {start : UInt8} (hstart : continuation? start = none)
    (byte : UInt8) (bytes more : Bytes) :
    readChar? byte (bytes ++ start :: more) =
      (readChar? byte bytes).map fun (char, rest) => (char, rest ++ start :: more) := by
  unfold readChar?
  cases lead? byte with
  | none => rfl
  | some lead =>
      obtain ⟨least, first, count⟩ := lead
      simp only [Option.bind_some]
      cases hpayloads : payloads? count bytes with
      | none =>
          rw [payloads?_append_cons_eq_none hpayloads hstart]
          rfl
      | some found =>
          rw [(payloads?_append hpayloads _).1]
          simp only [Option.bind_some]
          cases combine? least first found.1 <;> rfl

theorem length_le_of_readChar? {byte : UInt8} {bytes rest : Bytes} {c : Char}
    (h : readChar? byte bytes = some (c, rest)) : rest.length ≤ bytes.length := by
  obtain ⟨⟨least, first, count⟩, _, hlead⟩ := Option.bind_eq_some_iff.mp h
  obtain ⟨⟨found, _⟩, hpayloads, hchar⟩ := Option.bind_eq_some_iff.mp hlead
  obtain ⟨_, _, hsome⟩ := Option.bind_eq_some_iff.mp hchar
  obtain ⟨_, rfl⟩ := Prod.mk.inj (Option.some.inj hsome)
  exact (payloads?_append hpayloads []).2

/-- Bytes are read in two parts where they are cut before a byte that continues no
character. -/
theorem ofUtf8?_append_cons {start : UInt8} (hstart : continuation? start = none)
    (bytes more : Bytes) :
    ofUtf8? (bytes ++ start :: more) =
      (ofUtf8? bytes).bind fun text => (ofUtf8? (start :: more)).map (text ++ ·) := by
  induction hlength : bytes.length using Nat.strongRecOn generalizing bytes with
  | _ length ih =>
      cases bytes with
      | nil => simp [ofUtf8?]
      | cons byte bytes =>
          rw [List.cons_append, ofUtf8?_cons, ofUtf8?_cons byte bytes,
            readChar?_append_cons hstart]
          cases hchar : readChar? byte bytes with
          | none => rfl
          | some found =>
              obtain ⟨c, rest⟩ := found
              have hshorter : rest.length < length := by
                have hle := length_le_of_readChar? hchar
                rw [← hlength, List.length_cons]
                omega
              simp only [Option.map_some, Option.bind_some, ih _ hshorter rest rfl]
              cases ofUtf8? rest <;> cases ofUtf8? (start :: more) <;> rfl

theorem continuation?_eq_none {n : Nat} (hn : n < 256) (h : n < 128 ∨ 192 ≤ n) :
    continuation? (UInt8.ofNat n) = none := by
  have houtside : ¬(0x80 ≤ UInt8.ofNat n ∧ UInt8.ofNat n < 0xC0) := by
    rw [UInt8.le_iff_toNat_le, UInt8.lt_iff_toNat_lt, UInt8.toNat_ofNat_of_lt' hn]
    change ¬(128 ≤ n ∧ n < 192)
    omega
  rw [continuation?, if_neg houtside]

theorem exists_encodeChar_eq_cons (c : Char) :
    ∃ start more, String.utf8EncodeChar c = start :: more ∧ continuation? start = none := by
  have hrange := toNat_lt c
  unfold String.utf8EncodeChar
  simp only [show c.val.toNat = c.toNat from rfl]
  split
  · exact ⟨_, _, rfl, continuation?_eq_none (by omega) (by omega)⟩
  split
  · exact ⟨_, _, rfl, continuation?_eq_none (by omega) (by omega)⟩
  split
  · exact ⟨_, _, rfl, continuation?_eq_none (by omega) (by omega)⟩
  · exact ⟨_, _, rfl, continuation?_eq_none (by omega) (by omega)⟩

theorem ofUtf8?_append_toUtf8 (bytes : Bytes) (text : Text) :
    ofUtf8? (bytes ++ text.toUtf8) = (ofUtf8? bytes).map (· ++ text) := by
  cases text with
  | nil =>
      rw [toUtf8, List.flatMap_nil, List.append_nil]
      cases ofUtf8? bytes <;> simp
  | cons c text =>
      obtain ⟨start, more, hchar, hstart⟩ := exists_encodeChar_eq_cons c
      have hread := ofUtf8?_toUtf8 (c :: text)
      have hcons : toUtf8 (c :: text) = start :: (more ++ toUtf8 text) := by
        rw [toUtf8, List.flatMap_cons, hchar, List.cons_append, ← toUtf8]
      rw [hcons] at hread ⊢
      rw [ofUtf8?_append_cons hstart, hread]
      cases ofUtf8? bytes <;> rfl

theorem ofUtf8?_toUtf8_append (text : Text) (bytes : Bytes) :
    ofUtf8? (text.toUtf8 ++ bytes) = (ofUtf8? bytes).map (text ++ ·) := by
  induction text with
  | nil =>
      rw [toUtf8, List.flatMap_nil, List.nil_append]
      cases ofUtf8? bytes <;> rfl
  | cons c text ih =>
      rw [toUtf8, List.flatMap_cons, List.append_assoc, ofUtf8?_encodeChar_append, ← toUtf8, ih]
      cases ofUtf8? bytes <;> rfl

end DualityDice.Text
