import DualityDice.Text.Hex

namespace DualityDice

abbrev Bytes := List UInt8

namespace Text

def continuation? (byte : UInt8) : Option Nat :=
  if 0x80 ≤ byte ∧ byte < 0xC0 then some (byte.toNat - 0x80) else none

/-- The character that the first byte's payload and the following bytes'
payloads give. The shortest encoding is demanded: nothing below `least`. -/
def combine? (least first : Nat) (payloads : List Nat) : Option Char :=
  let code := payloads.foldl (fun code payload => 0x40 * code + payload) first
  if least ≤ code then scalar? code else none

def ofUtf8? : Bytes → Option Text
  | [] => some []
  | a :: rest =>
      if a < 0x80 then (ofUtf8? rest).map (Char.ofNat a.toNat :: ·)
      else if a < 0xC0 then none
      else if a < 0xE0 then
        match rest with
        | b :: rest => do
            let char ← combine? 0x80 (a.toNat - 0xC0) [← continuation? b]
            (ofUtf8? rest).map (char :: ·)
        | _ => none
      else if a < 0xF0 then
        match rest with
        | b :: c :: rest => do
            let payloads := [← continuation? b, ← continuation? c]
            let char ← combine? 0x800 (a.toNat - 0xE0) payloads
            (ofUtf8? rest).map (char :: ·)
        | _ => none
      else if a < 0xF8 then
        match rest with
        | b :: c :: d :: rest => do
            let payloads := [← continuation? b, ← continuation? c, ← continuation? d]
            let char ← combine? 0x10000 (a.toNat - 0xF0) payloads
            (ofUtf8? rest).map (char :: ·)
        | _ => none
      else none

def byteCount : Text → Nat
  | [] => 0
  | c :: rest => c.utf8Size + byteCount rest

/-- The start of a text that takes the given number of bytes. There is none if
the text is too short or a character would be cut. -/
def takeBytes? : Nat → Text → Option Text
  | 0, _ => some []
  | _ + 1, [] => none
  | count, c :: rest =>
      if c.utf8Size ≤ count then (takeBytes? (count - c.utf8Size) rest).map (c :: ·)
      else none

theorem takeBytes?_eq_some_iff {count : Nat} {text start : Text} :
    takeBytes? count text = some start ↔ start <+: text ∧ byteCount start = count := by
  induction text generalizing count start with
  | nil => cases count <;> cases start <;> simp [takeBytes?, byteCount]
  | cons c rest ih =>
      have hsize := c.utf8Size_pos
      cases count with
      | zero =>
          cases start with
          | nil => simp [takeBytes?, byteCount]
          | cons d start =>
              have := d.utf8Size_pos
              simp [takeBytes?, byteCount]
              omega
      | succ count =>
          cases start with
          | nil => simp [takeBytes?, byteCount]
          | cons d start =>
              by_cases hfits : c.utf8Size ≤ count + 1
              · simp only [takeBytes?, hfits, if_true, Option.map_eq_some_iff, ih, byteCount,
                  List.cons.injEq, List.cons_prefix_cons]
                constructor
                · rintro ⟨tail, ⟨hstart, hcount⟩, rfl, rfl⟩
                  exact ⟨⟨rfl, hstart⟩, by omega⟩
                · rintro ⟨⟨rfl, hstart⟩, hcount⟩
                  exact ⟨start, ⟨hstart, by omega⟩, rfl, rfl⟩
              · simp only [takeBytes?, hfits, if_false, byteCount, List.cons_prefix_cons,
                  reduceCtorEq, false_iff]
                rintro ⟨⟨rfl, _⟩, hcount⟩
                omega

end Text

end DualityDice
