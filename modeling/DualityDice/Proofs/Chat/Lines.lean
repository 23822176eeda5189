import DualityDice.Chat
import DualityDice.Proofs.Text.Utf8

namespace DualityDice.Chat

theorem linesOf_append_cons {line : Bytes} (h : 10 ∉ line) (rest : Bytes) :
    linesOf (line ++ 10 :: rest) = line :: linesOf rest := by
  induction line with
  | nil => rfl
  | cons byte line ih =>
      rw [List.mem_cons, not_or] at h
      obtain ⟨hbyte, hline⟩ := h
      rw [List.cons_append, linesOf, if_neg (Ne.symm hbyte), ih hline]

theorem linesOf_of_notMem {line : Bytes} (hne : line ≠ []) (h : 10 ∉ line) :
    linesOf line = [line] := by
  induction line with
  | nil => contradiction
  | cons byte line ih =>
      rw [List.mem_cons, not_or] at h
      obtain ⟨hbyte, hline⟩ := h
      rw [linesOf, if_neg (Ne.symm hbyte)]
      cases line with
      | nil => rfl
      | cons next line => rw [ih (List.cons_ne_nil next line) hline]

theorem linesOf_flatMap_append {lines : List Bytes} (h : ∀ line ∈ lines, 10 ∉ line)
    (rest : Bytes) :
    linesOf ((lines.flatMap fun line => line ++ [10]) ++ rest) = lines ++ linesOf rest := by
  induction lines with
  | nil => rfl
  | cons line others ih =>
      rw [List.flatMap_cons, List.append_assoc, List.append_assoc, List.singleton_append,
        linesOf_append_cons (h line List.mem_cons_self)]
      rw [ih fun other hother => h other (List.mem_cons_of_mem line hother)]
      rfl

theorem linesOf_flatMap {lines : List Bytes} (h : ∀ line ∈ lines, 10 ∉ line) :
    linesOf (lines.flatMap fun line => line ++ [10]) = lines := by
  have hlines := linesOf_flatMap_append h []
  rwa [List.append_nil, linesOf, List.append_nil] at hlines

/-- The lines that an input is cut into at its line feeds. What remains behind the
last line feed is a line too, unless nothing remains. -/
def Cut (input : Bytes) (lines : List Bytes) : Prop :=
  ∃ (ended : List Bytes) (rest : Bytes),
    (∀ line ∈ ended, 10 ∉ line) ∧ 10 ∉ rest ∧
      input = (ended.flatMap fun line => line ++ [10]) ++ rest ∧
      lines = ended ++ if rest = [] then [] else [rest]

theorem linesOf_of_cut {input : Bytes} {lines : List Bytes} (h : Cut input lines) :
    linesOf input = lines := by
  obtain ⟨ended, rest, hended, hrest, rfl, rfl⟩ := h
  rw [linesOf_flatMap_append hended]
  split
  · rename_i hnil
    rw [hnil, linesOf]
  · rename_i hne
    rw [linesOf_of_notMem hne hrest]

theorem exists_cut (input : Bytes) : ∃ lines, Cut input lines := by
  suffices h : ∃ (ended : List Bytes) (rest : Bytes), (∀ line ∈ ended, 10 ∉ line) ∧
      10 ∉ rest ∧ input = (ended.flatMap fun line => line ++ [10]) ++ rest by
    obtain ⟨ended, rest, hended, hrest, hinput⟩ := h
    exact ⟨_, ended, rest, hended, hrest, hinput, rfl⟩
  induction input with
  | nil => exact ⟨[], [], by simp⟩
  | cons byte input ih =>
      obtain ⟨ended, rest, hended, hrest, rfl⟩ := ih
      by_cases hbyte : byte = 10
      · refine ⟨[] :: ended, rest, ?_, hrest, by rw [hbyte]; rfl⟩
        simpa using hended
      · -- The byte belongs to the first line, which may be the one without a line feed.
        cases ended with
        | nil => exact ⟨[], byte :: rest, hended, by simp [Ne.symm hbyte, hrest], rfl⟩
        | cons line ended =>
            refine ⟨(byte :: line) :: ended, rest, ?_, hrest, rfl⟩
            simpa [Ne.symm hbyte] using hended

theorem linesOf_intercalate {lines : List Bytes} (hne : ∀ line ∈ lines, line ≠ [])
    (h : ∀ line ∈ lines, 10 ∉ line) : linesOf (List.intercalate [10] lines) = lines := by
  induction lines with
  | nil => rfl
  | cons line rest ih =>
      have hline := h line List.mem_cons_self
      cases rest with
      | nil =>
          rw [List.intercalate_singleton]
          exact linesOf_of_notMem (hne line List.mem_cons_self) hline
      | cons next rest =>
          rw [List.intercalate_cons_cons, List.append_assoc, List.singleton_append,
            linesOf_append_cons hline]
          rw [ih (fun other hother => hne other (List.mem_cons_of_mem line hother))
            (fun other hother => h other (List.mem_cons_of_mem line hother))]

theorem toUtf8_ne_nil {text : Text} (h : text ≠ []) : text.toUtf8 ≠ [] := by
  intro hnil
  have hread := Text.ofUtf8?_toUtf8 text
  rw [hnil, Text.ofUtf8?, Option.some.injEq] at hread
  exact h hread.symm

/-- The input of a chat that is fed texts, one on each line. The last line feed
may be missing. -/
def Feeds (input : Bytes) (texts : List Text) : Prop :=
  input = texts.flatMap (fun text => text.toUtf8 ++ [10]) ∨
    input = List.intercalate [10] (texts.map Text.toUtf8)

theorem linesOf_of_feeds {input : Bytes} {texts : List Text} (h : Feeds input texts)
    (hne : ∀ text ∈ texts, text ≠ []) (hfeed : ∀ text ∈ texts, '\n' ∉ text) :
    linesOf input = texts.map Text.toUtf8 := by
  have hbytes : ∀ line ∈ texts.map Text.toUtf8, 10 ∉ line := by
    rw [List.forall_mem_map]
    intro text htext
    exact Text.lineFeed_notMem_toUtf8 (hfeed text htext)
  rcases h with rfl | rfl
  · rw [← List.flatMap_map Text.toUtf8 fun line => line ++ [10]]
    exact linesOf_flatMap hbytes
  · refine linesOf_intercalate ?_ hbytes
    rw [List.forall_mem_map]
    intro text htext
    exact toUtf8_ne_nil (hne text htext)

end DualityDice.Chat
