namespace DualityDice

/-- A text is the list of its characters, so that reading and writing are
recursions on the data. -/
abbrev Text := List Char

namespace Text

def splitFirst (mark : Char) : Text → Option (Text × Text)
  | [] => none
  | c :: rest =>
      if c = mark then some ([], rest)
      else (splitFirst mark rest).map fun (before, behind) => (c :: before, behind)

theorem splitFirst_eq_none_iff {mark : Char} {text : Text} :
    splitFirst mark text = none ↔ mark ∉ text := by
  induction text with
  | nil => simp [splitFirst]
  | cons c rest ih =>
      by_cases h : c = mark
      · simp [splitFirst, h]
      · simp [splitFirst, h, ih, Ne.symm h]

theorem splitFirst_eq_some_iff {mark : Char} {text before behind : Text} :
    splitFirst mark text = some (before, behind) ↔
      text = before ++ mark :: behind ∧ mark ∉ before := by
  induction text generalizing before with
  | nil => simp [splitFirst]
  | cons c rest ih =>
      by_cases h : c = mark
      · cases before with
        | nil => simp [splitFirst, h]
        | cons d before =>
            simp only [splitFirst, if_pos h, Option.some.injEq, Prod.mk.injEq,
              reduceCtorEq, false_and, List.cons_append, List.cons.injEq,
              List.mem_cons, not_or, false_iff, not_and]
            rintro ⟨rfl, _⟩ hne
            exact absurd h.symm hne
      · cases before with
        | nil => simp [splitFirst, h]
        | cons d before =>
            simp only [splitFirst, if_neg h, Option.map_eq_some_iff, Prod.exists,
              Prod.mk.injEq, List.cons_append, List.cons.injEq, List.mem_cons, not_or]
            constructor
            · rintro ⟨first, last, hfound, ⟨rfl, rfl⟩, rfl⟩
              exact ⟨⟨rfl, (ih.mp hfound).1⟩, Ne.symm h, (ih.mp hfound).2⟩
            · rintro ⟨⟨rfl, hrest⟩, _, hmem⟩
              exact ⟨before, behind, ih.mpr ⟨hrest, hmem⟩, ⟨rfl, rfl⟩, rfl⟩

def splitAll (mark : Char) : Text → List Text
  | [] => [[]]
  | c :: rest =>
      if c = mark then [] :: splitAll mark rest
      else
        match splitAll mark rest with
        | part :: parts => (c :: part) :: parts
        | [] => [[c]]

def dropStart? : Text → Text → Option Text
  | text, [] => some text
  | [], _ :: _ => none
  | c :: text, d :: start => if c = d then dropStart? text start else none

theorem dropStart?_eq_some_iff {text start rest : Text} :
    text.dropStart? start = some rest ↔ text = start ++ rest := by
  induction start generalizing text with
  | nil => cases text <;> simp [dropStart?]
  | cons d start ih =>
      cases text with
      | nil => simp [dropStart?]
      | cons c text =>
          by_cases h : c = d
          · simp [dropStart?, h, ih]
          · simp [dropStart?, h]

theorem dropStart?_append (start rest : Text) :
    (start ++ rest).dropStart? start = some rest :=
  dropStart?_eq_some_iff.mpr rfl

/-- Texts written one after another, each but the last followed by a line
feed. -/
def joinLines (lines : List Text) : Text :=
  List.intercalate ['\n'] lines

def toLowerAscii (text : Text) : Text :=
  text.map Char.toLower

end Text

end DualityDice
