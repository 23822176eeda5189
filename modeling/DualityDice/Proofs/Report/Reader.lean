import DualityDice.Proofs.Numeral.Start
import DualityDice.Report

namespace DualityDice.Report

open Numeral

/-- What the dice of a report tell. A modifier die is named only where it adds
something, and a critical roll names its two equal dice by one value. -/
inductive Told where
  | critical (value : UInt32) (hopeDie : HopeDie)
  | favored (hopeValue fearValue : UInt32) (hopeDie : HopeDie) (modifierValue : Int32)
      (modifierDie : Option ModifierDie) (flatModifier : Int32)
deriving DecidableEq

structure Reading where
  favor : Favor
  total : Int
  told : Told
deriving DecidableEq

def told (outcome : Outcome) : Told :=
  if outcome.isCritical then .critical outcome.hopeValue outcome.hopeDie
  else
    .favored outcome.hopeValue outcome.fearValue outcome.hopeDie outcome.modifierValue
      (if outcome.modifierValue = 0 then none else some outcome.modifierDie)
      outcome.flatModifier

def sign (negative : Bool) : Text :=
  if negative then " - ".toList else " + ".toList

def modifierLabel (negative : Bool) : Text :=
  if negative then disadvantageLabel else advantageLabel

section Readers

def readSign? (text : Text) : Option (Bool × Text) :=
  match text.dropStart? (sign false) with
  | some rest => some (false, rest)
  | none => (text.dropStart? (sign true)).map fun rest => (true, rest)

def signedWord? (negative : Bool) (n : Nat) : Option Int32 :=
  toSigned32? (if negative then -(n : Int) else n)

def readBold? (text : Text) : Option (Nat × Text) := do
  let rest ← text.dropStart? ['*', '*']
  let (n, rest) ← readNat? rest
  let rest ← rest.dropStart? ['*', '*']
  some (n, rest)

def readFace? (text : Text) : Option (Nat × Text) := do
  let rest ← text.dropStart? ['[']
  let (n, rest) ← readBold? rest
  let rest ← rest.dropStart? [']']
  some (n, rest)

def readChoice? {α : Type} (labelOf : α → Text) (choices : List α) (text : Text) :
    Option (α × Text) :=
  choices.findSome? fun choice =>
    (text.dropStart? (labelOf choice)).map fun rest => (choice, rest)

def readHopeDie? : Text → Option (HopeDie × Text) :=
  readChoice? (fun die => parenthesized die.label) [.d12, .d20]

def readModifierDie? : Text → Option (ModifierDie × Text) :=
  readChoice? (fun die => parenthesized die.label) [.d6, .d8, .d10]

def readSide? (text : Text) : Option (Favor × Text) :=
  match text.dropStart? hopeLabel with
  | some rest => some (.hope, rest)
  | none => (text.dropStart? fearLabel).map fun rest => (.fear, rest)

def readHopeClause? (text : Text) : Option (UInt32 × HopeDie × Text) := do
  let (n, rest) ← readFace? text
  let value ← toWord32? n
  let rest ← rest.dropStart? ([' '] ++ hopeLabel ++ [' '])
  let (die, rest) ← readHopeDie? rest
  some (value, die, rest)

def readModifierClause? (text : Text) : Option (Int32 × ModifierDie × Text) := do
  let (negative, rest) ← readSign? text
  let (n, rest) ← readFace? rest
  let value ← signedWord? negative n
  let rest ← rest.dropStart? ([' '] ++ modifierLabel negative ++ [' '])
  let (die, rest) ← readModifierDie? rest
  some (value, die, rest)

def readFlatClause? (text : Text) : Option Int32 :=
  if text = [] then some 0
  else do
    let (negative, rest) ← readSign? text
    let (n, rest) ← readBold? rest
    if rest = [] then signedWord? negative n else none

def readModifiers? (text : Text) : Option (Int32 × Option ModifierDie × Int32) :=
  match readModifierClause? text with
  | some (value, die, rest) => (readFlatClause? rest).map fun flat => (value, some die, flat)
  | none => (readFlatClause? text).map fun flat => (0, none, flat)

def readFavored? (text : Text) : Option Reading := do
  let (total, rest) ← readInt? text
  let rest ← rest.dropStart? " com ".toList
  let (favor, rest) ← readSide? rest
  let rest ← rest.dropStart? "` ⟵ ".toList
  let (hopeValue, hopeDie, rest) ← readHopeClause? rest
  let rest ← rest.dropStart? " + ".toList
  let (n, rest) ← readFace? rest
  let fearValue ← toWord32? n
  let rest ← rest.dropStart? ([' '] ++ fearDie)
  let (modifierValue, modifierDie, flat) ← readModifiers? rest
  some ⟨favor, total,
    .favored hopeValue fearValue hopeDie modifierValue modifierDie flat⟩

def readCritical? (text : Text) : Option Reading := do
  let rest ← text.dropStart? criticalLabel
  let rest ← rest.dropStart? "` (**".toList
  let (total, rest) ← readInt? rest
  let rest ← rest.dropStart? "**) ⟵ ".toList
  let (value, hopeDie, rest) ← readHopeClause? rest
  if rest = " = ".toList ++ fearDie then some ⟨.critical, total, .critical value hopeDie⟩
  else none

/-- What a report tells. A total begins with a digit or a sign, so that no
critical report is taken for another one. -/
def read? (text : Text) : Option Reading := do
  let rest ← text.dropStart? "`".toList
  match readFavored? rest with
  | some reading => some reading
  | none => readCritical? rest

end Readers

section Clauses

theorem stops_bold_end (rest : Text) : Stops (['*', '*'] ++ rest) :=
  stops_cons (by decide) _

theorem readBold?_append (n : Nat) (rest : Text) :
    readBold? (bold n ++ rest) = some (n, rest) := by
  have hnumber := readNat?_ofNat_append n (stops_bold_end rest)
  simp only [readBold?, bold, List.append_assoc, Text.dropStart?_append, hnumber,
    Option.bind_eq_bind, Option.bind_some]

theorem readFace?_append (n : Nat) (rest : Text) :
    readFace? (face n ++ rest) = some (n, rest) := by
  simp only [readFace?, face, List.append_assoc, Text.dropStart?_append, readBold?_append,
    Option.bind_eq_bind, Option.bind_some]

theorem readFace?_bold (n : Nat) (rest : Text) : readFace? (bold n ++ rest) = none := by
  rfl

theorem readSign?_append (negative : Bool) (rest : Text) :
    readSign? (sign negative ++ rest) = some (negative, rest) := by
  cases negative with
  | false => rw [readSign?, Text.dropStart?_append]
  | true =>
      have hplus : (sign true ++ rest).dropStart? (sign false) = none := rfl
      rw [readSign?, hplus, Text.dropStart?_append]
      rfl

theorem parenthesized_hopeDie (die : HopeDie) :
    parenthesized die.label =
      match die with
      | .d12 => ['(', 'd', '1', '2', ')']
      | .d20 => ['(', 'd', '2', '0', ')'] := by
  cases die <;> decide

theorem parenthesized_modifierDie (die : ModifierDie) :
    parenthesized die.label =
      match die with
      | .d6 => ['(', 'd', '6', ')']
      | .d8 => ['(', 'd', '8', ')']
      | .d10 => ['(', 'd', '1', '0', ')'] := by
  cases die <;> decide

theorem readHopeDie?_append (die : HopeDie) (rest : Text) :
    readHopeDie? (parenthesized die.label ++ rest) = some (die, rest) := by
  cases die <;> simp [readHopeDie?, readChoice?, parenthesized_hopeDie, Text.dropStart?]

theorem readModifierDie?_append (die : ModifierDie) (rest : Text) :
    readModifierDie? (parenthesized die.label ++ rest) = some (die, rest) := by
  cases die <;>
    simp [readModifierDie?, readChoice?, parenthesized_modifierDie, Text.dropStart?]

theorem readHopeClause?_append (outcome : Outcome) (rest : Text) :
    readHopeClause? (hopeClause outcome ++ rest) =
      some (outcome.hopeValue, outcome.hopeDie, rest) := by
  have hlabel := fun rest => Text.dropStart?_append ([' '] ++ hopeLabel ++ [' ']) rest
  simp only [List.append_assoc] at hlabel
  simp only [readHopeClause?, hopeClause, List.append_assoc, readFace?_append,
    toWord32?_toNat, hlabel, readHopeDie?_append, Option.bind_eq_bind, Option.bind_some]

theorem signedWord?_natAbs (word : Int32) :
    signedWord? (decide (word.toInt < 0)) word.toInt.natAbs = some word := by
  have hvalue :
      (if decide (word.toInt < 0) = true then -(word.toInt.natAbs : Int)
        else word.toInt.natAbs) = word.toInt := by
    simp only [decide_eq_true_eq]
    split <;> omega
  rw [signedWord?, hvalue, toSigned32?_toInt]

theorem toInt_eq_zero_iff {word : Int32} : word.toInt = 0 ↔ word = 0 := by
  rw [← Int32.toInt_inj, Int32.toInt_zero]

theorem modifierClause_eq (outcome : Outcome) :
    modifierClause outcome =
      if outcome.modifierValue = 0 then []
      else
        let negative := decide (outcome.modifierValue.toInt < 0)
        sign negative ++ face outcome.modifierValue.toInt.natAbs ++ [' '] ++
          modifierLabel negative ++ [' '] ++ parenthesized outcome.modifierDie.label := by
  unfold modifierClause
  simp only [← toInt_eq_zero_iff]
  rcases Int.lt_trichotomy outcome.modifierValue.toInt 0 with hlow | hzero | hhigh
  · rw [if_neg (by omega), if_pos hlow, if_neg (by omega), decide_eq_true hlow]
    rfl
  · rw [if_neg (by omega), if_neg (by omega), if_pos hzero]
  · rw [if_pos hhigh, if_neg (by omega), decide_eq_false (by omega)]
    rfl

theorem flatClause_eq (outcome : Outcome) :
    flatClause outcome =
      if outcome.flatModifier = 0 then []
      else
        sign (decide (outcome.flatModifier.toInt < 0)) ++
          bold outcome.flatModifier.toInt.natAbs := by
  unfold flatClause
  simp only [← toInt_eq_zero_iff]
  rcases Int.lt_trichotomy outcome.flatModifier.toInt 0 with hlow | hzero | hhigh
  · rw [if_neg (by omega), if_pos hlow, if_neg (by omega), decide_eq_true hlow]
    rfl
  · rw [if_neg (by omega), if_neg (by omega), if_pos hzero]
  · rw [if_pos hhigh, if_neg (by omega), decide_eq_false (by omega)]
    rfl

theorem readFlatClause?_flatClause (outcome : Outcome) :
    readFlatClause? (flatClause outcome) = some outcome.flatModifier := by
  rw [flatClause_eq]
  split
  · rename_i hzero
    rw [hzero]
    rfl
  · have hbold := readBold?_append outcome.flatModifier.toInt.natAbs []
    rw [List.append_nil] at hbold
    have hne : sign (decide (outcome.flatModifier.toInt < 0)) ++
        bold outcome.flatModifier.toInt.natAbs ≠ [] := by
      simp [bold]
    simp only [readFlatClause?, if_neg hne, readSign?_append, hbold, signedWord?_natAbs,
      Option.bind_eq_bind, Option.bind_some, if_true]

theorem readModifierClause?_flatClause (outcome : Outcome) :
    readModifierClause? (flatClause outcome) = none := by
  rw [flatClause_eq]
  split
  · rfl
  · have hface := readFace?_bold outcome.flatModifier.toInt.natAbs []
    rw [List.append_nil] at hface
    simp only [readModifierClause?, readSign?_append, hface, Option.bind_eq_bind,
      Option.bind_some, Option.bind_none]

theorem readModifierClause?_append (outcome : Outcome) (rest : Text)
    (h : outcome.modifierValue ≠ 0) :
    readModifierClause? (modifierClause outcome ++ rest) =
      some (outcome.modifierValue, outcome.modifierDie, rest) := by
  rw [modifierClause_eq, if_neg h]
  generalize hnegative : decide (outcome.modifierValue.toInt < 0) = negative
  have hword := signedWord?_natAbs outcome.modifierValue
  rw [hnegative] at hword
  have hlabel :=
    fun rest => Text.dropStart?_append ([' '] ++ modifierLabel negative ++ [' ']) rest
  simp only [List.append_assoc] at hlabel
  simp only [readModifierClause?, List.append_assoc, readSign?_append, readFace?_append,
    hword, hlabel, readModifierDie?_append, Option.bind_eq_bind, Option.bind_some]

theorem readModifiers?_clauses (outcome : Outcome) :
    readModifiers? (modifierClause outcome ++ flatClause outcome) =
      some (outcome.modifierValue,
        if outcome.modifierValue = 0 then none else some outcome.modifierDie,
        outcome.flatModifier) := by
  have hflat := readFlatClause?_flatClause outcome
  by_cases hzero : outcome.modifierValue = 0
  · rw [modifierClause_eq, if_pos hzero, List.nil_append, if_pos hzero, hzero, readModifiers?,
      readModifierClause?_flatClause]
    simp only [hflat, Option.map_some]
  · rw [readModifiers?, readModifierClause?_append _ _ hzero, if_neg hzero]
    simp only [hflat, Option.map_some]

end Clauses

section Lines

theorem line_of_critical {outcome : Outcome} (h : outcome.isCritical = true) :
    outcome.favor = .critical ∧ line outcome = criticalLine outcome := by
  have hfavor : outcome.favor = .critical := by
    rw [Outcome.favor, if_pos h]
  exact ⟨hfavor, by rw [line, hfavor]⟩

theorem line_of_not_critical {outcome : Outcome} (h : ¬outcome.isCritical = true) :
    ∃ side, line outcome = favoredLine side outcome ∧
      ((outcome.favor = .hope ∧ side = hopeLabel) ∨
        (outcome.favor = .fear ∧ side = fearLabel)) := by
  by_cases hgreater : outcome.fearValue < outcome.hopeValue
  · have hfavor : outcome.favor = .hope := by
      rw [Outcome.favor, if_neg h, if_pos hgreater]
    exact ⟨hopeLabel, by rw [line, hfavor], .inl ⟨hfavor, rfl⟩⟩
  · have hfavor : outcome.favor = .fear := by
      rw [Outcome.favor, if_neg h, if_neg hgreater]
    exact ⟨fearLabel, by rw [line, hfavor], .inr ⟨hfavor, rfl⟩⟩

theorem readSide?_append {favor : Favor} (side rest : Text)
    (h : (favor = .hope ∧ side = hopeLabel) ∨ (favor = .fear ∧ side = fearLabel)) :
    readSide? (side ++ rest) = some (favor, rest) := by
  rcases h with ⟨rfl, rfl⟩ | ⟨rfl, rfl⟩
  · rw [readSide?, Text.dropStart?_append]
  · have hhope : (fearLabel ++ rest).dropStart? hopeLabel = none := rfl
    rw [readSide?, hhope, Text.dropStart?_append]
    rfl

theorem readFavored?_favoredLine {favor : Favor} {side : Text} (outcome : Outcome)
    (h : (favor = .hope ∧ side = hopeLabel) ∨ (favor = .fear ∧ side = fearLabel)) :
    ∃ rest, favoredLine side outcome = "`".toList ++ rest ∧
      readFavored? rest =
        some ⟨favor, outcome.total,
          .favored outcome.hopeValue outcome.fearValue outcome.hopeDie outcome.modifierValue
            (if outcome.modifierValue = 0 then none else some outcome.modifierDie)
            outcome.flatModifier⟩ := by
  unfold favoredLine
  simp only [List.append_assoc]
  refine ⟨_, rfl, ?_⟩
  have htotal := fun rest =>
    readInt?_ofInt_append outcome.total (stops_append " com ".toList rfl rfl rest)
  have hfear := fun rest => Text.dropStart?_append ([' '] ++ fearDie) rest
  simp only [List.append_assoc] at hfear
  simp only [readFavored?, htotal, Text.dropStart?_append, readSide?_append side _ h,
    readHopeClause?_append, readFace?_append, toWord32?_toNat, hfear, readModifiers?_clauses,
    Option.bind_eq_bind, Option.bind_some]

theorem readCritical?_criticalLine (outcome : Outcome) :
    ∃ rest, criticalLine outcome = "`".toList ++ (criticalLabel ++ rest) ∧
      readCritical? (criticalLabel ++ rest) =
        some ⟨.critical, outcome.total, .critical outcome.hopeValue outcome.hopeDie⟩ := by
  unfold criticalLine
  simp only [List.append_assoc]
  refine ⟨_, rfl, ?_⟩
  have htotal := fun rest =>
    readInt?_ofInt_append outcome.total (stops_append "**) ⟵ ".toList rfl rfl rest)
  simp only [readCritical?, htotal, Text.dropStart?_append, readHopeClause?_append,
    Option.bind_eq_bind, Option.bind_some, if_true]

theorem readFavored?_criticalLabel (rest : Text) :
    readFavored? (criticalLabel ++ rest) = none := by
  have htotal : readInt? (criticalLabel ++ rest) = none := by
    have hhead : (criticalLabel ++ rest).head? = some 'R' := rfl
    apply readInt?_eq_none (stops_append criticalLabel rfl rfl rest)
    rw [hhead]
    decide
  simp only [readFavored?, htotal, Option.bind_eq_bind, Option.bind_none]

/-- Every report is read as its label, its total and the dice that it names. -/
theorem read?_line (outcome : Outcome) :
    read? (line outcome) = some ⟨outcome.favor, outcome.total, told outcome⟩ := by
  by_cases hcritical : outcome.isCritical = true
  · obtain ⟨hfavor, hline⟩ := line_of_critical hcritical
    obtain ⟨rest, hrest, hread⟩ := readCritical?_criticalLine outcome
    rw [hline, hrest, read?, Text.dropStart?_append]
    simp only [Option.bind_eq_bind, Option.bind_some, readFavored?_criticalLabel, hread]
    rw [hfavor, told, if_pos hcritical]
  · obtain ⟨side, hline, hside⟩ := line_of_not_critical hcritical
    obtain ⟨rest, hrest, hread⟩ := readFavored?_favoredLine outcome hside
    rw [hline, hrest, read?, Text.dropStart?_append]
    simp only [Option.bind_eq_bind, Option.bind_some, hread]
    rw [told, if_neg hcritical]

end Lines

end DualityDice.Report
