import DualityDice.Proofs.Json.Steps

/-!
What is written is read back: `read?_write`, for values whose numbers are plain
integers and for every layout that adds nothing but white space.
-/

namespace DualityDice.Json

mutual

def Integral : Json → Prop
  | .real _ => False
  | .array items => IntegralItems items
  | .object members => IntegralMembers members
  | _ => True

def IntegralItems : List Json → Prop
  | [] => True
  | item :: rest => Integral item ∧ IntegralItems rest

def IntegralMembers : List (Text × Json) → Prop
  | [] => True
  | (_, value) :: rest => Integral value ∧ IntegralMembers rest

end

theorem integralItems_iff {items : List Json} :
    IntegralItems items ↔ ∀ item ∈ items, Integral item := by
  induction items with
  | nil => simp [IntegralItems]
  | cons item rest ih => simp [IntegralItems, ih]

structure Layout.Spaced (layout : Layout) : Prop where
  afterColon : ∀ c ∈ layout.afterColon, isSpace c = true
  lineStart : ∀ depth, ∀ c ∈ layout.lineStart depth, isSpace c = true

theorem spaced_compact : Layout.compact.Spaced where
  afterColon := by
    intro c hc
    contradiction
  lineStart := by
    intro depth c hc
    contradiction

theorem spaced_pretty : Layout.pretty.Spaced where
  afterColon := by
    intro c hc
    rw [List.mem_singleton.mp hc]
    rfl
  lineStart := by
    intro depth c hc
    rcases List.mem_cons.mp hc with rfl | hspace
    · rfl
    · rw [List.eq_of_mem_replicate hspace]
      rfl

theorem exists_write_eq_cons {value : Json} (h : Integral value) (layout : Layout)
    (depth : Nat) :
    ∃ c text, write layout depth value = c :: text ∧ isSpace c = false ∧ c ≠ ']' := by
  cases value with
  | null => exact ⟨'n', "ull".toList, by rw [write]; rfl, by decide, by decide⟩
  | boolean value =>
      cases value with
      | true => exact ⟨'t', "rue".toList, by rw [write]; rfl, by decide, by decide⟩
      | false => exact ⟨'f', "alse".toList, by rw [write]; rfl, by decide, by decide⟩
  | integer n =>
      cases n with
      | negSucc n =>
          exact ⟨'-', Numeral.ofNat (n + 1), by rw [write, Numeral.ofInt], by decide, by decide⟩
      | ofNat n =>
          obtain ⟨c, digits, hdigits, hdigit⟩ := Numeral.exists_ofNat_eq_cons n
          obtain ⟨hspace, _, _, hclose, _⟩ := not_structural_of_isDigit hdigit
          exact ⟨c, digits, by rw [write, Numeral.ofInt, hdigits], hspace, hclose⟩
  | real spelling => exact False.elim h
  | string text => exact ⟨'"', _, by rw [write, quote, List.cons_append], by decide, by decide⟩
  | array items =>
      cases items with
      | nil => exact ⟨'[', [']'], by rw [write], by decide, by decide⟩
      | cons item rest => exact ⟨'[', _, by rw [write]; rfl, by decide, by decide⟩
  | object members =>
      cases members with
      | nil => exact ⟨'\x7b', ['\x7d'], by rw [write], by decide, by decide⟩
      | cons member rest => exact ⟨'\x7b', _, by rw [write]; rfl, by decide, by decide⟩

/-- Whether a value is read back from what is written of it, wherever a number may
end. As much fuel as there are characters is enough. -/
def Reads (layout : Layout) (value : Json) : Prop :=
  ∀ (depth fuel : Nat) (rest : Text), (write layout depth value).length ≤ fuel →
    Closes rest → readValue fuel (write layout depth value ++ rest) = some (value, rest)

section Reads

variable {layout : Layout}

theorem reads_of_succ {value : Json} (hvalue : Integral value)
    (h : ∀ (depth fuel : Nat) (rest : Text), (write layout depth value).length ≤ fuel + 1 →
      Closes rest →
      readValue (fuel + 1) (write layout depth value ++ rest) = some (value, rest)) :
    Reads layout value := by
  intro depth fuel rest hfuel hrest
  cases fuel with
  | succ fuel => exact h depth fuel rest hfuel hrest
  | zero =>
      obtain ⟨c, text, hwrite, _⟩ := exists_write_eq_cons hvalue layout depth
      rw [hwrite] at hfuel
      contradiction

theorem reads_null : Reads layout .null := by
  refine reads_of_succ trivial fun depth fuel rest _ _ => ?_
  have hstart : readValue (fuel + 1) (write layout depth .null ++ rest) =
      readWord "ull".toList .null ("ull".toList ++ rest) := rfl
  rw [hstart, readWord, Text.dropStart?_append, Option.map_some]

theorem reads_boolean (value : Bool) : Reads layout (.boolean value) := by
  refine reads_of_succ trivial fun depth fuel rest _ _ => ?_
  cases value with
  | true =>
      have hstart : readValue (fuel + 1) (write layout depth (.boolean true) ++ rest) =
          readWord "rue".toList (.boolean true) ("rue".toList ++ rest) := rfl
      rw [hstart, readWord, Text.dropStart?_append, Option.map_some]
  | false =>
      have hstart : readValue (fuel + 1) (write layout depth (.boolean false) ++ rest) =
          readWord "alse".toList (.boolean false) ("alse".toList ++ rest) := rfl
      rw [hstart, readWord, Text.dropStart?_append, Option.map_some]

theorem reads_integer (n : Int) : Reads layout (.integer n) := by
  refine reads_of_succ trivial fun depth fuel rest _ hrest => ?_
  rw [write]
  exact readValue_ofInt n hrest

theorem reads_string (text : Text) : Reads layout (.string text) := by
  refine reads_of_succ trivial fun depth fuel rest _ _ => ?_
  rw [write]
  exact readValue_quote text

theorem readItems_write (hlayout : layout.Spaced) {item : Json} {items : List Json}
    (hreads : ∀ value ∈ item :: items, Reads layout value) {depth fuel : Nat} (rest : Text)
    (hfuel : (write layout (depth + 1) item).length +
      (writeItems layout depth items).length ≤ fuel) :
    readItems fuel
        (write layout (depth + 1) item ++ (writeItems layout depth items ++ rest)) =
      some (item :: items, rest) := by
  -- Each step pays one unit of fuel with the bracket or the comma that it reads.
  induction items generalizing item fuel with
  | nil =>
      have hend : writeItems layout depth [] ++ rest =
          layout.lineStart depth ++ ']' :: rest := by
        rw [writeItems, List.append_assoc, List.singleton_append]
      rw [writeItems, List.length_append, List.length_singleton] at hfuel
      obtain ⟨fuel, rfl⟩ := Nat.exists_eq_add_one_of_ne_zero (show fuel ≠ 0 by omega)
      rw [hend]
      refine readItems_last (hlayout.lineStart depth) ?_
      refine hreads item List.mem_cons_self (depth + 1) fuel _ (by omega) ?_
      exact closes_append (hlayout.lineStart depth) (closes_cons (by decide) rest)
  | cons next items ih =>
      have hmore : writeItems layout depth (next :: items) ++ rest =
          ',' :: (layout.lineStart (depth + 1) ++
            (write layout (depth + 1) next ++ (writeItems layout depth items ++ rest))) := by
        simp only [writeItems, List.cons_append, List.append_assoc]
      simp only [writeItems, List.length_cons, List.length_append, List.cons_append] at hfuel
      obtain ⟨fuel, rfl⟩ := Nat.exists_eq_add_one_of_ne_zero (show fuel ≠ 0 by omega)
      rw [hmore]
      refine readItems_more
        (hreads item List.mem_cons_self (depth + 1) fuel _ (by omega) ?_) ?_
      · exact closes_cons (by decide) _
      · rw [readItems_append_spaces (hlayout.lineStart (depth + 1))]
        exact ih (fun value hvalue => hreads value (List.mem_cons_of_mem item hvalue))
          (by omega)

theorem reads_array (hlayout : layout.Spaced) {items : List Json}
    (hintegral : IntegralItems items) (hreads : ∀ item ∈ items, Reads layout item) :
    Reads layout (.array items) := by
  refine reads_of_succ hintegral fun depth fuel rest hfuel _ => ?_
  cases items with
  | nil => rw [write]; rfl
  | cons item items =>
      rw [write, List.length_append, List.cons_append, List.length_cons, List.length_append]
        at hfuel
      have hitems := readItems_write hlayout hreads rest
        (show (write layout (depth + 1) item).length +
          (writeItems layout depth items).length ≤ fuel by omega)
      obtain ⟨c, text, hwrite, hspace, hne⟩ :=
        exists_write_eq_cons hintegral.1 layout (depth + 1)
      have hwritten : write layout depth (.array (item :: items)) ++ rest =
          '[' :: (layout.lineStart (depth + 1) ++ c :: (text ++
            (writeItems layout depth items ++ rest))) := by
        simp only [write, hwrite, List.cons_append, List.append_assoc]
      rw [hwrite, List.cons_append] at hitems
      rw [hwritten, readValue_array (hlayout.lineStart (depth + 1)) hspace hne, hitems]
      rfl

theorem readMembers_write (hlayout : layout.Spaced) {key : Text} {value : Json}
    {members : List (Text × Json)}
    (hreads : ∀ member ∈ (key, value) :: members, Reads layout member.2)
    {depth fuel : Nat} (rest : Text)
    (hfuel : (write layout (depth + 1) value).length +
      (writeMembers layout depth members).length ≤ fuel) :
    readMembers fuel (quote key ++ ':' :: (layout.afterColon ++
        (write layout (depth + 1) value ++ (writeMembers layout depth members ++ rest)))) =
      some ((key, value) :: members, rest) := by
  have hvalue : Reads layout value := hreads (key, value) List.mem_cons_self
  induction members generalizing key value fuel with
  | nil =>
      have hend : writeMembers layout depth [] ++ rest =
          layout.lineStart depth ++ '\x7d' :: rest := by
        rw [writeMembers, List.append_assoc, List.singleton_append]
      rw [writeMembers, List.length_append, List.length_singleton] at hfuel
      obtain ⟨fuel, rfl⟩ := Nat.exists_eq_add_one_of_ne_zero (show fuel ≠ 0 by omega)
      rw [hend]
      refine readMembers_last (hlayout.lineStart depth) ?_
      rw [readValue_append_spaces hlayout.afterColon]
      refine hvalue (depth + 1) fuel _ (by omega) ?_
      exact closes_append (hlayout.lineStart depth) (closes_cons (by decide) rest)
  | cons member members ih =>
      obtain ⟨nextKey, next⟩ := member
      have hmore : writeMembers layout depth ((nextKey, next) :: members) ++ rest =
          ',' :: (layout.lineStart (depth + 1) ++ (quote nextKey ++ ':' ::
            (layout.afterColon ++ (write layout (depth + 1) next ++
              (writeMembers layout depth members ++ rest))))) := by
        simp only [writeMembers, List.cons_append, List.append_assoc, List.nil_append]
      simp only [writeMembers, List.length_cons, List.length_append, List.cons_append] at hfuel
      obtain ⟨fuel, rfl⟩ := Nat.exists_eq_add_one_of_ne_zero (show fuel ≠ 0 by omega)
      have hfirst (more : Text) :
          readValue fuel (layout.afterColon ++
              (write layout (depth + 1) value ++ ',' :: more)) =
            some (value, ',' :: more) := by
        rw [readValue_append_spaces hlayout.afterColon]
        exact hvalue (depth + 1) fuel _ (by omega) (closes_cons (by decide) more)
      have hrest : ∀ member ∈ (nextKey, next) :: members, Reads layout member.2 :=
        fun member hmember => hreads member (List.mem_cons_of_mem (key, value) hmember)
      rw [hmore]
      refine readMembers_more (hfirst _) ?_
      rw [readMembers_append_spaces (hlayout.lineStart (depth + 1))]
      exact ih hrest (by omega) (hrest (nextKey, next) List.mem_cons_self)

theorem reads_object (hlayout : layout.Spaced) {members : List (Text × Json)}
    (hintegral : IntegralMembers members)
    (hreads : ∀ member ∈ members, Reads layout member.2) :
    Reads layout (.object members) := by
  refine reads_of_succ hintegral fun depth fuel rest hfuel _ => ?_
  cases members with
  | nil => rw [write]; rfl
  | cons member members =>
      obtain ⟨key, value⟩ := member
      simp only [write, List.length_cons, List.length_append, List.cons_append] at hfuel
      have hmembers := readMembers_write hlayout hreads rest
        (show (write layout (depth + 1) value).length +
          (writeMembers layout depth members).length ≤ fuel by omega)
      have hwritten : write layout depth (.object ((key, value) :: members)) ++ rest =
          '\x7b' :: (layout.lineStart (depth + 1) ++ quote key ++ ':' ::
            (layout.afterColon ++ (write layout (depth + 1) value ++
              (writeMembers layout depth members ++ rest)))) := by
        simp only [write, List.cons_append, List.append_assoc, List.nil_append]
      rw [hwritten, readValue_object (hlayout.lineStart (depth + 1)), hmembers]
      rfl

mutual

theorem reads_of_integral (hlayout : layout.Spaced) :
    ∀ value : Json, Integral value → Reads layout value
  | .null, _ => reads_null
  | .boolean flag, _ => reads_boolean flag
  | .integer n, _ => reads_integer n
  | .string text, _ => reads_string text
  | .array items, h => reads_array hlayout h (reads_items_of_integral hlayout items h)
  | .object members, h =>
      reads_object hlayout h (reads_members_of_integral hlayout members h)

theorem reads_items_of_integral (hlayout : layout.Spaced) :
    ∀ items : List Json, IntegralItems items → ∀ item ∈ items, Reads layout item
  | [], _ => fun _ hitem => absurd hitem List.not_mem_nil
  | first :: rest, h =>
      List.forall_mem_cons.mpr
        ⟨reads_of_integral hlayout first h.1, reads_items_of_integral hlayout rest h.2⟩

theorem reads_members_of_integral (hlayout : layout.Spaced) :
    ∀ members : List (Text × Json), IntegralMembers members →
      ∀ member ∈ members, Reads layout member.2
  | [], _ => fun _ hmember => absurd hmember List.not_mem_nil
  | (_, value) :: rest, h =>
      List.forall_mem_cons.mpr
        ⟨reads_of_integral hlayout value h.1, reads_members_of_integral hlayout rest h.2⟩

end

end Reads

/-- A value is read back from its text, with white space behind it. -/
theorem read?_write {layout : Layout} (hlayout : layout.Spaced) {value : Json}
    (h : Integral value) (spaces : Text) (hspaces : ∀ c ∈ spaces, isSpace c = true) :
    read? (write layout 0 value ++ spaces) = some value := by
  have hcloses : Closes spaces := List.append_nil spaces ▸ closes_append hspaces closes_nil
  have hfuel : (write layout 0 value).length ≤
      2 * (write layout 0 value ++ spaces).length + 1 := by
    rw [List.length_append]
    omega
  have hskip : skipSpace spaces = [] := by
    have hall := skipSpace_append hspaces []
    rwa [List.append_nil] at hall
  rw [read?, reads_of_integral hlayout value h 0 _ spaces hfuel hcloses]
  dsimp only
  rw [hskip]
  rfl

theorem read?_compact {value : Json} (h : Integral value) :
    read? value.compact = some value := by
  have hread := read?_write spaced_compact h [] fun _ hc => absurd hc List.not_mem_nil
  rwa [List.append_nil] at hread

theorem read?_pretty_line {value : Json} (h : Integral value) :
    read? (value.pretty ++ ['\n']) = some value := by
  refine read?_write spaced_pretty h ['\n'] ?_
  intro c hc
  rw [List.mem_singleton.mp hc]
  rfl

end DualityDice.Json
