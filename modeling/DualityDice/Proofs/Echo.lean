import DualityDice.Proofs.Chat.Accepted
import DualityDice.Proofs.Chat.OwnLines
import DualityDice.Proofs.Numeral.Start
import DualityDice.Proofs.Report.Lines
import DualityDice.Proofs.Spelling.Reading
import DualityDice.Proofs.Text.Lowercase

/-!
Reports are no rolls, neither as a whole nor line by line. A bot that hears what another one
replies stays silent.
-/

namespace DualityDice

namespace Report

/-- What reports and their lines have in common: no number sign, and a quote or a digit to
begin with. -/
structure Posted (text : Text) : Prop where
  head : ∀ c ∈ text.head?, c = '`' ∨ c.isDigit = true
  numberSign : '#' ∉ text

theorem absent_numberSign : Absent '#' :=
  ⟨⟨by decide, by decide +kernel⟩, by decide +kernel, by decide +kernel, by decide⟩

theorem absent_colon : Absent ':' :=
  ⟨⟨by decide, by decide +kernel⟩, by decide +kernel, by decide +kernel, by decide⟩

section Posted

variable {text : Text} {c : Char}

theorem isPlain_of_head (h : c = '`' ∨ c.isDigit = true) : Text.IsPlain c := by
  rcases h with rfl | hdigit
  · decide
  · exact Text.isPlain_of_isDigit hdigit

theorem posted_nil : Posted [] :=
  ⟨fun _ h => absurd h (by simp), List.not_mem_nil⟩

theorem Posted.append (h : Posted text) (hne : text ≠ []) {more : Text} (hmore : '#' ∉ more) :
    Posted (text ++ more) := by
  constructor
  · rw [List.head?_append_of_ne_nil _ hne]
    exact h.head
  · rw [List.mem_append, not_or]
    exact ⟨h.numberSign, hmore⟩

theorem posted_line (outcome : Outcome) : Posted (line outcome) := by
  refine ⟨?_, absent_numberSign.notMem_line outcome⟩
  obtain ⟨rest, hline⟩ := exists_line_eq_cons outcome
  rw [hline]
  rintro c hc
  exact .inl (Option.some.inj hc).symm

theorem posted_entry {start : Nat} {outcomes : List Outcome}
    (h : text ∈ numberedFrom start outcomes) : Posted text ∧ text ≠ [] := by
  have hsign := absent_numberSign.notMem_of_mem_numberedFrom h
  obtain ⟨n, outcome, rfl⟩ : ∃ n outcome,
      text = Numeral.ofNat n ++ ['.', ' '] ++ line outcome := by
    induction outcomes generalizing start with
    | nil => contradiction
    | cons outcome rest ih =>
        rcases List.mem_cons.mp h with rfl | hrest
        · exact ⟨start, outcome, rfl⟩
        · exact ih hrest
  obtain ⟨c, digits, hdigits, hdigit⟩ := Numeral.exists_ofNat_eq_cons n
  rw [hdigits] at hsign ⊢
  refine ⟨⟨?_, hsign⟩, List.cons_ne_nil _ _⟩
  rintro d hd
  obtain rfl := Option.some.inj hd
  exact .inr hdigit

theorem posted_joinLines {lines : List Text} (h : ∀ text ∈ lines, Posted text ∧ text ≠ []) :
    Posted (Text.joinLines lines) := by
  induction lines with
  | nil => exact posted_nil
  | cons text rest ih =>
      obtain ⟨hposted, hne⟩ := h text List.mem_cons_self
      have hrest := ih fun other hother => h other (List.mem_cons_of_mem text hother)
      cases rest with
      | nil =>
          rw [Text.joinLines, List.intercalate_singleton]
          exact hposted
      | cons next rest =>
          rw [Text.joinLines, List.intercalate_cons_cons, List.append_assoc]
          refine hposted.append hne ?_
          rw [List.singleton_append, List.mem_cons, not_or]
          exact ⟨by decide, hrest.numberSign⟩

theorem posted_ofOutcomes (outcomes : List Outcome) : Posted (ofOutcomes outcomes) := by
  unfold ofOutcomes
  split
  · exact posted_line _
  · exact posted_joinLines fun _ h => posted_entry h

theorem posted_of_mem_splitAll {outcomes : List Outcome}
    (h : text ∈ (ofOutcomes outcomes).splitAll '\n') : Posted text := by
  rcases mem_splitAll_ofOutcomes h with rfl | ⟨outcome, rfl⟩ | hentry
  · exact posted_nil
  · exact posted_line outcome
  · exact (posted_entry hentry).1

theorem Absent.notMem_of_mem_splitAll {outcomes : List Outcome} (hc : Absent c)
    (h : text ∈ (ofOutcomes outcomes).splitAll '\n') : c ∉ text := by
  rcases mem_splitAll_ofOutcomes h with rfl | ⟨outcome, rfl⟩ | hentry
  · exact List.not_mem_nil
  · exact hc.notMem_line outcome
  · exact hc.notMem_of_mem_numberedFrom hentry

theorem Posted.ofText?_eq_none (h : Posted text) : Request.ofText? text = none := by
  rw [Option.eq_none_iff_forall_ne_some]
  intro request hread
  have hbegins := (Spelling.ofText?_eq_some_iff.mp hread).begins
  have hsign : '#' ∉ Request.normalize text :=
    fun hmem => h.numberSign (Text.mem_of_mem_normalize (by decide) hmem)
  rw [Spelling.rollPart_of_notMem hsign] at hbegins
  cases text with
  | nil => contradiction
  | cons c rest =>
      have hhead := h.head c rfl
      obtain ⟨more, hmore⟩ := Text.exists_normalize_cons (isPlain_of_head hhead) rest
      rw [hmore] at hbegins
      rw [(List.cons.inj hbegins).1] at hhead
      rcases hhead with hquote | hdigit
      · contradiction
      · contradiction

theorem Posted.toLowerAscii_trim_ne (h : Posted text) :
    Text.toLowerAscii text.trim ≠ Chat.quitWord := by
  intro hquit
  cases text with
  | nil => contradiction
  | cons c rest =>
      have hplain := isPlain_of_head (h.head c rfl)
      have htrim := Text.trim_append_cons hplain.2.2 [] rest
      rw [List.nil_append] at htrim
      rw [htrim] at hquit
      have hslash : c.toLower = '/' := (List.cons.inj hquit).1
      rw [hplain.2.1] at hslash
      have hhead := h.head c rfl
      rw [hslash] at hhead
      rcases hhead with hquote | hdigit
      · contradiction
      · contradiction

end Posted

end Report

theorem Chat.hearLine_of_posted (painted : Bool) (bot : Bot) {text : Text}
    (h : Report.Posted text) (hcolon : ':' ∉ text) :
    hearLine painted bot text.toUtf8 = .next [] bot := by
  have hstops : stops text.toUtf8 = false := by
    rw [stops, textOf?_toUtf8]
    exact decide_eq_false h.toLowerAscii_trim_ne
  rw [hearLine_of_not_stops painted bot hstops, messageIn?, textOf?_toUtf8, Option.bind_some]
  by_cases hnil : text.trim = []
  · rw [if_pos hnil]
  · have hmessage : messageOf text.trim = ⟨defaultAuthor, text.trim⟩ :=
      messageOf_of_notMem fun hmem => hcolon (Text.mem_of_mem_trim hmem)
    have hread : Request.ofText? text.trim = none :=
      (Text.ofText?_trim text).trans h.ofText?_eq_none
    have hheard : bot.hear ⟨defaultAuthor, text.trim⟩ = (none, bot) :=
      Bot.hear_of_ignores (.inr (.inl hread))
    rw [if_neg hnil, hmessage]
    simp only [hheard, Option.elim_none]

namespace Bot

theorem exists_outcomes_of_hear {bot : Bot} {message : Message} {answer : Text}
    (h : (bot.hear message).1 = some answer) :
    ∃ outcomes, answer = Report.ofOutcomes outcomes := by
  have hanswered : ¬bot.settings.Ignores message := by
    rw [← hear_eq_none_iff, h]
    exact Option.some_ne_none answer
  obtain ⟨hauthor, hrefused⟩ := not_or.mp hanswered
  obtain ⟨request, hread, hlimit⟩ := exists_request_of_not_refused hrefused
  rw [hear_of_ne hauthor, reply_of_not_lt hread hlimit] at h
  exact ⟨_, (Option.some.inj h).symm⟩

/-- No report of outcomes is a roll, nor is any line of one. So every bot, in any state, that
hears the reply of a bot or a line of it stays silent and as it is. -/
theorem replies_set_off_no_reply :
    (∀ outcomes : List Outcome,
      Request.ofText? (Report.ofOutcomes outcomes) = none ∧
        ∀ line ∈ (Report.ofOutcomes outcomes).splitAll '\n', Request.ofText? line = none) ∧
    ∀ (bot : Bot) (message : Message) (answer : Text), (bot.hear message).1 = some answer →
      (∀ text, text = answer ∨ text ∈ answer.splitAll '\n' →
        ∀ (other : Bot) (author : Text), other.hear ⟨author, text⟩ = (none, other)) ∧
      ∀ line ∈ answer.splitAll '\n', ∀ (painted : Bool) (other : Bot),
        Chat.hearLine painted other line.toUtf8 = .next [] other ∧
        ∀ (ended : List Bytes) (rest : Bytes),
          (∀ before ∈ ended, 10 ∉ before ∧ Chat.stops before = false) →
          ∃ before behind error,
            Chat.run painted other ((ended.flatMap fun before => before ++ [10]) ++ rest) =
              (before ++ behind, error) ∧
            Chat.run painted other
                ((ended.flatMap fun before => before ++ [10]) ++ line.toUtf8 ++ 10 :: rest) =
              (before ++ Chat.prompt ++ behind, error) := by
  refine ⟨?_, ?_⟩
  · intro outcomes
    refine ⟨(Report.posted_ofOutcomes outcomes).ofText?_eq_none, ?_⟩
    intro line hline
    exact (Report.posted_of_mem_splitAll hline).ofText?_eq_none
  · intro bot message answer hanswer
    obtain ⟨outcomes, rfl⟩ := exists_outcomes_of_hear hanswer
    refine ⟨?_, ?_⟩
    · intro text htext other author
      have hposted : Report.Posted text := by
        rcases htext with rfl | hline
        · exact Report.posted_ofOutcomes outcomes
        · exact Report.posted_of_mem_splitAll hline
      exact hear_of_ignores (.inr (.inl hposted.ofText?_eq_none))
    · intro line hline painted other
      have hsilent (after : Bot) : Chat.hearLine painted after line.toUtf8 = .next [] after :=
        Chat.hearLine_of_posted painted after (Report.posted_of_mem_splitAll hline)
          (Report.absent_colon.notMem_of_mem_splitAll hline)
      have hfeed : 10 ∉ line.toUtf8 :=
        Text.lineFeed_notMem_toUtf8 (Report.absent_lineFeed.notMem_of_mem_splitAll hline)
      refine ⟨hsilent other, ?_⟩
      intro ended rest hended
      obtain ⟨before, behind, error, _, hwithout, hwith⟩ :=
        Chat.exists_run_beside_line painted hfeed (fun after _ => hsilent after) hended rest
      exact ⟨before, behind, error, hwithout, hwith⟩

theorem second_line_sets_off_no_reply :
    let bot := Bot.start (Settings.standard.withSeed 7) (Vector.replicate 8 0)
    let other := Bot.start ((Settings.standard.withName "bia".toList).withSeed 9)
      (Vector.replicate 8 0)
    let first : Text :=
      "1. `7 com Medo` ⟵ [**1**] Esperança (d12) + [**5**] Medo (d12)".toList ++
        " + [**1**] Vantagem (d6)".toList
    let second : Text :=
      "2. `6 com Medo` ⟵ [**1**] Esperança (d12) + [**4**] Medo (d12)".toList ++
        " + [**1**] Vantagem (d6)".toList
    (bot.hear ⟨"ana".toList, "2#ddv".toList⟩).1 = some (first ++ ['\n'] ++ second) ∧
      other.hear ⟨"duality".toList, second⟩ = (none, other) ∧
      Chat.hearLine false other second.toUtf8 = .next [] other := by
  intro bot other first second
  have hanswer : (bot.hear ⟨"ana".toList, "2#ddv".toList⟩).1 =
      some (first ++ ['\n'] ++ second) := by
    decide +kernel
  have hline : second ∈ (first ++ ['\n'] ++ second).splitAll '\n' := by
    decide +kernel
  obtain ⟨hheard, hlines⟩ := replies_set_off_no_reply.2 bot _ _ hanswer
  exact ⟨hanswer, hheard second (.inr hline) other _, (hlines second hline false other).1⟩

end Bot

end DualityDice
