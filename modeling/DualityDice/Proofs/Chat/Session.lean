import DualityDice.Proofs.Chat.Lines
import DualityDice.Proofs.Silence
import DualityDice.Proofs.Text.Trim
import DualityDice.Proofs.Text.Utf8.Parts

/-!
A chat takes up its lines in order until the first one that ends it. What it prints
follows from the replies of a bot to the messages of these lines.
-/

namespace DualityDice.Chat

def textOf? (line : Bytes) : Option Text :=
  (Text.ofUtf8? line).map Text.trim

/-- A line ends a chat if it is no text, or if it is the word for quitting in
whatever case. -/
def stops (line : Bytes) : Bool :=
  match textOf? line with
  | none => true
  | some text => Text.toLowerAscii text = quitWord

def heard (lines : List Bytes) : List Bytes :=
  lines.takeWhile fun line => !stops line

/-- Whether the first line that ends the chat is no text. -/
def breaks (lines : List Bytes) : Bool :=
  (lines.find? stops).any fun line => textOf? line = none

def messageIn? (line : Bytes) : Option Message :=
  (textOf? line).bind fun text => if text = [] then none else some (messageOf text)

def replies (bot : Bot) (lines : List Bytes) : List (Option Text) :=
  (bot.hearAll ((heard lines).filterMap messageIn?)).1

/-- Replies in turn, each at the place of its message. There is none at the other
places. -/
def spread : List (Option Message) → List (Option Text) → List (Option Text)
  | [], _ => []
  | none :: messages, replies => none :: spread messages replies
  | some _ :: messages, replies => replies.head?.join :: spread messages replies.tail

def answers (bot : Bot) (lines : List Bytes) : List (Option Text) :=
  spread ((heard lines).map messageIn?) (replies bot lines)

theorem textOf?_toUtf8 (text : Text) : textOf? text.toUtf8 = some text.trim := by
  rw [textOf?, Text.ofUtf8?_toUtf8, Option.map_some]

section Step

variable {line : Bytes} (painted : Bool) (bot : Bot)

theorem hearLine_of_stops (h : stops line = true) :
    hearLine painted bot line =
      if textOf? line = none then .refuse .invalidInput else .quit := by
  rw [stops] at h
  rw [hearLine]
  cases hread : Text.ofUtf8? line with
  | none => simp [textOf?, hread]
  | some text =>
      have htext : textOf? line = some text.trim := by
        rw [textOf?, hread, Option.map_some]
      rw [htext] at h ⊢
      have hquit : Text.toLowerAscii text.trim = quitWord := of_decide_eq_true h
      have hne : text.trim ≠ [] := by
        intro hnil
        rw [hnil] at hquit
        contradiction
      simp only [if_neg hne, if_pos hquit, reduceCtorEq, if_false]

theorem hearLine_of_not_stops (h : stops line = false) :
    hearLine painted bot line =
      match messageIn? line with
      | none => .next [] bot
      | some message =>
          .next ((bot.hear message).1.elim [] (replyText painted bot.settings.name))
            (bot.hear message).2 := by
  rw [stops] at h
  rw [hearLine, messageIn?]
  cases hread : Text.ofUtf8? line with
  | none => simp [textOf?, hread] at h
  | some text =>
      have htext : textOf? line = some text.trim := by
        rw [textOf?, hread, Option.map_some]
      rw [htext] at h ⊢
      have hquit : Text.toLowerAscii text.trim ≠ quitWord := of_decide_eq_false h
      simp only [if_neg hquit, Option.bind_some]
      by_cases hnil : text.trim = []
      · simp only [if_pos hnil]
      · simp only [if_neg hnil]
        have hsettings := bot.settings_hear (messageOf text.trim)
        split
        · rename_i hheard
          rw [hheard] at hsettings ⊢
          rw [hsettings]
          rfl
        · rename_i hheard
          rw [hheard]
          rfl

theorem hearLines_cons_of_next {bot after : Bot} {printed : Text}
    (h : hearLine painted bot line = .next printed after) (rest : List Bytes) :
    hearLines painted bot (line :: rest) =
      (prompt ++ printed ++ (hearLines painted after rest).1,
        (hearLines painted after rest).2) := by
  rw [hearLines, h]

end Step

section Run

variable {line : Bytes} {rest : List Bytes} (bot : Bot)

theorem heard_cons_of_stops (h : stops line = true) : heard (line :: rest) = [] := by
  simp [heard, h]

theorem heard_cons_of_not_stops (h : stops line = false) :
    heard (line :: rest) = line :: heard rest := by
  simp [heard, h]

theorem answers_cons_of_stops (h : stops line = true) : answers bot (line :: rest) = [] := by
  rw [answers, heard_cons_of_stops h]
  rfl

theorem answers_cons_of_none (h : stops line = false) (hmessage : messageIn? line = none) :
    answers bot (line :: rest) = none :: answers bot rest := by
  have hreplies : replies bot (line :: rest) = replies bot rest := by
    rw [replies, heard_cons_of_not_stops h, List.filterMap_cons_none hmessage, ← replies]
  rw [answers, hreplies, heard_cons_of_not_stops h, List.map_cons, hmessage, spread, ← answers]

theorem answers_cons_of_some {message : Message} (h : stops line = false)
    (hmessage : messageIn? line = some message) :
    answers bot (line :: rest) =
      (bot.hear message).1 :: answers (bot.hear message).2 rest := by
  have hreplies : replies bot (line :: rest) =
      (bot.hear message).1 :: replies (bot.hear message).2 rest := by
    rw [replies, heard_cons_of_not_stops h, List.filterMap_cons_some hmessage,
      Bot.hearAll_cons, ← replies]
  rw [answers, hreplies, heard_cons_of_not_stops h, List.map_cons, hmessage, spread,
    List.head?_cons, Option.join_some, List.tail_cons, ← answers]

theorem breaks_cons (line : Bytes) (rest : List Bytes) :
    breaks (line :: rest) =
      if stops line then decide (textOf? line = none) else breaks rest := by
  rw [breaks, List.find?_cons]
  cases stops line <;> rfl

def transcript (painted : Bool) (name : Text) (answers : List (Option Text)) : Text :=
  answers.flatMap (fun answer => prompt ++ answer.elim [] (replyText painted name)) ++ prompt

theorem transcript_cons (painted : Bool) (name : Text) (answer : Option Text)
    (answers : List (Option Text)) :
    transcript painted name (answer :: answers) =
      prompt ++ answer.elim [] (replyText painted name) ++ transcript painted name answers := by
  rw [transcript, List.flatMap_cons, List.append_assoc, ← transcript]

theorem hearLines_eq (painted : Bool) (lines : List Bytes) :
    hearLines painted bot lines =
      (transcript painted bot.settings.name (answers bot lines),
        if breaks lines then some .invalidInput else none) := by
  induction lines generalizing bot with
  | nil => rfl
  | cons line rest ih =>
      rw [breaks_cons]
      cases hstops : stops line with
      | true =>
          rw [hearLines, hearLine_of_stops painted bot hstops, answers_cons_of_stops bot hstops]
          by_cases htext : textOf? line = none
          · simp [htext, transcript]
          · simp [htext, transcript]
      | false =>
          have hstep := hearLine_of_not_stops painted bot hstops
          cases hmessage : messageIn? line with
          | none =>
              rw [hmessage] at hstep
              rw [hearLines_cons_of_next painted hstep, ih,
                answers_cons_of_none bot hstops hmessage, transcript_cons]
              rfl
          | some message =>
              rw [hmessage] at hstep
              rw [hearLines_cons_of_next painted hstep, ih, Bot.settings_hear,
                answers_cons_of_some bot hstops hmessage, transcript_cons]
              rfl

theorem exists_hearLines_append (painted : Bool) {first : List Bytes}
    (h : ∀ line ∈ first, stops line = false) :
    ∃ (printed : Text) (after : Bot), after.settings = bot.settings ∧
      ∀ more, hearLines painted bot (first ++ more) =
        (printed ++ (hearLines painted after more).1, (hearLines painted after more).2) := by
  induction first generalizing bot with
  | nil => exact ⟨[], bot, rfl, fun more => rfl⟩
  | cons line first ih =>
      obtain ⟨printed, next, hsettings, hstep⟩ : ∃ (printed : Text) (next : Bot),
          next.settings = bot.settings ∧ hearLine painted bot line = .next printed next := by
        have hstep := hearLine_of_not_stops painted bot (h line List.mem_cons_self)
        cases hmessage : messageIn? line with
        | none =>
            rw [hmessage] at hstep
            exact ⟨_, _, rfl, hstep⟩
        | some message =>
            rw [hmessage] at hstep
            exact ⟨_, _, bot.settings_hear message, hstep⟩
      obtain ⟨later, after, hafter, hmore⟩ :=
        ih next fun other hother => h other (List.mem_cons_of_mem line hother)
      refine ⟨prompt ++ printed ++ later, after, hafter.trans hsettings, ?_⟩
      intro more
      rw [List.cons_append, hearLines_cons_of_next painted hstep, hmore, List.append_assoc _ later]

end Run

end DualityDice.Chat
