import Mathlib.Data.List.Forall2
import DualityDice.Proofs.Reply

/-!
Messages without a reply leave no trace on a bot: its settings and its generator
stay as they are, so that the other replies do not depend on them.
-/

namespace DualityDice

def keepPlaces {α : Type} (keep : Nat → Bool) : List α → List α
  | [] => []
  | entry :: rest =>
      if keep 0 then entry :: keepPlaces (fun place => keep (place + 1)) rest
      else keepPlaces (fun place => keep (place + 1)) rest

/-- Whether a bot with these settings passes over a message: its own one, or one
whose text gets no reply. -/
def Settings.Ignores (settings : Settings) (message : Message) : Prop :=
  message.author = settings.name ∨ Refused settings.maxRolls message.content

/-- Two messages with one content, whose authors differ at most where neither is
the bot of the given name. -/
def SameToBot (name : Text) (message other : Message) : Prop :=
  message.content = other.content ∧
    (message.author = other.author ∨ (message.author ≠ name ∧ other.author ≠ name))

namespace Bot

theorem hear_of_ignores {bot : Bot} {message : Message}
    (h : bot.settings.Ignores message) : bot.hear message = (none, bot) := by
  unfold hear
  rcases h with hown | hrefused
  · rw [if_pos hown]
  · split
    · rfl
    · rw [reply_of_refused hrefused]

theorem hear_of_ne {bot : Bot} {message : Message}
    (h : message.author ≠ bot.settings.name) :
    bot.hear message =
      ((reply bot.settings.maxRolls message.content bot.generator).1,
        { bot with generator :=
            (reply bot.settings.maxRolls message.content bot.generator).2 }) := by
  rw [hear, if_neg h]

theorem hear_eq_none_iff (bot : Bot) (message : Message) :
    (bot.hear message).1 = none ↔ bot.settings.Ignores message := by
  constructor
  · intro hnone
    unfold hear at hnone
    split at hnone
    · rename_i hown
      exact .inl hown
    · exact .inr ((reply_eq_none_iff bot.generator).mp hnone)
  · intro h
    rw [hear_of_ignores h]

theorem settings_hear (bot : Bot) (message : Message) :
    (bot.hear message).2.settings = bot.settings := by
  unfold hear
  split <;> rfl

theorem hear_of_sameToBot {bot : Bot} {message other : Message}
    (h : SameToBot bot.settings.name message other) :
    bot.hear other = bot.hear message := by
  obtain ⟨hcontent, hauthor⟩ := h
  unfold hear
  rcases hauthor with hauthor | ⟨hmessage, hother⟩
  · rw [hcontent, hauthor]
  · rw [if_neg hmessage, if_neg hother, hcontent]

theorem hearAll_cons (bot : Bot) (message : Message) (rest : List Message) :
    bot.hearAll (message :: rest) =
      ((bot.hear message).1 :: ((bot.hear message).2.hearAll rest).1,
        ((bot.hear message).2.hearAll rest).2) := rfl

theorem settings_hearAll (bot : Bot) (messages : List Message) :
    (bot.hearAll messages).2.settings = bot.settings := by
  induction messages generalizing bot with
  | nil => rfl
  | cons message rest ih => rw [hearAll_cons, ih, settings_hear]

theorem length_hearAll (bot : Bot) (messages : List Message) :
    (bot.hearAll messages).1.length = messages.length := by
  induction messages generalizing bot with
  | nil => rfl
  | cons message rest ih => rw [hearAll_cons, List.length_cons, ih, List.length_cons]

theorem hearAll_getElem?_eq_none_iff (bot : Bot) {messages : List Message} {place : Nat}
    {message : Message} (h : messages[place]? = some message) :
    (bot.hearAll messages).1[place]? = some none ↔ bot.settings.Ignores message := by
  induction messages generalizing bot place with
  | nil => contradiction
  | cons first rest ih =>
      rw [hearAll_cons]
      cases place with
      | zero =>
          obtain rfl : first = message := by simpa using h
          rw [List.getElem?_cons_zero, Option.some.injEq]
          exact hear_eq_none_iff bot first
      | succ place =>
          rw [List.getElem?_cons_succ] at h ⊢
          rw [ih _ h, settings_hear]

/-- The bot's state after the longer run is that after the shorter one, message
by message, so that the replies are the same. -/
theorem hearAll_keepPlaces (bot : Bot) (messages : List Message) (keep : Nat → Bool)
    (hignored : ∀ place message, messages[place]? = some message →
      keep place = false → bot.settings.Ignores message) :
    bot.hearAll (keepPlaces keep messages) =
      (keepPlaces keep (bot.hearAll messages).1, (bot.hearAll messages).2) := by
  induction messages generalizing bot keep with
  | nil => rfl
  | cons message rest ih =>
      have hrest : ∀ place later, rest[place]? = some later →
          keep (place + 1) = false → (bot.hear message).2.settings.Ignores later := by
        intro place later hplace hkeep
        rw [settings_hear]
        exact hignored (place + 1) later hplace hkeep
      rw [keepPlaces, hearAll_cons, keepPlaces]
      split
      · rw [hearAll_cons, ih _ _ hrest]
      · rename_i hkeep
        -- The shorter run goes on from the state that the longer one keeps here.
        have hfirst := hear_of_ignores (hignored 0 message rfl (by simpa using hkeep))
        rw [hfirst] at hrest ⊢
        exact ih bot _ hrest

theorem hearAll_congr {bot : Bot} {messages others : List Message}
    (h : List.Forall₂ (fun message other => ∀ state : Bot, state.settings = bot.settings →
      state.hear other = state.hear message) messages others) :
    bot.hearAll others = bot.hearAll messages := by
  induction messages generalizing bot others with
  | nil =>
      cases h
      rfl
  | cons message rest ih =>
      cases h with
      | cons hfirst hrest =>
          rw [hearAll_cons, hearAll_cons, hfirst bot rfl]
          rw [← settings_hear bot message] at hrest
          rw [ih hrest]

theorem hearAll_of_sameToBot {bot : Bot} {name : Text} {messages others : List Message}
    (hname : bot.settings.name = name)
    (h : List.Forall₂ (SameToBot name) messages others) :
    bot.hearAll others = bot.hearAll messages := by
  apply hearAll_congr
  refine h.imp ?_
  intro message other hsame state hstate
  rw [← hname, ← hstate] at hsame
  exact hear_of_sameToBot hsame

/-- The messages that get no reply are the bot's own, those that are no rolls and those that
ask for too many rolls. Taking any of them out, or putting others in, changes neither the
replies to the rest nor the bot in the end. -/
theorem ignored_messages_leave_no_trace (bot : Bot) (messages : List Message) :
    (bot.hearAll messages).1.length = messages.length ∧
    (∀ (place : Nat) (message : Message), messages[place]? = some message →
      ((bot.hearAll messages).1[place]? = some none ↔
        message.author = bot.settings.name ∨
          Request.ofText? message.content = none ∨
          ∃ request, Request.ofText? message.content = some request ∧
            bot.settings.maxRolls < request.rolls)) ∧
    (∀ keep : Nat → Bool,
      (∀ (place : Nat) (answer : Option Text),
        (bot.hearAll messages).1[place]? = some answer → keep place = false →
          answer = none) →
      bot.hearAll (keepPlaces keep messages) =
        (keepPlaces keep (bot.hearAll messages).1, (bot.hearAll messages).2)) ∧
    (∀ (longer : List Message) (keep : Nat → Bool), keepPlaces keep longer = messages →
      (∀ (place : Nat) (message : Message), longer[place]? = some message →
        keep place = false → bot.settings.Ignores message) →
      bot.hearAll messages =
        (keepPlaces keep (bot.hearAll longer).1, (bot.hearAll longer).2)) ∧
    (∀ others, List.Forall₂ (SameToBot bot.settings.name) messages others →
      bot.hearAll others = bot.hearAll messages) ∧
    (bot.hearAll messages).2.settings = bot.settings := by
  refine ⟨length_hearAll bot messages, ?_, ?_, ?_, ?_, settings_hearAll bot messages⟩
  · intro place message hplace
    exact hearAll_getElem?_eq_none_iff bot hplace
  · intro keep hsilent
    apply hearAll_keepPlaces
    intro place message hplace hkeep
    have hlt : place < (bot.hearAll messages).1.length := by
      rw [length_hearAll]
      exact (List.getElem?_eq_some_iff.mp hplace).1
    have hnone := hsilent place _ (List.getElem?_eq_getElem hlt) hkeep
    rw [← hearAll_getElem?_eq_none_iff bot hplace, List.getElem?_eq_getElem hlt, hnone]
  · rintro longer keep rfl hignored
    exact hearAll_keepPlaces bot longer keep hignored
  · intro others hothers
    exact hearAll_of_sameToBot rfl hothers

theorem replies_beside_ignored_messages :
    let bot := Bot.start (Settings.standard.withSeed 42) (Vector.replicate 8 0)
    let session : List Message :=
      [⟨"ana".toList, "dd".toList⟩, ⟨"duality".toList, "dd".toList⟩,
        ⟨"ana".toList, "dd+".toList⟩, ⟨"bia".toList, "101#dd".toList⟩,
        ⟨"bia".toList, "2#ddv".toList⟩]
    let keep : Nat → Bool := fun place => place == 0 || place == 4
    bot.hearAll [⟨"ana".toList, "dd".toList⟩, ⟨"bia".toList, "2#ddv".toList⟩] =
      (keepPlaces keep (bot.hearAll session).1, (bot.hearAll session).2) := by
  intro bot session keep
  refine (ignored_messages_leave_no_trace bot _).2.2.2.1 session keep rfl ?_
  intro place message hplace hkeep
  match place with
  | 0 | 4 => contradiction
  | 1 =>
      obtain rfl := Option.some.inj hplace
      exact .inl rfl
  | 2 =>
      obtain rfl := Option.some.inj hplace
      exact .inr (.inl (by decide +kernel))
  | 3 =>
      obtain rfl := Option.some.inj hplace
      exact .inr (.inr ⟨{ rolls := 101 }, by decide +kernel, by decide⟩)
  | _ + 5 => contradiction

end Bot

end DualityDice
