import DualityDice.Program
import DualityDice.Proofs.Chat.Session

namespace DualityDice

namespace Chat

def Blank (bytes : Bytes) : Prop :=
  ∃ blanks : Text, (∀ c ∈ blanks, Text.isBlank c = true) ∧ bytes = blanks.toUtf8

/-- Two inputs, line by line, that differ in blank lines and in the white space around
other lines. -/
inductive SameLines : List Bytes → List Bytes → Prop
  | nil : SameLines [] []
  | blankLeft {line : Bytes} {lines others : List Bytes} (hblank : Blank line)
      (hrest : SameLines lines others) : SameLines (line :: lines) others
  | blankRight {line : Bytes} {lines others : List Bytes} (hblank : Blank line)
      (hrest : SameLines lines others) : SameLines lines (line :: others)
  | around {before behind otherBefore otherBehind : Bytes} {lines others : List Bytes}
      (hbefore : Blank before) (hbehind : Blank behind) (hotherBefore : Blank otherBefore)
      (hotherBehind : Blank otherBehind) (line : Bytes) (hrest : SameLines lines others) :
      SameLines ((before ++ line ++ behind) :: lines)
        ((otherBefore ++ line ++ otherBehind) :: others)

def withReturns (input : Bytes) : Bytes :=
  input.flatMap fun byte => if byte = 10 then [13, 10] else [byte]

theorem blank_nil : Blank [] :=
  ⟨[], fun _ hc => absurd hc List.not_mem_nil, rfl⟩

theorem blank_return : Blank [13] := by
  refine ⟨['\r'], ?_, rfl⟩
  intro c hc
  rw [List.mem_singleton.mp hc]
  rfl

theorem textOf?_append_blanks {before behind : Bytes} (hbefore : Blank before)
    (hbehind : Blank behind) (line : Bytes) :
    textOf? (before ++ line ++ behind) = textOf? line := by
  obtain ⟨first, hfirst, rfl⟩ := hbefore
  obtain ⟨last, hlast, rfl⟩ := hbehind
  rw [textOf?, Text.ofUtf8?_append_toUtf8, Text.ofUtf8?_toUtf8_append, textOf?, Option.map_map,
    Option.map_map]
  congr 1
  funext text
  exact Text.trim_append_blanks text hfirst hlast

theorem textOf?_of_blank {line : Bytes} (h : Blank line) : textOf? line = some [] := by
  have htext := textOf?_append_blanks h blank_nil []
  rw [List.append_nil, List.append_nil] at htext
  rw [htext]
  rfl

section Kept

variable {line other : Bytes} {lines others : List Bytes}

def Agree (lines others : List Bytes) : Prop :=
  (heard lines).filterMap messageIn? = (heard others).filterMap messageIn? ∧
    breaks lines = breaks others

theorem Agree.symm (h : Agree lines others) : Agree others lines :=
  ⟨h.1.symm, h.2.symm⟩

theorem agree_cons_blank (hblank : Blank line) (h : Agree lines others) :
    Agree (line :: lines) others := by
  have htext := textOf?_of_blank hblank
  have hstops : stops line = false := by
    rw [stops, htext]
    rfl
  have hmessage : messageIn? line = none := by
    rw [messageIn?, htext]
    rfl
  constructor
  · rw [heard_cons_of_not_stops hstops, List.filterMap_cons_none hmessage, h.1]
  · rw [breaks_cons, hstops, ← h.2]
    rfl

theorem agree_cons (htext : textOf? line = textOf? other) (h : Agree lines others) :
    Agree (line :: lines) (other :: others) := by
  have hstop : stops line = stops other := by
    rw [stops, stops, htext]
  have hmessage : messageIn? line = messageIn? other := by
    rw [messageIn?, messageIn?, htext]
  constructor
  · cases hstops : stops line with
    | true => rw [heard_cons_of_stops hstops, heard_cons_of_stops (hstop.symm.trans hstops)]
    | false =>
        rw [heard_cons_of_not_stops hstops, heard_cons_of_not_stops (hstop.symm.trans hstops),
          List.filterMap_cons, List.filterMap_cons, hmessage, h.1]
  · rw [breaks_cons, breaks_cons, hstop, htext, h.2]

theorem agree_of_sameLines (h : SameLines lines others) : Agree lines others := by
  induction h with
  | nil => exact ⟨rfl, rfl⟩
  | blankLeft hblank _ ih => exact agree_cons_blank hblank ih
  | blankRight hblank _ ih => exact (agree_cons_blank hblank ih.symm).symm
  | around hbefore hbehind hotherBefore hotherBehind line _ ih =>
      apply agree_cons _ ih
      rw [textOf?_append_blanks hbefore hbehind, textOf?_append_blanks hotherBefore hotherBehind]

end Kept

theorem sameLines_refl (lines : List Bytes) : SameLines lines lines := by
  induction lines with
  | nil => exact .nil
  | cons line rest ih =>
      have hcons := SameLines.around blank_nil blank_nil blank_nil blank_nil line ih
      rwa [List.nil_append, List.append_nil] at hcons

theorem sameLines_append_returns (ended rest : List Bytes) :
    SameLines (ended ++ rest) (ended.map (fun line => line ++ [13]) ++ rest) := by
  induction ended with
  | nil => exact sameLines_refl rest
  | cons line ended ih =>
      have hcons := SameLines.around blank_nil blank_nil blank_nil blank_return line ih
      rwa [List.nil_append, List.append_nil] at hcons

theorem withReturns_append (first second : Bytes) :
    withReturns (first ++ second) = withReturns first ++ withReturns second :=
  List.flatMap_append

theorem withReturns_of_notMem {line : Bytes} (h : 10 ∉ line) : withReturns line = line := by
  induction line with
  | nil => rfl
  | cons byte line ih =>
      rw [List.mem_cons, not_or] at h
      obtain ⟨hbyte, hline⟩ := h
      rw [withReturns, List.flatMap_cons, if_neg (Ne.symm hbyte), ← withReturns, ih hline]
      rfl

theorem withReturns_flatMap {ended : List Bytes} (h : ∀ line ∈ ended, 10 ∉ line) :
    withReturns (ended.flatMap fun line => line ++ [10]) =
      (ended.map fun line => line ++ [13]).flatMap fun line => line ++ [10] := by
  induction ended with
  | nil => rfl
  | cons line ended ih =>
      have hline := withReturns_of_notMem (h line List.mem_cons_self)
      have hrest := ih fun other hother => h other (List.mem_cons_of_mem line hother)
      have hfeed : withReturns [10] = [13, 10] := rfl
      calc
        withReturns (List.flatMap (fun line => line ++ [10]) (line :: ended)) =
            line ++ [13, 10] ++ (ended.map fun line => line ++ [13]).flatMap
              fun line => line ++ [10] := by
          rw [List.flatMap_cons, withReturns_append, withReturns_append, hline, hfeed, hrest]
        _ = ((line :: ended).map fun line => line ++ [13]).flatMap
              fun line => line ++ [10] := by
          rw [List.map_cons, List.flatMap_cons, List.append_assoc line [13] [10]]
          rfl

theorem agree_of_withReturns {input : Bytes} {lines others : List Bytes} (hcut : Cut input lines)
    (hother : Cut (withReturns input) others) : Agree lines others := by
  obtain ⟨ended, rest, hended, hrest, rfl, rfl⟩ := hcut
  have hreturns : ∀ line ∈ ended.map (fun line => line ++ [13]), 10 ∉ line := by
    rw [List.forall_mem_map]
    intro line hline
    simpa using hended line hline
  have hcut : Cut (withReturns ((ended.flatMap fun line => line ++ [10]) ++ rest))
      (ended.map (fun line => line ++ [13]) ++ if rest = [] then [] else [rest]) := by
    refine ⟨_, rest, hreturns, hrest, ?_, rfl⟩
    rw [withReturns_append, withReturns_flatMap hended, withReturns_of_notMem hrest]
  obtain rfl : _ = others := (linesOf_of_cut hcut).symm.trans (linesOf_of_cut hother)
  exact agree_of_sameLines (sameLines_append_returns ended _)

theorem heard_append_of_stops {ended : List Bytes} (h : ∃ line ∈ ended, stops line = true)
    (more : List Bytes) : heard (ended ++ more) = heard ended := by
  induction ended with
  | nil => simp at h
  | cons line ended ih =>
      rw [List.cons_append]
      cases hstops : stops line with
      | true => rw [heard_cons_of_stops hstops, heard_cons_of_stops hstops]
      | false =>
          have hrest : ∃ other ∈ ended, stops other = true := by
            simpa [hstops] using h
          rw [heard_cons_of_not_stops hstops, heard_cons_of_not_stops hstops, ih hrest]

theorem breaks_append_of_stops {ended : List Bytes} (h : ∃ line ∈ ended, stops line = true)
    (more : List Bytes) : breaks (ended ++ more) = breaks ended := by
  have hfound : (ended.find? stops).isSome = true := by
    rw [List.find?_isSome]
    exact h
  rw [breaks, List.find?_append, Option.or_of_isSome hfound, ← breaks]

theorem run_append_of_stops (painted : Bool) (bot : Bot) {ended : List Bytes}
    (hlines : ∀ line ∈ ended, 10 ∉ line) (h : ∃ line ∈ ended, stops line = true)
    (more : Bytes) :
    run painted bot ((ended.flatMap fun line => line ++ [10]) ++ more) =
      run painted bot (ended.flatMap fun line => line ++ [10]) := by
  have hanswers : answers bot (ended ++ linesOf more) = answers bot ended := by
    rw [answers, replies, heard_append_of_stops h, ← replies, ← answers]
  rw [run, run, linesOf_flatMap_append hlines, linesOf_flatMap hlines, hearLines_eq,
    hearLines_eq, hanswers, breaks_append_of_stops h]

theorem replies_of_agree (bot : Bot) {lines others : List Bytes} (h : Agree lines others) :
    replies bot others = replies bot lines := by
  rw [replies, replies, h.1]

theorem replyText_plain (name reply : Text) :
    replyText false name reply = name ++ ": ".toList ++ reply ++ "\n\n".toList := by
  simp [replyText, styled]

theorem transcript_plain (name : Text) (answers : List (Option Text)) :
    transcript false name answers =
      answers.flatMap (fun answer =>
        "> ".toList ++ answer.elim [] fun reply =>
          name ++ ": ".toList ++ reply ++ "\n\n".toList) ++ "> ".toList := by
  simp only [← replyText_plain]
  rfl

end Chat

namespace Program

/-- A chat takes up its lines in order until one that is no text, the word for quitting, or the
end of the input. Each line gets a prompt and the bot's answer to it, if there is one. What
follows the line that ends the chat does not count, nor do carriage returns before line feeds,
white space around lines and blank lines. -/
theorem chat_answers_lines_in_order (surroundings : Surroundings) (settings : Settings)
    (name : Option Text) (hplain : Chat.isPainted surroundings.environment = false) :
    let bot := Bot.start settings surroundings.key
    let chat (input : Bytes) : Ending :=
      perform { surroundings with input } settings (.chat name)
    (∀ input, ∃ lines, Chat.Cut input lines ∧
      chat input =
        ⟨if Chat.breaks lines then 1 else 0,
          Chat.banner false settings.name ++
            (Chat.answers bot lines).flatMap (fun answer =>
              "> ".toList ++ answer.elim [] fun reply =>
                settings.name ++ ": ".toList ++ reply ++ "\n\n".toList) ++
            "> ".toList,
          if Chat.breaks lines then "error: stream did not contain valid UTF-8\n".toList
          else []⟩) ∧
    (∀ (ended : List Bytes) (more other : Bytes), (∀ line ∈ ended, 10 ∉ line) →
      (∃ line ∈ ended, Chat.stops line = true) →
        chat ((ended.flatMap fun line => line ++ [10]) ++ more) =
          chat ((ended.flatMap fun line => line ++ [10]) ++ other)) ∧
    (∀ (input : Bytes) (lines others : List Bytes), Chat.Cut input lines →
      Chat.Cut (Chat.withReturns input) others →
        Chat.replies bot others = Chat.replies bot lines ∧
          Chat.breaks others = Chat.breaks lines) ∧
    (∀ lines others : List Bytes, Chat.SameLines lines others →
      Chat.replies bot others = Chat.replies bot lines ∧
        Chat.breaks others = Chat.breaks lines) := by
  intro bot chat
  have hchat (input : Bytes) : chat input =
      ofResult (Chat.run false bot input).1 (Chat.run false bot input).2 := by
    rw [← hplain]
    rfl
  refine ⟨?_, ?_, ?_, ?_⟩
  · intro input
    obtain ⟨lines, hcut⟩ := Chat.exists_cut input
    refine ⟨lines, hcut, ?_⟩
    rw [hchat, Chat.run, Chat.linesOf_of_cut hcut, Chat.hearLines_eq, Chat.transcript_plain]
    cases Chat.breaks lines with
    | true => rw [List.append_assoc]; rfl
    | false => rw [List.append_assoc]; rfl
  · intro ended more other hlines hstops
    rw [hchat, hchat, Chat.run_append_of_stops false bot hlines hstops,
      Chat.run_append_of_stops false bot hlines hstops]
  · intro input lines others hcut hother
    have hagree := Chat.agree_of_withReturns hcut hother
    exact ⟨Chat.replies_of_agree bot hagree, hagree.2.symm⟩
  · intro lines others hsame
    have hagree := Chat.agree_of_sameLines hsame
    exact ⟨Chat.replies_of_agree bot hagree, hagree.2.symm⟩

theorem chat_answers_before_quitting :
    let settings : Settings := Settings.standard.withSeed 7
    let surroundings : Surroundings :=
      ⟨⟨[], fun _ => none⟩, [], "dd\r\n \n/Quit\ndd".toUTF8.toList, Vector.replicate 8 0⟩
    let report := Report.ofOutcomes (Request.roll {} (Generator.ofSeed 7)).1
    Chat.isPainted surroundings.environment = false ∧
      perform surroundings settings (.chat none) =
        ⟨0, Chat.banner false "duality".toList ++ "> duality: ".toList ++ report ++
          "\n\n> > ".toList, []⟩ := by
  intro settings surroundings report
  have hplain : Chat.isPainted surroundings.environment = false := rfl
  refine ⟨hplain, ?_⟩
  obtain ⟨lines, hcut, hchat⟩ :=
    (chat_answers_lines_in_order surroundings settings none hplain).1 surroundings.input
  have hlines : lines =
      ["dd\r".toUTF8.toList, [32], "/Quit".toUTF8.toList, "dd".toUTF8.toList] :=
    (Chat.linesOf_of_cut hcut).symm.trans (by decide +kernel)
  have hread : Request.ofText? "dd".toList = some {} := by
    decide +kernel
  have hheard :
      ((Bot.start settings surroundings.key).hear ⟨Chat.defaultAuthor, "dd".toList⟩).1 =
        some report := by
    rw [Bot.hear, if_neg (by decide), reply_of_not_lt hread (by decide)]
    rfl
  have hmessage : Chat.messageIn? "dd\r".toUTF8.toList =
      some ⟨Chat.defaultAuthor, "dd".toList⟩ := by
    decide +kernel
  have hanswers : Chat.answers (Bot.start settings surroundings.key) lines =
      [some report, none] := by
    rw [hlines, Chat.answers_cons_of_some _ (by decide +kernel) hmessage, hheard,
      Chat.answers_cons_of_none _ (by decide +kernel) (by decide +kernel),
      Chat.answers_cons_of_stops _ (by decide +kernel)]
  have hbreaks : Chat.breaks lines = false := by
    rw [hlines]
    decide +kernel
  rw [hanswers, hbreaks] at hchat
  refine hchat.trans ?_
  clear_value report
  simp only [List.flatMap_cons, List.flatMap_nil, Option.elim_some, Option.elim_none,
    List.append_assoc, List.append_nil]
  rfl

end Program

end DualityDice
