import DualityDice.Program
import DualityDice.Proofs.Batch
import DualityDice.Proofs.Chat.Session
import DualityDice.Proofs.Text.Plain

namespace DualityDice

theorem Request.ofText?_nil : ofText? [] = none := by
  decide +kernel

theorem Request.ofText?_quitWord {text : Text}
    (h : Text.toLowerAscii text = Chat.quitWord) : ofText? text = none := by
  have hall : Chat.quitWord.all (fun c => decide (c.toNat < 0x80)) = true := by
    decide +kernel
  have hascii : ∀ c ∈ Chat.quitWord, c.toNat < 0x80 := by
    intro c hc
    exact of_decide_eq_true (List.all_eq_true.mp hall c hc)
  have hquit : ofText? Chat.quitWord = none := by
    decide +kernel
  have hself : Text.toLowerAscii Chat.quitWord = Chat.quitWord := by
    decide
  have hnormal : normalize text = normalize Chat.quitWord := by
    rw [Text.normalize_eq_of_toLowerAscii h hascii,
      Text.normalize_eq_of_toLowerAscii hself hascii]
  rw [Text.ofText?_eq_of_normalize_eq hnormal, hquit]

namespace Chat

theorem messageOf_of_notMem {line : Text} (h : ':' ∉ line) :
    messageOf line = ⟨defaultAuthor, line⟩ := by
  rw [messageOf, Text.splitFirst_eq_none_iff.mpr h]

variable (painted : Bool)

theorem hearLine_of_accepts (bot : Bot) {spelling : Text} {request : Request}
    (hname : bot.settings.name ≠ defaultAuthor)
    (haccepts : Accepts bot.settings.maxRolls spelling request) (hcolon : ':' ∉ spelling) :
    hearLine painted bot spelling.toUtf8 =
      .next
        (replyText painted bot.settings.name
          (Report.ofOutcomes (request.roll bot.generator).1))
        { bot with generator := (request.roll bot.generator).2 } := by
  have htrimmed : Accepts bot.settings.maxRolls spelling.trim request :=
    ⟨(Text.ofText?_trim spelling).trans haccepts.1, haccepts.2⟩
  have hne : spelling.trim ≠ [] := by
    intro hnil
    have hread := htrimmed.1
    rw [hnil, Request.ofText?_nil] at hread
    contradiction
  have hquit : Text.toLowerAscii spelling.trim ≠ quitWord := by
    intro hword
    have hnone := Request.ofText?_quitWord hword
    rw [htrimmed.1] at hnone
    contradiction
  have hmessage : messageOf spelling.trim = ⟨defaultAuthor, spelling.trim⟩ :=
    messageOf_of_notMem fun hmem => hcolon (Text.mem_of_mem_trim hmem)
  have hheard : bot.hear ⟨defaultAuthor, spelling.trim⟩ =
      (some (Report.ofOutcomes (request.roll bot.generator).1),
        { bot with generator := (request.roll bot.generator).2 }) := by
    rw [Bot.hear_of_ne (Ne.symm hname), reply_of_accepts htrimmed]
  rw [hearLine, Text.ofUtf8?_toUtf8]
  simp only [if_neg hne, if_neg hquit, hmessage, hheard]

def exchange (painted : Bool) (name : Text) (replies : List Text) : Text :=
  replies.flatMap (fun answer => prompt ++ replyText painted name answer) ++ prompt

theorem exchange_cons (name answer : Text) (rest : List Text) :
    exchange painted name (answer :: rest) =
      prompt ++ replyText painted name answer ++ exchange painted name rest := by
  rw [exchange, List.flatMap_cons, List.append_assoc, ← exchange]

/-- The bot's generator goes on after each line as the batch's source does after
each request. -/
theorem hearLines_of_accepts {settings : Settings} {spellings : List Text}
    {requests : List Request} (hname : settings.name ≠ defaultAuthor)
    (haccepts : List.Forall₂ (Accepts settings.maxRolls) spellings requests)
    (hcolon : ∀ spelling ∈ spellings, ':' ∉ spelling) (generator : Generator) :
    hearLines painted ⟨settings, generator⟩ (spellings.map Text.toUtf8) =
      (exchange painted settings.name (Batch.reports requests generator), none) := by
  induction haccepts generalizing generator with
  | nil => rfl
  | @cons spelling request rest others hfirst _ ih =>
      have hstep := hearLine_of_accepts painted ⟨settings, generator⟩ hname hfirst
        (hcolon spelling List.mem_cons_self)
      have hrest := ih (fun other hother => hcolon other (List.mem_cons_of_mem spelling hother))
        (request.roll generator).2
      rw [List.map_cons, hearLines_cons_of_next painted hstep, hrest, Batch.reports_cons,
        exchange_cons]

end Chat

namespace Program

/-- A chat that is fed the texts of a batch, one on each line, answers each with the report
that the batch prints for it from the same seed, and prints nothing else but its banner and its
prompts. -/
theorem chat_answers_as_batch_reports {settings : Settings} {seed : UInt64}
    {spellings : List Text} (hseed : settings.seed = some seed)
    (hname : settings.name ≠ Chat.defaultAuthor)
    (haccepted : ∀ spelling ∈ spellings, ∃ request,
      Request.ofText? spelling = some request ∧ request.rolls ≤ settings.maxRolls)
    (hlines : ∀ spelling ∈ spellings, ':' ∉ spelling ∧ '\n' ∉ spelling)
    (rolling chatting : Surroundings) (hfed : Chat.Feeds chatting.input spellings)
    (name : Option Text) :
    ∃ requests reports,
      Batch.read settings.maxRolls spellings = .ok requests ∧
      reports = Batch.reports requests (Generator.ofSeed seed) ∧
      reports.length = spellings.length ∧
      perform rolling settings (.roll spellings false) =
        ⟨0, reports.flatMap fun report => report ++ ['\n'], []⟩ ∧
      perform chatting settings (.chat name) =
        ⟨0, Chat.banner (Chat.isPainted chatting.environment) settings.name ++
          Chat.exchange (Chat.isPainted chatting.environment) settings.name reports, []⟩ := by
  obtain ⟨requests, hread⟩ := Batch.exists_read_eq_ok haccepted
  have haccepts := Batch.read_eq_ok_iff.mp hread
  have hgenerator := Generator.start_of_seed hseed
  refine ⟨requests, _, hread, rfl, ?_, ?_, ?_⟩
  · rw [Batch.length_reports, haccepts.length_eq]
  · rw [perform, Batch.run_of_read_ok hread, hgenerator, ← Batch.report_roll]
    rfl
  · have hinput : Chat.linesOf chatting.input = spellings.map Text.toUtf8 := by
      refine Chat.linesOf_of_feeds hfed ?_ fun spelling h => (hlines spelling h).2
      rintro _ hnil rfl
      obtain ⟨request, hrequest, _⟩ := haccepted [] hnil
      rw [Request.ofText?_nil] at hrequest
      contradiction
    have hheard := Chat.hearLines_of_accepts (Chat.isPainted chatting.environment) hname
      haccepts (fun spelling h => (hlines spelling h).1) (Generator.ofSeed seed)
    rw [perform, Chat.run, hinput, Bot.start, hgenerator, hheard]
    rfl

theorem chat_answers_two_texts :
    let settings : Settings := Settings.standard.withSeed 7
    let spellings := ["dd+2".toList, " 2#DD20 v\t".toList]
    let rolling : Surroundings := ⟨⟨[], fun _ => none⟩, [], [], Vector.replicate 8 0⟩
    let chatting : Surroundings := { rolling with input := "dd+2\n 2#DD20 v\t".toUTF8.toList }
    let reports := Batch.reports
      [⟨1, .d12, .normal, .d6, 2⟩, ⟨2, .d20, .advantage, .d6, 0⟩] (Generator.ofSeed 7)
    reports.length = 2 ∧
      perform rolling settings (.roll spellings false) =
        ⟨0, reports.flatMap fun report => report ++ ['\n'], []⟩ ∧
      perform chatting settings (.chat none) =
        ⟨0, Chat.banner false "duality".toList ++
          Chat.exchange false "duality".toList reports, []⟩ := by
  intro settings spellings rolling chatting reports
  have haccepted : ∀ spelling ∈ spellings, ∃ request,
      Request.ofText? spelling = some request ∧ request.rolls ≤ settings.maxRolls := by
    intro spelling hspelling
    rcases List.mem_pair.mp hspelling with rfl | rfl
    · exact ⟨⟨1, .d12, .normal, .d6, 2⟩, by decide +kernel, by decide⟩
    · exact ⟨⟨2, .d20, .advantage, .d6, 0⟩, by decide +kernel, by decide⟩
  have hread : Batch.read settings.maxRolls spellings =
      .ok [⟨1, .d12, .normal, .d6, 2⟩, ⟨2, .d20, .advantage, .d6, 0⟩] := by
    decide +kernel
  obtain ⟨requests, _, hrequests, rfl, hlength, hroll, hchat⟩ :=
    chat_answers_as_batch_reports rfl (by decide) haccepted (by decide) rolling chatting
      (.inr (by decide +kernel)) none
  obtain rfl := Except.ok.inj (hread.symm.trans hrequests)
  exact ⟨hlength, hroll, hchat⟩

end Program

end DualityDice
