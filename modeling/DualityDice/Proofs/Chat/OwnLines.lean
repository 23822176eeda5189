import DualityDice.Program
import DualityDice.Proofs.Chat.Session

/-!
Whether a bot passes over the lines that bear its name. A chat takes what stands before
the first colon of a line, without the white space around it, for the author, and looks
for the name as it is.
-/

namespace DualityDice

theorem Settings.trim_name_ne_nil {settings : Settings} (h : settings.validate = .ok ()) :
    settings.name.trim ≠ [] := by
  intro hnil
  rw [validate, fault?, if_pos hnil] at h
  contradiction

namespace Chat

def lineOf (author text : Text) : Text :=
  author ++ ": ".toList ++ text

/-- A name that a chat can read off a line as the author: it has no colon and no white
space around it. -/
def IsAuthor (name : Text) : Prop :=
  name.trim = name ∧ ':' ∉ name

instance (name : Text) : Decidable (IsAuthor name) :=
  inferInstanceAs (Decidable (name.trim = name ∧ ':' ∉ name))

/-- What a chat takes for the text of an author's line. Where the author's name has a
colon, a part of the name belongs to it. -/
def spoken (author text : Text) : Text :=
  match author.splitFirst ':' with
  | none => text
  | some (before, behind) =>
      if before.trim = [] then lineOf author text else lineOf behind text

theorem lineOf_eq (author text : Text) : lineOf author text = author ++ ':' :: ' ' :: text := by
  rw [lineOf, List.append_assoc]
  rfl

theorem isBlank_colon : Text.isBlank ':' = false := by
  decide

theorem messageOf_trim {before : Text} (h : ':' ∉ before) (behind : Text) :
    messageOf (before ++ ':' :: behind).trim =
      if before.trim = [] then ⟨defaultAuthor, (before ++ ':' :: behind).trim⟩
      else ⟨before.trim, behind.trim⟩ := by
  have htrim := Text.trim_append_cons isBlank_colon before behind
  have hsplit : (before ++ ':' :: behind).trim.splitFirst ':' =
      some (Text.trimStart Text.isBlank before, Text.trimEnd Text.isBlank behind) := by
    rw [Text.splitFirst_eq_some_iff]
    refine ⟨htrim, ?_⟩
    intro hmem
    exact h ((List.dropWhile_sublist _).mem hmem)
  rw [messageOf, hsplit]
  simp only [Text.trim_trimStart, Text.trim_trimEnd]

section Own

variable (author text : Text)

theorem colon_mem_trim_lineOf : ':' ∈ (lineOf author text).trim := by
  rw [lineOf_eq, Text.trim_append_cons isBlank_colon]
  simp

theorem stops_lineOf : stops (lineOf author text).toUtf8 = false := by
  rw [stops, textOf?_toUtf8]
  apply decide_eq_false
  intro hquit
  have hmem : ':'.toLower ∈ Text.toLowerAscii (lineOf author text).trim :=
    List.mem_map_of_mem (colon_mem_trim_lineOf author text)
  rw [hquit] at hmem
  revert hmem
  decide

theorem messageIn?_lineOf :
    messageIn? (lineOf author text).toUtf8 = some (messageOf (lineOf author text).trim) := by
  have hne : (lineOf author text).trim ≠ [] :=
    List.ne_nil_of_mem (colon_mem_trim_lineOf author text)
  rw [messageIn?, textOf?_toUtf8, Option.bind_some, if_neg hne]

theorem lineFeed_notMem_lineOf {author text : Text} (hauthor : '\n' ∉ author)
    (htext : '\n' ∉ text) : 10 ∉ (lineOf author text).toUtf8 := by
  apply Text.lineFeed_notMem_toUtf8
  rw [lineOf_eq]
  simp [hauthor, htext]

end Own

/-- The author that is read off a line is the name only if the name has no colon, so
that all of it is read, and loses nothing when it is trimmed. -/
theorem messageOf_lineOf {name : Text} (hname : name.trim ≠ []) (text : Text) :
    ((messageOf (lineOf name text).trim).author = name ↔ IsAuthor name) ∧
      Request.ofText? (messageOf (lineOf name text).trim).content =
        Request.ofText? (spoken name text) := by
  cases hsplit : name.splitFirst ':' with
  | none =>
      have hcolon : ':' ∉ name := Text.splitFirst_eq_none_iff.mp hsplit
      have hspace : Text.trim (' ' :: text) = text.trim := by
        have hblank : ∀ c ∈ [' '], Text.isBlank c = true := by
          intro c hc
          rw [List.mem_singleton.mp hc]
          rfl
        have htrim := Text.trim_append_blanks text hblank fun _ hc => absurd hc List.not_mem_nil
        rwa [List.append_nil] at htrim
      have hspoken : spoken name text = text := by
        rw [spoken, hsplit]
      rw [lineOf_eq, messageOf_trim hcolon, if_neg hname, hspace, hspoken]
      exact ⟨⟨fun h => ⟨h, hcolon⟩, And.left⟩, Text.ofText?_trim text⟩
  | some parts =>
      -- The line is cut within the name, so that no author that is read off it is the name.
      obtain ⟨before, behind⟩ := parts
      obtain ⟨hparts, hcolon⟩ := Text.splitFirst_eq_some_iff.mp hsplit
      have hmem : ':' ∈ name := by
        rw [hparts]
        simp
      have hauthor : ¬IsAuthor name := fun h => h.2 hmem
      have hline : lineOf name text = before ++ ':' :: lineOf behind text := by
        rw [lineOf_eq, lineOf_eq, hparts]
        simp
      have hmessage := messageOf_trim hcolon (lineOf behind text)
      rw [← hline] at hmessage
      rw [hmessage, spoken, hsplit]
      dsimp only
      split
      · have hdefault : defaultAuthor ≠ name := by
          rintro rfl
          revert hmem
          decide
        exact ⟨iff_of_false hdefault hauthor, Text.ofText?_trim _⟩
      · have hother : before.trim ≠ name := by
          intro heq
          rw [← heq] at hmem
          exact hcolon (Text.mem_of_mem_trim hmem)
        exact ⟨iff_of_false hother hauthor, Text.ofText?_trim _⟩

def PassesOver (settings : Settings) (text : Text) : Prop :=
  IsAuthor settings.name ∨ Refused settings.maxRolls (spoken settings.name text)

section PassesOver

variable {bot : Bot} {text : Text} (painted : Bool)

theorem ignores_lineOf_iff {settings : Settings} (hname : settings.name.trim ≠ []) (text : Text) :
    settings.Ignores (messageOf (lineOf settings.name text).trim) ↔ PassesOver settings text := by
  obtain ⟨hauthor, hcontent⟩ := messageOf_lineOf hname text
  rw [Settings.Ignores, hauthor, Refused, hcontent]
  rfl

theorem hearLine_of_passesOver (hname : bot.settings.name.trim ≠ [])
    (h : PassesOver bot.settings text) :
    hearLine painted bot (lineOf bot.settings.name text).toUtf8 = .next [] bot := by
  have hheard := Bot.hear_of_ignores ((ignores_lineOf_iff hname text).mpr h)
  rw [hearLine_of_not_stops painted bot (stops_lineOf _ _), messageIn?_lineOf]
  simp only [hheard, Option.elim_none]

theorem hearLine_of_not_passesOver (hname : bot.settings.name.trim ≠ [])
    (h : ¬PassesOver bot.settings text) :
    ∃ request, Request.ofText? (spoken bot.settings.name text) = some request ∧
      ¬bot.settings.maxRolls < request.rolls ∧
      hearLine painted bot (lineOf bot.settings.name text).toUtf8 =
        .next
          (replyText painted bot.settings.name
            (Report.ofOutcomes (request.roll bot.generator).1))
          { bot with generator := (request.roll bot.generator).2 } := by
  obtain ⟨hauthor, hcontent⟩ := messageOf_lineOf hname text
  obtain ⟨hown, hanswered⟩ := not_or.mp h
  obtain ⟨request, hread, hlimit⟩ := exists_request_of_not_refused hanswered
  refine ⟨request, hread, hlimit, ?_⟩
  rw [hearLine_of_not_stops painted bot (stops_lineOf _ _), messageIn?_lineOf]
  have hheard : bot.hear (messageOf (lineOf bot.settings.name text).trim) =
      (some (Report.ofOutcomes (request.roll bot.generator).1),
        { bot with generator := (request.roll bot.generator).2 }) := by
    rw [Bot.hear_of_ne (hauthor.not.mpr hown), reply_of_not_lt (hcontent.trans hread) hlimit]
  simp only [hheard, Option.elim_some]

theorem replyText_ne_nil (name answer : Text) : replyText painted name answer ≠ [] :=
  List.append_ne_nil_of_right_ne_nil _ (List.cons_ne_nil _ _)

theorem hearLine_lineOf_iff (hname : bot.settings.name.trim ≠ []) :
    hearLine painted bot (lineOf bot.settings.name text).toUtf8 = .next [] bot ↔
      PassesOver bot.settings text := by
  constructor
  · intro hsilent
    apply Classical.byContradiction
    intro h
    obtain ⟨request, _, _, hheard⟩ := hearLine_of_not_passesOver painted hname h
    rw [hsilent] at hheard
    obtain ⟨hprinted, _⟩ := Step.next.inj hheard
    exact replyText_ne_nil painted _ _ hprinted.symm
  · exact hearLine_of_passesOver painted hname

theorem exists_run_beside_line {line : Bytes} (hline : 10 ∉ line)
    (hsilent : ∀ after : Bot, after.settings = bot.settings →
      hearLine painted after line = .next [] after)
    {ended : List Bytes} (hended : ∀ other ∈ ended, 10 ∉ other ∧ stops other = false)
    (rest : Bytes) :
    ∃ before behind error,
      run painted bot (ended.flatMap fun other => other ++ [10]) = (before ++ prompt, none) ∧
      run painted bot ((ended.flatMap fun other => other ++ [10]) ++ rest) =
        (before ++ behind, error) ∧
      run painted bot ((ended.flatMap fun other => other ++ [10]) ++ line ++ 10 :: rest) =
        (before ++ prompt ++ behind, error) := by
  have hlines : ∀ other ∈ ended, 10 ∉ other := fun other hother => (hended other hother).1
  obtain ⟨printed, after, hafter, hmore⟩ :=
    exists_hearLines_append bot painted fun other hother => (hended other hother).2
  have hstep := hearLines_cons_of_next painted (hsilent after hafter) (linesOf rest)
  refine ⟨banner painted bot.settings.name ++ printed, (hearLines painted after (linesOf rest)).1,
    (hearLines painted after (linesOf rest)).2, ?_, ?_, ?_⟩
  · have hnone := hmore []
    rw [List.append_nil] at hnone
    rw [run, linesOf_flatMap hlines, hnone, hearLines, List.append_assoc]
  · rw [run, linesOf_flatMap_append hlines, hmore, List.append_assoc]
  · rw [run, List.append_assoc, linesOf_flatMap_append hlines, linesOf_append_cons hline,
      hmore, hstep]
    simp only [List.append_nil, List.append_assoc]

end PassesOver

/-- The line that bears a bot's own name gets no reply and draws nothing just if the name is
one that a chat reads as an author, or if what the chat takes for the text of the line is
refused. Else it is rolled like the text of anyone. -/
theorem own_line_silent_iff (painted : Bool) {bot : Bot} {text : Text}
    (hvalid : bot.settings.validate = .ok ()) (hname : '\n' ∉ bot.settings.name)
    (htext : '\n' ∉ text) :
    let line := (lineOf bot.settings.name text).toUtf8
    (hearLine painted bot line = .next [] bot ↔
      IsAuthor bot.settings.name ∨
        Refused bot.settings.maxRolls (spoken bot.settings.name text)) ∧
    (hearLine painted bot line ≠ .next [] bot →
      ∃ request, Request.ofText? (spoken bot.settings.name text) = some request ∧
        request.rolls ≤ bot.settings.maxRolls ∧
        hearLine painted bot line =
          .next
            (replyText painted bot.settings.name
              (Report.ofOutcomes (request.roll bot.generator).1))
            { bot with generator := (request.roll bot.generator).2 }) ∧
    (hearLine painted bot line = .next [] bot →
      ∀ (ended : List Bytes) (rest : Bytes),
        (∀ other ∈ ended, 10 ∉ other ∧ stops other = false) →
        ∃ before behind error,
          run painted bot (ended.flatMap fun other => other ++ [10]) =
            (before ++ prompt, none) ∧
          run painted bot ((ended.flatMap fun other => other ++ [10]) ++ rest) =
            (before ++ behind, error) ∧
          run painted bot ((ended.flatMap fun other => other ++ [10]) ++ line ++ 10 :: rest) =
            (before ++ prompt ++ behind, error)) := by
  intro line
  have hblank := Settings.trim_name_ne_nil hvalid
  have hiff : hearLine painted bot line = .next [] bot ↔ PassesOver bot.settings text :=
    hearLine_lineOf_iff painted hblank
  refine ⟨hiff, ?_, ?_⟩
  · intro hanswered
    obtain ⟨request, hread, hlimit, hheard⟩ :=
      hearLine_of_not_passesOver painted hblank (hiff.not.mp hanswered)
    exact ⟨request, hread, UInt32.not_lt.mp hlimit, hheard⟩
  · intro hsilent ended rest hended
    have hpasses := hiff.mp hsilent
    refine exists_run_beside_line painted (lineFeed_notMem_lineOf hname htext) ?_ hended rest
    intro after hafter
    rw [← hafter] at hblank hpasses ⊢
    exact hearLine_of_passesOver painted hblank hpasses

def padded : Settings :=
  (Settings.standard.withName " bot".toList).withSeed 1

theorem not_passesOver_padded : ¬PassesOver padded "dd".toList := by
  rintro (⟨htrim, _⟩ | hread | ⟨request, hread, hlimit⟩)
  · revert htrim
    decide
  · revert hread
    decide +kernel
  · have hrolls : Request.ofText? "dd".toList = some {} := by
      decide +kernel
    obtain rfl := Option.some.inj (hrolls.symm.trans hread)
    revert hlimit
    decide

/-- The same text in the lines of two bots, of which one has a name with white space
before it. -/
theorem own_line_silent_unless_padded :
    let plain := Bot.start (Settings.standard.withSeed 1) (Vector.replicate 8 0)
    let spaced := Bot.start padded (Vector.replicate 8 0)
    hearLine false plain (lineOf "duality".toList "dd".toList).toUtf8 = .next [] plain ∧
      hearLine false spaced (lineOf " bot".toList "dd".toList).toUtf8 ≠ .next [] spaced := by
  intro plain spaced
  have hplain := @own_line_silent_iff false plain "dd".toList rfl (by decide) (by decide)
  have hspaced := @own_line_silent_iff false spaced "dd".toList rfl (by decide) (by decide)
  refine ⟨hplain.1.mpr (.inl (by decide)), ?_⟩
  intro hsilent
  exact not_passesOver_padded (hspaced.1.mp hsilent)

theorem own_lines_not_all_silent :
    ¬∀ (settings : Settings) (key : ChaCha.Key) (text : Text),
      settings.validate = .ok () → '\n' ∉ settings.name → '\n' ∉ text →
        hearLine false (Bot.start settings key) (lineOf settings.name text).toUtf8 =
          .next [] (Bot.start settings key) := by
  intro hall
  have hsilent := hall padded (Vector.replicate 8 0) "dd".toList rfl (by decide) (by decide)
  have hname : padded.name.trim ≠ [] := by
    decide
  exact not_passesOver_padded ((hearLine_lineOf_iff false hname).mp hsilent)

end Chat

end DualityDice
