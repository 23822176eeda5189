import DualityDice.Proofs.Batch.Refusal
import DualityDice.Proofs.Explanation
import DualityDice.Proofs.Silence

namespace DualityDice

/-- Whether a text may stand for another one: it is the same, or the canonical spelling of
the request that the other one spells. -/
inductive Respells (spelling : Text) : Text → Prop where
  | same : Respells spelling spelling
  | canonical {request : Request} (h : Request.ofText? spelling = some request) :
      Respells spelling request.canonical

def Message.Respells (message other : Message) : Prop :=
  other.author = message.author ∧ DualityDice.Respells message.content other.content

section

variable {spelling other : Text}

theorem Respells.ofText?_eq (h : Respells spelling other) :
    Request.ofText? other = Request.ofText? spelling := by
  cases h with
  | same => rfl
  | canonical hread => rw [hread, Request.ofText?_canonical_of_ofText? hread]

theorem Respells.read_eq (h : Respells spelling other) :
    Request.read other = Request.read spelling := by
  cases h with
  | same => rfl
  | canonical hread =>
      rw [Request.read, Request.read, hread, Request.ofText?_canonical_of_ofText? hread]

theorem Respells.reply_eq {σ : Type} [Source σ] (h : Respells spelling other)
    (allowed : UInt32) (source : σ) : reply allowed other source = reply allowed spelling source := by
  rw [reply, reply, h.ofText?_eq]

theorem Message.Respells.hear_eq {message changed : Message} (h : message.Respells changed)
    (bot : Bot) : bot.hear changed = bot.hear message := by
  rw [Bot.hear, Bot.hear, h.1, h.2.reply_eq]

end

namespace Batch

theorem read_of_respells {spellings others : List Text}
    (h : List.Forall₂ Respells spellings others) (allowed : UInt32) :
    read allowed others = read allowed spellings := by
  induction h with
  | nil => rfl
  | cons hfirst _ ih => rw [read_cons, read_cons, ih, readOne, readOne, hfirst.read_eq]

theorem run_of_respells {settings : Settings} {seed : UInt64} {spellings others : List Text}
    (hseed : settings.seed = some seed) (h : List.Forall₂ Respells spellings others)
    (asJson : Bool) (key fallback : ChaCha.Key) :
    run settings others asJson key = run settings spellings asJson fallback := by
  rw [run, run, runOver_congr _ (read_of_respells h _), Generator.start_of_seed hseed,
    Generator.start_of_seed hseed]

end Batch

namespace Program

/-- A canonical spelling is explained in the words of the text that it stands for, and only
texts that spell one request are explained alike. In a batch with a seed, and among the
messages of a bot, it changes nothing. -/
theorem canonical_spelling_changes_nothing :
    (∀ (surroundings : Surroundings) (settings : Settings) (spelling : Text),
      (perform surroundings settings (.explain spelling)).status = 0 →
      ∃ (request : Request) (table : Text), Request.ofText? spelling = some request ∧
        (perform surroundings settings (.explain spelling)).printed =
          table ++ "\n\n  Canonical notation: ".toList ++ request.canonical ++ ['\n'] ∧
        ∀ (others : Surroundings) (preferred : Settings),
          perform others preferred (.explain request.canonical) =
            perform surroundings settings (.explain spelling)) ∧
    (∀ (surroundings : Surroundings) (settings : Settings) (first second : Text),
      (perform surroundings settings (.explain first)).status = 0 →
      (perform surroundings settings (.explain second)).status = 0 →
      ((perform surroundings settings (.explain first)).printed =
          (perform surroundings settings (.explain second)).printed ↔
        Request.ofText? first = Request.ofText? second)) ∧
    (∀ (surroundings others : Surroundings) (settings : Settings) (seed : UInt64)
      (spellings respelled : List Text) (asJson : Bool), settings.seed = some seed →
      List.Forall₂ Respells spellings respelled →
      perform others settings (.roll respelled asJson) =
        perform surroundings settings (.roll spellings asJson)) ∧
    (∀ (bot : Bot) (messages respelled : List Message),
      List.Forall₂ Message.Respells messages respelled →
      bot.hearAll respelled = bot.hearAll messages) := by
  refine ⟨?_, ?_, ?_, ?_⟩
  · intro surroundings settings spelling hstatus
    obtain ⟨request, hread⟩ :=
      (status_perform_explain_eq_zero_iff surroundings settings).mp hstatus
    refine ⟨request, Text.joinLines (Explanation.grid request).lines, hread, ?_, ?_⟩
    · rw [perform_explain_of_some surroundings settings hread]
      rfl
    · intro others preferred
      rw [perform_explain_of_some surroundings settings hread,
        perform_explain_of_some others preferred (Request.ofText?_canonical_of_ofText? hread)]
  · intro surroundings settings first second hfirst hsecond
    obtain ⟨request, hread⟩ := (status_perform_explain_eq_zero_iff surroundings settings).mp hfirst
    obtain ⟨other, hother⟩ := (status_perform_explain_eq_zero_iff surroundings settings).mp hsecond
    rw [perform_explain_of_some surroundings settings hread,
      perform_explain_of_some surroundings settings hother, hread, hother, Option.some.injEq]
    exact Explanation.ofRequest_inj ⟨first, hread⟩ ⟨second, hother⟩
  · intro surroundings others settings seed spellings respelled asJson hseed hrespelled
    rw [perform, perform, Batch.run_of_respells hseed hrespelled asJson _ surroundings.key]
  · intro bot messages respelled hrespelled
    apply Bot.hearAll_congr
    refine hrespelled.imp ?_
    intro message other h state _
    exact h.hear_eq state

theorem respelled_advantage_changes_nothing :
    let surroundings : Surroundings := ⟨⟨[], fun _ => none⟩, [], [], Vector.replicate 8 0⟩
    let others : Surroundings := { surroundings with key := Vector.replicate 8 1 }
    let settings := Settings.standard.withSeed 7
    let free := " 03 # DD20 xV I+05".toList
    let canonical := "3#dd20vv+5".toList
    perform others settings (.explain canonical) = perform surroundings .standard (.explain free) ∧
      (perform surroundings .standard (.explain free)).printed ≠
        (perform surroundings .standard (.explain "3#dd20v+5".toList)).printed ∧
      perform others settings (.roll ["dd".toList, canonical] true) =
        perform surroundings settings (.roll ["dd".toList, free] true) ∧
      ((Bot.start settings surroundings.key).hearAll [⟨"ana".toList, canonical⟩]).1 =
        ((Bot.start settings surroundings.key).hearAll [⟨"ana".toList, free⟩]).1 := by
  intro surroundings others settings free canonical
  obtain ⟨hexplained, hwords, hrolled, hheard⟩ := canonical_spelling_changes_nothing
  have hread : Request.ofText? free = some ⟨3, .d20, .advantage, .d8, 5⟩ := by
    decide +kernel
  have hother : Request.ofText? "3#dd20v+5".toList = some ⟨3, .d20, .advantage, .d6, 5⟩ := by
    decide +kernel
  have hcanonical : (⟨3, .d20, .advantage, .d8, 5⟩ : Request).canonical = canonical := by
    decide +kernel
  have hstatus := (status_perform_explain_eq_zero_iff surroundings .standard).mpr ⟨_, hread⟩
  have hrespells : Respells free canonical := hcanonical ▸ Respells.canonical hread
  refine ⟨?_, ?_, ?_, ?_⟩
  · obtain ⟨request, _, hfound, _, hsame⟩ := hexplained surroundings .standard free hstatus
    obtain rfl := Option.some.inj (hread.symm.trans hfound)
    rw [← hcanonical]
    exact hsame others settings
  · intro hprinted
    have hsame := (hwords surroundings .standard _ _ hstatus
      ((status_perform_explain_eq_zero_iff surroundings .standard).mpr ⟨_, hother⟩)).mp hprinted
    rw [hread, hother] at hsame
    exact absurd hsame (by decide)
  · exact hrolled surroundings others settings 7 _ _ true rfl (.cons .same (.cons hrespells .nil))
  · have hsame := hheard (Bot.start settings surroundings.key) [⟨"ana".toList, free⟩]
      [⟨"ana".toList, canonical⟩] (.cons ⟨rfl, hrespells⟩ .nil)
    rw [hsame]

end Program

end DualityDice
