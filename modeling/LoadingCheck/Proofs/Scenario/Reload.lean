import LoadingCheck.Proofs.Json.Bounds
import LoadingCheck.Proofs.Scenario.Codec
import LoadingCheck.Script.Basic

set_option relaxedAutoImplicit false
set_option autoImplicit false

/-!
# Saving and loading a scenario

A scenario can be saved if its screenshot goes to a path that is text. It comes back as it was exactly if
the delays of its bridges are whole milliseconds of 64 bits; as long as their whole milliseconds have 64
bits, what comes back has the same script. A scenario that was loaded from a text is always saved and
loaded as it is.

## Main definitions

* `LoadingCheck.Scenario.DelaysExact` — the delays of bridges are whole milliseconds of 64 bits.
* `LoadingCheck.Scenario.DelaysFit` — their whole milliseconds have 64 bits.

## Main results

* `LoadingCheck.Scenario.reloaded_eq_iff` — the scenarios that come back as they were.
* `LoadingCheck.Scenario.source_reloaded` — the scenarios that come back with the same script.
* `LoadingCheck.Scenario.decoder_yields` — what a scenario that was loaded is like.
* `LoadingCheck.Scenario.save_load` — all of it.
-/

namespace LoadingCheck

open Json (Decoder Outline RecordForm Source)

/-! ### What comes back as it was -/

/-- The delay of a bridge is a number of whole milliseconds of 64 bits. -/
def Bridge.DelayExact (b : Bridge) : Prop :=
  ∃ n < 2 ^ 64, b.delay = .ofMillis n

/-- A bridge comes back as it was exactly if its delay is kept. -/
lemma Bridge.reloaded_eq_iff {b : Bridge} : b.reloaded = b ↔ b.DelayExact := by
  obtain ⟨response, delay⟩ := b
  constructor
  · intro h
    exact ⟨delay.millisWord, delay.millisWord_lt, (congrArg Bridge.delay h).symm⟩
  · rintro ⟨n, small, rfl : delay = .ofMillis n⟩
    have kept : (Duration.ofMillis n).millisWord = n := by
      rw [Duration.millisWord_of_lt, Duration.millis_ofMillis]
      rwa [Duration.millis_ofMillis]
    rw [reloaded, kept]

namespace Step

/-- The delay of a bridge in a step is a number of whole milliseconds of 64 bits. -/
def DelayExact : Step → Prop
  | .installBridge bridge _ => bridge.DelayExact
  | _ => True

/-- The whole milliseconds in the delay of a bridge in a step have 64 bits. -/
def DelayFits : Step → Prop
  | .installBridge bridge _ => bridge.delay.millis < 2 ^ 64
  | _ => True

lemma reloaded_eq_iff {s : Step} : s.reloaded = s ↔ s.DelayExact := by
  cases s with
  | installBridge bridge point =>
    rw [reloaded, Step.installBridge.injEq, DelayExact, Bridge.reloaded_eq_iff]
    exact and_iff_left rfl
  | navigate | click | settle | assertClass => exact iff_of_true rfl trivial

lemma name_reloaded (s : Step) : s.reloaded.name = s.name := by
  cases s with
  | installBridge bridge point => cases point <;> rfl
  | navigate | click | settle | assertClass => rfl

/-- A step comes back with the same statement if the milliseconds of its delay are kept. -/
lemma statement_reloaded {s : Step} (h : s.DelayFits) : s.reloaded.statement = s.statement := by
  cases s with
  | installBridge bridge point =>
    have millis : bridge.reloaded.delay.millis = bridge.delay.millis := by
      rw [Bridge.reloaded, Duration.millis_ofMillis]
      exact Duration.millisWord_of_lt h
    have source : bridge.reloaded.handlerSource = bridge.handlerSource := by
      rw [Bridge.handlerSource, Bridge.handlerSource, Bridge.handler, Bridge.handler, millis]
      rfl
    cases point with
    | beforeNavigation =>
      rw [reloaded, statement, statement, Bridge.installation, Bridge.installation, source]
    | afterLoad =>
      rw [reloaded, statement, statement, Bridge.installation, Bridge.installation, source]
  | navigate | click | settle | assertClass => rfl

lemma stepBlocks_reloaded {steps : List Step} (h : ∀ s ∈ steps, s.DelayFits) (index : ℕ) :
    Script.stepBlocks index (steps.map reloaded) = Script.stepBlocks index steps := by
  induction steps generalizing index with
  | nil => rfl
  | cons s steps ih =>
    have rest := ih (fun t ht => h t (List.mem_cons_of_mem _ ht)) (index + 1)
    rw [List.map_cons, Script.stepBlocks, Script.stepBlocks, rest, Script.stepBlock, Script.stepBlock,
      name_reloaded, statement_reloaded (h s List.mem_cons_self)]

lemma map_reloaded_eq_iff {steps : List Step} :
    steps.map reloaded = steps ↔ ∀ s ∈ steps, s.DelayExact := by
  induction steps with
  | nil => simp
  | cons s steps ih =>
    rw [List.map_cons, List.cons.injEq, reloaded_eq_iff, ih, List.forall_mem_cons]

end Step

namespace Scenario

/-- The delays of bridges are whole milliseconds of 64 bits. -/
def DelaysExact (s : Scenario) : Prop :=
  ∀ step ∈ s.steps, step.DelayExact

/-- The whole milliseconds in the delays of bridges have 64 bits. -/
def DelaysFit (s : Scenario) : Prop :=
  ∀ step ∈ s.steps, step.DelayFits

/-- The scenarios that come back as they were. -/
theorem reloaded_eq_iff {s : Scenario} : s.reloaded = s ↔ s.DelaysExact := by
  rw [DelaysExact, ← Step.map_reloaded_eq_iff]
  constructor
  · intro h
    exact congrArg Scenario.steps h
  · intro h
    rw [reloaded, h]

/-- Coming back as it was and coming back as the same scenario is one thing, since the path of the
screenshot is kept. -/
theorem same_reloaded_iff {s : Scenario} : s.reloaded.same s = true ↔ s.DelaysExact := by
  rw [DelaysExact, ← Step.map_reloaded_eq_iff, same, reloaded]
  simp [Path.same]

/-- The scenarios that come back with the same script. -/
theorem source_reloaded {s : Scenario} (h : s.DelaysFit) (settings : Settings) (cwd : Option Path) :
    Script.source settings cwd s.reloaded = Script.source settings cwd s := by
  rw [Script.source, Script.source, Script.fragments, Script.fragments, reloaded,
    Step.stepBlocks_reloaded h]

end Scenario

/-! ### What was loaded -/

lemma Bridge.decoder_yields : decoder.Yields Bridge.DelayExact := by
  have delays : delayDecoder.Yields fun d => ∃ n < 2 ^ 64, d = .ofMillis n := by
    intro source v d small h
    obtain ⟨n, word, rfl⟩ := map_eq_ok.mp h
    have bound : n ≤ Json.maxSignificand := Decoder.yields_word "u64" source v n small word
    rw [Json.maxSignificand] at bound
    exact ⟨n, by omega, rfl⟩
  intro source v b small h
  rw [decoder, bind_eq_ok] at h
  obtain ⟨⟨response, delay⟩, members, done⟩ := h
  rw [← Except.ok.inj done]
  exact (Decoder.yields_pair (P := fun _ => True) (fun _ _ _ _ _ => trivial) delays
    source v _ small members).2

/-- A step that was loaded waits for a time of 64 bits and has a delay that is kept. -/
lemma Step.decoder_yields : decoder.Yields fun s => s.InWords ∧ s.DelayExact := by
  intro source v s small h
  rw [decoder, bind_eq_ok] at h
  obtain ⟨⟨kind, content⟩, tagged, h⟩ := h
  have inside : content.Small := Decoder.yields_tagged _ _ _ source v _ small tagged
  cases kind with
  | installBridge =>
    rw [contentDecoder, bind_eq_ok] at h
    obtain ⟨⟨bridge, point⟩, members, done⟩ := h
    rw [← Except.ok.inj done]
    exact ⟨trivial, (Decoder.yields_pair Bridge.decoder_yields (Q := fun _ => True)
      (fun _ _ _ _ _ => trivial) _ _ _ inside members).1⟩
  | navigate =>
    obtain ⟨_, _, rfl⟩ := map_eq_ok.mp h
    exact ⟨trivial, trivial⟩
  | click =>
    obtain ⟨_, _, rfl⟩ := map_eq_ok.mp h
    exact ⟨trivial, trivial⟩
  | settle =>
    obtain ⟨millis, member, rfl⟩ := map_eq_ok.mp h
    have bound : millis ≤ Json.maxSignificand :=
      Decoder.yields_single (Decoder.yields_word "u64") _ _ _ inside member
    rw [Json.maxSignificand] at bound
    exact ⟨by rw [InWords]; omega, trivial⟩
  | assertClass =>
    rw [contentDecoder, bind_eq_ok] at h
    obtain ⟨_, _, done⟩ := h
    rw [← Except.ok.inj done]
    exact ⟨trivial, trivial⟩

lemma Path.decoder_yields : decoder.Yields Path.IsText := by
  intro source v p _ h
  obtain ⟨s, _, rfl⟩ := map_eq_ok.mp h
  exact ⟨s, rfl⟩

lemma Screenshot.decoder_yields : decoder.Yields fun s => s.path.IsText := by
  intro source v s small h
  rw [decoder, bind_eq_ok] at h
  obtain ⟨⟨path?, fullPage?⟩, read, h⟩ := h
  have inv : ∀ p, path? = some p → p.IsText := by
    refine RecordForm.yields_decode
      (fun d : Option Path × Option Bool => ∀ p, d.1 = some p → p.IsText) ?_ ?_
      source v (path?, fullPage?) small read
    · intro source name v draft draft' small start put
      dsimp only [form] at put
      split_ifs at put
      · obtain ⟨p, decoded, rfl⟩ := map_eq_ok.mp put
        rintro _ ⟨⟩
        exact Path.decoder_yields _ _ _ small decoded
      · obtain ⟨_, _, rfl⟩ := map_eq_ok.mp put
        exact start
    · exact fun _ h => absurd h.symm (Option.some_ne_none _)
  dsimp only at h
  rw [bind_eq_ok] at h
  obtain ⟨path, present, done⟩ := h
  rw [← Except.ok.inj done]
  exact inv path (Decoder.required_eq_ok.mp present)

namespace Scenario

/-- What a scenario that was loaded is like. -/
theorem decoder_yields :
    decoder.Yields fun s => s.InWords ∧ s.DelaysExact ∧ s.screenshot.path.IsText := by
  intro source v s small h
  rw [decoder, bind_eq_ok] at h
  obtain ⟨draft, read, h⟩ := h
  have inv : (∀ steps, draft.steps = some steps → ∀ step ∈ steps, step.InWords ∧ step.DelayExact) ∧
      ∀ shot, draft.screenshot = some shot → shot.path.IsText := by
    refine RecordForm.yields_decode
      (fun d : Draft =>
        (∀ steps, d.steps = some steps → ∀ step ∈ steps, step.InWords ∧ step.DelayExact) ∧
          ∀ shot, d.screenshot = some shot → shot.path.IsText) ?_ ?_
      source v draft small read
    · intro source name v draft draft' small start put
      dsimp only [form] at put
      split at put
      · obtain ⟨_, _, done⟩ := bind_eq_ok.mp put
        rw [← Except.ok.inj done]
        exact start
      · obtain ⟨steps, decoded, done⟩ := bind_eq_ok.mp put
        rw [← Except.ok.inj done]
        refine ⟨?_, start.2⟩
        rintro _ ⟨⟩
        exact Decoder.yields_list Step.decoder_yields _ _ _ small decoded
      · obtain ⟨shot, decoded, done⟩ := bind_eq_ok.mp put
        rw [← Except.ok.inj done]
        refine ⟨start.1, ?_⟩
        rintro _ ⟨⟩
        exact Screenshot.decoder_yields _ _ _ small decoded
    · exact ⟨fun _ h => absurd h.symm (Option.some_ne_none _),
        fun _ h => absurd h.symm (Option.some_ne_none _)⟩
  rw [bind_eq_ok] at h
  obtain ⟨name, _, h⟩ := h
  rw [bind_eq_ok] at h
  obtain ⟨steps, hsteps, h⟩ := h
  rw [bind_eq_ok] at h
  obtain ⟨shot, hshot, done⟩ := h
  rw [← Except.ok.inj done]
  have all := inv.1 steps (Decoder.required_eq_ok.mp hsteps)
  exact ⟨fun step hs => (all step hs).1, fun step hs => (all step hs).2,
    inv.2 shot (Decoder.required_eq_ok.mp hshot)⟩

/-- Exactly the scenarios whose screenshots go to the path of a text can be saved. -/
theorem isText_iff_toJson {s : Scenario} : s.screenshot.path.IsText ↔ ∃ v, s.toJson = .ok v := by
  constructor
  · rintro ⟨path, hp⟩
    exact ⟨_, toJson_eq_ok_iff.mpr ⟨path, hp, rfl⟩⟩
  · rintro ⟨v, h⟩
    obtain ⟨path, hp, _⟩ := toJson_eq_ok_iff.mp h
    exact ⟨path, hp⟩

/-- **Saving and loading.** A scenario is not saved exactly if its screenshot goes to a path that is no
text. If it is saved, then it can be loaded; it comes back as it was exactly if the delays of its bridges
are whole milliseconds of 64 bits; and if only their whole milliseconds have 64 bits, what comes back has
the same script under all settings and in every directory. Of a scenario that was loaded from a text, what
is saved is loaded as it, and is saved as the same again. -/
theorem save_load :
    (∀ s : Scenario, s.InWords →
      ((∃ failure, s.toJson = .error failure) ↔ ¬ s.screenshot.path.IsText) ∧
      ∀ v, s.toJson = .ok v →
        ∃ t, Json.decodeText decoder v.compact.toList = .ok t ∧
          (t.same s = true ↔ s.DelaysExact) ∧ (t = s ↔ s.DelaysExact) ∧
          (s.DelaysFit → ∀ settings cwd, Script.source settings cwd t = Script.source settings cwd s)) ∧
    ∀ text s, Json.decodeText decoder text = .ok s →
      ∃ v, s.toJson = .ok v ∧
        ∃ t, Json.decodeText decoder v.compact.toList = .ok t ∧
          t = s ∧ t.same s = true ∧ t.toJson = .ok v := by
  constructor
  · intro s words
    constructor
    · rw [isText_iff_toJson]
      cases s.toJson <;> simp
    · intro v saved
      refine ⟨s.reloaded, decodeText_compact words saved, same_reloaded_iff, reloaded_eq_iff, ?_⟩
      exact fun fits settings cwd => source_reloaded fits settings cwd
  · intro text s loaded
    obtain ⟨words, exactly, path⟩ := Json.decodeText_yields decoder_yields loaded
    obtain ⟨v, saved⟩ := isText_iff_toJson.mp path
    have back : s.reloaded = s := reloaded_eq_iff.mpr exactly
    refine ⟨v, saved, s.reloaded, decodeText_compact words saved, back, ?_, ?_⟩
    · exact same_reloaded_iff.mpr exactly
    · rw [back, saved]

/-- A scenario whose bridge answers a nanosecond after a whole millisecond. -/
def fractional : Scenario :=
  ⟨"fractional", [.installBridge ⟨.standard, ⟨2000000001⟩⟩ .afterLoad, .settle 500],
    ⟨.ofString "/shot.png", false⟩⟩

/-- It can be saved and loaded, comes back as another scenario, and has the same script. -/
theorem fractional_reloaded :
    ∃ v t, fractional.toJson = .ok v ∧ Json.decodeText decoder v.compact.toList = .ok t ∧
      t.same fractional = false ∧
      Script.source {} none t = Script.source {} none fractional := by
  have words : fractional.InWords := by
    simp [fractional, InWords, Step.InWords]
  have fits : fractional.DelaysFit := by
    simp [fractional, DelaysFit, Step.DelayFits, Duration.millis]
  have inexact : ¬ fractional.DelaysExact := by
    intro h
    obtain ⟨n, _, delay⟩ := h _ List.mem_cons_self
    have nanos : 2000000001 = n * 1000000 := congrArg Duration.nanos delay
    omega
  obtain ⟨failing, loading⟩ := save_load.1 fractional words
  cases saved : fractional.toJson with
  | error failure => exact absurd ⟨"/shot.png", rfl⟩ (failing.mp ⟨failure, saved⟩)
  | ok v =>
    obtain ⟨t, loaded, same, _, script⟩ := loading v saved
    refine ⟨v, t, rfl, loaded, ?_, script fits {} none⟩
    rw [← Bool.not_eq_true, same]
    exact inexact

end Scenario

end LoadingCheck
