import LoadingCheck.Proofs.Json.Decode
import LoadingCheck.Proofs.Json.Text
import LoadingCheck.Proofs.Path.Codec
import Mathlib.Algebra.Group.Nat.Defs
import Mathlib.Data.List.Forall2

set_option relaxedAutoImplicit false
set_option autoImplicit false

/-!
# What comes back when a scenario is written and read

Everything in a scenario comes back as it was, except for the delay of a bridge: it is written in whole
milliseconds, of which 64 bits are kept.

## Main definitions

* `LoadingCheck.Scenario.reloaded` — a scenario as it comes back.
* `LoadingCheck.Scenario.InWords` — the times that steps wait have 64 bits.

## Main results

* `LoadingCheck.Scenario.toJson_eq_ok_iff` — the scenarios that can be written.
* `LoadingCheck.Scenario.decodeText_compact` — what is read from the text of a written scenario.
-/

namespace LoadingCheck

open Json (Decoder Outline RecordForm Source)

/-! ### Patterns and points of time -/

namespace ClassPattern

/-- The text of a pattern is accepted as this pattern. -/
lemma ofString_source (p : ClassPattern) : ofString p.source = .ok p := by
  rw [ofString]
  split
  · rename_i expr compiled
    exact congrArg Except.ok (eq_of_source_eq rfl)
  · rename_i rejection refused
    rw [p.compile_source] at refused
    cases refused

lemma decoder_toJson (source : Source) (p : ClassPattern) :
    decoder source (Outline.ofJson p.toJson) = .ok p := by
  rw [decoder, toJson, Outline.ofJson, Decoder.string_string]
  simp only [bind, Except.bind, ofString_source]
  rfl

end ClassPattern

lemma InjectionPoint.decoder_toJson (source : Source) (p : InjectionPoint) :
    decoder source (Outline.ofJson p.toJson) = .ok p := by
  cases p <;> cases source <;> rfl

lemma Target.decoder_toJson (source : Source) (t : Target) :
    decoder source (Outline.ofJson t.toJson) = .ok t := by
  simp only [decoder, toJson, Outline.ofJson, Outline.ofMembers]
  rw [Decoder.pair_object (by decide) (Decoder.string_string source.inside t.role)
    (Decoder.string_string source.inside t.name)]
  rfl

/-! ### Bridges -/

namespace Duration

/-- The word of a duration has 64 bits. -/
lemma millisWord_lt (d : Duration) : d.millisWord < 2 ^ 64 := by
  rw [millisWord]
  omega

/-- No bits are lost of milliseconds that have 64. -/
lemma millisWord_of_lt {d : Duration} (h : d.millis < 2 ^ 64) : d.millisWord = d.millis := by
  rw [millisWord]
  omega

end Duration

namespace Bridge

/-- A bridge as it comes back: of its delay the lowest 64 bits of the whole milliseconds. -/
def reloaded (b : Bridge) : Bridge :=
  ⟨b.response, .ofMillis b.delay.millisWord⟩

lemma Response.decoder_toJson (source : Source) (r : Response) :
    decoder source (Outline.ofJson r.toJson) = .ok r := by
  have read : form.decode {} source (Outline.ofJson r.toJson) =
      .ok ⟨some r.clientConfig, some r.serverConfig, some r.clientKey, some r.serverKey⟩ := by
    rw [toJson, Outline.ofJson, RecordForm.decode, members, Outline.ofMembers_eq_map]
    simp only [List.map_cons, List.map_nil, Outline.ofJson]
    rw [RecordForm.putMembers_field { clientConfig := some r.clientConfig } (by decide)
      (by decide) rfl]
    rw [RecordForm.putMembers_field
      { clientConfig := some r.clientConfig, serverConfig := some r.serverConfig } (by decide)
      (by decide) rfl]
    rw [RecordForm.putMembers_field
      ⟨some r.clientConfig, some r.serverConfig, some r.clientKey, none⟩ (by decide)
      (by decide) rfl]
    rw [RecordForm.putMembers_field
      ⟨some r.clientConfig, some r.serverConfig, some r.clientKey, some r.serverKey⟩ (by decide)
      (by decide) rfl]
    rfl
  rw [decoder, read]
  rfl

lemma delayDecoder_ofNat (source : Source) (n : ℕ) :
    delayDecoder source (Outline.ofJson (.ofNat n)) = .ok (.ofMillis n) := by
  rw [delayDecoder, Json.ofNat, Outline.ofJson, Decoder.word_integer]
  rfl

lemma decoder_toJson (source : Source) (b : Bridge) :
    decoder source (Outline.ofJson b.toJson) = .ok b.reloaded := by
  rw [decoder, toJson, Outline.ofJson, Outline.ofMembers, Outline.ofMembers, Outline.ofMembers]
  rw [Decoder.pair_object (by decide) (Response.decoder_toJson _ b.response)
    (delayDecoder_ofNat _ b.delay.millisWord)]
  rfl

end Bridge

/-! ### Steps -/

namespace Step

/-- A step as it comes back. -/
def reloaded : Step → Step
  | .installBridge bridge point => .installBridge bridge.reloaded point
  | step => step

/-- The time that a step waits has 64 bits. -/
def InWords : Step → Prop
  | .settle millis => millis < 2 ^ 64
  | _ => True

/-- A value with the tag of a step in front is decoded by the decoder of its kind. -/
lemma decoder_ofJson {room : ℕ} {name : String} (kind : Kind) {members : List (String × Json)} {s : Step}
    (choice : kinds.lookup name = some kind) (names : ∀ m ∈ members, m.1 ≠ "action")
    (fits : Json.depthMembers members ≤ room)
    (content : contentDecoder kind .kept (Outline.ofJson (.object members)) = .ok s) :
    decoder (.text (room + 1)) (Outline.ofJson (.object (("action", .string name) :: members))) =
      .ok s := by
  rw [decoder, Decoder.tagged_ofJson choice names fits]
  exact content

/-- The decoder makes of a written step the step that comes back. A step takes up to three arrays and
objects inside each other. -/
lemma decoder_toJson (room : ℕ) (s : Step) :
    decoder (.text (room + 3)) (Outline.ofJson s.toJson) = .ok s.reloaded := by
  cases s with
  | installBridge bridge point =>
    refine decoder_ofJson .installBridge rfl (by simp) ?_ ?_
    · simp [Json.depthMembers, Json.depth, Bridge.toJson, InjectionPoint.toJson, Bridge.Response.toJson,
        Bridge.Response.members, Json.ofNat]
    · simp only [contentDecoder, Outline.ofJson, Outline.ofMembers]
      rw [Decoder.pair_object (by decide) (Bridge.decoder_toJson .kept bridge)
        (InjectionPoint.decoder_toJson .kept point)]
      rfl
  | navigate url =>
    refine decoder_ofJson .navigate rfl (by simp) (by simp [Json.depthMembers, Json.depth]) ?_
    simp only [contentDecoder, Outline.ofJson, Outline.ofMembers]
    rw [Decoder.single_object (Decoder.string_string .kept url)]
    rfl
  | click target =>
    refine decoder_ofJson .click rfl (by simp)
      (by simp [Json.depthMembers, Json.depth, Target.toJson]) ?_
    simp only [contentDecoder, Outline.ofJson, Outline.ofMembers]
    rw [Decoder.single_object (Target.decoder_toJson .kept target)]
    rfl
  | settle millis =>
    refine decoder_ofJson .settle rfl (by simp)
      (by simp [Json.depthMembers, Json.depth, Json.ofNat]) ?_
    simp only [contentDecoder, Outline.ofJson, Outline.ofMembers, Json.ofNat]
    rw [Decoder.single_object (Decoder.word_integer "u64" .kept millis)]
    rfl
  | assertClass target pattern =>
    refine decoder_ofJson .assertClass rfl (by simp)
      (by simp [Json.depthMembers, Json.depth, Target.toJson, ClassPattern.toJson]) ?_
    simp only [contentDecoder, Outline.ofJson, Outline.ofMembers]
    rw [Decoder.pair_object (by decide) (Target.decoder_toJson .kept target)
      (ClassPattern.decoder_toJson .kept pattern)]
    rfl

/-- The numbers in a written step have 64 bits. -/
lemma words_toJson {s : Step} (h : s.InWords) : Json.Words s.toJson := by
  have word : ∀ n : ℕ, n < 2 ^ 64 → (n : Int) ≤ Json.maxSignificand := by
    intro n hn
    rw [Json.maxSignificand]
    omega
  cases s with
  | installBridge bridge point =>
    have delay := word bridge.delay.millisWord bridge.delay.millisWord_lt
    simp [toJson, Json.Words, Json.WordsMembers, Bridge.toJson, InjectionPoint.toJson,
      Bridge.Response.toJson, Bridge.Response.members, Json.ofNat, delay]
  | navigate url => simp [toJson, Json.Words, Json.WordsMembers]
  | click target => simp [toJson, Json.Words, Json.WordsMembers, Target.toJson]
  | settle millis => simp [toJson, Json.Words, Json.WordsMembers, Json.ofNat, word millis h]
  | assertClass target pattern =>
    simp [toJson, Json.Words, Json.WordsMembers, Target.toJson, ClassPattern.toJson]

end Step

/-! ### Screenshots -/

namespace Screenshot

/-- A screenshot as a value, its path being the path of a text. -/
def valueOf (path : String) (fullPage : Bool) : Json :=
  .object [("path", .string path), ("full_page", .boolean fullPage)]

lemma toJson_eq_ok_iff {s : Screenshot} {v : Json} :
    s.toJson = .ok v ↔ ∃ path, s.path = .ofString path ∧ v = valueOf path s.fullPage := by
  constructor
  · intro h
    rw [toJson] at h
    cases written : s.path.toJson with
    | error failure =>
      rw [written] at h
      cases h
    | ok w =>
      obtain ⟨path, hp, rfl⟩ := Path.toJson_eq_ok_iff.mp written
      rw [written] at h
      exact ⟨path, hp, (Except.ok.inj h).symm⟩
  · rintro ⟨path, hp, rfl⟩
    rw [toJson, hp, Path.toJson_ofString]
    rfl

lemma decoder_valueOf (source : Source) (path : String) (fullPage : Bool) :
    decoder source (Outline.ofJson (valueOf path fullPage)) = .ok ⟨.ofString path, fullPage⟩ := by
  have read : form.decode (none, none) source (Outline.ofJson (valueOf path fullPage)) =
      .ok (some (.ofString path), some fullPage) := by
    rw [valueOf, Outline.ofJson, RecordForm.decode, Outline.ofMembers_eq_map]
    simp only [List.map_cons, List.map_nil, Outline.ofJson]
    rw [RecordForm.putMembers_field (some (.ofString path), none) (by decide) (by decide) rfl]
    rw [RecordForm.putMembers_field (some (.ofString path), some fullPage) (by decide)
      (by decide) rfl]
    rfl
  rw [decoder, read]
  rfl

end Screenshot

/-! ### Scenarios -/

namespace Scenario

/-- A scenario as it comes back. -/
def reloaded (s : Scenario) : Scenario :=
  { s with steps := s.steps.map Step.reloaded }

/-- The times that steps wait have 64 bits. -/
def InWords (s : Scenario) : Prop :=
  ∀ step ∈ s.steps, step.InWords

/-- A scenario as a value, its screenshot going to the path of a text. -/
def valueOf (s : Scenario) (path : String) : Json :=
  .object [("name", .string s.name), ("steps", .array (s.steps.map Step.toJson)),
    ("screenshot", Screenshot.valueOf path s.screenshot.fullPage)]

/-- The scenarios that can be written, and what is written. -/
lemma toJson_eq_ok_iff {s : Scenario} {v : Json} :
    s.toJson = .ok v ↔ ∃ path, s.screenshot.path = .ofString path ∧ v = s.valueOf path := by
  constructor
  · intro h
    rw [toJson] at h
    cases written : s.screenshot.toJson with
    | error failure =>
      rw [written] at h
      cases h
    | ok w =>
      obtain ⟨path, hp, rfl⟩ := Screenshot.toJson_eq_ok_iff.mp written
      rw [written] at h
      exact ⟨path, hp, (Except.ok.inj h).symm⟩
  · rintro ⟨path, hp, rfl⟩
    rw [toJson, Screenshot.toJson_eq_ok_iff.mpr ⟨path, hp, rfl⟩]
    rfl

lemma put_steps {source : Source} {v : Outline} {steps : List Step} (draft : Draft)
    (h : Decoder.list Step.decoder source v = .ok steps) :
    form.put source "steps" v draft = .ok { draft with steps := some steps } := by
  simp [form, h, bind, Except.bind, pure, Except.pure]

lemma put_screenshot {source : Source} {v : Outline} {screenshot : Screenshot} (draft : Draft)
    (h : Screenshot.decoder source v = .ok screenshot) :
    form.put source "screenshot" v draft = .ok { draft with screenshot := some screenshot } := by
  simp [form, h, bind, Except.bind, pure, Except.pure]

/-- The decoder makes of a written scenario the scenario that comes back. -/
lemma decoder_valueOf (room : ℕ) {s : Scenario} {path : String}
    (hp : s.screenshot.path = .ofString path) :
    decoder (.text (room + 5)) (Outline.ofJson (s.valueOf path)) = .ok s.reloaded := by
  have steps : Decoder.list Step.decoder (Source.text (room + 5)).inside
      (Outline.ofJson (.array (s.steps.map Step.toJson))) = .ok (s.steps.map Step.reloaded) := by
    rw [Outline.ofJson, Outline.ofItems_eq_map, List.map_map]
    refine Decoder.list_array ?_
    rw [List.forall₂_map_left_iff, List.forall₂_map_right_iff, List.forall₂_same]
    exact fun step _ => Step.decoder_toJson room step
  have read : form.decode {} (.text (room + 5)) (Outline.ofJson (s.valueOf path)) =
      .ok ⟨some s.name, some (s.steps.map Step.reloaded),
        some ⟨.ofString path, s.screenshot.fullPage⟩⟩ := by
    rw [valueOf, Outline.ofJson, RecordForm.decode, Outline.ofMembers_eq_map]
    simp only [List.map_cons, List.map_nil]
    rw [RecordForm.putMembers_field { name := some s.name } (by decide) (by decide) rfl]
    rw [RecordForm.putMembers_field _ (by decide) (by decide) (put_steps { name := some s.name } steps)]
    rw [RecordForm.putMembers_field _ (by decide) (by decide)
      (put_screenshot _ (Screenshot.decoder_valueOf _ path s.screenshot.fullPage))]
    rfl
  rw [decoder, read, reloaded, ← hp]
  rfl

/-- The numbers in a written scenario have 64 bits. -/
lemma words_valueOf {s : Scenario} (h : s.InWords) (path : String) : Json.Words (s.valueOf path) := by
  have steps : ∀ l : List Step, (∀ step ∈ l, step.InWords) → Json.WordsItems (l.map Step.toJson) := by
    intro l hl
    induction l with
    | nil => simp [Json.WordsItems]
    | cons step l ih =>
      rw [List.map_cons, Json.WordsItems]
      exact ⟨Step.words_toJson (hl step List.mem_cons_self),
        ih fun step hs => hl step (List.mem_cons_of_mem _ hs)⟩
  simp [valueOf, Screenshot.valueOf, Json.Words, Json.WordsMembers, steps s.steps h]

/-- What is read from the text of a written scenario. -/
theorem decodeText_compact {s : Scenario} (words : s.InWords) {v : Json} (written : s.toJson = .ok v) :
    Json.decodeText decoder v.compact.toList = .ok s.reloaded := by
  obtain ⟨path, hp, rfl⟩ := toJson_eq_ok_iff.mp written
  rw [Json.decodeText, Outline.ofText_compact (words_valueOf words path)]
  simp only [bind, Except.bind, Json.maxNesting, decoder_valueOf 122 hp]
  rfl

end Scenario

end LoadingCheck
