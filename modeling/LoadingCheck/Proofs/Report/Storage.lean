import LoadingCheck.Proofs.Check.Log
import LoadingCheck.Report.Codec

set_option relaxedAutoImplicit false
set_option autoImplicit false

/-!
# Reports are stored and read back

A report is written as the compact text of its value, and everything in it comes back when the text is read,
as long as its screenshot is at a path that is text and its time has 64 bits. The reports of checks are of this
kind whatever their script writes and however long they take: the only path in a report is one that was read from
a line, which is text even if the line was not, and even if the check was asked for a path that is none.

## Main definitions

* `LoadingCheck.Report.Storable` — the reports that come back.

## Main results

* `LoadingCheck.Report.toJson_eq_ok_iff` — the reports that can be written.
* `LoadingCheck.Report.decodeText_compact` — what is read from the text of a written report.
* `LoadingCheck.Check.storable_report` — the reports of checks can be stored.
* `LoadingCheck.Report.stored_and_read` — all of it.
-/

namespace LoadingCheck

open Json (Decoder Outline RecordForm Source)

/-- The texts of a list come back. -/
lemma Json.Decoder.list_strings (source : Source) (texts : List String) :
    list string source (Outline.ofJson (.array (texts.map .string))) = .ok texts := by
  rw [Outline.ofJson, Outline.ofItems_eq_map, List.map_map]
  refine list_array ?_
  rw [List.forall₂_map_left_iff, List.forall₂_same]
  exact fun s _ => string_string source.inside s

/-- An outcome comes back. It takes one object. -/
lemma Outcome.decoder_toJson (room : ℕ) (o : Outcome) :
    decoder (.text (room + 1)) (Outline.ofJson o.toJson) = .ok o := by
  cases o with
  | passed => rfl
  | failed reason => rfl

namespace Report

/-- A report that comes back: its screenshot, if there is one, is at a path that is text, and its time has
64 bits. -/
structure Storable (r : Report) : Prop where
  screenshot : ∀ path ∈ r.screenshot, path.IsText
  millis : r.millis < 2 ^ 64

/-- A screenshot as a value, its path being the path of a text. -/
def shotValue : Option String → Json
  | some path => .string path
  | none => .null

/-- A report as a value, its screenshot being at the path of a text. -/
def valueOf (r : Report) (shot : Option String) : Json :=
  .object
    [("scenario", .string r.scenario), ("outcome", r.outcome.toJson),
      ("completed_steps", .array (r.completedSteps.map .string)),
      ("ipc_messages", .array (r.calls.map .string)), ("screenshot", shotValue shot),
      ("browser_closed", .boolean r.browserClosed), ("duration_ms", .ofNat r.millis)]

/-- The reports that can be written, and what is written. -/
theorem toJson_eq_ok_iff {r : Report} {v : Json} :
    r.toJson = .ok v ↔ ∃ shot, r.screenshot = shot.map .ofString ∧ v = r.valueOf shot := by
  rw [toJson]
  cases present : r.screenshot with
  | none =>
    constructor
    · rintro ⟨⟩
      exact ⟨none, rfl, rfl⟩
    · rintro ⟨_ | s, path, rfl⟩
      · rfl
      · cases path
  | some path =>
    constructor
    · intro h
      obtain ⟨w, written, done⟩ := bind_eq_ok.mp h
      obtain ⟨s, rfl, rfl⟩ := Path.toJson_eq_ok_iff.mp written
      cases done
      exact ⟨some s, rfl, rfl⟩
    · rintro ⟨_ | s, same, rfl⟩
      · cases same
      · rw [Option.some.inj same]
        simp only [Path.toJson_ofString]
        rfl

/-- Exactly the reports whose screenshots are at paths that are text can be written. -/
theorem exists_toJson_iff {r : Report} :
    (∃ v, r.toJson = .ok v) ↔ ∀ path ∈ r.screenshot, path.IsText := by
  constructor
  · rintro ⟨v, written⟩ path present
    obtain ⟨shot, known, _⟩ := toJson_eq_ok_iff.mp written
    rw [Option.mem_def, known, Option.map_eq_some_iff] at present
    obtain ⟨s, _, rfl⟩ := present
    exact ⟨s, rfl⟩
  · intro text
    cases present : r.screenshot with
    | none => exact ⟨_, toJson_eq_ok_iff.mpr ⟨none, present, rfl⟩⟩
    | some path =>
      obtain ⟨s, rfl⟩ := text path present
      exact ⟨_, toJson_eq_ok_iff.mpr ⟨some s, present, rfl⟩⟩

/-- A screenshot comes back. -/
lemma optional_shotValue (source : Source) (shot : Option String) :
    Decoder.optional Path.decoder source (Outline.ofJson (shotValue shot)) =
      .ok (shot.map .ofString) := by
  cases shot <;> rfl

/-- The decoder makes of a written report the report again. A report takes up to two arrays and objects inside
each other. -/
lemma decoder_valueOf (room : ℕ) {r : Report} {shot : Option String}
    (known : r.screenshot = shot.map .ofString) :
    decoder (.text (room + 2)) (Outline.ofJson (r.valueOf shot)) = .ok r := by
  have outcome : Outcome.decoder (Source.text (room + 2)).inside (Outline.ofJson r.outcome.toJson) =
      .ok r.outcome := Outcome.decoder_toJson room r.outcome
  have steps := Decoder.list_strings (Source.text (room + 2)).inside r.completedSteps
  have calls := Decoder.list_strings (Source.text (room + 2)).inside r.calls
  have path := optional_shotValue (Source.text (room + 2)).inside shot
  have millis : Decoder.word "u64" (Source.text (room + 2)).inside (Outline.ofJson (.ofNat r.millis)) =
      .ok r.millis := by
    rw [Json.ofNat, Outline.ofJson, Decoder.word_integer]
  have read : form.decode {} (.text (room + 2)) (Outline.ofJson (r.valueOf shot)) =
      .ok ⟨some r.scenario, some r.outcome, some r.completedSteps, some r.calls,
        some (shot.map .ofString), some r.browserClosed, some r.millis⟩ := by
    rw [valueOf, Outline.ofJson, RecordForm.decode, Outline.ofMembers_eq_map]
    simp only [List.map_cons, List.map_nil]
    rw [RecordForm.putMembers_field { scenario := some r.scenario } (by decide) (by decide) rfl]
    rw [RecordForm.putMembers_field { scenario := some r.scenario, outcome := some r.outcome }
      (by decide) (by decide) (by simp [form, outcome, bind, Except.bind, pure, Except.pure])]
    rw [RecordForm.putMembers_field
      { scenario := some r.scenario, outcome := some r.outcome, completedSteps := some r.completedSteps }
      (by decide) (by decide) (by simp [form, steps, bind, Except.bind, pure, Except.pure])]
    rw [RecordForm.putMembers_field
      ⟨some r.scenario, some r.outcome, some r.completedSteps, some r.calls, none, none, none⟩
      (by decide) (by decide) (by simp [form, calls, bind, Except.bind, pure, Except.pure])]
    rw [RecordForm.putMembers_field
      ⟨some r.scenario, some r.outcome, some r.completedSteps, some r.calls,
        some (shot.map .ofString), none, none⟩
      (by decide) (by decide) (by simp [form, path, bind, Except.bind, pure, Except.pure])]
    rw [RecordForm.putMembers_field
      ⟨some r.scenario, some r.outcome, some r.completedSteps, some r.calls,
        some (shot.map .ofString), some r.browserClosed, none⟩ (by decide) (by decide) rfl]
    rw [RecordForm.putMembers_field
      ⟨some r.scenario, some r.outcome, some r.completedSteps, some r.calls,
        some (shot.map .ofString), some r.browserClosed, some r.millis⟩
      (by decide) (by decide) (by simp [form, millis, bind, Except.bind, pure, Except.pure])]
    rfl
  rw [decoder, read]
  obtain ⟨scenario, outcome, steps, calls, screenshot, closed, millis⟩ := r
  obtain rfl : screenshot = shot.map .ofString := known
  rfl

/-- The numbers in a written report have 64 bits. -/
lemma words_valueOf {r : Report} (h : r.millis < 2 ^ 64) (shot : Option String) :
    Json.Words (r.valueOf shot) := by
  have word : (r.millis : Int) ≤ Json.maxSignificand := by
    rw [Json.maxSignificand]
    omega
  have texts : ∀ l : List String, Json.WordsItems (l.map .string) := by
    intro l
    induction l with
    | nil => simp [Json.WordsItems]
    | cons s l ih => simp [Json.WordsItems, Json.Words, ih]
  have outcome : Json.Words r.outcome.toJson := by
    cases r.outcome <;> simp [Outcome.toJson, Json.Words, Json.WordsMembers]
  have path : Json.Words (shotValue shot) := by
    cases shot <;> simp [shotValue, Json.Words]
  simp [valueOf, Json.Words, Json.WordsMembers, Json.ofNat, word, texts, outcome, path]

/-- What is read from the text of a written report. -/
theorem decodeText_compact {r : Report} (h : r.millis < 2 ^ 64) {v : Json} (written : r.toJson = .ok v) :
    Json.decodeText decoder v.compact.toList = .ok r := by
  obtain ⟨shot, known, rfl⟩ := toJson_eq_ok_iff.mp written
  rw [Json.decodeText, Outline.ofText_compact (words_valueOf h shot)]
  simp only [bind, Except.bind, Json.maxNesting, decoder_valueOf 125 known]
  rfl

end Report

/-! ### Reports of checks -/

namespace Check

lemma millis_report (config : Config) (machine : Machine) :
    (run config machine).report.millis = millis machine := by
  rcases ends_or_stopped config machine with ⟨scenario, node, ends⟩ | ⟨failure, stop⟩
  · rw [ends.report_eq]
  · rw [stop]
    rfl

/-- The screenshot in the report of a check is at a path that is text. A report without the events of a script has
no screenshot, and otherwise its path is that of an event that was read. -/
lemma isText_screenshot (config : Config) (machine : Machine) :
    ∀ path ∈ (run config machine).report.screenshot, path.IsText := by
  rcases ends_or_stopped config machine with ⟨scenario, node, ends⟩ | ⟨failure, stop⟩
  · rw [ends.report_eq]
    intro path present
    have known : ((eventsOf machine node).filterMap Event.screenshot?).getLast? = some path := by
      rw [← present]
      exact Option.or_none.symm
    obtain ⟨e, mem, shot⟩ := List.mem_filterMap.mp (List.mem_of_getLast? known)
    have sendable : e.Sendable := Stream.sendable_of_mem_events mem
    cases e with
    | screenshot path' =>
      cases shot
      exact sendable
    | console | step | failed | closed => cases shot
  · rw [stop]
    exact fun _ none => absurd none (Option.not_mem_none _)

/-- The report of a check can be stored. -/
theorem storable_report (config : Config) (machine : Machine) :
    (run config machine).report.Storable := by
  refine ⟨isText_screenshot config machine, ?_⟩
  rw [millis_report]
  exact Nat.mod_lt _ (Nat.two_pow_pos 64)

end Check

namespace Report

/-- **Reports are stored and read back.** A report can be written exactly if its screenshot, should there be one,
is at a path that is text. If its time has 64 bits as well, it is written as a text from which the same report
is read. The report of every check is of this kind, whatever the check was asked for, whatever its script wrote and
however long it took.

**Proof sketch.** Member by member the decoder takes what the writer gave. The report of a check has no path but
that of an event, and a decoder of events takes paths from texts only. -/
theorem stored_and_read :
    (∀ r : Report,
      ((∃ v, r.toJson = .ok v) ↔ ∀ path ∈ r.screenshot, path.IsText) ∧
      ((∀ path ∈ r.screenshot, path.IsText) → r.millis < 2 ^ 64 →
        ∃ v, r.toJson = .ok v ∧ Json.decodeText decoder v.compact.toList = .ok r)) ∧
    ∀ (config : Config) (machine : Machine),
      (Check.run config machine).report.Storable ∧
      ∃ v, (Check.run config machine).report.toJson = .ok v ∧
        Json.decodeText decoder v.compact.toList = .ok (Check.run config machine).report := by
  have stored : ∀ r : Report, r.Storable →
      ∃ v, r.toJson = .ok v ∧ Json.decodeText decoder v.compact.toList = .ok r := by
    intro r h
    obtain ⟨v, written⟩ := exists_toJson_iff.mpr h.screenshot
    exact ⟨v, written, decodeText_compact h.millis written⟩
  refine ⟨fun r => ⟨exists_toJson_iff, fun text short => stored r ⟨text, short⟩⟩, ?_⟩
  intro config machine
  have storable := Check.storable_report config machine
  exact ⟨storable, stored _ storable⟩

/-- A check whose screenshot is to go to a path that is no text. -/
def strayConfig : Config :=
  { options := { screenshot := ⟨Utf8.encode "/work/".toList ++ [0xFF]⟩ } }

/-- The event of a screenshot with a byte in its path that is no text. -/
def strayOutput : List UInt8 :=
  Utf8.encode "\x7b\"event\":\"screenshot\",\"path\":\"/work/".toList ++ 0xFF :: Utf8.encode "\"\x7d".toList

/-- Neither of the two paths is text, but the one in the report of the check is, and the report comes back. So does
a report with a failure. -/
theorem stored_stray :
    ¬ strayConfig.options.screenshot.IsText ∧
      (Check.run strayConfig (Check.machineWriting strayOutput)).report.screenshot =
        some (.ofString "/work/\uFFFD") ∧
      (∃ v, (Check.run strayConfig (Check.machineWriting strayOutput)).report.toJson = .ok v ∧
        Json.decodeText decoder v.compact.toList =
          .ok (Check.run strayConfig (Check.machineWriting strayOutput)).report) ∧
      ∃ v, toJson ⟨"a", .failed "b\n", ["c"], [], none, false, 2 ^ 64 - 1⟩ = .ok v ∧
        Json.decodeText decoder v.compact.toList =
          .ok ⟨"a", .failed "b\n", ["c"], [], none, false, 2 ^ 64 - 1⟩ := by
  obtain ⟨reports, checks⟩ := stored_and_read
  refine ⟨?_, by decide +kernel, (checks strayConfig _).2, ?_⟩
  · rintro ⟨s, path⟩
    have text := Path.text?_eq_some_iff.mpr path
    have none : strayConfig.options.screenshot.text? = none := by decide
    rw [none] at text
    cases text
  · exact (reports _).2 (by simp) (by decide)

end Report

end LoadingCheck
