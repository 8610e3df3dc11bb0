import LoadingCheck.Proofs.Check.Stages
import LoadingCheck.Proofs.Scenario.Reload

set_option relaxedAutoImplicit false
set_option autoImplicit false

/-!
# The log of a check

While the script of a check runs, each of its lines makes one entry in the log. When it has ended, the report
is put together from the events of the same lines. The two tell the same story: calls, steps and the
screenshot can be read from the log, and what is read there is what the report has.

## Main definitions

* `LoadingCheck.Log.Entry.infoAfter?` — what an informing entry says behind a mark.
* `LoadingCheck.Check.lineEntry` — the entry for a line.

## Main results

* `LoadingCheck.Event.decoder_yields` — what an event that was read is like.
* `LoadingCheck.Check.filterMap_infoAfter?_log` — what the log says behind a mark.
* `LoadingCheck.Check.log_tells` — the log of a check that runs its script.
-/

namespace LoadingCheck

open Json (Decoder)

/-! ### Events that were read -/

namespace Event

/-- The place and the name of the step that an event reports. -/
def step? : Event → Option (ℕ × String)
  | .step index name => some (index, name)
  | _ => none

lemma step?_snd (e : Event) : e.step?.map Prod.snd = e.stepName? := by
  cases e <;> rfl

/-- An event that was read could have been written: its place has 64 bits, and its path is text. -/
lemma decoder_yields : decoder.Yields Sendable := by
  intro source v e small h
  rw [decoder] at h
  obtain ⟨⟨kind, content⟩, tagged, h⟩ := bind_eq_ok.mp h
  have inside : content.Small := Decoder.yields_tagged _ _ _ source v _ small tagged
  cases kind with
  | console =>
    obtain ⟨_, _, done⟩ := bind_eq_ok.mp h
    cases done
    trivial
  | step =>
    obtain ⟨⟨index, name⟩, members, done⟩ := bind_eq_ok.mp h
    cases done
    have bound : index ≤ Json.maxSignificand :=
      (Decoder.yields_pair (Decoder.yields_word "usize") (Q := fun _ => True)
        (fun _ _ _ _ _ => trivial) _ _ _ inside members).1
    rw [Json.maxSignificand] at bound
    rw [Sendable]
    omega
  | failed =>
    obtain ⟨_, _, rfl⟩ := map_eq_ok.mp h
    trivial
  | screenshot =>
    obtain ⟨path, member, rfl⟩ := map_eq_ok.mp h
    exact Decoder.yields_single Path.decoder_yields _ _ _ inside member
  | closed =>
    obtain ⟨_, _, done⟩ := bind_eq_ok.mp h
    cases done
    trivial

lemma sendable_of_ofLine? {line : List Char} {e : Event} (h : ofLine? line = some e) : e.Sendable := by
  rw [ofLine?] at h
  split_ifs at h
  cases decoded : Json.decodeText decoder (Text.trim line) with
  | error fault =>
    rw [decoded] at h
    cases h
  | ok e' =>
    rw [decoded] at h
    cases h
    exact Json.decodeText_yields decoder_yields decoded

end Event

lemma Stream.sendable_of_mem_events {lines : List (List UInt8)} {e : Event}
    (h : e ∈ events (lines.map readLine)) : e.Sendable := by
  rw [events, List.mem_filterMap] at h
  obtain ⟨line, mem, event⟩ := h
  obtain ⟨bytes, _, rfl⟩ := List.mem_map.mp mem
  rw [readLine] at event
  split at event
  · rename_i e' read
    cases event
    exact Event.sendable_of_ofLine? read
  · cases event

lemma Path.display_ofString (s : String) : (Path.ofString s).display = s := by
  rw [display, ofString, Utf8.decodeLossy_encode, String.ofList_toList]

/-! ### Marks in the log -/

namespace Log.Entry

/-- What an informing entry says behind a mark at the start of its message. -/
def infoAfter? (mark : String) (e : Entry) : Option String :=
  if e.level = .info then (mark.toList.isPrefixOf? e.message.toList).map String.ofList else none

/-- An entry says something behind a mark if it informs and its message is the mark with this behind it. -/
lemma infoAfter?_eq_some_iff {mark said : String} {e : Entry} :
    e.infoAfter? mark = some said ↔ e.level = .info ∧ e.message = mark ++ said := by
  rw [infoAfter?]
  split_ifs with level
  · rw [Option.map_eq_some_iff]
    constructor
    · rintro ⟨rest, split, rfl⟩
      refine ⟨level, String.toList_inj.mp ?_⟩
      rw [String.toList_append, String.toList_ofList, List.isPrefixOf?_eq_some_iff_append_eq.mp split]
    · rintro ⟨_, message⟩
      refine ⟨said.toList, List.isPrefixOf?_eq_some_iff_append_eq.mpr ?_, String.ofList_toList⟩
      rw [message, String.toList_append]
  · exact iff_of_false nofun fun h => level h.1

/-- A message that starts with another character than a mark has nothing behind it. -/
lemma infoAfter?_eq_none {mark front said : String} {level : Level} {origin : Origin} {c d : Char}
    {s t : List Char} (start : mark.toList = c :: s) (other : front.toList = d :: t) (differ : d ≠ c) :
    infoAfter? mark ⟨level, origin, front ++ said⟩ = none := by
  rw [Option.eq_none_iff_forall_ne_some]
  intro after h
  have whole := congrArg String.toList (infoAfter?_eq_some_iff.mp h).2
  rw [String.toList_append, String.toList_append, start, other] at whole
  exact differ (List.cons.inj whole).1

end Log.Entry

namespace Check

/-! ### The entries of a script -/

/-- The mark of a call of the backend. -/
def callMark : String := "IPC call intercepted: "

/-- The mark of a step. -/
def stepMark : String := "✓ ["

/-- The mark of a screenshot. -/
def shotMark : String := "Screenshot saved to "

lemma eventEntry_step (count index : ℕ) (name : String) :
    eventEntry count (.step index name) =
      ⟨.info, .run, stepMark ++ (s!"{shownPlace index}/{count}] " ++ name)⟩ := by
  simp only [eventEntry, stepMark, String.append_assoc]
  rfl

lemma infoAfter?_callMark (count : ℕ) (e : Event) :
    (eventEntry count e).infoAfter? callMark = e.call? := by
  cases e with
  | console kind text =>
    rw [eventEntry, Event.call?]
    cases Bridge.interceptedCall? text with
    | none => rfl
    | some call => exact Log.Entry.infoAfter?_eq_some_iff.mpr ⟨rfl, rfl⟩
  | step index name =>
    rw [eventEntry_step]
    exact Log.Entry.infoAfter?_eq_none rfl rfl (by decide)
  | screenshot path => exact Log.Entry.infoAfter?_eq_none rfl rfl (by decide)
  | failed | closed => rfl

lemma infoAfter?_stepMark (count : ℕ) (e : Event) :
    (eventEntry count e).infoAfter? stepMark =
      e.step?.map fun step => s!"{shownPlace step.1}/{count}] " ++ step.2 := by
  cases e with
  | console kind text =>
    rw [eventEntry]
    cases Bridge.interceptedCall? text with
    | none => rfl
    | some call => exact Log.Entry.infoAfter?_eq_none rfl rfl (by decide)
  | step index name =>
    rw [eventEntry_step]
    exact Log.Entry.infoAfter?_eq_some_iff.mpr ⟨rfl, rfl⟩
  | screenshot path => exact Log.Entry.infoAfter?_eq_none rfl rfl (by decide)
  | failed | closed => rfl

lemma infoAfter?_shotMark (count : ℕ) (e : Event) :
    (eventEntry count e).infoAfter? shotMark = e.screenshot?.map Path.display := by
  cases e with
  | console kind text =>
    rw [eventEntry]
    cases Bridge.interceptedCall? text with
    | none => rfl
    | some call => exact Log.Entry.infoAfter?_eq_none rfl rfl (by decide)
  | step index name =>
    rw [eventEntry_step]
    exact Log.Entry.infoAfter?_eq_none rfl rfl (by decide)
  | screenshot path => exact Log.Entry.infoAfter?_eq_some_iff.mpr ⟨rfl, rfl⟩
  | failed | closed => rfl

/-- The entry for a line of a script: that of its event, or else one with the line itself. -/
def lineEntry (count : ℕ) (line : List UInt8) : Log.Entry :=
  match Event.ofLine? (Stream.lineText line) with
  | some event => eventEntry count event
  | none => ⟨.debug, .script, "[node] " ++ String.ofList (Stream.lineText line)⟩

/-- Each line makes one entry. -/
lemma flatMap_lineEntries (count : ℕ) (lines : List (List UInt8)) :
    (lines.map Stream.readLine).flatMap (Node.lineEntries fun e => [eventEntry count e]) =
      lines.map (lineEntry count) := by
  rw [List.flatMap_map, List.map_eq_flatMap]
  refine List.flatMap_congr fun line _ => ?_
  rw [Stream.readLine, lineEntry]
  cases Event.ofLine? (Stream.lineText line) <;> rfl

/-- Behind a mark the entries of the lines say what those of the events do. -/
lemma filterMap_lineEntry (mark : String) (count : ℕ) (lines : List (List UInt8)) :
    (lines.map (lineEntry count)).filterMap (Log.Entry.infoAfter? mark) =
      (Stream.events (lines.map Stream.readLine)).filterMap fun e =>
        (eventEntry count e).infoAfter? mark := by
  rw [Stream.events, List.filterMap_map, List.filterMap_filterMap, List.filterMap_map]
  refine List.filterMap_congr fun line _ => ?_
  rw [Function.comp_apply, Function.comp_apply, Stream.readLine, lineEntry]
  cases Event.ofLine? (Stream.lineText line) <;> rfl

/-! ### The log of a check -/

variable {config : Config} {machine : Machine} {scenario : Scenario} {node : Node}

lemma Reaches.node_eq (h : Reaches config machine scenario node) : machine.node = some node :=
  (Machine.launch_eq_ok_iff.mp h.launched).2.2

/-- A check that gives its program a script comes as far as the script, and the system has nothing against it. -/
lemma exists_reaches_of_script (h : (run config machine).script.isSome = true) :
    ∃ scenario node, Reaches config machine scenario node ∧ machine.Gives config.settings node := by
  rcases gives_or_kept config machine with given | ⟨script, _⟩
  · exact given
  · rw [script] at h
    cases h

/-- What a check does before its script reads a line, what the lines make, and what comes after them. -/
lemma Ends.log_eq (h : Ends config machine scenario node) :
    (run config machine).log =
      [startEntry scenario config.settings.browser, machine.scriptEntry] ++
      (machine.linesOf node).map (lineEntry scenario.steps.length) ++ machine.readEntries ++
      node.exitEntries ++ browserEntries (run config machine).report := by
  rw [h.run_eq]
  dsimp only
  rw [Machine.received, flatMap_lineEntries]
  rfl

/-- **What the log says behind a mark.** The first entry starts with a `V`, and the entries at the end do not
inform. So behind a mark that starts with another character the log says what the entries of the events
do. -/
lemma filterMap_infoAfter?_log (h : Ends config machine scenario node) {mark : String} {c : Char}
    {s : List Char} (start : mark.toList = c :: s) (differ : 'V' ≠ c) :
    (run config machine).log.filterMap (Log.Entry.infoAfter? mark) =
      (eventsOf machine node).filterMap fun e => (eventEntry scenario.steps.length e).infoAfter? mark := by
  have first : (startEntry scenario config.settings.browser).infoAfter? mark = none := by
    rw [startEntry]
    simp only [String.append_assoc]
    exact Log.Entry.infoAfter?_eq_none start rfl differ
  have read : machine.readEntries.filterMap (Log.Entry.infoAfter? mark) = [] := by
    rw [Machine.readEntries.eq_def]
    split <;> rfl
  have exit : node.exitEntries.filterMap (Log.Entry.infoAfter? mark) = [] := by
    rw [Node.exitEntries]
    split <;> rfl
  have browser (report : Report) :
      (browserEntries report).filterMap (Log.Entry.infoAfter? mark) = [] := by
    rw [browserEntries]
    split <;> rfl
  rw [h.log_eq]
  simp only [List.filterMap_append, read, exit, browser, filterMap_lineEntry, List.append_nil]
  rw [List.filterMap_cons_none first]
  rfl

/-- The screenshots that events report are at the paths that the log shows. -/
lemma map_ofString_display (machine : Machine) (node : Node) :
    (((eventsOf machine node).filterMap fun e => e.screenshot?.map Path.display).map Path.ofString) =
      (eventsOf machine node).filterMap Event.screenshot? := by
  rw [List.map_filterMap]
  refine List.filterMap_congr fun e mem => ?_
  have sendable : e.Sendable := Stream.sendable_of_mem_events mem
  cases e with
  | screenshot path =>
    obtain ⟨s, rfl⟩ : path.IsText := sendable
    rw [Event.screenshot?, Option.map_some, Path.display_ofString]
    rfl
  | console | step | failed | closed => rfl

/-- **The log and the report tell the same story.** For every check that gives its program a script whose end is
known:

* the log has the two entries of the start, one entry for each line of the output in order, an entry if reading
  the output failed, an entry if the script ended badly, and an entry if the report has no closed browser, and
  nothing else. The lines are those of all that the script wrote, or if reading failed, those that a line feed
  ended before;
* the calls of the report are what the log says behind the mark of a call;
* the steps in the log are those of the events, each with its place, counted from one on and with 64 bits, and the
  number of steps of the scenario, and their names are those of the report;
* the screenshot of the report is at the last path that the log says behind the mark of a screenshot, if
  there is one.

**Proof sketch.** Both are functions of the same lines. The entries that inform are told apart by the
character that they start with. The path of an event that was read is text, so the log shows all of it. -/
theorem log_tells (config : Config) (machine : Machine)
    (launched : (run config machine).script.isSome = true) (ended : machine.faults.wait = none) :
    ∃ scenario node, Scenario.loadingState config.options = .ok scenario ∧ machine.node = some node ∧
      (run config machine).log =
        [⟨.info, .run, "Verifying '" ++ scenario.name ++ "' against " ++ scenario.url ++ " (" ++
            config.settings.browser.name ++ ")"⟩,
          ⟨.debug, .script, "Running Playwright script: " ++ machine.scriptPath.display⟩] ++
        (match machine.faults.read with
          | none => (Stream.lines node.stdout).map (lineEntry scenario.steps.length)
          | some fault => (Stream.endedLines node.stdout).map (lineEntry scenario.steps.length) ++
              [⟨.warn, .script, "Failed to read script output: " ++ fault⟩]) ++
        (if node.exit = .code 0 then []
          else [⟨.warn, .script, "Playwright script exited with " ++ node.exit.display⟩]) ++
        (if (run config machine).report.browserClosed then []
          else [⟨.warn, .run, "Script ended without confirming the browser was closed"⟩]) ∧
      (run config machine).log.filterMap (Log.Entry.infoAfter? callMark) =
        (run config machine).report.calls ∧
      (run config machine).log.filterMap (Log.Entry.infoAfter? stepMark) =
        ((eventsOf machine node).filterMap Event.step?).map (fun step =>
          s!"{(step.1 + 1) % 2 ^ 64}/{scenario.steps.length}] " ++ step.2) ∧
      (run config machine).report.completedSteps =
        ((eventsOf machine node).filterMap Event.step?).map Prod.snd ∧
      (run config machine).report.screenshot =
        ((run config machine).log.filterMap (Log.Entry.infoAfter? shotMark)).getLast?.map
          Path.ofString := by
  obtain ⟨scenario, node, reaches, given⟩ := exists_reaches_of_script launched
  have ends : Ends config machine scenario node := ⟨reaches, given, ended⟩
  refine ⟨scenario, node, reaches.accepted, reaches.node_eq, ?_, ?_, ?_, ?_, ?_⟩
  · have lines : (machine.linesOf node).map (lineEntry scenario.steps.length) ++ machine.readEntries =
        match machine.faults.read with
        | none => (Stream.lines node.stdout).map (lineEntry scenario.steps.length)
        | some fault => (Stream.endedLines node.stdout).map (lineEntry scenario.steps.length) ++
            [⟨.warn, .script, "Failed to read script output: " ++ fault⟩] := by
      rw [Machine.linesOf, Machine.readEntries]
      cases machine.faults.read with
      | none => exact List.append_nil _
      | some fault => rfl
    have exit : node.exitEntries = if node.exit = .code 0 then []
        else [⟨.warn, .script, "Playwright script exited with " ++ node.exit.display⟩] := by
      simp only [Node.exitEntries, Exit.succeeded_iff]
    rw [← lines, ← exit, ← List.append_assoc]
    exact ends.log_eq
  · rw [filterMap_infoAfter?_log ends rfl (by decide), ends.report_eq]
    simp only [infoAfter?_callMark]
    rfl
  · rw [filterMap_infoAfter?_log ends rfl (by decide), List.map_filterMap]
    simp only [infoAfter?_stepMark]
    rfl
  · rw [List.map_filterMap, ends.report_eq]
    simp only [Event.step?_snd]
    rfl
  · rw [filterMap_infoAfter?_log ends rfl (by decide), ends.report_eq]
    simp only [infoAfter?_shotMark]
    rw [← List.getLast?_map, map_ofString_display]
    exact Option.or_none

/-- The events of a page that imitates the log, of one step, and of two screenshots. -/
def imitatingEvents : List Event :=
  [.console "log" "✓ [9/9] done", .step 0 "navigate", .console "log" "IPC call: \nScreenshot saved to /c.png",
    .screenshot (.ofString "/a.png"), .screenshot (.ofString "/b.png")]

/-- What the page wrote is no step and no screenshot, neither in the log nor in the report. -/
theorem log_imitated :
    (run {} (machineWriting (Stream.written imitatingEvents))).script.isSome = true ∧
      (run {} (machineWriting (Stream.written imitatingEvents))).log.filterMap
        (Log.Entry.infoAfter? stepMark) = ["1/6] navigate"] ∧
      (run {} (machineWriting (Stream.written imitatingEvents))).report.completedSteps = ["navigate"] ∧
      (run {} (machineWriting (Stream.written imitatingEvents))).report.screenshot =
        ((run {} (machineWriting (Stream.written imitatingEvents))).log.filterMap
          (Log.Entry.infoAfter? shotMark)).getLast?.map Path.ofString := by
  obtain ⟨scenario, accepted, names, path⟩ := exists_standard
  have ends := ends_standard accepted path (Stream.written imitatingEvents)
  have launched : (run {} (machineWriting (Stream.written imitatingEvents))).script.isSome = true := by
    rw [script_of_given ends.toReaches ends.given]
    rfl
  have sendable : ∀ e ∈ imitatingEvents, e.Sendable := by
    simp [imitatingEvents, Event.Sendable, Path.IsText]
  obtain ⟨scenario', node, accepted', present, _, _, steps, completed, shot⟩ := log_tells _ _ launched rfl
  have events : eventsOf (machineWriting (Stream.written imitatingEvents)) node = imitatingEvents := by
    cases present
    rw [eventsOf_of_read rfl]
    exact Stream.events_written sendable
  have count : scenario'.steps.length = 6 := by
    rw [accepted] at accepted'
    cases accepted'
    rw [← List.length_map Step.name, names]
    rfl
  rw [events] at steps completed
  rw [count] at steps
  exact ⟨launched, steps, completed, shot⟩

end Check

end LoadingCheck
