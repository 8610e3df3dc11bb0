import LoadingCheck.Report.Basic
import Mathlib.Data.List.Basic

set_option relaxedAutoImplicit false
set_option autoImplicit false

/-!
# What the events of a script add up to

A report takes the events of a script one by one. The outcome of this walk is the same as if each part of
the report were picked from the events on its own: the names of the steps, the calls, the last screenshot,
the first failure, and whether the browser was closed.

## Main definitions

* `LoadingCheck.Event.stepName?`, `LoadingCheck.Event.call?`, `LoadingCheck.Event.screenshot?`,
  `LoadingCheck.Event.error?` — what one event has for a part of a report.
* `LoadingCheck.Report.gathered` — a report with all that events have for it.

## Main results

* `LoadingCheck.Report.foldl_add` — the walk over the events gathers exactly this.
* `LoadingCheck.Report.apply_eq` — a report after a script, part by part.
-/

namespace LoadingCheck

namespace Event

/-- The name of the step that an event reports. -/
def stepName? : Event → Option String
  | .step _ name => some name
  | _ => none

/-- The call of the backend that an event tells of. -/
def call? : Event → Option String
  | .console _ text => Bridge.interceptedCall? text
  | _ => none

/-- The screenshot that an event reports. -/
def screenshot? : Event → Option Path
  | .screenshot path => some path
  | _ => none

/-- The error that an event reports. -/
def error? : Event → Option String
  | .failed error => some error
  | _ => none

/-- Whether an event is a page's own and not the script's. -/
def isConsole : Event → Bool
  | .console _ _ => true
  | _ => false

end Event

namespace Report

/-- A report with all that events have for it, put together part by part. -/
def gathered (report : Report) (events : List Event) : Report :=
  { report with
    completedSteps := report.completedSteps ++ events.filterMap Event.stepName?
    calls := report.calls ++ events.filterMap Event.call?
    screenshot := (events.filterMap Event.screenshot?).getLast?.or report.screenshot
    browserClosed := report.browserClosed || events.contains .closed }

/-- The first failure among events. -/
def firstFailure? (url : String) (events : List Event) : Option Failure :=
  (events.findSome? Event.error?).map fun error => .ofScriptMessage error url

/-- Events one after the other gather what they gather together. -/
lemma gathered_append (report : Report) (xs ys : List Event) :
    report.gathered (xs ++ ys) = (report.gathered xs).gathered ys := by
  simp only [gathered, List.filterMap_append, List.append_assoc, List.getLast?_append,
    Option.or_assoc, List.contains_append, Bool.or_assoc]

/-- One event is taken into account as a list of one is. -/
lemma add_eq (url : String) (p : Progress) (e : Event) :
    Progress.add url p e =
      ⟨p.report.gathered [e], p.failure.or (firstFailure? url [e])⟩ := by
  obtain ⟨⟨scenario, outcome, steps, calls, screenshot, closed, millis⟩, failure⟩ := p
  cases e with
  | console kind text =>
    cases h : Bridge.interceptedCall? text <;>
      simp [Progress.add, gathered, firstFailure?, Event.stepName?, Event.call?, Event.screenshot?,
        Event.error?, h]
  | step index name =>
    simp [Progress.add, gathered, firstFailure?, Event.stepName?, Event.call?, Event.screenshot?,
      Event.error?]
  | failed error =>
    cases failure <;>
      simp [Progress.add, gathered, firstFailure?, Event.stepName?, Event.call?, Event.screenshot?,
        Event.error?]
  | screenshot path =>
    simp [Progress.add, gathered, firstFailure?, Event.stepName?, Event.call?, Event.screenshot?,
      Event.error?]
  | closed =>
    simp [Progress.add, gathered, firstFailure?, Event.stepName?, Event.call?, Event.screenshot?,
      Event.error?]

lemma firstFailure?_cons (url : String) (e : Event) (rest : List Event) :
    firstFailure? url (e :: rest) = (firstFailure? url [e]).or (firstFailure? url rest) := by
  cases h : e.error? <;> simp [firstFailure?, h]

/-- The walk over the events ends with all that they have for the report, and with the first failure
among them unless there was one before. -/
theorem foldl_add (url : String) (events : List Event) (p : Progress) :
    events.foldl (Progress.add url) p =
      ⟨p.report.gathered events, p.failure.or (firstFailure? url events)⟩ := by
  induction events generalizing p with
  | nil => simp [gathered, firstFailure?]
  | cons e rest ih =>
    rw [List.foldl_cons, ih, add_eq, ← gathered_append, Option.or_assoc, ← firstFailure?_cons]
    rfl

/-- There is no first failure exactly if no event reports one. -/
lemma firstFailure?_eq_none (url : String) {events : List Event} :
    firstFailure? url events = none ↔ ∀ error, Event.failed error ∉ events := by
  rw [firstFailure?, Option.map_eq_none_iff, List.findSome?_eq_none_iff]
  constructor
  · intro h error hmem
    exact Option.some_ne_none _ (h _ hmem)
  · intro h e hmem
    cases e with
    | failed error => exact absurd hmem (h error)
    | console | step | screenshot | closed => rfl

/-- After a script a report has all that the events have for it; it fails with the first failure among
them, or else with the bad end of the script. -/
theorem apply_eq (report : Report) (output : ScriptOutput) (url : String) :
    report.apply output url =
      match firstFailure? url output.events with
      | some failure => { report.gathered output.events with outcome := .failed failure.message }
      | none =>
        if output.succeeded then report.gathered output.events
        else { report.gathered output.events with
          outcome := .failed (abnormalExit output.errors).message } := by
  rw [apply, foldl_add]
  rfl

/-- A report that nothing has gone wrong for stays so exactly if the script reports no failure and ends
well. -/
theorem outcome_apply_eq_passed {report : Report} (h : report.outcome = .passed)
    (output : ScriptOutput) (url : String) :
    (report.apply output url).outcome = .passed ↔
      output.succeeded = true ∧ ∀ error, Event.failed error ∉ output.events := by
  rw [apply_eq, ← firstFailure?_eq_none url]
  cases hf : firstFailure? url output.events with
  | some failure => simp
  | none => cases hs : output.succeeded <;> simp [gathered, h]

/-- What a report says besides its outcome is what the events have for it. -/
theorem apply_eq_gathered (report : Report) (output : ScriptOutput) (url : String) :
    report.apply output url =
      { report.gathered output.events with outcome := (report.apply output url).outcome } := by
  rw [apply_eq]
  cases firstFailure? url output.events with
  | some failure => rfl
  | none => cases output.succeeded <;> rfl

end Report

end LoadingCheck
