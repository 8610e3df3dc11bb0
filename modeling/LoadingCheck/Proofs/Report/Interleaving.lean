import LoadingCheck.Proofs.Report.Summary
import LoadingCheck.Proofs.Text.Blank

set_option relaxedAutoImplicit false
set_option autoImplicit false

/-!
# The report of a script as a summary of its events

The report of a script does not depend on how events of different kinds are interleaved. Each part of it is
picked from the events of one kind: the first failure wins, the last screenshot, and names and calls keep
their order. How the script ended plays a part only if it reported no failure.

## Main definitions

* `LoadingCheck.Event.kind` — the kind of an event.
* `LoadingCheck.Event.SameByKind` — two lists with the same events of each kind, in the same order.
* `LoadingCheck.Report.summary` — the summary.

## Main results

* `LoadingCheck.Report.apply_fresh` — the report is the summary, and lists that agree kind by kind have the
  same one.
-/

namespace LoadingCheck

namespace Event

/-! ### Kinds of events -/

/-- The kind of an event. -/
def kind : Event → Kind
  | .console _ _ => .console
  | .step _ _ => .step
  | .failed _ => .failed
  | .screenshot _ => .screenshot
  | .closed => .closed

/-- The events of one kind, in order. -/
def ofKind (k : Kind) (events : List Event) : List Event :=
  events.filter fun e => e.kind = k

/-- Two lists have the same events of each kind, in the same order. -/
def SameByKind (xs ys : List Event) : Prop :=
  ∀ k, ofKind k xs = ofKind k ys

/-- What is picked from events of one kind only can be picked after the others are left out. -/
lemma filterMap_ofKind {α : Type} {pick : Event → Option α} {k : Kind}
    (only : ∀ e a, pick e = some a → e.kind = k) (events : List Event) :
    (ofKind k events).filterMap pick = events.filterMap pick := by
  rw [ofKind, List.filterMap_filter]
  refine List.filterMap_congr fun e _ => ?_
  cases picked : pick e with
  | none => exact ite_self none
  | some a => simp [only e a picked]

lemma mem_ofKind {e : Event} {events : List Event} : e ∈ ofKind e.kind events ↔ e ∈ events := by
  simp [ofKind]

/-- Lists that agree kind by kind give the same to whatever picks from events of one kind only. -/
lemma SameByKind.filterMap_eq {α : Type} {xs ys : List Event} (same : SameByKind xs ys)
    {pick : Event → Option α} {k : Kind} (only : ∀ e a, pick e = some a → e.kind = k) :
    xs.filterMap pick = ys.filterMap pick := by
  rw [← filterMap_ofKind only xs, same k, filterMap_ofKind only ys]

lemma SameByKind.mem_iff {xs ys : List Event} (same : SameByKind xs ys) (e : Event) :
    e ∈ xs ↔ e ∈ ys := by
  rw [← mem_ofKind, same, mem_ofKind]

lemma kind_of_stepName? {e : Event} {name : String} (h : e.stepName? = some name) : e.kind = .step := by
  cases e <;> first | rfl | cases h

lemma kind_of_call? {e : Event} {call : String} (h : e.call? = some call) : e.kind = .console := by
  cases e <;> first | rfl | cases h

lemma kind_of_screenshot? {e : Event} {path : Path} (h : e.screenshot? = some path) :
    e.kind = .screenshot := by
  cases e <;> first | rfl | cases h

lemma kind_of_error? {e : Event} {error : String} (h : e.error? = some error) : e.kind = .failed := by
  cases e <;> first | rfl | cases h

end Event

/-! ### The summary -/

namespace Report

/-- What the report of a script says, part by part: the names of its steps, the calls that it told of, the
last screenshot, whether the browser was closed, and why it failed. That is its first failure; if it has
none, it is that the script ended badly, with the first line of what it wrote about it. -/
def summary (scenario : String) (events : List Event) (succeeded : Bool) (errors url : String) : Report where
  scenario
  outcome :=
    match events.filterMap Event.error? with
    | error :: _ => .failed (Failure.ofScriptMessage error url).message
    | [] =>
      if succeeded then .passed
      else
        .failed ("Script error: node exited abnormally: " ++
          if errors = "" then "no output" else String.ofList (Text.firstLine errors.toList))
  completedSteps := events.filterMap Event.stepName?
  calls := events.filterMap Event.call?
  screenshot := (events.filterMap Event.screenshot?).getLast?
  browserClosed := decide (.closed ∈ events)
  millis := 0

lemma message_script (detail : String) :
    (Failure.script detail).message = "Script error: " ++ detail := rfl

/-- A bad end in words. -/
lemma message_abnormalExit (errors : String) :
    (abnormalExit errors).message =
      "Script error: node exited abnormally: " ++
        if errors = "" then "no output" else String.ofList (Text.firstLine errors.toList) := by
  have words : "Script error: " ++ "node exited abnormally: " =
      "Script error: node exited abnormally: " := by decide
  rw [abnormalExit, message_script, ← String.append_assoc, words, Text.firstLine]
  cases lines : Text.lines errors.toList with
  | nil =>
    have empty : errors = "" := String.toList_eq_nil_iff.mp (Text.lines_eq_nil_iff.mp lines)
    rw [if_pos empty]
  | cons line rest =>
    have nonempty : errors ≠ "" := by
      rintro rfl
      cases lines
    rw [if_neg nonempty]
    rfl

/-- A fresh report gathers what the events have. -/
lemma gathered_fresh (scenario : String) (events : List Event) :
    (fresh scenario).gathered events =
      ⟨scenario, .passed, events.filterMap Event.stepName?, events.filterMap Event.call?,
        (events.filterMap Event.screenshot?).getLast?, decide (.closed ∈ events), 0⟩ := by
  simp [fresh, gathered, List.contains_eq_mem]

/-- Lists that agree kind by kind have the same summary. -/
lemma summary_congr {xs ys : List Event} (same : Event.SameByKind xs ys) (scenario : String)
    (succeeded : Bool) (errors url : String) :
    summary scenario xs succeeded errors url = summary scenario ys succeeded errors url := by
  have steps := same.filterMap_eq fun _ _ => Event.kind_of_stepName?
  have calls := same.filterMap_eq fun _ _ => Event.kind_of_call?
  have shots := same.filterMap_eq fun _ _ => Event.kind_of_screenshot?
  have failures := same.filterMap_eq fun _ _ => Event.kind_of_error?
  have closings := same.mem_iff .closed
  rw [summary, summary, steps, calls, shots, failures]
  simp only [closings]

/-- **The report is a summary of the events.** For all events, whether or not the script ended well, and
whatever it wrote to the standard error stream, the report of the script is the summary, in which each part
is picked from the events of one kind. So lists of events that have the same events of each kind in the same
order give the same report, however the kinds are interleaved.

**Proof sketch.** The walk over the events gathers what they have, part by part
(`LoadingCheck.Report.apply_eq`). Each part looks at events of one kind only. -/
theorem apply_fresh :
    (∀ scenario events succeeded errors url,
      (fresh scenario).apply ⟨events, succeeded, errors⟩ url =
        summary scenario events succeeded errors url) ∧
    (∀ xs ys, Event.SameByKind xs ys → ∀ scenario succeeded errors url,
      (fresh scenario).apply ⟨xs, succeeded, errors⟩ url =
        (fresh scenario).apply ⟨ys, succeeded, errors⟩ url) := by
  have all (scenario : String) (events : List Event) (succeeded : Bool) (errors url : String) :
      (fresh scenario).apply ⟨events, succeeded, errors⟩ url =
        summary scenario events succeeded errors url := by
    rw [apply_eq, firstFailure?, ← List.head?_filterMap, gathered_fresh, message_abnormalExit, summary]
    cases events.filterMap Event.error? with
    | cons error rest => rfl
    | nil => cases succeeded <;> rfl
  refine ⟨all, fun xs ys same scenario succeeded errors url => ?_⟩
  rw [all, all, summary_congr same]

/-- A script that fails at a click, and whose screenshot fails too. -/
def failingEvents : List Event :=
  [.step 0 "navigate", .console "log" "IPC call: null", .failed "locator.click: Timeout 30000ms",
    .failed "page.screenshot: closed", .closed]

/-- The same events in another order: the browser is closed before the failures, and the console lags. -/
def laggingEvents : List Event :=
  [.closed, .failed "locator.click: Timeout 30000ms", .step 0 "navigate",
    .failed "page.screenshot: closed", .console "log" "IPC call: null"]

/-- Both give the same report, which names the click, though the script ended badly. -/
theorem apply_lagging :
    Event.SameByKind failingEvents laggingEvents ∧
      (fresh "save").apply ⟨laggingEvents, false, "Killed\n"⟩ "http://localhost" =
        (fresh "save").apply ⟨failingEvents, false, "Killed\n"⟩ "http://localhost" ∧
      (fresh "save").apply ⟨failingEvents, false, "Killed\n"⟩ "http://localhost" =
        ⟨"save", .failed "Element not found: locator.click: Timeout 30000ms", ["navigate"], ["null"], none,
          true, 0⟩ := by
  have same : Event.SameByKind failingEvents laggingEvents := by
    intro k
    cases k <;> rfl
  refine ⟨same, (apply_fresh.2 _ _ same _ _ _ _).symm, ?_⟩
  rw [apply_fresh.1]
  decide

end Report

end LoadingCheck
