import LoadingCheck.Check
import LoadingCheck.Proofs.Event.Protocol
import LoadingCheck.Proofs.Machine.Script
import LoadingCheck.Proofs.Report.Summary

set_option relaxedAutoImplicit false
set_option autoImplicit false

/-!
# What a pass means

A check passes when it comes to an end of its script that is known, the script ends well and reports no
failure. Nothing asks for an event that is missing: a script that ends well without a word passes too. The
events of a script that runs to its end leave no such gap. They come in the order of the program, and if none
of them is a failure, then all steps are among them, the screenshot, and the end of the browser.

## Main definitions

* `LoadingCheck.Check.Reaches` — a check comes as far as the script of a scenario.
* `LoadingCheck.Check.Ends` — a check comes to an end of this script that is known.
* `LoadingCheck.Script.Run` — the events of a script that runs to its end.

## Main results

* `LoadingCheck.Check.passes_iff` — which checks pass, what their reports say, and that they say that
  everything was done if the script ran to its end.
* `LoadingCheck.Check.silent_passes` — a check that passes and whose report says that nothing was done.
-/

namespace LoadingCheck

/-! ### Scripts that run to their end -/

namespace Script

/-- The events of the steps from the place `index` on. Each step that is taken is reported, and the first
that fails is the last one to be tried. -/
inductive Attempt : (index : ℕ) → List Step → List Event → Prop
  | done (index : ℕ) : Attempt index [] []
  | taken {index : ℕ} {step : Step} {rest : List Step} {events : List Event}
      (h : Attempt (index + 1) rest events) :
      Attempt index (step :: rest) (.step index step.name :: events)
  | failed (index : ℕ) (step : Step) (rest : List Step) (error : String) :
      Attempt index (step :: rest) [.failed error]

/-- The path of the screenshot as the script of a scenario reports it. -/
def shotPath (cwd : Option Path) (s : Scenario) : Path :=
  .ofString (s.screenshot.path.absolute cwd).display

/-- The event of the screenshot at a path. -/
inductive Shot (path : Path) : Event → Prop
  | saved : Shot path (.screenshot path)
  | failed (error : String) : Shot path (.failed error)

/-- The events that the script of a scenario reports until its end, those of the page left out: a browser
or a page that does not open, or else the attempt at the steps, the screenshot, and the end of the browser,
which may fail as well. -/
inductive Run (cwd : Option Path) (s : Scenario) : List Event → Prop
  | noBrowser (error : String) : Run cwd s [.failed error]
  | noPage (error : String) : Run cwd s [.closed, .failed error]
  | ended {events : List Event} {last : Event} (attempt : Attempt 0 s.steps events)
      (shot : Shot (shotPath cwd s) last) : Run cwd s (events ++ [last, .closed])
  | notClosed {events : List Event} {last : Event} (error : String)
      (attempt : Attempt 0 s.steps events) (shot : Shot (shotPath cwd s) last) :
      Run cwd s (events ++ [last, .failed error])

/-- An attempt without a failure reports every step. -/
lemma Attempt.eq_steps {index : ℕ} {steps : List Step} {events : List Event}
    (h : Attempt index steps events) (clean : ∀ error, Event.failed error ∉ events) :
    events.filterMap Event.stepName? = steps.map Step.name ∧
      events.filterMap Event.screenshot? = [] := by
  induction h with
  | done index => exact ⟨rfl, rfl⟩
  | @taken index step rest events _ ih =>
    obtain ⟨names, shots⟩ := ih fun error hmem => clean error (List.mem_cons_of_mem _ hmem)
    constructor
    · rw [List.map_cons, ← names]
      rfl
    · rw [← shots]
      rfl
  | failed index step rest error => exact absurd (List.mem_singleton_self _) (clean error)

/-- The events of the steps with the given names from the place `index` on, none of which fails. -/
def stepEvents : (index : ℕ) → List String → List Event
  | _, [] => []
  | index, name :: rest => .step index name :: stepEvents (index + 1) rest

lemma attempt_stepEvents (index : ℕ) (steps : List Step) :
    Attempt index steps (stepEvents index (steps.map Step.name)) := by
  induction steps generalizing index with
  | nil => exact .done index
  | cons step rest ih => exact .taken (ih (index + 1))

/-- A run without a failure reports every step, the screenshot and the end of the browser. -/
lemma Run.complete {cwd : Option Path} {s : Scenario} {events : List Event}
    (h : Run cwd s events) (clean : ∀ error, Event.failed error ∉ events) :
    events.filterMap Event.stepName? = s.steps.map Step.name ∧
      (events.filterMap Event.screenshot?).getLast? = some (shotPath cwd s) ∧
      Event.closed ∈ events := by
  cases h with
  | noBrowser error => exact absurd (by simp) (clean error)
  | noPage error => exact absurd (by simp) (clean error)
  | notClosed error attempt shot => exact absurd (by simp) (clean error)
  | @ended events last attempt shot =>
    obtain ⟨names, shots⟩ :=
      attempt.eq_steps fun error hmem => clean error (List.mem_append_left _ hmem)
    cases shot with
    | failed error => exact absurd (by simp) (clean error)
    | saved =>
      refine ⟨?_, ?_, by simp⟩
      · rw [List.filterMap_append, names]
        exact List.append_nil _
      · rw [List.filterMap_append, shots]
        rfl

end Script

namespace Check

/-! ### How far a check comes -/

/-- A check comes as far as the script of a scenario: no stage before it fails. -/
structure Reaches (config : Config) (machine : Machine) (scenario : Scenario) (node : Node) : Prop where
  accepted : Scenario.loadingState config.options = .ok scenario
  fits : config.validate = .ok ()
  prepared : (prepareDirectory machine scenario.screenshot.path).2 = none
  installed : machine.findModule config.settings = .ok node

/-- A check comes to an end of the script: it comes as far as the script, the program is given it, and how the
program ends is known. -/
structure Ends (config : Config) (machine : Machine) (scenario : Scenario) (node : Node) : Prop
    extends Reaches config machine scenario node where
  given : machine.Gives config.settings node
  ended : machine.faults.wait = none

/-- The events that are read of what a program writes when it is given a script. -/
def eventsOf (machine : Machine) (node : Node) : List Event :=
  Stream.events (machine.received node)

lemma eventsOf_of_read {machine : Machine} {node : Node} (read : machine.faults.read = none) :
    eventsOf machine node = Stream.events (Stream.read node.stdout) := by
  rw [eventsOf, Machine.received_of_read read]

variable {config : Config} {machine : Machine} {scenario : Scenario} {node : Node}

lemma Reaches.launched (h : Reaches config machine scenario node) :
    machine.launch config.settings machine.faults.ask = .ok node :=
  (Machine.findModule_eq_ok_iff.mp h.installed).1

/-- A check that comes as far as the script runs it. -/
lemma Reaches.run_eq (h : Reaches config machine scenario node) :
    run config machine =
      runScenario config machine (prepareDirectory machine scenario.screenshot.path).1 scenario := by
  have hp : prepareDirectory machine scenario.screenshot.path =
      ((prepareDirectory machine scenario.screenshot.path).1, none) := by
    rw [← h.prepared]
  rw [run]
  simp only [h.accepted, h.fits, h.installed]
  rw [hp]

/-- A check either comes as far as the script, or the failure of a stage before it is its report. -/
lemma reaches_or_stopped (config : Config) (machine : Machine) :
    (∃ scenario node, Reaches config machine scenario node) ∨
      ∃ failure, (run config machine).report = stopped machine failure := by
  cases accepted : Scenario.loadingState config.options with
  | error failure =>
    refine .inr ⟨failure, ?_⟩
    simp only [run, accepted]
    rfl
  | ok scenario =>
    cases fits : config.validate with
    | error failure =>
      refine .inr ⟨failure, ?_⟩
      simp only [run, accepted, fits]
      rfl
    | ok _ =>
      rcases prepared : prepareDirectory machine scenario.screenshot.path with ⟨tree, _ | failure⟩
      · cases installed : machine.findModule config.settings with
        | error failure =>
          refine .inr ⟨failure, ?_⟩
          simp only [run, accepted, fits, prepared, installed]
          rfl
        | ok node =>
          exact .inl ⟨scenario, node, accepted, fits, by rw [prepared], installed⟩
      · refine .inr ⟨failure, ?_⟩
        simp only [run, accepted, fits, prepared]
        rfl

/-- What is left of a check whose script the system keeps from the program: an entry for the start. -/
lemma Reaches.run_of_refusal? (h : Reaches config machine scenario node) {failure : Failure}
    (refused : machine.refusal? config.settings = some failure) :
    run config machine =
      { report := stopped machine failure
        log := startEntry scenario config.settings.browser :: machine.refusedEntries
        tree := (prepareDirectory machine scenario.screenshot.path).1
        question := some Script.moduleQuery
        script := none
        overflow := none } := by
  rw [h.run_eq, runScenario]
  simp only [Machine.carryOut_of_refusal? h.launched refused]
  rfl

/-- What is left of a check whose script comes to an end that cannot be found out: the entries for what was
read. -/
lemma Reaches.run_of_wait (h : Reaches config machine scenario node)
    (given : machine.Gives config.settings node) {text : String} (wait : machine.faults.wait = some text) :
    run config machine =
      { report := stopped machine (.files text)
        log := startEntry scenario config.settings.browser :: machine.scriptEntry ::
          (machine.received node).flatMap (Node.lineEntries fun e => [eventEntry scenario.steps.length e]) ++
            machine.readEntries
        tree := (prepareDirectory machine scenario.screenshot.path).1
        question := some Script.moduleQuery
        script := some (Script.source config.settings machine.cwd scenario)
        overflow := overflowAt? (machine.received node) } := by
  rw [h.run_eq, runScenario]
  simp only [given.carryOut_of_wait wait]
  rfl

/-- A check either comes to an end of the script, or a failure in front of that is its report. -/
lemma ends_or_stopped (config : Config) (machine : Machine) :
    (∃ scenario node, Ends config machine scenario node) ∨
      ∃ failure, (run config machine).report = stopped machine failure := by
  rcases reaches_or_stopped config machine with ⟨scenario, node, reaches⟩ | stop
  · cases refused : machine.refusal? config.settings with
    | some failure => exact .inr ⟨failure, by rw [reaches.run_of_refusal? refused]⟩
    | none =>
      have given := Machine.gives_of_refusal? reaches.launched refused
      cases wait : machine.faults.wait with
      | some text => exact .inr ⟨.files text, by rw [reaches.run_of_wait given wait]⟩
      | none => exact .inl ⟨scenario, node, reaches, given, wait⟩
  · exact .inr stop

/-! ### Reports of checks that run their script -/

/-- What is left of a check that comes to an end of its script. -/
lemma Ends.run_eq (h : Ends config machine scenario node) :
    run config machine =
      let report :=
        { (Report.fresh scenario.name).apply (machine.output node) scenario.url with millis := millis machine }
      { report
        log := startEntry scenario config.settings.browser ::
          (machine.scriptEntry ::
            (machine.received node).flatMap (Node.lineEntries fun e => [eventEntry scenario.steps.length e]) ++
              machine.readEntries ++ node.exitEntries) ++ browserEntries report
        tree := (prepareDirectory machine scenario.screenshot.path).1
        question := some Script.moduleQuery
        script := some (Script.source config.settings machine.cwd scenario)
        overflow := overflowAt? (machine.received node) } := by
  rw [h.toReaches.run_eq, runScenario]
  simp only [h.given.carryOut_of_ended h.ended]
  rfl

/-- The report of a check that comes to an end of its script. -/
lemma Ends.report_eq (h : Ends config machine scenario node) :
    (run config machine).report =
      { (Report.fresh scenario.name).gathered (eventsOf machine node) with
        outcome := (run config machine).report.outcome
        millis := millis machine } := by
  rw [h.run_eq]
  dsimp only
  rw [Report.apply_eq_gathered]
  rfl

/-- A check that comes to an end of its script passes exactly if the script ends well and reports no
failure. -/
lemma Ends.outcome_eq_passed (h : Ends config machine scenario node) :
    (run config machine).report.outcome = .passed ↔
      node.exit = .code 0 ∧ ∀ error, Event.failed error ∉ eventsOf machine node := by
  rw [h.run_eq]
  dsimp only
  rw [Report.outcome_apply_eq_passed rfl, Machine.output, Exit.succeeded_iff]
  rfl

/-- What a page writes to its console is no part of the steps, the screenshot or the end of the
browser. -/
lemma filterMap_filter_console {α : Type} (f : Event → Option α)
    (hf : ∀ kind text, f (.console kind text) = none) (events : List Event) :
    (events.filter fun e => !e.isConsole).filterMap f = events.filterMap f := by
  rw [List.filterMap_filter]
  refine List.filterMap_congr fun e _ => ?_
  cases e with
  | console kind text => simp [Event.isConsole, hf]
  | step | failed | screenshot | closed => simp [Event.isConsole]

/-- **Which checks pass.** A check passes exactly if it comes to an end of its script that is known, the script
ends with exit code zero and no event that is read of its output is a failure. The report of a check that comes
to an end of its script has the names of the steps that the output reports, in their order, the last screenshot
among the events, and whether the end of the browser is among them. If the check passes and the events, apart
from what the page wrote to its console, are those of a script that runs to its end, then the report has the
names of all steps of the scenario in order, the screenshot, and a browser that was closed. -/
theorem passes_iff (config : Config) (machine : Machine) :
    ((run config machine).report.outcome = .passed ↔
      ∃ scenario node, Ends config machine scenario node ∧ node.exit = .code 0 ∧
        ∀ error, Event.failed error ∉ eventsOf machine node) ∧
    ∀ scenario node, Ends config machine scenario node →
      ((run config machine).report.completedSteps = (eventsOf machine node).filterMap Event.stepName? ∧
        (run config machine).report.screenshot =
          ((eventsOf machine node).filterMap Event.screenshot?).getLast? ∧
        ((run config machine).report.browserClosed = true ↔ Event.closed ∈ eventsOf machine node)) ∧
      ((run config machine).report.outcome = .passed →
        Script.Run machine.cwd scenario ((eventsOf machine node).filter fun e => !e.isConsole) →
        (run config machine).report.completedSteps = scenario.steps.map Step.name ∧
          (run config machine).report.screenshot = some (Script.shotPath machine.cwd scenario) ∧
          (run config machine).report.browserClosed = true) := by
  constructor
  · constructor
    · intro passed
      rcases ends_or_stopped config machine with ⟨scenario, node, h⟩ | ⟨failure, h⟩
      · exact ⟨scenario, node, h, h.outcome_eq_passed.mp passed⟩
      · rw [h] at passed
        exact absurd passed Outcome.noConfusion
    · rintro ⟨scenario, node, h, ends⟩
      exact h.outcome_eq_passed.mpr ends
  · intro scenario node h
    have fields : (run config machine).report.completedSteps =
          (eventsOf machine node).filterMap Event.stepName? ∧
        (run config machine).report.screenshot =
          ((eventsOf machine node).filterMap Event.screenshot?).getLast? ∧
        ((run config machine).report.browserClosed = true ↔ Event.closed ∈ eventsOf machine node) := by
      rw [h.report_eq]
      refine ⟨rfl, Option.or_none, ?_⟩
      simp [Report.gathered, Report.fresh]
    refine ⟨fields, fun passed complete => ?_⟩
    obtain ⟨_, clean⟩ := h.outcome_eq_passed.mp passed
    obtain ⟨names, shot, closed⟩ :=
      complete.complete fun error hmem => clean error (List.mem_filter.mp hmem).1
    rw [filterMap_filter_console _ fun _ _ => rfl] at names shot
    rw [fields.1, fields.2.1, fields.2.2]
    exact ⟨names, shot, (List.mem_filter.mp closed).1⟩

/-! ### Two machines -/

/-- A directory to work in. -/
def workPlace : Path :=
  .ofString "/work"

/-- A machine in an empty directory whose program for scripts writes what is given and ends well. -/
def machineWriting (stdout : List UInt8) : Machine where
  cwd := some workPlace
  tree := { directories := [[Utf8.encode "work".toList]], files := [] }
  node := some ⟨.code 0, .code 0, stdout, []⟩
  scriptPath := .ofString "verify.js"
  elapsed := 0

lemma cwd_machineWriting (stdout : List UInt8) : (machineWriting stdout).cwd = some workPlace := rfl

lemma tree_machineWriting (stdout : List UInt8) :
    (machineWriting stdout).tree = (machineWriting []).tree := rfl

/-- The names of the steps of the standard check. -/
def standardNames : List String :=
  ["install-bridge:init-script", "navigate:http://localhost:3000", "install-bridge:evaluate",
    "click:button[name=\"Generate configs\"]", "settle:500ms",
    "assert-class:button[name=\"Generate configs\"]~/loading/"]

/-- Where the screenshot of the standard check goes. -/
def standardShot : Path :=
  .ofString "/work/verification/ux_verification_refined.png"

/-- The events of the standard check if nothing fails, with a call of the backend in between. -/
def standardEvents : List Event :=
  .console "log" "IPC call: null" ::
    (Script.stepEvents 0 standardNames ++ [.screenshot standardShot, .closed])

/-- The standard check has a scenario with these steps and this screenshot. -/
lemma exists_standard :
    ∃ scenario, Scenario.loadingState {} = .ok scenario ∧
      scenario.steps.map Step.name = standardNames ∧
      scenario.screenshot.path = ({} : Scenario.Options).screenshot := by
  have known : ((Scenario.loadingState {}).toOption.map fun s =>
        (s.steps.map Step.name, s.screenshot.path)) =
      some (standardNames, ({} : Scenario.Options).screenshot) := by decide
  cases accepted : Scenario.loadingState {} with
  | error failure =>
    rw [accepted] at known
    exact absurd known (by simp [Except.toOption])
  | ok scenario =>
    rw [accepted] at known
    have both := Option.some.inj known
    exact ⟨scenario, rfl, congrArg Prod.fst both, congrArg Prod.snd both⟩

/-- The standard check comes to an end of its script on such a machine, whatever the script writes. -/
lemma ends_standard {scenario : Scenario} (accepted : Scenario.loadingState {} = .ok scenario)
    (shot : scenario.screenshot.path = ({} : Scenario.Options).screenshot) (stdout : List UInt8) :
    Ends {} (machineWriting stdout) scenario ⟨.code 0, .code 0, stdout, []⟩ := by
  have zero : (Path.absolute (some workPlace) ({} : Settings).modules).bytes.contains 0 = false := by decide
  have launched : (machineWriting stdout).launch {} none = .ok ⟨.code 0, .code 0, stdout, []⟩ :=
    Machine.launch_eq_ok_iff.mpr ⟨⟨by decide, zero⟩, rfl, rfl⟩
  refine ⟨⟨accepted, by decide, ?_, Machine.findModule_eq_ok_iff.mpr ⟨launched, rfl, rfl⟩⟩, ⟨rfl, launched⟩, rfl⟩
  rw [shot, prepareDirectory, cwd_machineWriting, tree_machineWriting]
  decide

/-- **A complete run.** The standard check passes if the script runs to its end without a failure, and its
report says that everything was done. -/
theorem standard_passes :
    (run {} (machineWriting (Stream.written standardEvents))).report.outcome = .passed ∧
      (run {} (machineWriting (Stream.written standardEvents))).report.completedSteps = standardNames ∧
      (run {} (machineWriting (Stream.written standardEvents))).report.screenshot = some standardShot ∧
      (run {} (machineWriting (Stream.written standardEvents))).report.browserClosed = true := by
  obtain ⟨scenario, accepted, names, path⟩ := exists_standard
  have ends := ends_standard accepted path (Stream.written standardEvents)
  have shot : Script.shotPath (some workPlace) scenario = standardShot := by
    rw [Script.shotPath, path]
    decide
  have sendable : ∀ e ∈ standardEvents, e.Sendable := by
    simp [standardEvents, standardNames, Script.stepEvents, Event.Sendable, standardShot, Path.IsText]
  have events : eventsOf (machineWriting (Stream.written standardEvents))
      ⟨.code 0, .code 0, Stream.written standardEvents, []⟩ = standardEvents := by
    rw [eventsOf_of_read rfl]
    exact Stream.events_written sendable
  have complete : Script.Run (some workPlace) scenario (standardEvents.filter fun e => !e.isConsole) := by
    have ended : Script.Run (some workPlace) scenario _ :=
      .ended (Script.attempt_stepEvents 0 scenario.steps) .saved
    rwa [names, shot] at ended
  obtain ⟨passes, reports⟩ := passes_iff {} (machineWriting (Stream.written standardEvents))
  have passed := passes.mpr ⟨scenario, _, ends, rfl, by
    rw [events]
    simp [standardEvents, standardNames, Script.stepEvents]⟩
  have done := (reports scenario _ ends).2 passed
  rw [events, cwd_machineWriting, names, shot] at done
  exact ⟨passed, done complete⟩

/-- A script that ends well without a word passes, and its report says that nothing was done. -/
theorem silent_passes :
    ∃ scenario, Scenario.loadingState {} = .ok scenario ∧
      (run {} (machineWriting [])).report.outcome = .passed ∧
      (run {} (machineWriting [])).report.completedSteps ≠ scenario.steps.map Step.name ∧
      (run {} (machineWriting [])).report.screenshot = none ∧
      (run {} (machineWriting [])).report.browserClosed = false := by
  obtain ⟨scenario, accepted, names, _⟩ := exists_standard
  refine ⟨scenario, accepted, by decide, ?_, by decide, by decide⟩
  rw [names]
  decide

end Check

end LoadingCheck
