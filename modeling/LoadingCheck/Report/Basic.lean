import LoadingCheck.Event.Basic

/-!
# Reports

A report tells how a check went: whether it passed, which steps were done, which calls the bridge took,
where the screenshot is and whether the browser was closed.

## Main definitions

* `LoadingCheck.Outcome` — whether a check passed.
* `LoadingCheck.Report` — reports.
* `LoadingCheck.Report.apply` — what the output of a script adds to a report.

## Design

Only the first failure counts: if the screenshot fails after an assertion did, the assertion is what is
reported. A script that ends badly without a failure counts as failed too.
-/

namespace LoadingCheck

/-- Whether a check passed, and if not, why. -/
inductive Outcome where
  | passed
  | failed (reason : String)
  deriving DecidableEq, Repr

/-- Whether the check passed. -/
def Outcome.isPassed : Outcome → Bool
  | .passed => true
  | .failed _ => false

/-- How a check went. -/
structure Report where
  scenario : String
  outcome : Outcome
  completedSteps : List String
  /-- The calls that the bridge took. -/
  calls : List String
  screenshot : Option Path
  browserClosed : Bool
  /-- How long the check took. -/
  millis : Nat
  deriving DecidableEq, Repr

/-- How a script ended: its events, whether its exit code was zero, and what it wrote to the standard
error stream. -/
structure ScriptOutput where
  events : List Event
  succeeded : Bool
  errors : String
  deriving DecidableEq, Repr

namespace Report

/-- The report of a check of which nothing has gone wrong yet. -/
def fresh (scenario : String) : Report :=
  ⟨scenario, .passed, [], [], none, false, 0⟩

/-- A report, and the first failure among the events so far. -/
structure Progress where
  report : Report
  failure : Option Failure

/-- Takes an event into account. The url is the one that the script was to open. -/
def Progress.add (url : String) (p : Progress) : Event → Progress
  | .console _ text =>
    match Bridge.interceptedCall? text with
    | some call => { p with report := { p.report with calls := p.report.calls ++ [call] } }
    | none => p
  | .step _ name =>
    { p with report := { p.report with completedSteps := p.report.completedSteps ++ [name] } }
  | .failed error =>
    match p.failure with
    | some _ => p
    | none => { p with failure := some (.ofScriptMessage error url) }
  | .screenshot path => { p with report := { p.report with screenshot := some path } }
  | .closed => { p with report := { p.report with browserClosed := true } }

/-- The failure of a script whose exit code is not zero. -/
def abnormalExit (errors : String) : Failure :=
  .script ("node exited abnormally: " ++
    match Text.lines errors.toList with
    | [] => "no output"
    | line :: _ => String.ofList line)

/-- Takes the output of a script into account. -/
def apply (report : Report) (output : ScriptOutput) (url : String) : Report :=
  let p := output.events.foldl (Progress.add url) ⟨report, none⟩
  match p.failure with
  | some failure => { p.report with outcome := .failed failure.message }
  | none =>
    if output.succeeded then p.report
    else { p.report with outcome := .failed (abnormalExit output.errors).message }

end Report

end LoadingCheck
