import LoadingCheck.Machine

/-!
# A check from beginning to end

A check goes through stages: the pattern has to be accepted, the times have to fit, the directory of the
screenshot has to be there or be made, and the driving module has to be installed. Then the script runs,
and its events make the report if the script comes to an end that is known. The first stage that fails ends
the check and is what the report says.

## Main definitions

* `LoadingCheck.Config` — what is checked, and what runs it.
* `LoadingCheck.Config.validate` — whether the times fit.
* `LoadingCheck.Check.run` — the whole check.
-/

namespace LoadingCheck

/-- What is checked, and what runs it. -/
structure Config where
  settings : Settings := {}
  options : Scenario.Options := {}
  deriving DecidableEq, Repr

/-- Checks that the wait ends before the bridge answers; afterwards the button would no longer be
loading. -/
def Config.validate (c : Config) : Except Failure Unit :=
  let settle := c.options.settle
  let delay := c.options.bridge.delay
  if delay ≤ settle then
    .error (.badSettings
      s!"settle time ({settle.millis} ms) must be shorter than the IPC delay ({delay.millis} ms)")
  else .ok ()

namespace Check

/-- What a check leaves behind. -/
structure Result where
  report : Report
  log : List Log.Entry
  tree : FileTree
  /-- What the program that runs scripts was asked first, if it was started for that. -/
  question : Option String
  /-- The script that it was given, if the check came so far. -/
  script : Option String
  /-- The number of log entries in front of the first one that a sum without 64 bits goes into. -/
  overflow : Option Nat

/-- Whether the program that runs scripts was asked for the driving module. -/
def Result.asked (r : Result) : Bool :=
  r.question.isSome

/-! ### The log -/

/-- The place of a step as the log counts it, from one on and with 64 bits. -/
def shownPlace (index : Nat) : Nat :=
  (index + 1) % 0x1_0000_0000_0000_0000

/-- Whether the place of a step, counted from one on, has more than 64 bits. -/
def overflows : Stream.Line → Bool
  | .event (.step index _) => 0x1_0000_0000_0000_0000 ≤ index + 1
  | _ => false

/-- The log entry for an event, in a scenario with `count` steps. -/
def eventEntry (count : Nat) : Event → Log.Entry
  | .console kind text =>
    match Bridge.interceptedCall? text with
    | some call => ⟨.info, .run, "IPC call intercepted: " ++ call⟩
    | none => ⟨.debug, .run, "[console." ++ kind ++ "] " ++ text⟩
  | .step index name => ⟨.info, .run, s!"✓ [{shownPlace index}/{count}] " ++ name⟩
  | .failed error => ⟨.debug, .run, "Script reported failure: " ++ error⟩
  | .screenshot path => ⟨.info, .run, "Screenshot saved to " ++ path.display⟩
  | .closed => ⟨.debug, .run, "Browser closed"⟩

/-- The log entry for the start of a scenario. -/
def startEntry (scenario : Scenario) (browser : Browser) : Log.Entry :=
  ⟨.info, .run,
    "Verifying '" ++ scenario.name ++ "' against " ++ scenario.url ++ " (" ++ browser.name ++ ")"⟩

/-- The log entry for a browser that may still be open. -/
def browserEntries (report : Report) : List Log.Entry :=
  if report.browserClosed then []
  else [⟨.warn, .run, "Script ended without confirming the browser was closed"⟩]

/-! ### Stages and scripts -/

/-- The milliseconds that a report has for a check, with 64 bits. -/
def millis (machine : Machine) : Nat :=
  machine.elapsed % 0x1_0000_0000_0000_0000

/-- The report of a check that comes to no end of its script. -/
def stopped (machine : Machine) (failure : Failure) : Report :=
  { Report.fresh Scenario.loadingStateName with
    outcome := .failed failure.message, millis := millis machine }

/-- What a check leaves behind that fails before its script runs. -/
def halted (machine : Machine) (tree : FileTree) (question : Option String) (failure : Failure) : Result :=
  { report := stopped machine failure, log := [], tree, question, script := none, overflow := none }

/-- Makes the directory that a screenshot goes to. -/
def prepareDirectory (machine : Machine) (screenshot : Path) : FileTree × Option Failure :=
  match (screenshot.absolute machine.cwd).parent? with
  | none => (machine.tree, none)
  | some directory =>
    let (tree, error) := machine.tree.makeDirectories directory
    (tree, error.map fun e => .files e.message)

/-- The number of log entries in front of that for the first line with a place that overflows: the two of the
start, and one for each line in front. -/
def overflowAt? (lines : List Stream.Line) : Option Nat :=
  (lines.findIdx? overflows).map (· + 2)

/-- Runs the script of a scenario. If the end of the script is not known, its events are no part of the
report. -/
def runScenario (config : Config) (machine : Machine) (tree : FileTree) (scenario : Scenario) : Result :=
  let run := machine.carryOut config.settings fun e => [eventEntry scenario.steps.length e]
  let start := startEntry scenario config.settings.browser
  let left (report : Report) (log : List Log.Entry) : Result :=
    { report, log, tree
      question := some Script.moduleQuery
      script := run.lines.map fun _ => Script.source config.settings machine.cwd scenario
      overflow := run.lines.bind overflowAt? }
  match run.output with
  | .error failure => left (stopped machine failure) (start :: run.log)
  | .ok output =>
    let report := (Report.fresh scenario.name).apply output scenario.url
    left { report with millis := millis machine } (start :: run.log ++ browserEntries report)

/-- Runs a check. -/
def run (config : Config) (machine : Machine) : Result :=
  match Scenario.loadingState config.options with
  | .error failure => halted machine machine.tree none failure
  | .ok scenario =>
    match config.validate with
    | .error failure => halted machine machine.tree none failure
    | .ok () =>
      match prepareDirectory machine scenario.screenshot.path with
      | (tree, some failure) => halted machine tree none failure
      | (tree, none) =>
        match machine.findModule config.settings with
        | .error failure => halted machine tree (machine.question? config.settings) failure
        | .ok _ => runScenario config machine tree scenario

end Check

end LoadingCheck
