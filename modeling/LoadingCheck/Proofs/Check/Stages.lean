import LoadingCheck.Proofs.Check.Passed

set_option relaxedAutoImplicit false
set_option autoImplicit false

/-!
# The stages of a check

Four stages stand in front of the script of a check: its pattern is read, its times are compared, the
directory of its screenshot is made, and the program that runs scripts is asked for the driving module. Each
may fail, and several may be bound to fail at once. The first one that fails decides: its failure is the
outcome, and of the stages behind it nothing is done. If none fails, the program is given the script, unless
the system has no file for it or does not start the program again.

## Main definitions

* `LoadingCheck.Check.Stage` — the stages.
* `LoadingCheck.Check.Stage.failure?` — what keeps a stage from succeeding, whatever the others do.
* `LoadingCheck.Check.firstFailure?` — the first stage that fails.
* `LoadingCheck.Check.Stage.result` — what a check leaves behind that a stage ends.

## Main results

* `LoadingCheck.Check.run_staged` — the first stage that fails decides.
-/

namespace LoadingCheck

namespace Check

/-- The stages in front of the script of a check. -/
inductive Stage where
  | pattern
  | timing
  | directory
  | toolchain
  deriving DecidableEq, Repr

/-- The directory that the screenshot of a check goes to, if there is one. -/
def shotDirectory? (config : Config) (machine : Machine) : Option Path :=
  (config.options.screenshot.absolute machine.cwd).parent?

/-- A report with nothing but a failure. -/
def failedReport (machine : Machine) (failure : Failure) : Report where
  scenario := Scenario.loadingStateName
  outcome := .failed failure.message
  completedSteps := []
  calls := []
  screenshot := none
  browserClosed := false
  millis := machine.elapsed % 2 ^ 64

namespace Stage

/-- The stages in their order. -/
def order : List Stage :=
  [.pattern, .timing, .directory, .toolchain]

/-- What keeps a stage from succeeding, if anything does. It depends on what the stage looks at, and not on
the stages in front of it. -/
def failure? (config : Config) (machine : Machine) : Stage → Option Failure
  | .pattern =>
    let source := config.options.classPattern
    match ClassPattern.compile source with
    | .ok _ => none
    | .error rejection => some (.badPattern source (rejection.reason source))
  | .timing =>
    let settle := config.options.settle
    let delay := config.options.bridge.delay
    if settle.nanos < delay.nanos then none
    else some (.badSettings
      s!"settle time ({settle.millis} ms) must be shorter than the IPC delay ({delay.millis} ms)")
  | .directory =>
    (shotDirectory? config machine).bind fun path =>
      (machine.tree.makeDirectories path).2.map fun e => .files e.message
  | .toolchain =>
    let refused (fault : String) : Option Failure :=
      some (.launch (config.settings.node.display ++ ": " ++ fault))
    if config.settings.node.bytes.contains 0 ||
        (config.settings.modules.absolute machine.cwd).bytes.contains 0 then
      refused "nul byte found in provided data"
    else
      match machine.faults.ask, machine.node, machine.faults.answer with
      | some fault, _, _ => refused fault
      | none, none, _ => refused "No such file or directory (os error 2)"
      | none, some _, some fault => refused fault
      | none, some node, none => if node.checkExit = .code 0 then none else some .moduleMissing

/-- The directories and files after a check that a stage ends: nothing is made before the screenshot needs
its directory. -/
def tree (config : Config) (machine : Machine) : Stage → FileTree
  | .pattern | .timing => machine.tree
  | .directory | .toolchain =>
    match shotDirectory? config machine with
    | none => machine.tree
    | some path => (machine.tree.makeDirectories path).1

/-- What the program for scripts is asked in a check that a stage ends: it is not started in front of the last
stage. -/
def question (config : Config) (machine : Machine) : Stage → Option String
  | .pattern | .timing | .directory => none
  | .toolchain => machine.question? config.settings

/-- What a check leaves behind that a stage ends: a report with nothing but the failure, no log and no
script. -/
def result (config : Config) (machine : Machine) (stage : Stage) (failure : Failure) : Result where
  report := failedReport machine failure
  log := []
  tree := stage.tree config machine
  question := stage.question config machine
  script := none
  overflow := none

end Stage

/-- The first stage that fails, with its failure. -/
def firstFailure? (config : Config) (machine : Machine) : Option (Stage × Failure) :=
  Stage.order.findSome? fun stage => (stage.failure? config machine).map fun failure => (stage, failure)

variable {config : Config} {machine : Machine}

/-! ### Single stages -/

lemma loadingState_of_pattern {failure : Failure}
    (h : Stage.pattern.failure? config machine = some failure) :
    Scenario.loadingState config.options = .error failure := by
  have refused : ClassPattern.ofString config.options.classPattern = .error failure := by
    simp only [Stage.failure?] at h
    rw [ClassPattern.ofString]
    split
    · rename_i expr compiled
      simp [compiled] at h
    · rename_i rejection compiled
      rw [compiled] at h
      rw [← Option.some.inj h]
  rw [Scenario.loadingState, refused]
  rfl

lemma exists_loadingState (h : Stage.pattern.failure? config machine = none) :
    ∃ scenario, Scenario.loadingState config.options = .ok scenario ∧
      scenario.screenshot.path = config.options.screenshot := by
  obtain ⟨pattern, accepted⟩ :
      ∃ pattern, ClassPattern.ofString config.options.classPattern = .ok pattern := by
    simp only [Stage.failure?] at h
    rw [ClassPattern.ofString]
    split
    · exact ⟨_, rfl⟩
    · rename_i rejection compiled
      simp [compiled] at h
  refine ⟨⟨Scenario.loadingStateName, Scenario.loadingSteps config.options pattern,
    ⟨config.options.screenshot, false⟩⟩, ?_, rfl⟩
  rw [Scenario.loadingState, accepted]
  rfl

lemma validate_of_timing {failure : Failure} (h : Stage.timing.failure? config machine = some failure) :
    config.validate = .error failure := by
  simp only [Stage.failure?] at h
  split_ifs at h with fits
  have late : config.options.bridge.delay ≤ config.options.settle := Nat.le_of_not_lt fits
  rw [Config.validate, if_pos late, ← Option.some.inj h]

lemma validate_of_timing_none (h : Stage.timing.failure? config machine = none) :
    config.validate = .ok () := by
  simp only [Stage.failure?] at h
  split_ifs at h with fits
  have early : ¬ config.options.bridge.delay ≤ config.options.settle := Nat.not_le_of_lt fits
  rw [Config.validate, if_neg early]

lemma prepareDirectory_eq (config : Config) (machine : Machine) :
    prepareDirectory machine config.options.screenshot =
      (Stage.directory.tree config machine, Stage.directory.failure? config machine) := by
  simp only [prepareDirectory, Stage.tree, Stage.failure?, shotDirectory?]
  cases (config.options.screenshot.absolute machine.cwd).parent? with
  | none => rfl
  | some path => rfl

lemma findModule_of_toolchain {failure : Failure}
    (h : Stage.toolchain.failure? config machine = some failure) :
    machine.findModule config.settings = .error failure := by
  simp only [Stage.failure?] at h
  rw [Machine.findModule, Machine.launch.eq_def, Machine.moduleDirectory]
  split_ifs at h ⊢ with zero
  · rw [← Option.some.inj h]
    rfl
  · split at h
    · rename_i ask
      rw [ask, ← Option.some.inj h]
      rfl
    · rename_i ask present
      rw [ask, present, ← Option.some.inj h]
      rfl
    · rename_i ask present answer
      rw [ask, present, answer, ← Option.some.inj h]
      rfl
    · rename_i node ask present answer
      split_ifs at h with well
      rw [ask, present, answer, ← Option.some.inj h]
      have badly : ¬ node.checkExit.succeeded = true := mt Exit.succeeded_iff.mp well
      simp only [bind, Except.bind, if_neg badly]

lemma exists_findModule (h : Stage.toolchain.failure? config machine = none) :
    ∃ node, machine.findModule config.settings = .ok node := by
  simp only [Stage.failure?] at h
  split_ifs at h with zero
  split at h
  · cases h
  · cases h
  · cases h
  · rename_i node ask present answer
    split_ifs at h with well
    rw [Bool.not_eq_true, Bool.or_eq_false_iff] at zero
    refine ⟨node, Machine.findModule_eq_ok_iff.mpr ⟨?_, answer, well⟩⟩
    exact Machine.launch_eq_ok_iff.mpr ⟨zero, ask, present⟩

/-! ### Runs -/

/-- What the first stage that fails makes of a check.

**Proof sketch.** The stages succeed one after the other until the one that fails, and a run looks at them
in the same order. -/
lemma run_of_firstFailure? {stage : Stage} {failure : Failure}
    (h : firstFailure? config machine = some (stage, failure)) :
    run config machine = stage.result config machine failure := by
  simp only [firstFailure?, Stage.order, List.findSome?_cons, List.findSome?_nil] at h
  cases pattern : Stage.pattern.failure? config machine with
  | some f =>
    rw [pattern] at h
    cases h
    rw [run, loadingState_of_pattern pattern]
    rfl
  | none =>
    obtain ⟨scenario, accepted, path⟩ := exists_loadingState pattern
    rw [pattern] at h
    cases timing : Stage.timing.failure? config machine with
    | some f =>
      rw [timing] at h
      cases h
      simp only [run, accepted, validate_of_timing timing]
      rfl
    | none =>
      rw [timing] at h
      cases directory : Stage.directory.failure? config machine with
      | some f =>
        rw [directory] at h
        cases h
        simp only [run, accepted, validate_of_timing_none timing, path, prepareDirectory_eq, directory]
        rfl
      | none =>
        rw [directory] at h
        cases toolchain : Stage.toolchain.failure? config machine with
        | some f =>
          rw [toolchain] at h
          cases h
          simp only [run, accepted, validate_of_timing_none timing, path, prepareDirectory_eq, directory,
            findModule_of_toolchain toolchain]
          rfl
        | none =>
          rw [toolchain] at h
          cases h

/-- A check whose stages all succeed comes as far as its script. -/
lemma exists_reaches (h : ∀ stage : Stage, stage.failure? config machine = none) :
    ∃ scenario node, Reaches config machine scenario node := by
  obtain ⟨scenario, accepted, path⟩ := exists_loadingState (h .pattern)
  obtain ⟨node, installed⟩ := exists_findModule (h .toolchain)
  refine ⟨scenario, node, ⟨accepted, validate_of_timing_none (h .timing), ?_, installed⟩⟩
  rw [path, prepareDirectory_eq, h .directory]

lemma firstFailure?_eq_none :
    firstFailure? config machine = none ↔ ∀ stage : Stage, stage.failure? config machine = none := by
  simp only [firstFailure?, List.findSome?_eq_none_iff, Option.map_eq_none_iff]
  constructor
  · intro h stage
    apply h
    cases stage <;> decide
  · exact fun h stage _ => h stage

/-- A check that comes as far as its script gives it to the program, unless the system has something against
that. -/
lemma script_of_given {scenario : Scenario} {node : Node} (h : Reaches config machine scenario node)
    (given : machine.Gives config.settings node) :
    (run config machine).script = some (Script.source config.settings machine.cwd scenario) := by
  cases wait : machine.faults.wait with
  | some text => rw [h.run_of_wait given wait]
  | none => rw [Ends.run_eq ⟨h, given, wait⟩]

/-- What a check leaves behind whose stages succeed, but whose script the system keeps from the program: a report
with nothing but the failure, and a log that ends with the start. -/
def refusedResult (config : Config) (machine : Machine) (scenario : Scenario) (failure : Failure) : Result where
  report := failedReport machine failure
  log := startEntry scenario config.settings.browser :: machine.refusedEntries
  tree := Stage.directory.tree config machine
  question := some Script.moduleQuery
  script := none
  overflow := none

/-- What is left of a check whose stages succeed does not depend on what the program would do with the script, if
the system keeps the script from it. -/
lemma run_of_refusal? (first : firstFailure? config machine = none) {failure : Failure}
    (refused : machine.refusal? config.settings = some failure) :
    ∃ scenario, Scenario.loadingState config.options = .ok scenario ∧
      run config machine = refusedResult config machine scenario failure := by
  have succeed := firstFailure?_eq_none.mp first
  obtain ⟨scenario, accepted, path⟩ := exists_loadingState (succeed .pattern)
  obtain ⟨scenario', node, reaches⟩ := exists_reaches succeed
  have same := reaches.accepted
  rw [accepted] at same
  cases same
  refine ⟨scenario, accepted, ?_⟩
  rw [reaches.run_of_refusal? refused, path, prepareDirectory_eq]
  rfl

/-- A stage ends a check, or the system keeps its script from the program, or the program is given the script. -/
lemma stage_refused_or_gives (config : Config) (machine : Machine) :
    (∃ stage failure, firstFailure? config machine = some (stage, failure)) ∨
      (∃ failure, firstFailure? config machine = none ∧ machine.refusal? config.settings = some failure) ∨
        ∃ scenario node, firstFailure? config machine = none ∧ machine.refusal? config.settings = none ∧
          Reaches config machine scenario node ∧ machine.Gives config.settings node := by
  cases first : firstFailure? config machine with
  | some p => exact .inl ⟨p.1, p.2, rfl⟩
  | none =>
    cases refused : machine.refusal? config.settings with
    | some failure => exact .inr (.inl ⟨failure, rfl, rfl⟩)
    | none =>
      obtain ⟨scenario, node, reaches⟩ := exists_reaches (firstFailure?_eq_none.mp first)
      have given := Machine.gives_of_refusal? reaches.launched refused
      exact .inr (.inr ⟨scenario, node, rfl, rfl, reaches, given⟩)

/-- A check comes to its script and gives it to the program, or else it has no script and no place that
overflows. -/
lemma gives_or_kept (config : Config) (machine : Machine) :
    (∃ scenario node, Reaches config machine scenario node ∧ machine.Gives config.settings node) ∨
      (run config machine).script = none ∧ (run config machine).overflow = none := by
  rcases stage_refused_or_gives config machine with
    ⟨stage, failure, first⟩ | ⟨failure, first, refused⟩ | ⟨scenario, node, _, _, reaches, given⟩
  · rw [run_of_firstFailure? first]
    exact .inr ⟨rfl, rfl⟩
  · obtain ⟨scenario, _, left⟩ := run_of_refusal? first refused
    rw [left]
    exact .inr ⟨rfl, rfl⟩
  · exact .inl ⟨scenario, node, reaches, given⟩

end Check

end LoadingCheck
