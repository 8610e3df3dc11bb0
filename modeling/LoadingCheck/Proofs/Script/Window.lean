import LoadingCheck.Check
import LoadingCheck.Proofs.Scenario.Codec

set_option relaxedAutoImplicit false
set_option autoImplicit false

/-!
# The window of the assertion

A check waits for some time after its click and then looks for the class, which has to be there only until
the bridge answers. Both times are compared before a script is made, to the nanosecond. The script is given
whole milliseconds, of the wait with 64 bits and of the answer with all bits. So the wait never gets longer
than the answer, but two times within one millisecond become the same, and then the window is gone.

## Main definitions

* `LoadingCheck.Script.Call` — the calls that a window depends on.
* `LoadingCheck.Script.passed` — what fragments pass to a call.

## Main results

* `LoadingCheck.Script.passed_fragments` — what the script of a scenario passes to its calls.
* `LoadingCheck.Script.passed_handler` — what the handler of a bridge passes to its timer.
* `LoadingCheck.Script.window_open_iff` — the window is open in a script exactly if the whole milliseconds
  differ, or the wait does not have 64 bits.
* `LoadingCheck.Script.window_gone` — two times that fit and are the same in the script.
-/

namespace LoadingCheck

namespace Script

/-! ### Calls -/

/-- The calls that a window depends on. -/
inductive Call where
  /-- The call that waits. -/
  | wait
  /-- The call that puts a handler in place. -/
  | install (point : InjectionPoint)
  /-- The call in a handler that waits for the answer. -/
  | timer
  deriving DecidableEq, Repr

/-- A call up to the argument. -/
def Call.opening : Call → String
  | .wait => "page.waitForTimeout("
  | .install .beforeNavigation => "page.addInitScript(\x7b content: "
  | .install .afterLoad => "page.evaluate(source => \x7b (0, eval)(source); \x7d, "
  | .timer => "setTimeout(resolve, "

/-- Whether a fragment is code that ends with the opening of a call. -/
def Call.opened (call : Call) : Fragment → Bool
  | .code text => call.opening.toList.isSuffixOf text.toList
  | _ => false

/-- The fragments right behind the openings of a call, in their order. -/
def passed (call : Call) : List Fragment → List Fragment
  | [] => []
  | f :: rest => (if call.opened f then rest.head?.toList else []) ++ passed call rest

variable {call : Call} {fs gs : List Fragment}

/-- Rows in which the first does not end with the opening of a call pass what both of them pass. -/
lemma passed_append (closed : ∀ f ∈ fs.getLast?, call.opened f = false) :
    passed call (fs ++ gs) = passed call fs ++ passed call gs := by
  induction fs with
  | nil => rfl
  | cons f fs ih =>
    cases fs with
    | nil =>
      have last := closed f rfl
      simp [passed, last]
    | cons g fs =>
      have more := ih fun f hf => closed f hf
      rw [List.cons_append, passed, more, ← List.append_assoc]
      rfl

/-! ### Rows without a call -/

/-- The last characters of the calls, which tell them from other code. -/
def Call.ending : Call → List Char
  | .wait => ['u', 't', '(']
  | .install .beforeNavigation => ['n', 't', ':', ' ']
  | .install .afterLoad => ['\x7d', ',', ' ']
  | .timer => ['e', ',', ' ']

/-- All calls. -/
def Call.all : List Call :=
  [.wait, .install .beforeNavigation, .install .afterLoad, .timer]

lemma Call.mem_all (call : Call) : call ∈ all := by
  rcases call with _ | (_ | _) | _ <;> decide

lemma Call.ending_suffix (call : Call) : call.ending <:+ call.opening.toList := by
  rcases call with _ | (_ | _) | _ <;> decide

/-- No code in a row ends like one of the calls. -/
def Quiet (fs : List Fragment) : Prop :=
  ∀ text, Fragment.code text ∈ fs → ∀ call ∈ Call.all, call.ending.isSuffixOf text.toList = false

namespace Quiet

lemma nil : Quiet [] :=
  fun _ h => absurd h List.not_mem_nil

/-- The characters of the code are given as a list, which is quicker to go through than a string. -/
lemma code {l : List Char} (hl : ∀ call ∈ Call.all, call.ending.isSuffixOf l = false) (h : Quiet fs) :
    Quiet (.code (String.ofList l) :: fs) := by
  intro text mem
  rcases List.mem_cons.mp mem with same | mem
  · cases same
    rw [String.toList_ofList]
    exact hl
  · exact h text mem

/-- A fragment other than code does not count. -/
lemma other {f : Fragment} (hf : ∀ text, f ≠ .code text) (h : Quiet fs) : Quiet (f :: fs) := by
  intro text mem
  rcases List.mem_cons.mp mem with same | mem
  · exact absurd same.symm (hf text)
  · exact h text mem

lemma literal (s : String) (h : Quiet fs) : Quiet (.literal s :: fs) :=
  h.other fun _ => Fragment.noConfusion

lemma number (n : ℕ) (h : Quiet fs) : Quiet (.number n :: fs) :=
  h.other fun _ => Fragment.noConfusion

lemma remark (s : String) (h : Quiet fs) : Quiet (.remark s :: fs) :=
  h.other fun _ => Fragment.noConfusion

lemma opened_eq_false (h : Quiet fs) {f : Fragment} (hf : f ∈ fs) : call.opened f = false := by
  cases f with
  | code text =>
    rw [Call.opened, ← Bool.not_eq_true, List.isSuffixOf_iff_suffix]
    intro opened
    have ended : call.ending <:+ text.toList := call.ending_suffix.trans opened
    rw [← List.isSuffixOf_iff_suffix, h text hf call call.mem_all] at ended
    cases ended
  | literal s => rfl
  | number n => rfl
  | remark s => rfl

lemma passed_eq_nil (h : Quiet fs) : passed call fs = [] := by
  induction fs with
  | nil => rfl
  | cons f fs ih =>
    have first : call.opened f = false := h.opened_eq_false List.mem_cons_self
    have rest := ih fun text mem => h text (List.mem_cons_of_mem _ mem)
    rw [passed, first, rest]
    rfl

/-- A quiet row in front of another one passes nothing. -/
lemma passed_append (h : Quiet fs) (gs : List Fragment) : passed call (fs ++ gs) = passed call gs := by
  have closed : ∀ f ∈ fs.getLast?, call.opened f = false := by
    intro f hf
    exact h.opened_eq_false (List.mem_of_mem_getLast? hf)
  rw [Script.passed_append closed, h.passed_eq_nil, List.nil_append]

/-- A row that starts with the opening of its own call, and is quiet behind it, passes the next fragment to
that call and nothing to another one. -/
lemma passed_own {own : Call} {l : List Char} {f : Fragment}
    (first : ∀ c ∈ Call.all, c.opening.toList.isSuffixOf l = decide (own = c))
    (h : Quiet (f :: fs)) :
    passed call (.code (String.ofList l) :: f :: fs) = if own = call then [f] else [] := by
  rw [passed, Call.opened, String.toList_ofList, first call call.mem_all, h.passed_eq_nil,
    List.append_nil]
  simp only [decide_eq_true_eq, List.head?_cons, Option.toList_some]

end Quiet

/-! ### What a step passes -/

/-- What a step passes to a call, with the call. -/
def argument? : Step → Option (Call × Fragment)
  | .installBridge b point => some (.install point, .literal b.handlerSource)
  | .settle ms => some (.wait, .number ms)
  | _ => none

/-- What a step passes to a call. -/
def arguments (call : Call) (step : Step) : List Fragment :=
  match argument? step with
  | some (c, f) => if c = call then [f] else []
  | none => []

lemma quiet_locator (t : Target) (h : Quiet fs) : Quiet (t.locator ++ fs) :=
  .code (by decide) (.literal _ (.code (by decide) (.literal _ (.code (by decide) h))))

/-- A statement opens the call that its step passes something to, and no other one. -/
lemma passed_statement (call : Call) (step : Step) : passed call step.statement = arguments call step := by
  cases step with
  | installBridge b point =>
    cases point with
    | beforeNavigation =>
      have rest : Quiet [.literal b.handlerSource, .code " \x7d);"] :=
        .literal _ (.code (by decide) .nil)
      exact rest.passed_own (by decide)
    | afterLoad =>
      have rest : Quiet [.literal b.handlerSource, .code ");"] :=
        .literal _ (.code (by decide) .nil)
      exact rest.passed_own (by decide)
  | navigate url =>
    have quiet : Quiet (Step.navigate url).statement :=
      .code (by decide) (.literal _ (.code (by decide) .nil))
    exact quiet.passed_eq_nil
  | click t =>
    have quiet : Quiet (Step.click t).statement :=
      .code (by decide) (quiet_locator t (.code (by decide) .nil))
    exact quiet.passed_eq_nil
  | settle ms =>
    have rest : Quiet [.number ms, .code ");"] := .number _ (.code (by decide) .nil)
    exact rest.passed_own (by decide)
  | assertClass t p =>
    have quiet : Quiet (Step.assertClass t p).statement := by
      refine .code (by decide) (quiet_locator t (.code (by decide) ?_))
      exact .code (by decide) (.literal _ (.code (by decide) (.code (by decide) .nil)))
    exact quiet.passed_eq_nil

/-! ### What a script passes -/

lemma quiet_flag (b : Bool) (h : Quiet fs) : Quiet (flag b :: fs) := by
  cases b <;> exact .code (by decide) h

lemma quiet_browser (b : Browser) (h : Quiet fs) : Quiet (.code b.name :: fs) := by
  cases b <;> exact .code (by decide) h

lemma quiet_opening (settings : Settings) : Quiet (opening settings) := by
  refine .code (by decide) (.literal _ (.code (by decide) (.code (by decide) ?_)))
  refine .code (by decide) (quiet_browser _ (.code (by decide) (quiet_flag _ ?_)))
  refine .code (by decide) (.code (by decide) (.number _ (.code (by decide) (.number _ ?_))))
  exact .code (by decide) (.code (by decide) (.code (by decide) .nil))

lemma quiet_closing (path : String) (fullPage : Bool) : Quiet (closing path fullPage) := by
  refine .code (by decide) (.code (by decide) (.code (by decide) (.literal _ ?_)))
  refine .code (by decide) (quiet_flag _ (.code (by decide) (.code (by decide) (.literal _ ?_))))
  refine .code (by decide) (.code (by decide) (.code (by decide) (.code (by decide) ?_)))
  exact .code (by decide) (.code (by decide) .nil)

/-- A statement does not end with the opening of a call. -/
lemma statement_closed (call : Call) (step : Step) :
    ∀ f ∈ step.statement.getLast?, call.opened f = false := by
  have plain : Quiet [.code " \x7d);", .code ");", .code ".click();"] :=
    .code (by decide) (.code (by decide) (.code (by decide) .nil))
  intro f hf
  refine plain.opened_eq_false ?_
  rcases step with ⟨b, _ | _⟩ | url | target | ms | ⟨target, pattern⟩ <;> cases hf
  all_goals simp

/-- A block passes what its step does. -/
lemma passed_stepBlock (index : ℕ) (step : Step) (gs : List Fragment) :
    passed call (stepBlock index step ++ gs) = arguments call step ++ passed call gs := by
  have remark : Quiet
      [.code "\n    // Step ", .number (index + 1), .code ": ", .remark step.name, .code "\n"] :=
    .code (by decide) (.number _ (.code (by decide) (.remark _ (.code (by decide) .nil))))
  have event : Quiet [.code "\n    emit(\x7b event: 'step', index: ", .number index,
      .code ", name: ", .literal step.name, .code " \x7d);\n"] :=
    .code (by decide) (.number _ (.code (by decide) (.literal _ (.code (by decide) .nil))))
  rw [stepBlock, List.append_assoc, List.append_assoc, remark.passed_append,
    passed_append (statement_closed call step), event.passed_append, passed_statement]

lemma passed_stepBlocks (index : ℕ) (steps : List Step) (gs : List Fragment) :
    passed call (stepBlocks index steps ++ gs) = steps.flatMap (arguments call) ++ passed call gs := by
  induction steps generalizing index with
  | nil => rfl
  | cons step steps ih =>
    rw [stepBlocks, List.append_assoc, passed_stepBlock, ih, List.flatMap_cons, List.append_assoc]

/-- A script passes to its calls what its steps do, in their order. -/
theorem passed_fragments (call : Call) (settings : Settings) (cwd : Option Path) (s : Scenario) :
    passed call (fragments settings cwd s) = s.steps.flatMap (arguments call) := by
  rw [fragments, List.append_assoc, (quiet_opening settings).passed_append,
    passed_stepBlocks, (quiet_closing _ _).passed_eq_nil, List.append_nil]

/-! ### What a handler passes -/

lemma quiet_members (members : List (String × String)) (h : Quiet fs) :
    Quiet (Bridge.memberFragments members ++ fs) := by
  induction members with
  | nil => exact h
  | cons m rest ih =>
    cases rest with
    | nil => exact .literal _ (.code (by decide) (.literal _ h))
    | cons m' rest => exact .literal _ (.code (by decide) (.literal _ (.code (by decide) ih)))

/-- A handler passes the milliseconds of its bridge to the timer. -/
theorem passed_handler (b : Bridge) : passed .timer b.handler = [.number b.delay.millis] := by
  have front : Quiet
      [.code Bridge.entryPoint, .code " = async (message) => \x7b\n  console.log(",
        .literal Bridge.logMark] :=
    .code (by decide) (.code (by decide) (.literal _ .nil))
  have rest : Quiet ([.number b.delay.millis, .code "));\n  return \x7b"] ++
      (Bridge.memberFragments b.response.members ++ [.code "\x7d;\n\x7d;"])) :=
    .number _ (.code (by decide) (quiet_members _ (.code (by decide) .nil)))
  have answer : passed .timer (.code
      ", JSON.stringify(message));\n  await new Promise(resolve => setTimeout(resolve, " :: _) =
      if Call.timer = .timer then [.number b.delay.millis] else [] := rest.passed_own (by decide)
  exact (front.passed_append _).trans answer

/-! ### The window -/

section

variable {o : Scenario.Options} {s : Scenario}

/-- A scenario of the check has its steps. -/
lemma steps_of_accepted (accepted : Scenario.loadingState o = .ok s) :
    ∃ pattern, s.steps = Scenario.loadingSteps o pattern := by
  rw [Scenario.loadingState] at accepted
  cases compiled : ClassPattern.ofString o.classPattern with
  | error failure =>
    rw [compiled] at accepted
    cases accepted
  | ok pattern =>
    rw [compiled] at accepted
    cases accepted
    exact ⟨pattern, rfl⟩

lemma exists_accepted (h : (Scenario.loadingState o).isOk = true) :
    ∃ s, Scenario.loadingState o = .ok s := by
  cases accepted : Scenario.loadingState o with
  | error failure =>
    rw [accepted] at h
    cases h
  | ok s => exact ⟨s, rfl⟩

/-- The script of a check waits once. -/
lemma passed_wait (settings : Settings) (cwd : Option Path) (accepted : Scenario.loadingState o = .ok s) :
    passed .wait (fragments settings cwd s) = [.number o.settle.millisWord] := by
  obtain ⟨pattern, steps⟩ := steps_of_accepted accepted
  rw [passed_fragments, steps]
  rfl

/-- The script of a check puts one and the same handler in place at both points. -/
lemma passed_install (settings : Settings) (cwd : Option Path)
    (accepted : Scenario.loadingState o = .ok s) (point : InjectionPoint) :
    passed (.install point) (fragments settings cwd s) =
      [.literal (String.ofList (Fragment.render o.bridge.handler))] := by
  obtain ⟨pattern, steps⟩ := steps_of_accepted accepted
  rw [passed_fragments, steps]
  cases point with
  | beforeNavigation => rfl
  | afterLoad => rfl

/-- Times that fit are in their order. -/
lemma nanos_lt_of_validate {settings : Settings} (fits : Config.validate ⟨settings, o⟩ = .ok ()) :
    o.settle.nanos < o.bridge.delay.nanos := by
  by_contra late
  have same : o.bridge.delay ≤ o.settle := Nat.le_of_not_lt late
  rw [Config.validate, if_pos same] at fits
  cases fits

/-- **The window in a script.** The script of a check that fits waits once and puts the same handler in
place at both points. Its wait is never longer than the time until the handler answers. It is shorter
exactly if the two times differ in whole milliseconds, or the wait does not fit into 64 bits.

**Proof sketch.** Of the fragments of a script only the statements open a call, and a statement only the
one of its step (`passed_fragments`). For the times, division by a million keeps an order but not a strict
one. A wait that loses bits is below `2 ^ 64`, and the answer, which is later than the wait and loses none,
is not. -/
theorem window_open_iff {settings : Settings} (cwd : Option Path)
    (fits : Config.validate ⟨settings, o⟩ = .ok ()) (accepted : Scenario.loadingState o = .ok s) :
    passed .wait (fragments settings cwd s) = [.number o.settle.millisWord] ∧
      (∀ point, passed (.install point) (fragments settings cwd s) =
        [.literal (String.ofList (Fragment.render o.bridge.handler))]) ∧
      passed .timer o.bridge.handler = [.number o.bridge.delay.millis] ∧
      o.settle.millisWord ≤ o.bridge.delay.millis ∧
      (o.settle.millisWord < o.bridge.delay.millis ↔
        o.settle.millis < o.bridge.delay.millis ∨ 2 ^ 64 ≤ o.settle.millis) := by
  have ordered : o.settle.millis ≤ o.bridge.delay.millis :=
    Nat.div_le_div_right (Nat.le_of_lt (nanos_lt_of_validate fits))
  refine ⟨passed_wait settings cwd accepted, passed_install settings cwd accepted, passed_handler _, ?_⟩
  by_cases wide : 2 ^ 64 ≤ o.settle.millis
  · have word := o.settle.millisWord_lt
    omega
  · rw [Duration.millisWord_of_lt (Nat.lt_of_not_le wide)]
    omega

/-- A check whose wait has 65 bits and whose answer comes a nanosecond later. -/
def wideOptions : Scenario.Options :=
  { settle := .ofMillis (2 ^ 64), bridge := .withDelay ⟨2 ^ 64 * 1000000 + 1⟩ }

/-- A wait of 65 bits loses its only bit. The script does not wait at all, and so the window is open. -/
theorem window_wide :
    ∃ s, Config.validate ⟨{}, wideOptions⟩ = .ok () ∧ Scenario.loadingState wideOptions = .ok s ∧
      passed .wait (fragments {} none s) = [.number 0] ∧
      (∀ point, passed (.install point) (fragments {} none s) =
        [.literal (String.ofList (Fragment.render wideOptions.bridge.handler))]) ∧
      passed .timer wideOptions.bridge.handler = [.number (2 ^ 64)] ∧
      wideOptions.settle.millisWord < wideOptions.bridge.delay.millis := by
  have fits : Config.validate ⟨{}, wideOptions⟩ = .ok () := by decide
  obtain ⟨s, accepted⟩ : ∃ s, Scenario.loadingState wideOptions = .ok s := exists_accepted (by decide)
  obtain ⟨wait, install, timer, _, opens⟩ := window_open_iff none fits accepted
  exact ⟨s, fits, accepted, wait, install, timer, opens.mpr (.inr (by decide))⟩

/-- A check whose answer comes a nanosecond after its wait of half a second. -/
def closeOptions : Scenario.Options :=
  { settle := .ofMillis 500, bridge := .withDelay ⟨500000001⟩ }

/-- Two times within one millisecond fit, and the script waits until the very moment of the answer. -/
theorem window_gone :
    ∃ s, Config.validate ⟨{}, closeOptions⟩ = .ok () ∧ Scenario.loadingState closeOptions = .ok s ∧
      passed .wait (fragments {} none s) = [.number 500] ∧
      (∀ point, passed (.install point) (fragments {} none s) =
        [.literal (String.ofList (Fragment.render closeOptions.bridge.handler))]) ∧
      passed .timer closeOptions.bridge.handler = [.number 500] ∧
      ¬ closeOptions.settle.millisWord < closeOptions.bridge.delay.millis := by
  obtain ⟨s, accepted⟩ : ∃ s, Scenario.loadingState closeOptions = .ok s := exists_accepted (by decide)
  exact ⟨s, by decide, accepted, passed_wait {} none accepted, passed_install {} none accepted,
    passed_handler _, by decide⟩

end

end Script

end LoadingCheck
