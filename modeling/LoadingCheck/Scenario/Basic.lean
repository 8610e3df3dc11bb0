import LoadingCheck.Bridge.Basic
import LoadingCheck.ClassPattern
import LoadingCheck.Path

/-!
# Scenarios

A scenario is a list of steps that a browser takes one after the other, and a screenshot at the end. The
scenario of this check clicks a button while a slow bridge stands in for the backend, and looks for the
class that tells that the button is loading.

## Main definitions

* `LoadingCheck.Target` — elements by their role and name.
* `LoadingCheck.Step`, `LoadingCheck.Screenshot`, `LoadingCheck.Scenario`.
* `LoadingCheck.Scenario.Options` — what can be chosen about the check.
* `LoadingCheck.Scenario.loadingState` — the scenario of the check.

## Design

The bridge is put in place twice: before navigation, so that a page meets it while it starts, and after
the page is open, for a page that kept the global function from before.
-/

namespace LoadingCheck

/-- An element of a page, by its role and the name that tells it from others. -/
structure Target where
  role : String
  name : String
  deriving DecidableEq, Repr

namespace Target

/-- A button. -/
def button (name : String) : Target :=
  ⟨"button", name⟩

/-- The expression that finds the element in a page. -/
def locator (t : Target) : List Fragment :=
  [.code "page.getByRole(", .literal t.role, .code ", \x7b name: ", .literal t.name, .code " \x7d)"]

/-- The element as it is shown to a reader. -/
def display (t : Target) : String :=
  t.role ++ "[name=\"" ++ t.name ++ "\"]"

end Target

/-- The expression for a class pattern in a script. -/
def ClassPattern.expression (p : ClassPattern) : List Fragment :=
  [.code "new RegExp(", .literal p.source, .code ")"]

/-- One step of a browser. -/
inductive Step where
  | installBridge (bridge : Bridge) (point : InjectionPoint)
  | navigate (url : String)
  | click (target : Target)
  /-- Waits for so many milliseconds. -/
  | settle (millis : Nat)
  | assertClass (target : Target) (pattern : ClassPattern)
  deriving DecidableEq, Repr

namespace Step

/-- The name of a step in reports. -/
def name : Step → String
  | .installBridge _ .beforeNavigation => "install-bridge:init-script"
  | .installBridge _ .afterLoad => "install-bridge:evaluate"
  | .navigate url => "navigate:" ++ url
  | .click target => "click:" ++ target.display
  | .settle millis => s!"settle:{millis}ms"
  | .assertClass target pattern => "assert-class:" ++ target.display ++ "~/" ++ pattern.source ++ "/"

/-- The statement that takes a step. -/
def statement : Step → List Fragment
  | .installBridge bridge point => bridge.installation point
  | .navigate url => [.code "    await page.goto(", .literal url, .code ");"]
  | .click target => [.code "    await "] ++ target.locator ++ [.code ".click();"]
  | .settle millis => [.code "    await page.waitForTimeout(", .number millis, .code ");"]
  | .assertClass target pattern =>
    [.code "    await expect("] ++ target.locator ++ [.code ").toHaveClass("] ++ pattern.expression ++
      [.code ");"]

end Step

/-- The screenshot at the end, which is taken whether or not the steps succeed. -/
structure Screenshot where
  path : Path
  fullPage : Bool
  deriving DecidableEq, Repr

/-- Steps in order, with one screenshot after them. -/
structure Scenario where
  name : String
  steps : List Step
  screenshot : Screenshot
  deriving DecidableEq, Repr

namespace Scenario

/-- Whether two scenarios are the same, their screenshots going to the same path. -/
def same (s t : Scenario) : Bool :=
  s.name == t.name && s.steps == t.steps && s.screenshot.path.same t.screenshot.path &&
    s.screenshot.fullPage == t.screenshot.fullPage

/-- The url of a navigation. -/
def navigation? : Step → Option String
  | .navigate url => some url
  | _ => none

/-- The url of the first navigation; the empty text if there is none. -/
def url (s : Scenario) : String :=
  (s.steps.findSome? navigation?).getD ""

/-! ### The loading state -/

/-- What can be chosen about the check of the loading state. -/
structure Options where
  url : String := "http://localhost:3000"
  button : String := "Generate configs"
  classPattern : String := "loading"
  bridge : Bridge := .standard
  settle : Duration := .ofMillis 500
  screenshot : Path := .ofString "verification/ux_verification_refined.png"
  deriving DecidableEq, Repr

/-- The name of the scenario. -/
def loadingStateName : String := "generate-configs-loading-state"

/-- The steps of the check with an accepted pattern. -/
def loadingSteps (o : Options) (pattern : ClassPattern) : List Step :=
  let button := Target.button o.button
  [.installBridge o.bridge .beforeNavigation, .navigate o.url, .installBridge o.bridge .afterLoad,
    .click button, .settle o.settle.millisWord, .assertClass button pattern]

/-- The scenario that clicks a button against a slow bridge and checks that the button is loading. -/
def loadingState (o : Options) : Except Failure Scenario := do
  let pattern ← ClassPattern.ofString o.classPattern
  return ⟨loadingStateName, loadingSteps o pattern, ⟨o.screenshot, false⟩⟩

end Scenario

end LoadingCheck
