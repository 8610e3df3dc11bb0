import LoadingCheck.Scenario.Codec

/-!
# The script of a scenario

A scenario becomes one program that drives a browser. Each step is a statement with a remark before it
and an event after it. All steps stand inside one attempt: the first one that fails is reported and the
ones after it are not taken. The screenshot follows that attempt, and the browser is closed whatever
happens.

## Main definitions

* `LoadingCheck.Browser`, `LoadingCheck.Settings` — what runs a script.
* `LoadingCheck.Script.fragments` — the script of a scenario in fragments.
* `LoadingCheck.Script.source` — its text.
-/

namespace LoadingCheck

/-- The browsers that can be driven. -/
inductive Browser where
  | chromium
  | firefox
  | webkit
  deriving DecidableEq, Repr

namespace Browser

/-- The name of a browser. -/
def name : Browser → String
  | .chromium => "chromium"
  | .firefox => "firefox"
  | .webkit => "webkit"

/-- All browsers by their names. -/
def names : List (String × Browser) :=
  [("chromium", .chromium), ("firefox", .firefox), ("webkit", .webkit)]

/-- The browser as a JSON value. -/
def toJson (b : Browser) : Json :=
  .string b.name

/-- Decodes a browser. -/
def decoder : Json.Decoder Browser :=
  Json.Decoder.choice names

end Browser

/-- What runs a script, and how. -/
structure Settings where
  browser : Browser := .chromium
  /-- Whether the browser runs without a window. -/
  headless : Bool := true
  viewportWidth : Nat := 1280
  viewportHeight : Nat := 720
  /-- The program that runs scripts. -/
  node : Path := .ofString "node"
  /-- The directory that modules are looked for in. -/
  modules : Path := .ofString "node_modules"
  deriving DecidableEq, Repr

namespace Script

/-- The module that drives the browser. -/
def drivingModule : String := "@playwright/test"

/-- A truth value in a script. -/
def flag (b : Bool) : Fragment :=
  .code (if b then "true" else "false")

/-- The script up to its first step. -/
def opening (settings : Settings) : List Fragment :=
  [.code "const \x7b chromium, firefox, webkit, expect \x7d = require(", .literal drivingModule,
    .code ");\n\nconst emit = (event) => console.log(JSON.stringify(event));\n",
    .code "const describe = (error) => String((error && error.message) || error);\n\n",
    .code "(async () => \x7b\n  const browser = await ", .code settings.browser.name,
    .code ".launch(\x7b headless: ", flag settings.headless,
    .code " \x7d);\n  try \x7b\n    const context = await browser.newContext(\x7b\n",
    .code "      viewport: \x7b width: ", .number settings.viewportWidth,
    .code ", height: ", .number settings.viewportHeight,
    .code " \x7d\n    \x7d);\n    const page = await context.newPage();\n",
    .code "    page.on('console', msg => emit(\x7b event: 'console', kind: msg.type(), ",
    .code "text: msg.text() \x7d));\n\n    try \x7b\n"]

/-- A step with its place among the steps: the remark, the statement and the event. -/
def stepBlock (index : Nat) (step : Step) : List Fragment :=
  [.code "\n    // Step ", .number (index + 1), .code ": ", .remark step.name, .code "\n"] ++
  step.statement ++
  [.code "\n    emit(\x7b event: 'step', index: ", .number index, .code ", name: ",
    .literal step.name, .code " \x7d);\n"]

/-- The blocks of steps, the first of which has the given place. -/
def stepBlocks : (index : Nat) → List Step → List Fragment
  | _, [] => []
  | index, step :: rest => stepBlock index step ++ stepBlocks (index + 1) rest

/-- The script after its last step, with the screenshot at `path`. -/
def closing (path : String) (fullPage : Bool) : List Fragment :=
  [.code "\n    \x7d catch (error) \x7b\n",
    .code "      emit(\x7b event: 'failed', error: describe(error) \x7d);\n    \x7d\n\n",
    .code "    try \x7b\n      await page.screenshot(\x7b path: ", .literal path,
    .code ", fullPage: ", flag fullPage, .code " \x7d);\n",
    .code "      emit(\x7b event: 'screenshot', path: ", .literal path, .code " \x7d);\n",
    .code "    \x7d catch (error) \x7b\n",
    .code "      emit(\x7b event: 'failed', error: describe(error) \x7d);\n    \x7d\n",
    .code "  \x7d finally \x7b\n    await browser.close();\n    emit(\x7b event: 'closed' \x7d);\n  \x7d\n",
    .code "\x7d)().catch(error => \x7b\n",
    .code "  emit(\x7b event: 'failed', error: describe(error) \x7d);\n  process.exitCode = 1;\n\x7d);\n"]

/-- The script of a scenario, run in the directory `cwd` if there is one. -/
def fragments (settings : Settings) (cwd : Option Path) (s : Scenario) : List Fragment :=
  opening settings ++ stepBlocks 0 s.steps ++
    closing (s.screenshot.path.absolute cwd).display s.screenshot.fullPage

/-- The text of the script. -/
def source (settings : Settings) (cwd : Option Path) (s : Scenario) : String :=
  String.ofList (Fragment.render (fragments settings cwd s))

end Script

end LoadingCheck
