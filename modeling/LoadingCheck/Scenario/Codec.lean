import LoadingCheck.Bridge.Codec
import LoadingCheck.Scenario.Basic

/-!
# Scenarios in JSON

A step is an object whose member `action` says which one it is. A path is written as text, so a scenario
whose screenshot goes to a path that is not text cannot be written.

## Main definitions

* `LoadingCheck.Scenario.toJson`, `LoadingCheck.Scenario.decoder`, and the same for the types that a
  scenario is made of.
-/

namespace LoadingCheck

open Json (Decoder RecordForm)

/-! ### Paths -/

/-- The path as a JSON value. -/
def Path.toJson (p : Path) : Except Failure Json :=
  match p.text? with
  | some s => .ok (.string s)
  | none => .error (.json "path contains invalid UTF-8 characters")

/-- Decodes a path. -/
def Path.decoder : Decoder Path := fun source v =>
  Path.ofString <$> Decoder.stringAs "path string" source v

/-! ### Targets and patterns -/

/-- The target as a JSON value. -/
def Target.toJson (t : Target) : Json :=
  .object [("role", .string t.role), ("name", .string t.name)]

/-- Decodes a target. -/
def Target.decoder : Decoder Target := fun source v => do
  let (role, name) ←
    Decoder.pair "struct Target" ("role", Decoder.string) ("name", Decoder.string) source v
  return ⟨role, name⟩

/-- The pattern as a JSON value. -/
def ClassPattern.toJson (p : ClassPattern) : Json :=
  .string p.source

/-- Decodes a pattern; a text that is not accepted is refused. -/
def ClassPattern.decoder : Decoder ClassPattern := fun source v => do
  let s ← Decoder.string source v
  match ClassPattern.ofString s with
  | .ok p => return p
  | .error failure => .error (.refused failure.message)

/-! ### Steps -/

namespace Step

/-- The step as a JSON value. -/
def toJson : Step → Json
  | .installBridge bridge point =>
    .object [("action", .string "install_bridge"), ("bridge", bridge.toJson), ("point", point.toJson)]
  | .navigate url => .object [("action", .string "navigate"), ("url", .string url)]
  | .click target => .object [("action", .string "click"), ("target", target.toJson)]
  | .settle millis => .object [("action", .string "settle"), ("ms", .ofNat millis)]
  | .assertClass target pattern =>
    .object [("action", .string "assert_class"), ("target", target.toJson), ("pattern", pattern.toJson)]

/-- The kinds of steps. -/
inductive Kind where
  | installBridge
  | navigate
  | click
  | settle
  | assertClass
  deriving DecidableEq, Repr

/-- The kinds by their names. -/
def kinds : List (String × Kind) :=
  [("install_bridge", .installBridge), ("navigate", .navigate), ("click", .click),
    ("settle", .settle), ("assert_class", .assertClass)]

/-- Decodes the members of a step of a kind. -/
def contentDecoder : Kind → Decoder Step
  | .installBridge => fun source v => do
    let (bridge, point) ←
      Decoder.pair "struct variant Step::InstallBridge" ("bridge", Bridge.decoder)
        ("point", InjectionPoint.decoder) source v
    return .installBridge bridge point
  | .navigate => fun source v =>
    .navigate <$> Decoder.single "struct variant Step::Navigate" ("url", Decoder.string) source v
  | .click => fun source v =>
    .click <$> Decoder.single "struct variant Step::Click" ("target", Target.decoder) source v
  | .settle => fun source v =>
    .settle <$> Decoder.single "struct variant Step::Settle" ("ms", Decoder.word "u64") source v
  | .assertClass => fun source v => do
    let (target, pattern) ←
      Decoder.pair "struct variant Step::AssertClass" ("target", Target.decoder)
        ("pattern", ClassPattern.decoder) source v
    return .assertClass target pattern

/-- Decodes a step. -/
def decoder : Decoder Step := fun source v => do
  let t ← Decoder.tagged "internally tagged enum Step" "action" kinds source v
  contentDecoder t.tag .kept t.content

end Step

/-! ### Screenshots and scenarios -/

namespace Screenshot

/-- The screenshot as a JSON value. -/
def toJson (s : Screenshot) : Except Failure Json := do
  let path ← s.path.toJson
  return .object [("path", path), ("full_page", .boolean s.fullPage)]

/-- How a screenshot is written: a path, and possibly whether the full page is to be on it. -/
def form : RecordForm (Option Path × Option Bool) where
  title := "struct Screenshot"
  fields := ["path", "full_page"]
  mayLack := ["full_page"]
  put source name v draft :=
    if name = "path" then (fun p => (some p, draft.2)) <$> Path.decoder source v
    else (fun b => (draft.1, some b)) <$> Decoder.boolean source v

/-- Decodes a screenshot. -/
def decoder : Decoder Screenshot := fun source v => do
  let (path, fullPage) ← form.decode (none, none) source v
  let path ← Decoder.required "path" path
  return ⟨path, fullPage.getD false⟩

end Screenshot

namespace Scenario

/-- The scenario as a JSON value. -/
def toJson (s : Scenario) : Except Failure Json := do
  let screenshot ← s.screenshot.toJson
  return .object
    [("name", .string s.name), ("steps", .array (s.steps.map Step.toJson)), ("screenshot", screenshot)]

/-- A scenario of which some members are known. -/
structure Draft where
  name : Option String := none
  steps : Option (List Step) := none
  screenshot : Option Screenshot := none

/-- How a scenario is written. -/
def form : RecordForm Draft where
  title := "struct Scenario"
  fields := ["name", "steps", "screenshot"]
  mayLack := []
  put source name v draft :=
    match name with
    | "name" => do
      let s ← Decoder.string source v
      return { draft with name := some s }
    | "steps" => do
      let steps ← Decoder.list Step.decoder source v
      return { draft with steps := some steps }
    | _ => do
      let screenshot ← Screenshot.decoder source v
      return { draft with screenshot := some screenshot }

/-- Decodes a scenario. -/
def decoder : Decoder Scenario := fun source v => do
  let d ← form.decode {} source v
  let name ← Decoder.required "name" d.name
  let steps ← Decoder.required "steps" d.steps
  let screenshot ← Decoder.required "screenshot" d.screenshot
  return ⟨name, steps, screenshot⟩

end Scenario

end LoadingCheck
