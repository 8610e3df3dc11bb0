import LoadingCheck.Report.Basic

/-!
# Reports in JSON

An outcome is an object whose member `status` tells whether the check passed; the reason of a failure
stands beside it. A report is an object with seven members.

## Main definitions

* `LoadingCheck.Outcome.toJson`, `LoadingCheck.Outcome.decoder`.
* `LoadingCheck.Report.toJson`, `LoadingCheck.Report.decoder`.
-/

namespace LoadingCheck

open Json (Decoder DecodeError Key Outline RecordForm Source)

/-! ### Outcomes -/

namespace Outcome

/-- The outcome as a JSON value. -/
def toJson : Outcome → Json
  | .passed => .object [("status", .string "passed")]
  | .failed reason => .object [("status", .string "failed"), ("reason", .string reason)]

/-- The kinds of outcomes. -/
inductive Kind where
  | passed
  | failed
  deriving DecidableEq, Repr

/-- The kinds by their names. -/
def kinds : List (String × Kind) :=
  [("passed", .passed), ("failed", .failed)]

/-- What an outcome is called in messages. -/
def title : String := "adjacently tagged enum Outcome"

/-- Decodes the reason that stands beside the status: none for a check that passed. -/
def contentDecoder : Kind → Decoder Outcome
  | .passed => fun _ v =>
    match v with
    | .null => .ok .passed
    | v => Json.mismatch v "unit variant Outcome::Passed"
  | .failed => fun source v => .failed <$> Decoder.string source v

/-- The outcome of a status without a reason. -/
def withoutContent : Kind → Except DecodeError Outcome
  | .passed => .ok .passed
  | .failed => .error (.missingField "reason")

/-- What is known of an outcome after some of its members. -/
inductive Progress where
  | start
  /-- The status came first. -/
  | status (kind : Kind)
  /-- The reason came first and was read as a whole. -/
  | reason (content : Outline)
  | complete (outcome : Outcome)

/-- Takes the status into account. -/
def Progress.addStatus (source : Source) (v : Outline) : Progress → Except DecodeError Progress
  | .start => .status <$> Decoder.choice kinds source v
  | .reason content => do
    let kind ← Decoder.choice kinds source v
    let outcome ← contentDecoder kind .kept content
    return .complete outcome
  | _ => .error (.duplicateField "status")

/-- Takes the reason into account. -/
def Progress.addReason (source : Source) (v : Outline) : Progress → Except DecodeError Progress
  | .start => do
    Decoder.keep source v
    return .reason v
  | .status kind => .complete <$> contentDecoder kind source v
  | _ => .error (.duplicateField "reason")

/-- What is known after all members. -/
def Progress.finish : Progress → Except DecodeError Outcome
  | .complete outcome => .ok outcome
  | .status kind => withoutContent kind
  | _ => .error (.missingField "status")

/-- Decodes members one after the other; a member with another name is skipped. -/
def decodeMembers (source : Source) (stop : Option Json.Fault) :
    Progress → List (Key × Outline) → Except DecodeError Outcome
  | p, [] => do
    Json.ofFault (Outline.closed stop)
    p.finish
  | p, (key, v) :: rest => do
    let name ← Decoder.keyName key
    if name = "status" then
      let p ← p.addStatus source v
      decodeMembers source stop p rest
    else if name = "reason" then
      let p ← p.addReason source v
      decodeMembers source stop p rest
    else
      Json.ofFault v.skip
      decodeMembers source stop p rest

/-- Decodes items: the status, and then the reason. -/
def decodeItems (source : Source) (stop : Option Json.Fault) :
    List Outline → Except DecodeError Outcome
  | [] => do
    Json.ofFault (Outline.closed stop)
    .error (.invalidLength 0 title)
  | [status] => do
    let _ ← Decoder.identifier kinds source status
    Json.ofFault (Outline.closed stop)
    .error (.invalidLength 1 title)
  | status :: reason :: rest => do
    let kind ← Decoder.identifier kinds source status
    let outcome ← contentDecoder kind source reason
    Json.endOfItems source 2 rest stop
    return outcome

/-- Decodes an outcome. -/
def decoder : Decoder Outcome
  | .text 0, .object _ _ => .error (.fault .malformed)
  | .text 0, .array _ _ => .error (.fault .malformed)
  | source, .object members stop => decodeMembers source.inside stop .start members
  | source, .array items stop => decodeItems source.inside stop items
  | _, v => Json.mismatch v title

end Outcome

/-! ### Reports -/

namespace Report

/-- The report as a JSON value. -/
def toJson (r : Report) : Except Failure Json := do
  let screenshot ←
    match r.screenshot with
    | some path => path.toJson
    | none => .ok .null
  return .object
    [("scenario", .string r.scenario), ("outcome", r.outcome.toJson),
      ("completed_steps", .array (r.completedSteps.map .string)),
      ("ipc_messages", .array (r.calls.map .string)), ("screenshot", screenshot),
      ("browser_closed", .boolean r.browserClosed), ("duration_ms", .ofNat r.millis)]

/-- A report of which some members are known. -/
structure Draft where
  scenario : Option String := none
  outcome : Option Outcome := none
  completedSteps : Option (List String) := none
  calls : Option (List String) := none
  screenshot : Option (Option Path) := none
  browserClosed : Option Bool := none
  millis : Option Nat := none

/-- How a report is written. -/
def form : RecordForm Draft where
  title := "struct RunReport"
  fields :=
    ["scenario", "outcome", "completed_steps", "ipc_messages", "screenshot", "browser_closed",
      "duration_ms"]
  mayLack := []
  put source name v draft :=
    match name with
    | "scenario" => do
      let s ← Decoder.string source v
      return { draft with scenario := some s }
    | "outcome" => do
      let outcome ← Outcome.decoder source v
      return { draft with outcome := some outcome }
    | "completed_steps" => do
      let steps ← Decoder.list Decoder.string source v
      return { draft with completedSteps := some steps }
    | "ipc_messages" => do
      let calls ← Decoder.list Decoder.string source v
      return { draft with calls := some calls }
    | "screenshot" => do
      let path ← Decoder.optional Path.decoder source v
      return { draft with screenshot := some path }
    | "browser_closed" => do
      let closed ← Decoder.boolean source v
      return { draft with browserClosed := some closed }
    | _ => do
      let millis ← Decoder.word "u64" source v
      return { draft with millis := some millis }

/-- Decodes a report. An object need not have a screenshot. -/
def decoder : Decoder Report := fun source v => do
  let d ← form.decode {} source v
  let scenario ← Decoder.required "scenario" d.scenario
  let outcome ← Decoder.required "outcome" d.outcome
  let completedSteps ← Decoder.required "completed_steps" d.completedSteps
  let calls ← Decoder.required "ipc_messages" d.calls
  let browserClosed ← Decoder.required "browser_closed" d.browserClosed
  let millis ← Decoder.required "duration_ms" d.millis
  return ⟨scenario, outcome, completedSteps, calls, d.screenshot.join, browserClosed, millis⟩

end Report

end LoadingCheck
