import LoadingCheck.Scenario.Codec

/-!
# Events of a script

While a script runs it reports what happens, each event as a line with one JSON object whose member
`event` says which one it is. A line that is not such an object is no event.

## Main definitions

* `LoadingCheck.Event` — events.
* `LoadingCheck.Event.toJson`, `LoadingCheck.Event.decoder` — events in JSON.
* `LoadingCheck.Event.ofLine?` — the event of a line.
-/

namespace LoadingCheck

open Json (Decoder RecordForm)

/-- What a script reports. -/
inductive Event where
  /-- A page wrote to its console. -/
  | console (kind text : String)
  /-- A step is done. -/
  | step (index : Nat) (name : String)
  /-- Something failed. -/
  | failed (error : String)
  /-- The screenshot is there. -/
  | screenshot (path : Path)
  /-- The browser is closed. -/
  | closed
  deriving DecidableEq, Repr

namespace Event

/-- Whether two events are the same, their screenshots being at the same path. -/
def same : Event → Event → Bool
  | .screenshot p, .screenshot q => p.same q
  | e, f => e == f

/-- The event as a JSON value. -/
def toJson : Event → Except Failure Json
  | .console kind text =>
    .ok (.object [("event", .string "console"), ("kind", .string kind), ("text", .string text)])
  | .step index name =>
    .ok (.object [("event", .string "step"), ("index", .ofNat index), ("name", .string name)])
  | .failed error => .ok (.object [("event", .string "failed"), ("error", .string error)])
  | .screenshot path => do
    let path ← path.toJson
    return .object [("event", .string "screenshot"), ("path", path)]
  | .closed => .ok (.object [("event", .string "closed")])

/-- The kinds of events. -/
inductive Kind where
  | console
  | step
  | failed
  | screenshot
  | closed
  deriving DecidableEq, Repr

/-- The kinds by their names. -/
def kinds : List (String × Kind) :=
  [("console", .console), ("step", .step), ("failed", .failed), ("screenshot", .screenshot),
    ("closed", .closed)]

/-- Decodes what may stand beside the tag of an event without members: any members, but no items. -/
def noMembers (v : Json.Outline) : Except Json.DecodeError Unit :=
  match v with
  | .array items _ => Json.endOfItems .kept 0 items none
  | _ => .ok ()

/-- Decodes the members of an event of a kind. -/
def contentDecoder : Kind → Decoder Event
  | .console => fun source v => do
    let (kind, text) ←
      Decoder.pair "struct variant ScriptEvent::Console" ("kind", Decoder.string)
        ("text", Decoder.string) source v
    return .console kind text
  | .step => fun source v => do
    let (index, name) ←
      Decoder.pair "struct variant ScriptEvent::Step" ("index", Decoder.word "usize")
        ("name", Decoder.string) source v
    return .step index name
  | .failed => fun source v =>
    .failed <$> Decoder.single "struct variant ScriptEvent::Failed" ("error", Decoder.string) source v
  | .screenshot => fun source v =>
    .screenshot <$>
      Decoder.single "struct variant ScriptEvent::Screenshot" ("path", Path.decoder) source v
  | .closed => fun _ v => do
    noMembers v
    return .closed

/-- Decodes an event. -/
def decoder : Decoder Event := fun source v => do
  let t ← Decoder.tagged "internally tagged enum ScriptEvent" "event" kinds source v
  contentDecoder t.tag .kept t.content

/-- The event that a line reports, if it reports one. Blanks around the object do not count. -/
def ofLine? (line : List Char) : Option Event :=
  let text := Text.trim line
  if text.head? = some '\x7b' then (Json.decodeText decoder text).toOption else none

end Event

end LoadingCheck
