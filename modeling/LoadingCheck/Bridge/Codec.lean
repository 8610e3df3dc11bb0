import LoadingCheck.Bridge.Basic
import LoadingCheck.Json.Decode

/-!
# Bridges in JSON

A response is an object with four texts, a bridge an object with a response and the delay in whole
milliseconds.

## Main definitions

* `LoadingCheck.Bridge.toJson`, `LoadingCheck.Bridge.decoder`.
* `LoadingCheck.Bridge.Response.toJson`, `LoadingCheck.Bridge.Response.decoder`.
* `LoadingCheck.InjectionPoint.toJson`, `LoadingCheck.InjectionPoint.decoder`.
-/

namespace LoadingCheck

open Json (Decoder RecordForm)

namespace Bridge

/-! ### Responses -/

/-- The response as a JSON value. -/
def Response.toJson (r : Response) : Json :=
  .object (r.members.map fun (name, value) => (name, .string value))

/-- A response of which some members are known. -/
structure Response.Draft where
  clientConfig : Option String := none
  serverConfig : Option String := none
  clientKey : Option String := none
  serverKey : Option String := none

/-- How a response is written. -/
def Response.form : RecordForm Response.Draft where
  title := "struct MockIpcResponse"
  fields := ["client_yaml", "server_yaml", "client_public_key", "server_public_key"]
  mayLack := []
  put source name v draft := do
    let s ← Decoder.string source v
    match name with
    | "client_yaml" => return { draft with clientConfig := some s }
    | "server_yaml" => return { draft with serverConfig := some s }
    | "client_public_key" => return { draft with clientKey := some s }
    | _ => return { draft with serverKey := some s }

/-- Decodes a response. -/
def Response.decoder : Decoder Response := fun source v => do
  let d ← Response.form.decode {} source v
  let clientConfig ← Decoder.required "client_yaml" d.clientConfig
  let serverConfig ← Decoder.required "server_yaml" d.serverConfig
  let clientKey ← Decoder.required "client_public_key" d.clientKey
  let serverKey ← Decoder.required "server_public_key" d.serverKey
  return ⟨clientConfig, serverConfig, clientKey, serverKey⟩

/-! ### Bridges -/

/-- The bridge as a JSON value. Of its delay the lowest 64 bits of the milliseconds are kept. -/
def toJson (b : Bridge) : Json :=
  .object [("response", b.response.toJson), ("delay", .ofNat b.delay.millisWord)]

/-- Decodes a delay. -/
def delayDecoder : Decoder Duration := fun source v =>
  Duration.ofMillis <$> Decoder.word "u64" source v

/-- Decodes a bridge. -/
def decoder : Decoder Bridge := fun source v => do
  let (response, delay) ←
    Decoder.pair "struct MockBridge" ("response", Response.decoder) ("delay", delayDecoder) source v
  return ⟨response, delay⟩

end Bridge

namespace InjectionPoint

/-- The points of time by their names. -/
def names : List (String × InjectionPoint) :=
  [("before_navigation", .beforeNavigation), ("after_load", .afterLoad)]

/-- The name of a point of time. -/
def text : InjectionPoint → String
  | .beforeNavigation => "before_navigation"
  | .afterLoad => "after_load"

/-- The point of time as a JSON value. -/
def toJson (p : InjectionPoint) : Json :=
  .string p.text

/-- Decodes a point of time. -/
def decoder : Decoder InjectionPoint :=
  Decoder.choice names

end InjectionPoint

end LoadingCheck
