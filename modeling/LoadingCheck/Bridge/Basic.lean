import LoadingCheck.Duration
import LoadingCheck.Script.Fragment
import LoadingCheck.Text.Blank

/-!
# The bridge to a slow backend

A page talks to its backend through one global function. The bridge takes the place of that function:
it logs every call, waits, and answers with a fixed response. While it waits, the page shows that it is
loading.

## Main definitions

* `LoadingCheck.Bridge` — the response and the time until it comes.
* `LoadingCheck.Bridge.handlerSource` — the program that puts a bridge in place.
* `LoadingCheck.Bridge.installation` — the statement that runs it in a page.
* `LoadingCheck.Bridge.interceptedCall?` — the call that a line of a page's console tells of.
-/

namespace LoadingCheck

/-- What the backend answers: the configurations of both sides and their public keys. -/
structure Bridge.Response where
  clientConfig : String
  serverConfig : String
  clientKey : String
  serverKey : String
  deriving DecidableEq, Repr

/-- A stand-in for the backend. -/
structure Bridge where
  response : Bridge.Response
  delay : Duration
  deriving DecidableEq, Repr

/-- The times at which a bridge can be put in place. -/
inductive InjectionPoint where
  /-- Before any script of a page runs, on every navigation. -/
  | beforeNavigation
  /-- Once, in the page that is open. -/
  | afterLoad
  deriving DecidableEq, Repr

namespace Bridge

/-- The global function that a page calls its backend with. -/
def entryPoint : String := "window.__TAURI_IPC__"

/-- What a bridge writes to the console in front of a call. -/
def logMark : String := "IPC call:"

/-- The time that a backend takes unless told otherwise. -/
def standardDelay : Duration := .ofMillis 2000

/-- A response with mock texts. -/
def Response.standard : Response :=
  ⟨"mock client yaml", "mock server yaml", "mock key", "mock key"⟩

/-- The response as an object: the names of its members and their values, in order. -/
def Response.members (r : Response) : List (String × String) :=
  [("client_yaml", r.clientConfig), ("server_yaml", r.serverConfig),
    ("client_public_key", r.clientKey), ("server_public_key", r.serverKey)]

/-- A bridge with the standard response. -/
def withDelay (delay : Duration) : Bridge :=
  ⟨.standard, delay⟩

/-- The bridge that is used unless told otherwise. -/
def standard : Bridge :=
  withDelay standardDelay

/-! ### The handler -/

/-- Members of an object with commas between them. -/
def memberFragments : List (String × String) → List Fragment
  | [] => []
  | [(name, value)] => [.literal name, .code ":", .literal value]
  | (name, value) :: m :: rest =>
    .literal name :: .code ":" :: .literal value :: .code "," :: memberFragments (m :: rest)

/-- The program that puts a bridge in place of the entry point. It uses a call for nothing but the
log. -/
def handler (b : Bridge) : List Fragment :=
  [.code entryPoint, .code " = async (message) => \x7b\n  console.log(", .literal logMark,
    .code ", JSON.stringify(message));\n  await new Promise(resolve => setTimeout(resolve, ",
    .number b.delay.millis, .code "));\n  return \x7b"] ++
  memberFragments b.response.members ++ [.code "\x7d;\n\x7d;"]

/-- The text of the handler. -/
def handlerSource (b : Bridge) : String :=
  String.ofList (Fragment.render b.handler)

/-- The statement that puts a bridge in place at a point of time. -/
def installation (b : Bridge) : InjectionPoint → List Fragment
  | .beforeNavigation =>
    [.code "    await page.addInitScript(\x7b content: ", .literal b.handlerSource, .code " \x7d);"]
  | .afterLoad =>
    [.code "    await page.evaluate(source => \x7b (0, eval)(source); \x7d, ",
      .literal b.handlerSource, .code ");"]

/-- The call that a text on the console tells of: what follows the mark, without blanks before it. -/
def interceptedCall? (console : String) : Option String :=
  (logMark.toList.isPrefixOf? console.toList).map fun rest => String.ofList (Text.trimStart rest)

end Bridge

end LoadingCheck
