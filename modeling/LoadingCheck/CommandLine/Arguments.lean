import LoadingCheck.Check
import LoadingCheck.Number.Decimal

/-!
# Arguments of the command

The command has options, each with a value, and flags. What is not given keeps its usual value. Words are
bytes, which need not be text, and neither need paths; all other values have to.

## Main definitions

* `LoadingCheck.CommandLine.wordOf`, `LoadingCheck.CommandLine.shown` — words of texts, and words as texts.
* `LoadingCheck.CommandLine.ValueOption`, `LoadingCheck.CommandLine.Flag` — what can be given.
* `LoadingCheck.CommandLine.Refusal` — why arguments are refused, and `Refusal.message`.
* `LoadingCheck.CommandLine.Arguments` — what is given, and `Arguments.config`.
* `LoadingCheck.CommandLine.ValueOption.put` — takes the value of an option into account.
-/

namespace LoadingCheck.CommandLine

/-! ### Words -/

/-- The word of a text. -/
def wordOf (s : String) : List UInt8 :=
  Utf8.encode s.toList

/-- A word as messages show it. -/
def shown (word : List UInt8) : String :=
  String.ofList (Utf8.decodeLossy word)

/-! ### Options and flags -/

/-- The options, which have a value. -/
inductive ValueOption where
  | url
  | screenshot
  | browser
  | viewportWidth
  | viewportHeight
  | delay
  | settle
  | modules
  deriving DecidableEq, Repr

/-- The flags, which have none. -/
inductive Flag where
  | headed
  | strict
  | verbose
  | help
  | version
  deriving DecidableEq, Repr

namespace ValueOption

/-- All options. -/
def all : List ValueOption :=
  [.url, .screenshot, .browser, .viewportWidth, .viewportHeight, .delay, .settle, .modules]

/-- The name of an option. -/
def name : ValueOption → String
  | .url => "url"
  | .screenshot => "screenshot"
  | .browser => "browser"
  | .viewportWidth => "viewport-width"
  | .viewportHeight => "viewport-height"
  | .delay => "ipc-delay-ms"
  | .settle => "settle-ms"
  | .modules => "node-path"

/-- The word for the value of an option. -/
def valueName : ValueOption → String
  | .url => "URL"
  | .screenshot => "SCREENSHOT"
  | .browser => "BROWSER"
  | .viewportWidth => "VIEWPORT_WIDTH"
  | .viewportHeight => "VIEWPORT_HEIGHT"
  | .delay => "IPC_DELAY_MS"
  | .settle => "SETTLE_MS"
  | .modules => "NODE_PATH"

/-- An option as messages show it. -/
def display (o : ValueOption) : String :=
  "--" ++ o.name ++ " <" ++ o.valueName ++ ">"

/-- The option of a name. -/
def ofName? (name : List UInt8) : Option ValueOption :=
  all.find? fun o => wordOf o.name == name

end ValueOption

namespace Flag

/-- All flags. -/
def all : List Flag :=
  [.headed, .strict, .verbose, .help, .version]

/-- The name of a flag. -/
def name : Flag → String
  | .headed => "headed"
  | .strict => "strict"
  | .verbose => "verbose"
  | .help => "help"
  | .version => "version"

/-- The letter of a flag, if it has one. -/
def letter? : Flag → Option Char
  | .verbose => some 'v'
  | .help => some 'h'
  | .version => some 'V'
  | _ => none

/-- A flag as messages show it. -/
def display (f : Flag) : String :=
  "--" ++ f.name

/-- The flag of a name. -/
def ofName? (name : List UInt8) : Option Flag :=
  all.find? fun f => wordOf f.name == name

/-- The flag of a letter. -/
def ofLetter? (c : Char) : Option Flag :=
  all.find? (·.letter? == some c)

end Flag

/-! ### Refusals -/

/-- Why arguments are refused. -/
inductive Refusal where
  /-- A word that is no option, no flag and no value. -/
  | unexpected (word : String)
  | missingValue (option : ValueOption)
  /-- A value that an option cannot have; some come with a reason. -/
  | invalidValue (option : ValueOption) (value : String) (reason : Option String)
  /-- An option or flag that was given before, as messages show it. -/
  | repeated (display : String)
  /-- A value for a flag. -/
  | valueForFlag (flag : Flag) (value : String)
  /-- A value that has to be text, and is not. -/
  | notText
  deriving DecidableEq, Repr

/-- The refusal in words. -/
def Refusal.message : Refusal → String
  | .unexpected word => "unexpected argument '" ++ word ++ "' found"
  | .missingValue option => "a value is required for '" ++ option.display ++ "' but none was supplied"
  | .invalidValue option value reason =>
    "invalid value '" ++ value ++ "' for '" ++ option.display ++ "'" ++
      match reason with
      | some r => ": " ++ r
      | none => ""
  | .repeated display => "the argument '" ++ display ++ "' cannot be used multiple times"
  | .valueForFlag flag value =>
    "unexpected value '" ++ value ++ "' for '" ++ flag.display ++ "' found; no more were expected"
  | .notText => "invalid UTF-8 was detected in one or more arguments"

/-! ### Arguments -/

/-- What is given to the command. -/
structure Arguments where
  url : String := "http://localhost:3000"
  screenshot : Path := .ofString "verification/ux_verification_refined.png"
  browser : Browser := .chromium
  headed : Bool := false
  viewportWidth : Nat := 1280
  viewportHeight : Nat := 720
  /-- The milliseconds that the bridge waits. -/
  delay : Nat := 2000
  /-- The milliseconds between the click and the assertion. -/
  settle : Nat := 500
  modules : Path := .ofString "node_modules"
  strict : Bool := false
  verbose : Bool := false
  deriving DecidableEq, Repr

/-- The check that the arguments ask for. -/
def Arguments.config (a : Arguments) : Config where
  settings :=
    { browser := a.browser, headless := !a.headed, viewportWidth := a.viewportWidth,
      viewportHeight := a.viewportHeight, modules := a.modules }
  options :=
    { url := a.url, bridge := .withDelay (.ofMillis a.delay), settle := .ofMillis a.settle,
      screenshot := a.screenshot }

/-- The largest size of a viewport. -/
def maxViewport : Nat := 4294967295

/-- Reads the size of a viewport. -/
def readViewport (value : String) : Except String Nat :=
  match Decimal.readSigned value.toList with
  | .error fault => .error fault.message
  | .ok n =>
    if 0 ≤ n ∧ n ≤ maxViewport then .ok n.toNat else .error s!"{n} is not in 0..={maxViewport}"

/-- Reads a number of milliseconds. -/
def readMillis (value : String) : Except String Nat :=
  match Decimal.readWord value.toList with
  | .error fault => .error fault.message
  | .ok n => .ok n

namespace ValueOption

/-- Takes the value of an option into account. A path must not be empty. -/
def put (o : ValueOption) (value : List UInt8) (a : Arguments) : Except Refusal Arguments :=
  let path : Except Refusal Path :=
    if value = [] then .error (.missingValue o) else .ok ⟨value⟩
  let text : Except Refusal String :=
    match Utf8.decode? value with
    | some s => .ok (String.ofList s)
    | none => .error .notText
  let number (read : String → Except String Nat) : Except Refusal Nat := do
    let s ← text
    match read s with
    | .ok n => return n
    | .error reason => .error (.invalidValue o s (some reason))
  match o with
  | .url => do
    let s ← text
    return { a with url := s }
  | .screenshot => do
    let p ← path
    return { a with screenshot := p }
  | .browser =>
    match Browser.names.lookup (shown value) with
    | some b => return { a with browser := b }
    | none => .error (if value = [] then .missingValue o else .invalidValue o (shown value) none)
  | .viewportWidth => do
    let n ← number readViewport
    return { a with viewportWidth := n }
  | .viewportHeight => do
    let n ← number readViewport
    return { a with viewportHeight := n }
  | .delay => do
    let n ← number readMillis
    return { a with delay := n }
  | .settle => do
    let n ← number readMillis
    return { a with settle := n }
  | .modules => do
    let p ← path
    return { a with modules := p }

end ValueOption

end LoadingCheck.CommandLine
