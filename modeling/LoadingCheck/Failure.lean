import LoadingCheck.Text.Blank
import LoadingCheck.Text.LowerCase
import LoadingCheck.Text.Search

/-!
# Failures of a check

What can keep a check from passing, each cause with its wording, and how the cause is told from the
message that a script reports.

## Main definitions

* `LoadingCheck.Failure` — the causes.
* `LoadingCheck.Failure.message` — the wording.
* `LoadingCheck.Failure.ofScriptMessage` — the cause that a message of a script stands for.

## Design

A browser reports every failure as a text. The first line names the call that failed, so the cause is
told from that line alone. Below it an assertion shows what was expected and what was there, and then a
log of calls; the wording of a failed assertion keeps the former and drops the latter.
-/

namespace LoadingCheck

/-- What keeps a check from passing. -/
inductive Failure where
  /-- The module that drives the browser is not installed. -/
  | moduleMissing
  /-- The script could not be started. -/
  | launch (detail : String)
  /-- A page could not be opened. -/
  | navigation (url reason : String)
  /-- An element was not there. -/
  | elementMissing (detail : String)
  /-- An element was not as it should be. -/
  | assertion (detail : String)
  /-- The script failed in some other way. -/
  | script (detail : String)
  /-- A text is no class pattern. -/
  | badPattern (pattern reason : String)
  /-- The settings do not fit together. -/
  | badSettings (detail : String)
  /-- A file or directory could not be used. -/
  | files (detail : String)
  /-- A value could not be read from JSON or written to it. -/
  | json (detail : String)
  deriving DecidableEq, Repr

namespace Failure

/-- The failure in words. -/
def message : Failure → String
  | .moduleMissing =>
    "Playwright not found. Install with: npm install @playwright/test && npx playwright install chromium"
  | .launch detail => "Failed to launch verification script: " ++ detail
  | .navigation url reason => "Navigation to " ++ url ++ " failed: " ++ reason
  | .elementMissing detail => "Element not found: " ++ detail
  | .assertion detail => "Assertion failed: " ++ detail
  | .script detail => "Script error: " ++ detail
  | .badPattern pattern reason => "Invalid class pattern '" ++ pattern ++ "': " ++ reason
  | .badSettings detail => "Invalid configuration: " ++ detail
  | .files detail => "IO error: " ++ detail
  | .json detail => "JSON error: " ++ detail

/-! ### Messages of a script -/

/-- The first line of a message, without blanks at its ends. -/
def headline (message : List Char) : List Char :=
  Text.trim (Text.firstLine message)

/-- The words that a log of calls starts with. -/
def callLogMark : List Char := "Call log:".toList

/-- A message without the log of calls at its end and without blanks at its ends. -/
def withoutCallLog (message : List Char) : List Char :=
  Text.trim ((Text.before? callLogMark message).getD message)

/-- The words of which one occurs in the headline of a failed navigation. -/
def navigationWords : List String := ["page.goto", "net::err_", "ns_error_"]

/-- The words of which one occurs in the headline of a failed assertion. -/
def assertionWords : List String := ["tohaveclass", "expect("]

/-- The words of which one occurs in the headline if an element is missing. -/
def elementWords : List String := ["locator.click", "getbyrole"]

/-- Whether one of the words, which are in lower case, occurs in a text in whatever case. -/
def mentions (words : List String) (s : List Char) : Bool :=
  let lower := Text.lowerForSearch s
  words.any fun w => Text.contains lower w.toList

/-- The failure that a message of a script stands for. The url is the one that the script was to
open. -/
def ofScriptMessage (message url : String) : Failure :=
  let m := message.toList
  let head := headline m
  if mentions navigationWords head then .navigation url (String.ofList head)
  else if mentions assertionWords head then .assertion (String.ofList (withoutCallLog m))
  else if mentions elementWords head then .elementMissing (String.ofList head)
  else .script (String.ofList head)

end Failure

end LoadingCheck
