import LoadingCheck.CommandLine.Help
import LoadingCheck.CommandLine.Parser
import LoadingCheck.Log.Filter

/-!
# Running the command

The command runs a check, prints the log entries that a filter lets through, and then whether the check
passed. It fails only if it is told to be strict.

## Main definitions

* `LoadingCheck.CommandLine.Ending` — what the command prints and leaves behind.
* `LoadingCheck.CommandLine.Build` — what becomes of a sum that does not have 64 bits.
* `LoadingCheck.CommandLine.perform` — the whole command; `LoadingCheck.CommandLine.run` if its words are texts.
-/

namespace LoadingCheck.CommandLine

/-- What the command prints and leaves behind. -/
structure Ending where
  exit : Nat
  stdout : String
  stderr : String
  tree : FileTree
  /-- The directory of the modules, if the program that runs scripts was asked for one. -/
  modules : Option Path
  /-- The script that it was given, if there was one. -/
  script : Option String

/-! ### Printing the log -/

/-- A character of a message as a log shows it: control characters that a terminal could take for
commands are spelled out. -/
def shownChar (c : Char) : List Char :=
  if c = '\x1b' then "\\x1b".toList
  else if c = '\x07' then "\\x07".toList
  else if c = '\x08' then "\\x08".toList
  else if c = '\x0c' then "\\x0c".toList
  else if c = '\x7f' then "\\x7f".toList
  else if 0x80 ≤ c.toNat ∧ c.toNat ≤ 0x9F then
    "\\u\x7b".toList ++ [Json.hexDigit (c.toNat / 16), Json.hexDigit (c.toNat % 16), '\x7d']
  else [c]

/-- A message as a log shows it. -/
def shownMessage (message : String) : String :=
  String.ofList (message.toList.flatMap shownChar)

/-- The line that an entry prints. -/
def entryLine (e : Log.Entry) : String :=
  Log.Entry.text { e with message := shownMessage e.message } ++ "\n"

/-- The lines that the entries print which a filter lets through. -/
def logText (filter : Log.Filter) (log : List Log.Entry) : String :=
  "".intercalate ((log.filter filter.enables).map entryLine)

/-! ### The command -/

/-- The filter for the log: the one that the environment asks for, if it can be read, or else the one
for the wish to see more or not. -/
def logFilter (environment : Option String) (verbose : Bool) : Log.Filter :=
  (environment.bind Log.Filter.parse?).getD (.upTo (if verbose then .debug else .info))

/-- The log entry for a check that passed. -/
def passEntry (report : Report) : Log.Entry :=
  ⟨.info, .command, "✓ " ++ report.scenario ++ s!" passed ({report.millis} ms)"⟩

/-- What is printed about the outcome of a check. -/
def outcomeText (filter : Log.Filter) (report : Report) : String :=
  match report.outcome with
  | .passed => logText filter [passEntry report]
  | .failed reason => "Test failed: " ++ reason ++ "\n"

/-- The exit code of a check. -/
def exitCode (strict : Bool) (report : Report) : Nat :=
  if strict && !report.outcome.isPassed then 1 else 0

/-- What becomes of a sum that does not have 64 bits. It depends on how the command was built. -/
inductive Build where
  /-- The sum wraps around, as in a build that is made to be fast. -/
  | wrapping
  /-- The command ends at once, and says so on the standard error stream. -/
  | checked (report : String)
  deriving DecidableEq, Repr

/-- The exit code of a command that ends at once. -/
def panicCode : Nat := 101

/-- What is left of an ending if the command ends at once, because a sum for the log entry at `n` does not have
64 bits. If the filter does not let the entry through, the sum is not needed. -/
def Ending.cut (ending : Ending) (filter : Log.Filter) (log : List Log.Entry) (report : String) (n : Nat) :
    Ending :=
  if (log[n]?).any filter.enables then
    { ending with exit := panicCode, stdout := logText filter (log.take n), stderr := report }
  else ending

/-- Runs the check that the arguments ask for. -/
def runCheck (build : Build) (a : Arguments) (environment : Option String) (machine : Machine) : Ending :=
  let filter := logFilter environment a.verbose
  let result := Check.run a.config machine
  let ending : Ending :=
    { exit := exitCode a.strict result.report,
      stdout := logText filter result.log ++ outcomeText filter result.report,
      stderr := "",
      tree := result.tree,
      modules := if result.asked then some (machine.moduleDirectory a.config.settings) else none,
      script := result.script }
  match build, result.overflow with
  | .checked report, some n => ending.cut filter result.log report n
  | _, _ => ending

/-- The command when it runs no check. -/
def idle (machine : Machine) (exit : Nat) (stdout stderr : String) : Ending :=
  ⟨exit, stdout, stderr, machine.tree, none, none⟩

/-- Runs the command with the words of its command line. The environment may ask for a filter, by a text. -/
def perform (build : Build) (words : List (List UInt8)) (environment : Option String) (machine : Machine) :
    Ending :=
  match parse words with
  | .run arguments => runCheck build arguments environment machine
  | .help => idle machine 0 helpText ""
  | .version => idle machine 0 versionText ""
  | .refuse refusal => idle machine 2 "" ("error: " ++ refusal.message ++ "\n")

/-- Runs the command with words that are texts. -/
def run (words : List String) (environment : Option String) (machine : Machine) : Ending :=
  perform .wrapping (words.map wordOf) environment machine

end LoadingCheck.CommandLine
