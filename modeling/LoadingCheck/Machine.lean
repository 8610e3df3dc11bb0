import LoadingCheck.Event.Stream
import LoadingCheck.Exit
import LoadingCheck.FileTree
import LoadingCheck.Log.Basic
import LoadingCheck.Report.Basic
import LoadingCheck.Script.Basic

/-!
# The machine that a check runs on

What a check meets outside itself: the current directory, the files and directories, the program that runs
scripts, and the faults of the system. That program is known by what it writes and how it ends, and a fault
by the text that the system gives for it.

## Main definitions

* `LoadingCheck.Node` — the program that runs scripts, by its behaviour.
* `LoadingCheck.Faults` — the faults that a check may meet.
* `LoadingCheck.Machine` — all that a check meets.
* `LoadingCheck.Machine.launch` — starts the program, if it can be started.
* `LoadingCheck.Machine.findModule` — starts it and asks for the module that drives the browser.
* `LoadingCheck.Machine.carryOut` — a script from the file that it is put into to its end.
-/

namespace LoadingCheck

/-- The program that runs scripts: how it ends when it is asked for a module, and what it writes and how it
ends when it is given a script. -/
structure Node where
  checkExit : Exit
  exit : Exit
  stdout : List UInt8
  stderr : List UInt8
  deriving DecidableEq, Repr

/-- The faults that the system has, in the order in which a check may meet them. -/
structure Faults where
  /-- The program cannot be started to be asked for a module. -/
  ask : Option String := none
  /-- The program was asked, but how it ended cannot be found out. -/
  answer : Option String := none
  /-- There can be no directory for the file of a script. -/
  directory : Option String := none
  /-- The file cannot be written. -/
  file : Option String := none
  /-- The program cannot be started with the script. -/
  start : Option String := none
  /-- Behind the bytes that are known of its output, reading fails. -/
  read : Option String := none
  /-- The program was given the script, but how it ended cannot be found out. -/
  wait : Option String := none
  deriving DecidableEq, Repr

/-- What a check meets. -/
structure Machine where
  /-- The current directory, if it exists. -/
  cwd : Option Path
  tree : FileTree
  /-- The program that runs scripts, if there is one. -/
  node : Option Node
  /-- The file that a script is put into. -/
  scriptPath : Path
  /-- How many milliseconds a check takes. -/
  elapsed : Nat
  faults : Faults := {}
  deriving Repr

namespace Script

/-- The expression that the program is asked to find out whether the driving module is there. -/
def moduleQuery : String :=
  "require.resolve(" ++ Json.quote drivingModule ++ ")"

end Script

namespace Machine

/-! ### Starting the program -/

/-- The directory that the program looks for modules in. -/
def moduleDirectory (m : Machine) (settings : Settings) : Path :=
  settings.modules.absolute m.cwd

/-- The failure of a start of the program. -/
def launchFailure (settings : Settings) (fault : String) : Failure :=
  .launch (settings.node.display ++ ": " ++ fault)

/-- Starts the program, unless the system has a fault then. A zero byte in its path or in the directory of the
modules is noticed before the system is asked. -/
def launch (m : Machine) (settings : Settings) (fault : Option String) : Except Failure Node :=
  if settings.node.bytes.contains 0 || (m.moduleDirectory settings).bytes.contains 0 then
    .error (launchFailure settings "nul byte found in provided data")
  else
    match fault, m.node with
    | some fault, _ => .error (launchFailure settings fault)
    | none, none => .error (launchFailure settings FileTree.Error.notFound.message)
    | none, some node => .ok node

/-- What the program is asked to find the module that drives the browser, if it can be started for that. -/
def question? (m : Machine) (settings : Settings) : Option String :=
  (m.launch settings m.faults.ask).toOption.map fun _ => Script.moduleQuery

/-- Starts the program and asks it for the module that drives the browser. -/
def findModule (m : Machine) (settings : Settings) : Except Failure Node := do
  let node ← m.launch settings m.faults.ask
  match m.faults.answer with
  | some fault => .error (launchFailure settings fault)
  | none => if node.checkExit.succeeded then return node else .error .moduleMissing

/-! ### Reading what the program writes -/

/-- The lines that are read of what the program writes. If reading fails, the bytes behind the last line feed
are lost. -/
def linesOf (m : Machine) (node : Node) : List (List UInt8) :=
  match m.faults.read with
  | none => Stream.lines node.stdout
  | some _ => Stream.endedLines node.stdout

/-- What the lines are that are read. -/
def received (m : Machine) (node : Node) : List Stream.Line :=
  (m.linesOf node).map Stream.readLine

/-- The log entry for reading that fails. -/
def readEntries (m : Machine) : List Log.Entry :=
  match m.faults.read with
  | none => []
  | some fault => [⟨.warn, .script, "Failed to read script output: " ++ fault⟩]

end Machine

namespace Node

/-- The log entries for a line of a script: those for its event, or the noise. -/
def lineEntries (onEvent : Event → List Log.Entry) : Stream.Line → List Log.Entry
  | .event event => onEvent event
  | .noise text => [⟨.debug, .script, "[node] " ++ text⟩]

/-- The log entry for the end of a script that ends badly. -/
def exitEntries (node : Node) : List Log.Entry :=
  if node.exit.succeeded then []
  else [⟨.warn, .script, "Playwright script exited with " ++ node.exit.display⟩]

end Node

/-! ### Running scripts -/

/-- What a run of a script leaves behind. -/
structure ScriptRun where
  log : List Log.Entry
  /-- What was read of the output, if the program was given the script. -/
  lines : Option (List Stream.Line)
  /-- The output, if the end of the program is known. -/
  output : Except Failure ScriptOutput

namespace Machine

/-- The log entry for a script that is in its file. -/
def scriptEntry (m : Machine) : Log.Entry :=
  ⟨.debug, .script, "Running Playwright script: " ++ m.scriptPath.display⟩

/-- Puts a script into a file, gives it to the program, reads what that writes, and waits for its end. The log
has the entries that `onEvent` makes for each event. -/
def carryOut (m : Machine) (settings : Settings) (onEvent : Event → List Log.Entry) : ScriptRun :=
  match m.faults.directory <|> m.faults.file with
  | some fault => ⟨[], none, .error (.files fault)⟩
  | none =>
    match m.launch settings m.faults.start with
    | .error failure => ⟨[m.scriptEntry], none, .error failure⟩
    | .ok node =>
      let lines := m.received node
      let log := m.scriptEntry :: lines.flatMap (Node.lineEntries onEvent) ++ m.readEntries
      match m.faults.wait with
      | some fault => ⟨log, some lines, .error (.files fault)⟩
      | none =>
        { log := log ++ node.exitEntries
          lines := some lines
          output := .ok
            { events := Stream.events lines
              succeeded := node.exit.succeeded
              errors := String.ofList (Utf8.decodeLossy node.stderr) } }

/-- Runs a script without asking for the module first: its log and its output. -/
def runScript (m : Machine) (settings : Settings) (onEvent : Event → List Log.Entry) :
    Except Failure (List Log.Entry × ScriptOutput) :=
  let run := m.carryOut settings onEvent
  run.output.map fun output => (run.log, output)

end Machine

end LoadingCheck
