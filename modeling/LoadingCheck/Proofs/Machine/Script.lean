import LoadingCheck.Machine
import LoadingCheck.Proofs.Fallible
import Mathlib.Tactic.SplitIfs

set_option relaxedAutoImplicit false
set_option autoImplicit false

/-!
# How far a script comes

A check starts the program for scripts twice, to ask it for the driving module and to give it the script, and
each time the system may have a fault. What else a start depends on is the same both times. Once the program
has the script, everything that it writes up to a fault is in the log, but there is an output only if the end
of the program is known.

## Main definitions

* `LoadingCheck.Machine.Gives` — the program is given a script.
* `LoadingCheck.Machine.Runs` — it is given a script, and all that it writes and how it ends is known.
* `LoadingCheck.Machine.refusal?` — what the system has against giving the program a script.
* `LoadingCheck.Machine.answering` — a machine with another behaviour of the program.

## Main results

* `LoadingCheck.Machine.launch_eq_ok_iff` — when a start of the program succeeds.
* `LoadingCheck.Machine.Gives.carryOut_of_ended`, `LoadingCheck.Machine.Gives.carryOut_of_wait` — a script that
  the program is given.
* `LoadingCheck.Machine.Runs.runScript_eq` — a script without a fault.
-/

namespace LoadingCheck

lemma Exit.succeeded_iff {e : Exit} : e.succeeded = true ↔ e = .code 0 :=
  beq_iff_eq

namespace Machine

variable {m : Machine} {settings : Settings} {node : Node} {fault : Option String}

/-! ### Starts -/

/-- A start succeeds if the system has no fault then, there is no zero byte in the way, and there is a
program. -/
lemma launch_eq_ok_iff : m.launch settings fault = .ok node ↔
    (settings.node.bytes.contains 0 = false ∧ (m.moduleDirectory settings).bytes.contains 0 = false) ∧
      fault = none ∧ m.node = some node := by
  rw [launch.eq_def]
  split_ifs with zero
  · rw [Bool.or_eq_true] at zero
    refine iff_of_false nofun fun h => ?_
    rcases zero with zero | zero
    · exact absurd zero (Bool.eq_false_iff.mp h.1.1)
    · exact absurd zero (Bool.eq_false_iff.mp h.1.2)
  · rw [Bool.not_eq_true, Bool.or_eq_false_iff] at zero
    rw [and_iff_right zero]
    cases fault with
    | some text => simp
    | none => cases m.node <;> simp

/-- A start depends on what else it did before, and on the fault at the time. -/
lemma launch_of_launch (h : m.launch settings fault = .ok node) (other : Option String) :
    m.launch settings other =
      match other with
      | some text => .error (launchFailure settings text)
      | none => .ok node := by
  obtain ⟨⟨program, modules⟩, _, present⟩ := launch_eq_ok_iff.mp h
  rw [launch.eq_def, program, modules, present]
  cases other <;> rfl

/-- The module is found exactly if the program can be started, its answer can be waited for, and it ends
well. -/
lemma findModule_eq_ok_iff : m.findModule settings = .ok node ↔
    m.launch settings m.faults.ask = .ok node ∧ m.faults.answer = none ∧ node.checkExit = .code 0 := by
  rw [findModule, bind_eq_ok]
  constructor
  · rintro ⟨node', launched, found⟩
    split at found
    · cases found
    · rename_i known
      split at found
      · rename_i well
        cases found
        exact ⟨launched, known, Exit.succeeded_iff.mp well⟩
      · cases found
  · rintro ⟨launched, known, well⟩
    refine ⟨node, launched, ?_⟩
    rw [known, well]
    rfl

/-! ### Scripts -/

/-- The program is given a script: the script is in a file, and the program is started with it. -/
structure Gives (m : Machine) (settings : Settings) (node : Node) : Prop where
  stored : (m.faults.directory <|> m.faults.file) = none
  launched : m.launch settings m.faults.start = .ok node

/-- A script runs from beginning to end: the program is given it, all that the program writes is read, and how
it ends is known. -/
structure Runs (m : Machine) (settings : Settings) (node : Node) : Prop extends m.Gives settings node where
  read : m.faults.read = none
  ended : m.faults.wait = none

/-- What the system has against giving the program a script. -/
def refusal? (m : Machine) (settings : Settings) : Option Failure :=
  match m.faults.directory <|> m.faults.file, m.faults.start with
  | some fault, _ => some (.files fault)
  | none, some fault => some (launchFailure settings fault)
  | none, none => none

/-- The log of a script that the system keeps from the program: the script may be in its file. -/
def refusedEntries (m : Machine) : List Log.Entry :=
  match m.faults.directory <|> m.faults.file with
  | some _ => []
  | none => [m.scriptEntry]

/-- The output of a script of which all is known. -/
def output (m : Machine) (node : Node) : ScriptOutput where
  events := Stream.events (m.received node)
  succeeded := node.exit.succeeded
  errors := String.ofList (Utf8.decodeLossy node.stderr)

/-- A program that was started before is given the script, unless the system has something against it. -/
lemma gives_of_refusal? (h : m.launch settings fault = .ok node) (none : m.refusal? settings = none) :
    m.Gives settings node := by
  rw [refusal?.eq_def] at none
  split at none
  · cases none
  · cases none
  · rename_i stored start
    exact ⟨stored, by rw [launch_of_launch h, start]⟩

section

variable {onEvent : Event → List Log.Entry}

/-- What is left of a script that the system keeps from the program. -/
lemma carryOut_of_refusal? {failure : Failure} (h : m.launch settings fault = .ok node)
    (refused : m.refusal? settings = some failure) :
    m.carryOut settings onEvent = ⟨m.refusedEntries, none, .error failure⟩ := by
  rw [refusal?.eq_def] at refused
  rw [carryOut.eq_def, refusedEntries.eq_def]
  split at refused
  · rename_i stored
    cases refused
    rw [stored]
  · rename_i stored start
    cases refused
    rw [stored, start, launch_of_launch h]
  · cases refused

/-- A script that the program is given, if the end of the program is known. -/
lemma Gives.carryOut_of_ended (h : m.Gives settings node) (ended : m.faults.wait = none) :
    m.carryOut settings onEvent =
      { log := m.scriptEntry :: (m.received node).flatMap (Node.lineEntries onEvent) ++ m.readEntries ++
          node.exitEntries
        lines := some (m.received node)
        output := .ok (m.output node) } := by
  rw [carryOut, h.stored, h.launched]
  dsimp only
  rw [ended]
  rfl

/-- A script that the program is given, if its end cannot be found out. -/
lemma Gives.carryOut_of_wait (h : m.Gives settings node) {text : String} (wait : m.faults.wait = some text) :
    m.carryOut settings onEvent =
      { log := m.scriptEntry :: (m.received node).flatMap (Node.lineEntries onEvent) ++ m.readEntries
        lines := some (m.received node)
        output := .error (.files text) } := by
  rw [carryOut, h.stored, h.launched]
  dsimp only
  rw [wait]

/-- Without a fault of reading, the lines of the output are what is read. -/
lemma received_of_read (read : m.faults.read = none) : m.received node = Stream.read node.stdout := by
  rw [received, linesOf, read]
  rfl

/-- **A script without a fault.** Its log has the entries for all lines and for the end, and its output has the
events of all lines. -/
theorem Runs.runScript_eq (h : m.Runs settings node) :
    m.runScript settings onEvent = .ok
      (m.scriptEntry :: (Stream.read node.stdout).flatMap (Node.lineEntries onEvent) ++ node.exitEntries,
        { events := Stream.events (Stream.read node.stdout)
          succeeded := node.exit.succeeded
          errors := String.ofList (Utf8.decodeLossy node.stderr) }) := by
  have quiet : m.readEntries = [] := by rw [readEntries, h.read]
  rw [runScript, h.carryOut_of_ended h.ended, quiet, output, received_of_read h.read, List.append_nil]
  rfl

end

/-! ### Other behaviours of the program -/

/-- The machine with another behaviour of its program for scripts once it has a script. -/
def answering (m : Machine) (exit : Exit) (stdout stderr : List UInt8) : Machine :=
  { m with node := m.node.map fun node => { node with exit, stdout, stderr } }

lemma launch_answering (h : m.launch settings fault = .ok node) (exit : Exit) (stdout stderr : List UInt8) :
    (m.answering exit stdout stderr).launch settings fault = .ok { node with exit, stdout, stderr } := by
  obtain ⟨zero, quiet, present⟩ := launch_eq_ok_iff.mp h
  refine launch_eq_ok_iff.mpr ⟨zero, quiet, ?_⟩
  rw [answering, present]
  rfl

lemma Runs.answering (h : m.Runs settings node) (exit : Exit) (stdout stderr : List UInt8) :
    (m.answering exit stdout stderr).Runs settings { node with exit, stdout, stderr } where
  stored := h.stored
  launched := launch_answering h.launched exit stdout stderr
  read := h.read
  ended := h.ended

end Machine

end LoadingCheck
