import LoadingCheck.Proofs.Event.Protocol

set_option relaxedAutoImplicit false
set_option autoImplicit false

/-!
# Lines of an output do not touch each other

An output is cut at its line feeds before anything else is done with it, and each line is read on its own. So
whatever stands in front of a line feed, what stands behind it is read as if it stood alone: a line that is
no text, or a character that is cut off, harms its own line only. What comes of an output depends on nothing
else that the script leaves behind.

## Main definitions

* `LoadingCheck.Stream.Account` — what comes of an output: its events and what the log gets for them.
* `LoadingCheck.Stream.gap` — the line that a line feed ends although nothing stands in it.

## Main results

* `LoadingCheck.Stream.read_append` — the lines of an output on both sides of a line feed.
* `LoadingCheck.Stream.read_line_between` — a line between two others.
* `LoadingCheck.Stream.runScript_append` — what comes of an output, and that a run adds nothing to it.
-/

namespace LoadingCheck

namespace Stream

/-! ### Both sides of a line feed -/

/-- The pieces in front of a line feed are lines, and so are those of the text behind it. -/
lemma lines_append (a b : List UInt8) : lines (a ++ lineFeed :: b) = a.splitOn lineFeed ++ lines b := by
  have pieces : (a ++ lineFeed :: b).splitOn lineFeed = a.splitOn lineFeed ++ b.splitOn lineFeed :=
    List.splitOn_append_cons_self a b
  have present : b.splitOn lineFeed ≠ [] := List.splitOn_ne_nil _ _
  have last : (a.splitOn lineFeed ++ b.splitOn lineFeed).getLast? = (b.splitOn lineFeed).getLast? := by
    rw [List.getLast?_append_of_ne_nil _ present]
  unfold lines
  dsimp only
  rw [pieces, last]
  split_ifs
  · exact List.dropLast_append_of_ne_nil present
  · rfl

/-- The line that a line feed behind the output ends, if nothing stands in it: without the line feed it is
no line. -/
def gap (output : List UInt8) : List Line :=
  if (output.splitOn lineFeed).getLast? = some [] then [.noise ""] else []

lemma readLine_nil : readLine [] = .noise "" := by decide

/-- The pieces of an output are its lines, but for an empty last one. -/
lemma map_readLine_splitOn (output : List UInt8) :
    (output.splitOn lineFeed).map readLine = read output ++ gap output := by
  unfold read lines gap
  dsimp only
  split_ifs with empty
  · obtain ⟨front, split⟩ := List.getLast?_eq_some_iff.mp empty
    rw [split, List.dropLast_concat, List.map_append, List.map_singleton, readLine_nil]
  · rw [List.append_nil]

/-- **The lines of an output are those on both sides of a line feed**, with the empty line that this line
feed may end. -/
theorem read_append (a b : List UInt8) : read (a ++ lineFeed :: b) = read a ++ gap a ++ read b := by
  unfold read
  rw [lines_append, List.map_append, map_readLine_splitOn]
  rfl

/-- **A line between two line feeds is read on its own**, whatever stands around it. -/
theorem read_line_between (a b : List UInt8) {line : List UInt8} (one : lineFeed ∉ line) :
    read (a ++ lineFeed :: (line ++ lineFeed :: b)) = read a ++ gap a ++ readLine line :: read b := by
  have rest : read (line ++ lineFeed :: b) = readLine line :: read b := by
    unfold read
    rw [lines_append, List.splitOn_eq_singleton one, List.singleton_append, List.map_cons]
  rw [read_append, rest]

/-- An empty line is no event. -/
lemma events_gap (output : List UInt8) : events (gap output) = [] := by
  unfold gap
  split_ifs <;> rfl

lemma events_append (ls ms : List Line) : events (ls ++ ms) = events ls ++ events ms :=
  List.filterMap_append

/-- The event that a line is, if it is one, depends on its own text. -/
lemma event?_readLine (line : List UInt8) : (readLine line).event? = Event.ofLine? (lineText line) := by
  unfold readLine
  dsimp only
  cases Event.ofLine? (lineText line) with
  | some e => rfl
  | none => rfl

/-- The events of an output without a line feed. -/
lemma events_single {line : List UInt8} (one : lineFeed ∉ line) :
    events (read line) = (Event.ofLine? (lineText line)).toList := by
  have whole : read line ++ gap line = [readLine line] := by
    rw [← map_readLine_splitOn, List.splitOn_eq_singleton one, List.map_singleton]
  have same : events (read line) = events [readLine line] := by
    rw [← whole, events_append, events_gap, List.append_nil]
  rw [same, ← event?_readLine]
  unfold events
  cases event : (readLine line).event? <;> simp [event]

/-! ### What comes of an output -/

/-- What comes of an output: its events, and the entries that the log gets for its lines, among them those
that are made for each event. -/
structure Account where
  events : List Event
  entries : List Log.Entry

/-- What comes of an output if an event makes the entries that `onEvent` says. -/
def account (onEvent : Event → List Log.Entry) (output : List UInt8) : Account :=
  ⟨events (read output), (read output).flatMap (Node.lineEntries onEvent)⟩

/-- What a run of a script gives, from what comes of its output. -/
def Account.result (c : Account) (m : Machine) (exit : Exit) (stderr : List UInt8) :
    List Log.Entry × ScriptOutput :=
  (⟨.debug, .script, "Running Playwright script: " ++ m.scriptPath.display⟩ :: c.entries ++
      (if exit.succeeded then [] else [⟨.warn, .script, "Playwright script exited with " ++ exit.display⟩]),
    ⟨c.events, exit.succeeded, String.ofList (Utf8.decodeLossy stderr)⟩)

/-- **Lines do not touch each other.** What a run without a fault gives is made of what comes of the output, and
neither the way the script ends nor its error output takes part in that. Of an output with a line feed in it
comes what comes of both sides, and in between the line feed may end an empty line, which is no event. A line
adds what it adds alone, whatever its bytes are. -/
theorem runScript_append {m : Machine} {settings : Settings} {node : Node}
    (runs : m.Runs settings node) (onEvent : Event → List Log.Entry) :
    (∀ exit stdout stderr, (m.answering exit stdout stderr).runScript settings onEvent =
        .ok ((account onEvent stdout).result m exit stderr)) ∧
      (∀ a b,
        (account onEvent (a ++ lineFeed :: b)).events =
            (account onEvent a).events ++ (account onEvent b).events ∧
          (account onEvent (a ++ lineFeed :: b)).entries =
            (account onEvent a).entries ++ (gap a).flatMap (Node.lineEntries onEvent) ++
              (account onEvent b).entries) ∧
      ∀ line, lineFeed ∉ line →
        (account onEvent line).events = (Event.ofLine? (lineText line)).toList ∧
          ∀ a b,
            (account onEvent (a ++ lineFeed :: (line ++ lineFeed :: b))).events =
                (account onEvent a).events ++ (Event.ofLine? (lineText line)).toList ++
                  (account onEvent b).events ∧
              (account onEvent (a ++ lineFeed :: (line ++ lineFeed :: b))).entries =
                (account onEvent a).entries ++ (gap a).flatMap (Node.lineEntries onEvent) ++
                  Node.lineEntries onEvent (readLine line) ++ (account onEvent b).entries := by
  have sides (a b : List UInt8) : (account onEvent (a ++ lineFeed :: b)).events =
      (account onEvent a).events ++ (account onEvent b).events := by
    show events (read (a ++ lineFeed :: b)) = events (read a) ++ events (read b)
    rw [read_append, events_append, events_append, events_gap, List.append_nil]
  refine ⟨fun exit stdout stderr => ?_, fun a b => ⟨sides a b, ?_⟩, fun line one => ?_⟩
  · rw [(runs.answering exit stdout stderr).runScript_eq]
    rfl
  · show (read (a ++ lineFeed :: b)).flatMap _ = _
    rw [read_append, List.flatMap_append, List.flatMap_append]
    rfl
  · refine ⟨events_single one, fun a b => ⟨?_, ?_⟩⟩
    · rw [sides, sides, ← List.append_assoc]
      exact congrArg (fun mid => _ ++ mid ++ _) (events_single one)
    · show (read (a ++ lineFeed :: (line ++ lineFeed :: b))).flatMap _ = _
      rw [read_line_between a b one, List.flatMap_append, List.flatMap_append, List.flatMap_cons,
        ← List.append_assoc]
      rfl

/-- A machine whose program for scripts starts, and writes nothing yet. -/
def silentMachine : Machine where
  cwd := none
  tree := { directories := [], files := [] }
  node := some ⟨.code 0, .code 0, [], []⟩
  scriptPath := .ofString "verify.js"
  elapsed := 0

/-- A line with a character that is cut off, and a line with an event behind it. -/
theorem runScript_truncated :
    ((silentMachine.answering (.code 1) ([0x7B, 0xE2, 0x82] ++ lineFeed :: Utf8.encode Event.closed.line)
        [0xFF]).runScript {} fun _ => []).map (fun r => r.2.events) = .ok [.closed] := by
  have runs : silentMachine.Runs {} ⟨.code 0, .code 0, [], []⟩ :=
    ⟨⟨rfl, Machine.launch_eq_ok_iff.mpr ⟨by decide, rfl, rfl⟩⟩, rfl, rfl⟩
  have sendable : Event.closed.Sendable := trivial
  have one : lineFeed ∉ Utf8.encode Event.closed.line := by
    have whole := lineFeed_notMem_content (l := (.event .closed, .feed)) sendable
    rwa [content, Ending.front, List.append_nil] at whole
  obtain ⟨run, sides, alone⟩ := runScript_append runs fun _ => []
  have first := (alone [0x7B, 0xE2, 0x82] (by decide)).1
  have second := (alone (Utf8.encode Event.closed.line) one).1
  have broken : Event.ofLine? (lineText [0x7B, 0xE2, 0x82]) = none := by
    rw [ofLine?_lineText]
    decide
  have closed : Event.ofLine? (lineText (Utf8.encode Event.closed.line)) = some .closed := by
    obtain ⟨_, _, _, read⟩ := Event.ofLine?_line sendable
    rw [lineText_event sendable, read]
  have both := (sides [0x7B, 0xE2, 0x82] (Utf8.encode Event.closed.line)).1
  rw [first, second, broken, closed] at both
  simp only [run, Except.map, Account.result, both]
  rfl

end Stream

end LoadingCheck
