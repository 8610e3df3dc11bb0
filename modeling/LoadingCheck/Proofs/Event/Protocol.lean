import LoadingCheck.Proofs.Event.Codec
import LoadingCheck.Proofs.Machine.Script

set_option relaxedAutoImplicit false
set_option autoImplicit false

/-!
# The protocol between a script and a check

A script writes its events in lines, and other programs may write lines of their own in between. A check
that reads this output has all events of the script, in their order and no others: a line of an event is
read back as it, whatever ends the line, and a line that is no event cannot harm the ones around it.

## Main definitions

* `LoadingCheck.Stream.Written`, `LoadingCheck.Stream.Ending` — what stands in a line, and what ends it.
* `LoadingCheck.Stream.output` — the bytes of lines.

## Main results

* `LoadingCheck.Stream.read_output` — what is read from the bytes of lines.
* `LoadingCheck.Stream.events_written` — events in lines are read back.
* `LoadingCheck.Stream.runScript_output` — the output of a run whose script writes lines.
-/

namespace LoadingCheck

namespace Stream

/-- What stands in a line. -/
inductive Written where
  | event (e : Event)
  | noise (bytes : List UInt8)

/-- What ends a line. -/
inductive Ending where
  | feed
  /-- A carriage return in front of the line feed. -/
  | returnFeed

/-- The carriage return. -/
def carriageReturn : UInt8 := 0x0D

namespace Written

/-- The bytes of what stands in a line. -/
def bytes : Written → List UInt8
  | .event e => Utf8.encode e.line
  | .noise bytes => bytes

/-- An event can be sent, and other bytes are one line that reports no event. -/
def Proper : Written → Prop
  | .event e => e.Sendable
  | .noise bytes => lineFeed ∉ bytes ∧ Event.ofLine? (Utf8.decodeLossy bytes) = none

/-- The event that stands in a line. -/
def event? : Written → Option Event
  | .event e => some e
  | .noise _ => none

/-- What a reader takes a line for. -/
def toLine : Written → Line
  | .event e => .event e
  | .noise bytes => .noise (String.ofList (lineText bytes))

end Written

/-- What comes in front of the line feed of a line. -/
def Ending.front : Ending → List UInt8
  | .feed => []
  | .returnFeed => [carriageReturn]

/-- The bytes of a line up to its line feed. -/
def content (l : Written × Ending) : List UInt8 :=
  l.1.bytes ++ l.2.front

/-- The bytes of lines, the last of which may lack its end. -/
def output (lines : List (Written × Ending)) (last : Option Written) : List UInt8 :=
  lines.flatMap (fun l => content l ++ [lineFeed]) ++ (last.map Written.bytes).getD []

/-- The line without an end, if there is anything in it. -/
def unended : Option Written → List Written
  | none => []
  | some w => if w.bytes = [] then [] else [w]

lemma mem_of_mem_unended {last : Option Written} {w : Written} (h : w ∈ unended last) :
    w ∈ last := by
  cases last with
  | none => exact absurd h List.not_mem_nil
  | some w' =>
    rw [unended] at h
    split_ifs at h
    · exact absurd h List.not_mem_nil
    · rw [List.mem_singleton.mp h]
      rfl

/-! ### Single lines -/

lemma ofLine?_lineText (bytes : List UInt8) :
    Event.ofLine? (lineText bytes) = Event.ofLine? (Utf8.decodeLossy bytes) := by
  have blank : ∀ c, decide (c = '\r') = true → Text.isBlank c = true := by
    intro c hc
    rw [of_decide_eq_true hc]
    rfl
  rw [Event.ofLine?, Event.ofLine?, lineText, Text.trim_dropEndWhile blank]

/-- A carriage return in front of a line feed does not matter. -/
lemma lineText_front (bytes : List UInt8) (e : Ending) :
    lineText (bytes ++ e.front) = lineText bytes := by
  cases e with
  | feed => rw [Ending.front, List.append_nil]
  | returnFeed =>
    have small : carriageReturn.toNat < 0x80 := by decide
    rw [Ending.front, lineText, Utf8.decodeLossy_append_ascii bytes small,
      Text.dropEndWhile_append_of_pos]
    · rfl
    · intro c hc
      rw [List.mem_singleton.mp hc]
      rfl

lemma lineText_event {e : Event} (h : e.Sendable) : lineText (Utf8.encode e.line) = e.line := by
  obtain ⟨inner, shape, _⟩ := Event.ofLine?_line h
  rw [lineText, Utf8.decodeLossy_encode, shape, ← List.cons_append,
    Text.dropEndWhile_append_of_neg _ (by decide)]

/-- A line is taken for what stands in it. -/
lemma readLine_content {w : Written} (h : w.Proper) (e : Ending) :
    readLine (w.bytes ++ e.front) = w.toLine := by
  rw [readLine, lineText_front]
  cases w with
  | event e =>
    obtain ⟨_, _, _, read⟩ := Event.ofLine?_line h
    simp only [Written.bytes, lineText_event h, read, Written.toLine]
  | noise bytes =>
    simp only [Written.bytes, ofLine?_lineText, h.2, Written.toLine]

/-- What stands in a line has no line feed in it. -/
lemma lineFeed_notMem_content {l : Written × Ending} (h : l.1.Proper) : lineFeed ∉ content l := by
  obtain ⟨w, e⟩ := l
  have front : lineFeed ∉ e.front := by
    cases e <;> decide
  have bytes : lineFeed ∉ w.bytes := by
    cases w with
    | event e =>
      intro hmem
      obtain ⟨_, _, visible, _⟩ := Event.ofLine?_line h
      have := visible _ (Utf8.ofNat_mem_of_mem_encode hmem (by decide))
      exact absurd this (by decide)
    | noise bytes => exact h.1
  rw [content, List.mem_append]
  exact not_or.mpr ⟨bytes, front⟩

/-! ### Whole outputs -/

/-- The line feeds cut an output into its lines. -/
lemma splitOn_output {lines : List (Written × Ending)} (proper : ∀ l ∈ lines, l.1.Proper)
    {tail : List UInt8} (one : lineFeed ∉ tail) :
    (lines.flatMap (fun l => content l ++ [lineFeed]) ++ tail).splitOn lineFeed =
      lines.map content ++ [tail] := by
  induction lines with
  | nil => exact List.splitOn_eq_singleton one
  | cons l lines ih =>
    have first := lineFeed_notMem_content (proper l List.mem_cons_self)
    rw [List.flatMap_cons, List.append_assoc, List.append_assoc, List.singleton_append,
      List.splitOn_append_cons_self_of_not_mem first,
      ih fun m hm => proper m (List.mem_cons_of_mem _ hm)]
    rfl

/-- The lines of an output are what stands in them, and a last one without an end if there is anything in
it. -/
lemma lines_output {lines : List (Written × Ending)} {last : Option Written}
    (proper : ∀ l ∈ lines, l.1.Proper) (properLast : ∀ w ∈ last, w.Proper) :
    Stream.lines (output lines last) =
      lines.map content ++ (unended last).map Written.bytes := by
  have one : lineFeed ∉ (last.map Written.bytes).getD [] := by
    cases last with
    | none => exact List.not_mem_nil
    | some w =>
      have h := lineFeed_notMem_content (l := (w, .feed)) (properLast w rfl)
      rwa [content, Ending.front, List.append_nil] at h
  rw [Stream.lines, output, splitOn_output proper one, List.getLast?_concat]
  cases last with
  | none => simp [unended]
  | some w =>
    by_cases empty : w.bytes = []
    · simp [unended, empty]
    · simp [unended, empty]

/-- What is read from the bytes of lines. -/
theorem read_output {lines : List (Written × Ending)} {last : Option Written}
    (proper : ∀ l ∈ lines, l.1.Proper) (properLast : ∀ w ∈ last, w.Proper) :
    read (output lines last) =
      (lines.map Prod.fst ++ unended last).map Written.toLine := by
  rw [read, lines_output proper properLast, List.map_append, List.map_append, List.map_map, List.map_map,
    List.map_map]
  congr 1
  · refine List.map_congr_left fun l hl => ?_
    exact readLine_content (proper l hl) l.2
  · refine List.map_congr_left fun w hw => ?_
    have h := readLine_content (properLast w (mem_of_mem_unended hw)) .feed
    rwa [Ending.front, List.append_nil] at h

/-- The bytes of an event are not empty. -/
lemma bytes_event_ne_nil {e : Event} (h : e.Sendable) : (Written.event e).bytes ≠ [] := by
  obtain ⟨inner, shape, _⟩ := Event.ofLine?_line h
  rw [Written.bytes, shape, Utf8.encode_cons]
  exact List.append_ne_nil_of_left_ne_nil (by decide) _

/-- The events that are read are the ones that stand in the lines. -/
theorem events_output {lines : List (Written × Ending)} {last : Option Written}
    (proper : ∀ l ∈ lines, l.1.Proper) (properLast : ∀ w ∈ last, w.Proper) :
    events (read (output lines last)) =
      (lines.map Prod.fst ++ last.toList).filterMap Written.event? := by
  have same : ∀ ws : List Written, events (ws.map Written.toLine) = ws.filterMap Written.event? := by
    intro ws
    rw [events, List.filterMap_map]
    refine List.filterMap_congr fun w _ => ?_
    cases w <;> rfl
  have empty : (unended last).filterMap Written.event? = last.toList.filterMap Written.event? := by
    cases last with
    | none => rfl
    | some w =>
      cases w with
      | event e =>
        rw [unended, if_neg (bytes_event_ne_nil (properLast _ rfl))]
        rfl
      | noise bytes =>
        rw [unended]
        split_ifs <;> rfl
  rw [read_output proper properLast, same, List.filterMap_append, List.filterMap_append, empty]

/-- Events in lines, each ended by a line feed. -/
def written (es : List Event) : List UInt8 :=
  output (es.map fun e => (.event e, .feed)) none

/-- Events in lines are read back. -/
theorem events_written {es : List Event} (h : ∀ e ∈ es, e.Sendable) : events (read (written es)) = es := by
  have proper : ∀ l ∈ es.map fun e => (Written.event e, Ending.feed), l.1.Proper := by
    intro l hl
    obtain ⟨e, he, rfl⟩ := List.mem_map.mp hl
    exact h e he
  rw [written, events_output proper fun _ hw => absurd hw (Option.not_mem_none _), Option.toList_none,
    List.append_nil, List.map_map, List.filterMap_map]
  exact List.filterMap_some

/-! ### Runs of a script -/

/-- The log entries for what stands in a line: those that are made for an event, or the text of other
bytes. -/
def Written.entries (onEvent : Event → List Log.Entry) : Written → List Log.Entry
  | .event e => onEvent e
  | .noise bytes => [⟨.debug, .script, "[node] " ++ String.ofList (lineText bytes)⟩]

/-- **No event is lost, invented or moved.** If a script that runs without a fault writes events and other lines,
each ended by a line feed with or without a carriage return in front of it, and the last one possibly not ended,
then its run has exactly these events in this order. The log has the entries that are made for each event, once and
in this order, between the entries for the other lines. -/
theorem runScript_output {m : Machine} {settings : Settings} {node : Node}
    (runs : m.Runs settings node) {lines : List (Written × Ending)} {last : Option Written}
    (proper : ∀ l ∈ lines, l.1.Proper) (properLast : ∀ w ∈ last, w.Proper)
    (stdout : node.stdout = output lines last) (onEvent : Event → List Log.Entry) :
    m.runScript settings onEvent = .ok
      (⟨.debug, .script, "Running Playwright script: " ++ m.scriptPath.display⟩ ::
          (lines.map Prod.fst ++ unended last).flatMap (Written.entries onEvent) ++
            node.exitEntries,
        ⟨(lines.map Prod.fst ++ last.toList).filterMap Written.event?, node.exit.succeeded,
          String.ofList (Utf8.decodeLossy node.stderr)⟩) := by
  have calls : ∀ ws : List Written, (ws.map Written.toLine).flatMap (Node.lineEntries onEvent) =
      ws.flatMap (Written.entries onEvent) := by
    intro ws
    rw [List.flatMap_map]
    refine List.flatMap_congr fun w _ => ?_
    cases w <;> rfl
  rw [runs.runScript_eq, stdout, events_output proper properLast, read_output proper properLast, calls]
  rfl

/-- Lines with two events and, between them, one that is no text. -/
def noisyLines : List (Written × Ending) :=
  [(.event (.console "log" "IPC call: \"\u00e9\"\n"), .returnFeed), (.noise [0x7B, 0xFF], .feed),
    (.event (.step (2 ^ 64 - 1) "navigate:/"), .feed)]

/-- A line that is not ended, with one event. -/
def openLine : Option Written :=
  some (.event (.screenshot (.ofString "/shot\u00e9.png")))

/-- A machine whose program for scripts writes these lines. -/
def noisyMachine : Machine where
  cwd := none
  tree := { directories := [], files := [] }
  node := some ⟨.code 0, .code 0, output noisyLines openLine, [0xFF]⟩
  scriptPath := .ofString "verify.js"
  elapsed := 0

/-- The events of these lines are read, and no others. -/
theorem runScript_noisy :
    (noisyMachine.runScript {} fun _ => []).map (fun r => r.2.events) =
      .ok [.console "log" "IPC call: \"\u00e9\"\n", .step (2 ^ 64 - 1) "navigate:/",
        .screenshot (.ofString "/shot\u00e9.png")] := by
  have runs : noisyMachine.Runs {} ⟨.code 0, .code 0, output noisyLines openLine, [0xFF]⟩ :=
    ⟨⟨rfl, Machine.launch_eq_ok_iff.mpr ⟨by decide, rfl, rfl⟩⟩, rfl, rfl⟩
  have rejected : Event.ofLine? (Utf8.decodeLossy [0x7B, 0xFF]) = none := by decide
  have proper : ∀ l ∈ noisyLines, l.1.Proper := by
    intro l hl
    simp only [noisyLines, List.mem_cons, List.not_mem_nil, or_false] at hl
    rcases hl with rfl | rfl | rfl
    · exact trivial
    · exact ⟨by decide, rejected⟩
    · exact Nat.sub_lt (Nat.two_pow_pos 64) Nat.one_pos
  have properLast : ∀ w ∈ openLine, w.Proper := by
    intro w hw
    rw [← Option.some.inj hw]
    exact ⟨_, rfl⟩
  rw [runScript_output runs proper properLast rfl]
  rfl

end Stream

end LoadingCheck
