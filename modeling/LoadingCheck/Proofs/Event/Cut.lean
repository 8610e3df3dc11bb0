import LoadingCheck.Proofs.Event.Protocol
import LoadingCheck.Proofs.Json.Cut
import Mathlib.Data.List.Infix

set_option relaxedAutoImplicit false
set_option autoImplicit false

/-!
# Outputs that are cut off

The output of a script that is killed may end anywhere: between two lines, inside a number or a string, or
inside a character. What is left of its last line is then no event, since an event is read as a whole and
ends at its closing brace. So a check has exactly the events whose lines are in the output up to their
brace.

## Main results

* `LoadingCheck.Event.ofLine?_eq_of_prefix` — no line of an event starts with a shorter one.
* `LoadingCheck.Event.ofLine?_cut` — a line that is cut off is no event.
* `LoadingCheck.Stream.runScript_cut` — the events of an output that is cut off.
-/

namespace LoadingCheck

open Json (Decoder Outline)

namespace Event

/-! ### Lines of events -/

/-- Characters between the tokens of a JSON text are blanks. -/
lemma isBlank_of_isSpace {c : Char} (h : Json.isSpace c = true) : Text.isBlank c = true := by
  simp only [Json.isSpace, Bool.or_eq_true, beq_iff_eq] at h
  obtain ((rfl | rfl) | rfl) | rfl := h <;> decide

/-- Nothing but white space is left behind a value that a text is decoded to, and a trimmed text has none
at its end. -/
lemma rest_eq_nil {line rest : List Char} {text : List Char} (trimmed : Text.trim line = text ++ rest)
    (space : Json.skipSpace rest = []) : rest = [] := by
  apply Text.eq_nil_of_trim_eq_append trimmed
  intro c hc
  rw [Json.skipSpace, List.dropWhile_eq_nil_iff] at space
  exact isBlank_of_isSpace (space c hc)

/-- An event is decoded from a value that the text does not cut off. -/
lemma not_unreadable_of_decoder {members : List (Json.Key × Outline)} {stop : Option Json.Fault}
    {room : ℕ} {e : Event} (h : decoder (.text room) (.object members stop) = .ok e) :
    ¬ (Outline.object members stop).Unreadable := by
  intro unreadable
  rw [decoder, bind_eq_ok] at h
  obtain ⟨t, tagged, _⟩ := h
  obtain ⟨j, read⟩ := Decoder.read_of_tagged tagged
  exact unreadable room j read

lemma head?_of_ofLine? {line : List Char} {e : Event} (h : ofLine? line = some e) :
    (Text.trim line).head? = some '\x7b' := by
  rw [ofLine?] at h
  split_ifs at h with brace
  exact brace

/-- A line of an event is an object that ends with the line: with anything behind its closing brace, the
same object is read, and what stands behind is left over. -/
lemma exists_object {line : List Char} {e : Event} (h : ofLine? line = some e) :
    ∃ used v, Text.trim line = used ++ ['\x7d'] ∧
      ∀ m ≥ 2 * (Text.trim line).length + 2, ∀ t,
        Outline.valueAt m (used ++ '\x7d' :: t) = (v, some t) := by
  obtain ⟨inner, first⟩ : ∃ inner, Text.trim line = '\x7b' :: inner := by
    have brace := head?_of_ofLine? h
    cases line' : Text.trim line with
    | nil => simp [line'] at brace
    | cons c inner =>
      rw [line'] at brace
      exact ⟨inner, by rw [Option.some.inj brace]⟩
  have token : Json.skipSpace (Text.trim line) = '\x7b' :: inner := by
    rw [first]
    rfl
  have decoded : Json.decodeText decoder (Text.trim line) = .ok e := by
    rw [ofLine?, if_pos (head?_of_ofLine? h)] at h
    cases result : Json.decodeText decoder (Text.trim line) with
    | error fault =>
      rw [result] at h
      cases h
    | ok e' =>
      rw [result] at h
      rw [Option.some.inj h]
  obtain ⟨members, stop, object⟩ :=
    Outline.exists_object_of_brace (2 * (Text.trim line).length + 1) token
  rw [Json.decodeText, Outline.ofText] at decoded
  rcases value : Outline.valueAt (2 * (Text.trim line).length + 2) (Text.trim line) with ⟨v, rest⟩
  have kind : v = .object members stop := by
    rw [← object, value]
  rw [value] at decoded
  cases rest with
  | none =>
    rw [bind_eq_ok] at decoded
    obtain ⟨e', read, _⟩ := decoded
    rw [kind] at read value
    exact absurd (Outline.unreadable_of_cut value) (not_unreadable_of_decoder read)
  | some rest =>
    rw [bind_eq_ok] at decoded
    obtain ⟨e', _, ends⟩ := decoded
    obtain ⟨used, split, extent⟩ := Outline.valueAt_object_extent token value
    have space : Json.skipSpace rest = [] := by
      by_contra left
      simp [left] at ends
    have nothing : rest = [] := by
      have trimmed : Text.trim line = (used ++ ['\x7d']) ++ rest := by
        rw [split, List.append_assoc, List.singleton_append]
      exact rest_eq_nil trimmed space
    rw [nothing] at split
    exact ⟨used, v, split, extent⟩

/-- **No line of an event starts with a shorter one.**

**Proof sketch.** The shorter line is an object up to its last character. The longer one starts with the
same object, so all that it has more stands behind that object; but it ends with its own closing brace. -/
theorem ofLine?_eq_of_prefix {line line' : List Char} {e e' : Event} (h : ofLine? line = some e)
    (h' : ofLine? line' = some e') (first : Text.trim line <+: Text.trim line') :
    Text.trim line = Text.trim line' := by
  obtain ⟨used, v, shape, extent⟩ := exists_object h
  obtain ⟨used', v', shape', extent'⟩ := exists_object h'
  obtain ⟨t, split⟩ := first
  have longer : (Text.trim line).length ≤ (Text.trim line').length := by
    rw [← split, List.length_append]
    omega
  have read := extent (2 * (Text.trim line').length + 2) (by omega) t
  have read' := extent' (2 * (Text.trim line').length + 2) le_rfl []
  have same : used ++ '\x7d' :: t = used' ++ ['\x7d'] := by
    rw [← shape', ← split, shape, List.append_assoc, List.singleton_append]
  rw [same, read'] at read
  have nothing : [] = t := Option.some.inj (Prod.mk.inj read).2
  rw [← split, ← nothing, List.append_nil]

/-- A text that ends with a replacement character is no event. -/
lemma ofLine?_replacement (front : List Char) : ofLine? (front ++ ['\uFFFD']) = none := by
  cases result : ofLine? (front ++ ['\uFFFD']) with
  | none => rfl
  | some e =>
    obtain ⟨used, v, shape, _⟩ := exists_object result
    obtain ⟨u, trimmed⟩ := Text.trim_concat (by decide : Text.isBlank '\uFFFD' = false) front
    rw [trimmed] at shape
    have last := (List.append_inj' shape rfl).2
    exact absurd last (by decide)

/-- **A line that is cut off is no event**, wherever the cut is.

**Proof sketch.** If the cut is inside a character, then the text ends with a replacement character and not
with a brace. Otherwise the text is a start of the line, and shorter than the line. -/
theorem ofLine?_cut {e : Event} (h : e.Sendable) {bytes : List UInt8}
    (cut : bytes <+: Utf8.encode e.line) (part : bytes ≠ Utf8.encode e.line) :
    ofLine? (Utf8.decodeLossy bytes) = none := by
  obtain ⟨inner, shape, _, read⟩ := ofLine?_line h
  obtain ⟨front, first, rfl | broken⟩ := Utf8.decodeLossy_cut cut
  · rw [Utf8.decodeLossy_encode]
    cases result : ofLine? front with
    | none => rfl
    | some e' =>
      have whole : Text.trim e.line = e.line := by
        rw [shape]
        exact Text.trim_of_ends (by decide) (by decide) _
      cases front with
      | nil =>
        have brace := head?_of_ofLine? result
        exact absurd brace (by decide)
      | cons c front =>
        have brace : c = '\x7b' := by
          rw [shape] at first
          exact (List.cons_prefix_cons.mp first).1
        have trimmed : Text.trim (c :: front) <+: c :: front :=
          Text.trim_prefix (by rw [brace]; decide) front
        have same := ofLine?_eq_of_prefix result read (by rw [whole]; exact trimmed.trans first)
        rw [whole] at same
        rw [same] at trimmed
        have equal : c :: front = e.line := first.eq_of_length_le trimmed.length_le
        exact absurd (by rw [equal]) part
  · rw [broken]
    exact ofLine?_replacement front

end Event

namespace Stream

/-! ### Whole outputs -/

lemma written_cons (e : Event) (es : List Event) :
    written (e :: es) = Utf8.encode e.line ++ lineFeed :: written es := by
  simp [written, output, content, Written.bytes, Ending.front]

/-- The first `n` events are those whose lines are there up to their closing brace. -/
def Whole (es : List Event) (bytes : List UInt8) (n : ℕ) : Prop :=
  n ≤ es.length ∧ ∀ i e, es[i]? = some e →
    (i < n ↔ written (es.take i) ++ Utf8.encode e.line <+: bytes)

/-- No line comes after the start of a line. -/
lemma not_prefix_of_start {bytes front rest : List UInt8} (h : bytes <+: front) :
    ¬ front ++ lineFeed :: rest <+: bytes := by
  intro longer
  have bound := (longer.trans h).length_le
  rw [List.length_append, List.length_cons] at bound
  omega

section

variable {e : Event} {es : List Event} {bytes : List UInt8}

/-- Up to a cut in the first line, no line is there. -/
lemma whole_zero (cut : bytes <+: Utf8.encode e.line) (part : bytes ≠ Utf8.encode e.line) :
    Whole (e :: es) bytes 0 := by
  refine ⟨Nat.zero_le _, fun i e' he => ⟨fun h => absurd h (Nat.not_lt_zero i), fun h => ?_⟩⟩
  cases i with
  | zero =>
    obtain rfl : e = e' := Option.some.inj he
    have line : Utf8.encode e.line <+: bytes := h
    exact absurd (cut.eq_of_length_le line.length_le) part
  | succ i =>
    rw [List.take_succ_cons, written_cons, List.append_assoc, List.cons_append] at h
    exact absurd h (not_prefix_of_start cut)

/-- With the first line but not its line feed, one line is there. -/
lemma whole_one : Whole (e :: es) (Utf8.encode e.line) 1 := by
  refine ⟨Nat.succ_le_succ (Nat.zero_le _), fun i e' he => ?_⟩
  cases i with
  | zero =>
    obtain rfl : e = e' := Option.some.inj he
    exact ⟨fun _ => List.prefix_rfl, fun _ => Nat.one_pos⟩
  | succ i =>
    rw [List.take_succ_cons, written_cons, List.append_assoc, List.cons_append]
    have later : ¬ i + 1 < 1 := by omega
    exact iff_of_false later (not_prefix_of_start List.prefix_rfl)

/-- Behind the first line and its line feed, the others are counted. -/
lemma Whole.cons {n : ℕ} (h : Whole es bytes n) :
    Whole (e :: es) (Utf8.encode e.line ++ lineFeed :: bytes) (n + 1) := by
  obtain ⟨bound, each⟩ := h
  refine ⟨Nat.succ_le_succ bound, fun i e' he => ?_⟩
  cases i with
  | zero =>
    obtain rfl : e = e' := Option.some.inj he
    exact iff_of_true (Nat.succ_pos n) (List.prefix_append _ _)
  | succ i =>
    rw [List.take_succ_cons, written_cons, List.append_assoc, List.cons_append,
      List.prefix_append_right_inj, List.cons_prefix_cons, ← each i e' he]
    simp

end

/-- **Proof sketch.** Induction on the events. A cut inside the line of the first event leaves noise, or
the event if only the line feed is missing; otherwise the first line is there, and the cut is in the
others. -/
lemma exists_output_of_cut {es : List Event} (sendable : ∀ e ∈ es, e.Sendable) {bytes : List UInt8}
    (cut : bytes <+: written es) :
    ∃ (lines : List (Written × Ending)) (last : Option Written) (n : ℕ),
      bytes = output lines last ∧ (∀ l ∈ lines, l.1.Proper) ∧ (∀ w ∈ last, w.Proper) ∧
        (lines.map Prod.fst ++ last.toList).filterMap Written.event? = es.take n ∧ Whole es bytes n := by
  induction es generalizing bytes with
  | nil =>
    obtain rfl : bytes = [] := List.prefix_nil.mp cut
    refine ⟨[], none, 0, rfl, ?_, ?_, rfl, le_rfl, fun _ _ he => by simp at he⟩
    · exact fun _ hl => absurd hl List.not_mem_nil
    · exact fun _ hw => absurd hw (Option.not_mem_none _)
  | cons e es ih =>
    have first : e.Sendable := sendable e List.mem_cons_self
    have line : Utf8.encode e.line <+: written (e :: es) := by
      rw [written_cons]
      exact List.prefix_append _ _
    by_cases all : bytes = Utf8.encode e.line
    · refine ⟨[], some (.event e), 1, ?_, ?_, ?_, rfl, all ▸ whole_one⟩
      · rw [all]
        rfl
      · exact fun _ hl => absurd hl List.not_mem_nil
      · rintro _ ⟨⟩
        exact first
    rcases List.prefix_or_prefix_of_prefix cut line with inside | ⟨behind, rfl⟩
    · refine ⟨[], some (.noise bytes), 0, rfl, ?_, ?_, rfl, whole_zero inside all⟩
      · exact fun _ hl => absurd hl List.not_mem_nil
      · rintro _ ⟨⟩
        refine ⟨fun feed => ?_, Event.ofLine?_cut first inside all⟩
        have one := lineFeed_notMem_content (l := (.event e, .feed)) first
        exact one (List.mem_append_left _ (inside.subset feed))
    · rw [written_cons, List.prefix_append_right_inj] at cut
      cases behind with
      | nil => exact absurd (List.append_nil _) all
      | cons b behind =>
        obtain ⟨rfl, others⟩ := List.cons_prefix_cons.mp cut
        obtain ⟨lines, last, n, rfl, proper, properLast, events, whole⟩ :=
          ih (fun e' he => sendable e' (List.mem_cons_of_mem e he)) others
        refine ⟨(.event e, .feed) :: lines, last, n + 1, ?_, ?_, properLast, ?_, whole.cons⟩
        · simp [output, content, Written.bytes, Ending.front]
        · intro l hl
          rcases List.mem_cons.mp hl with rfl | hl
          · exact first
          · exact proper l hl
        · rw [List.map_cons, List.cons_append, List.filterMap_cons, events]
          rfl

/-- **A cut never makes an event.** If the output of a script that runs without a fault is the lines of events up
to a cut, at any byte, then its run has the first of these events: those whose lines are in the output up to
their closing brace, and nothing for a line that the cut leaves a part of. -/
theorem runScript_cut {m : Machine} {settings : Settings} {node : Node}
    (runs : m.Runs settings node) {es : List Event} (sendable : ∀ e ∈ es, e.Sendable)
    (cut : node.stdout <+: written es) (onEvent : Event → List Log.Entry) :
    ∃ log n, Whole es node.stdout n ∧ m.runScript settings onEvent =
      .ok (log, ⟨es.take n, node.exit.succeeded, String.ofList (Utf8.decodeLossy node.stderr)⟩) := by
  obtain ⟨lines, last, n, stdout, proper, properLast, events, whole⟩ := exists_output_of_cut sendable cut
  have kept : Stream.events (read node.stdout) = es.take n := by
    rw [stdout, events_output proper properLast, events]
  have run : m.runScript settings onEvent = _ := runs.runScript_eq
  rw [kept] at run
  exact ⟨_, n, whole, run⟩

/-- Two events that a page writes to its console. -/
def spokenEvents : List Event :=
  [.console "log" "IPC call: load", .console "log" "\u00e9"]

/-- The output of a script that is killed inside the last character of the second event. -/
def killedOutput : List UInt8 :=
  written (spokenEvents.take 1) ++ (Utf8.encode (Event.console "log" "\u00e9").line).take 41

/-- A machine whose program for scripts leaves this output. -/
def killedMachine : Machine where
  cwd := none
  tree := { directories := [], files := [] }
  node := some ⟨.code 0, .signal 9 false, killedOutput, []⟩
  scriptPath := .ofString "verify.js"
  elapsed := 0

/-- The first of the two events is read, and nothing else. -/
theorem runScript_killed :
    (killedMachine.runScript {} fun _ => []).map (fun r => r.2.events) =
      .ok [.console "log" "IPC call: load"] := by
  have runs : killedMachine.Runs {} ⟨.code 0, .signal 9 false, killedOutput, []⟩ :=
    ⟨⟨rfl, Machine.launch_eq_ok_iff.mpr ⟨by decide, rfl, rfl⟩⟩, rfl, rfl⟩
  have sendable : ∀ e ∈ spokenEvents, e.Sendable := by
    intro e he
    simp only [spokenEvents, List.mem_cons, List.not_mem_nil, or_false] at he
    rcases he with rfl | rfl <;> exact trivial
  have split : written spokenEvents =
      written (spokenEvents.take 1) ++ written [.console "log" "\u00e9"] := rfl
  have cut : killedOutput <+: written spokenEvents := by
    rw [split, killedOutput, List.prefix_append_right_inj, written_cons]
    exact (List.take_prefix 41 _).trans (List.prefix_append _ _)
  obtain ⟨log, n, ⟨_, whole⟩, run⟩ := runScript_cut runs sendable cut fun _ => []
  have one : 0 < n := by
    rw [whole 0 _ rfl]
    decide
  have two : ¬ 1 < n := by
    rw [whole 1 _ rfl]
    decide
  obtain rfl : n = 1 := by omega
  rw [run]
  rfl

end Stream

end LoadingCheck
