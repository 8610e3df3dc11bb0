import LoadingCheck.Proofs.Event.Cut
import LoadingCheck.Proofs.Json.Members

set_option relaxedAutoImplicit false
set_option autoImplicit false

/-!
# Which lines are events

A line is an event exactly if it is one JSON object, with blanks around it, in which the member `event` comes
once and names a kind of event, and each member that this kind has comes once with a value of its type. The
members may stand in any order, names may be written with escapes, and any other members may stand between
them, as often as they like.

## Main definitions

* `LoadingCheck.Event.DescribedBy` — the members of an object describe an event.

## Main results

* `LoadingCheck.Event.ofLine?_eq_some_iff` — the lines of an event.
* `LoadingCheck.Event.ofLine?_grammar` — what a line of each form is read as.
-/

namespace LoadingCheck

open Json (Characters Decoder Denotes DenotesMembers Named Outline valuesOf without)
open Json.Outline (ofJson)

namespace Event

/-- The members of an object describe an event: the tag and each member of the event come once, with the right
values. -/
def DescribedBy (e : Event) (members : List (String × Json)) : Prop :=
  match e with
  | .console kind text =>
    valuesOf "event" members = [.string "console"] ∧ valuesOf "kind" members = [.string kind] ∧
      valuesOf "text" members = [.string text]
  | .step index name =>
    valuesOf "event" members = [.string "step"] ∧
      (index < 2 ^ 64 ∧ valuesOf "index" members = [.number (.integer index)]) ∧
        valuesOf "name" members = [.string name]
  | .failed error =>
    valuesOf "event" members = [.string "failed"] ∧ valuesOf "error" members = [.string error]
  | .screenshot path =>
    valuesOf "event" members = [.string "screenshot"] ∧
      ∃ s, path = .ofString s ∧ valuesOf "path" members = [.string s]
  | .closed => valuesOf "event" members = [.string "closed"]

/-! ### The members of each kind -/

section

variable {members : List (String × Json)} {source : Json.Source} {name : String}

/-- The only member of a name is a string. -/
lemma only_string {s : String} :
    (∃ v, valuesOf name members = [v] ∧ Decoder.string source (ofJson v) = .ok s) ↔
      valuesOf name members = [.string s] := by
  unfold Decoder.string
  simp only [Decoder.stringAs_ofJson, exists_eq_right]

/-- The only member of a name is a whole number without a sign. -/
lemma only_word {expected : String} {n : ℕ} :
    (∃ v, valuesOf name members = [v] ∧ Decoder.word expected source (ofJson v) = .ok n) ↔
      valuesOf name members = [.number (.integer n)] := by
  simp only [Decoder.word_ofJson, exists_eq_right]

/-- The only member of a name is the text of a path. -/
lemma only_path {path : Path} :
    (∃ v, valuesOf name members = [v] ∧ Path.decoder source (ofJson v) = .ok path) ↔
      ∃ s, path = .ofString s ∧ valuesOf name members = [.string s] := by
  unfold Path.decoder
  simp only [map_eq_ok, Decoder.stringAs_ofJson]
  constructor
  · rintro ⟨v, only, s, rfl, rfl⟩
    exact ⟨s, rfl, only⟩
  · rintro ⟨s, rfl, only⟩
    exact ⟨_, only, s, rfl, rfl⟩

variable {e : Event}

lemma content_console :
    contentDecoder .console source (ofJson (.object members)) = .ok e ↔
      ∃ kind text, e = .console kind text ∧ valuesOf "kind" members = [.string kind] ∧
        valuesOf "text" members = [.string text] := by
  unfold contentDecoder
  rw [bind_eq_ok]
  constructor
  · rintro ⟨⟨kind, text⟩, read, done⟩
    cases done
    rw [Decoder.pair_object_iff (by decide), only_string, only_string] at read
    exact ⟨kind, text, rfl, read⟩
  · rintro ⟨kind, text, rfl, read⟩
    refine ⟨(kind, text), ?_, rfl⟩
    rw [Decoder.pair_object_iff (by decide), only_string, only_string]
    exact read

lemma content_step :
    contentDecoder .step source (ofJson (.object members)) = .ok e ↔
      ∃ index name, e = .step index name ∧ valuesOf "index" members = [.number (.integer index)] ∧
        valuesOf "name" members = [.string name] := by
  unfold contentDecoder
  rw [bind_eq_ok]
  constructor
  · rintro ⟨⟨index, name⟩, read, done⟩
    cases done
    rw [Decoder.pair_object_iff (by decide), only_word, only_string] at read
    exact ⟨index, name, rfl, read⟩
  · rintro ⟨index, name, rfl, read⟩
    refine ⟨(index, name), ?_, rfl⟩
    rw [Decoder.pair_object_iff (by decide), only_word, only_string]
    exact read

lemma content_failed :
    contentDecoder .failed source (ofJson (.object members)) = .ok e ↔
      ∃ error, e = .failed error ∧ valuesOf "error" members = [.string error] := by
  unfold contentDecoder
  simp only [map_eq_ok, Decoder.single_object_iff, only_string]
  constructor
  · rintro ⟨error, read, rfl⟩
    exact ⟨error, rfl, read⟩
  · rintro ⟨error, rfl, read⟩
    exact ⟨error, read, rfl⟩

lemma content_screenshot :
    contentDecoder .screenshot source (ofJson (.object members)) = .ok e ↔
      ∃ path, e = .screenshot path ∧ ∃ s, path = .ofString s ∧ valuesOf "path" members = [.string s] := by
  unfold contentDecoder
  simp only [map_eq_ok, Decoder.single_object_iff, only_path]
  constructor
  · rintro ⟨path, read, rfl⟩
    exact ⟨path, rfl, read⟩
  · rintro ⟨path, rfl, read⟩
    exact ⟨path, read, rfl⟩

lemma content_closed :
    contentDecoder .closed source (ofJson (.object members)) = .ok e ↔ e = .closed := by
  rw [ofJson]
  constructor
  · intro h
    cases h
    rfl
  · rintro rfl
    rfl

end

/-- The name of a kind. -/
def Kind.name : Kind → String
  | .console => "console"
  | .step => "step"
  | .failed => "failed"
  | .screenshot => "screenshot"
  | .closed => "closed"

lemma lookup_kinds {s : String} {kind : Kind} : kinds.lookup s = some kind ↔ s = kind.name := by
  constructor
  · intro h
    obtain ⟨before, behind, split, _⟩ := List.lookup_eq_some_iff.mp h
    have mem : (s, kind) ∈ kinds := by
      rw [split]
      simp
    simp only [kinds, List.mem_cons, Prod.mk.injEq, List.not_mem_nil, or_false] at mem
    rcases mem with ⟨rfl, rfl⟩ | ⟨rfl, rfl⟩ | ⟨rfl, rfl⟩ | ⟨rfl, rfl⟩ | ⟨rfl, rfl⟩ <;> rfl
  · rintro rfl
    cases kind <;> rfl

/-! ### Whole events -/

variable {members : List (String × Json)} {e : Event}

/-- An object is decoded by the decoder of the kind that its only tag names. -/
lemma decoder_parts (fits : Json.depth (.object members) ≤ 127) :
    decoder (.text 127) (ofJson (.object members)) = .ok e ↔
      ∃ kind : Kind, valuesOf "event" members = [.string kind.name] ∧
        contentDecoder kind .kept (ofJson (.object (without "event" members))) = .ok e := by
  have room : (Json.Source.text 127).HasRoom (Json.depthMembers members + 1) := by
    rwa [Json.depth] at fits
  unfold decoder
  rw [bind_eq_ok]
  constructor
  · rintro ⟨⟨kind, content⟩, read, done⟩
    obtain ⟨⟨s, tag, choice⟩, rest⟩ := (Decoder.tagged_object_iff room).mp read
    dsimp only at choice rest done
    rw [lookup_kinds.mp choice] at tag
    rw [rest] at done
    exact ⟨kind, tag, done⟩
  · rintro ⟨kind, tag, done⟩
    refine ⟨⟨kind, ofJson (.object (without "event" members))⟩, ?_, done⟩
    exact (Decoder.tagged_object_iff room).mpr ⟨⟨_, tag, lookup_kinds.mpr rfl⟩, rfl⟩

/-- The place of a step in a text has 64 bits. -/
lemma lt_of_valuesOf {name : String} {n : ℕ} (small : (ofJson (.object members)).Small)
    (only : valuesOf name members = [.number (.integer n)]) : n < 2 ^ 64 := by
  have mem : Json.number (.integer n) ∈ valuesOf name members := by
    rw [only]
    exact List.mem_singleton_self _
  have bound := Json.small_of_mem small (Json.mem_valuesOf.mp mem)
  rw [ofJson, Outline.Small, Json.maxSignificand] at bound
  omega

/-- An object is decoded to the event that its members describe. -/
lemma decoder_object_iff (fits : Json.depth (.object members) ≤ 127)
    (small : (ofJson (.object members)).Small) :
    decoder (.text 127) (ofJson (.object members)) = .ok e ↔ e.DescribedBy members := by
  have others : ∀ name, name ≠ "event" → valuesOf name (without "event" members) = valuesOf name members :=
    fun name different => Json.valuesOf_without different
  rw [decoder_parts fits]
  constructor
  · rintro ⟨kind, tag, content⟩
    cases kind with
    | console =>
      rw [content_console, others _ (by decide), others _ (by decide)] at content
      obtain ⟨kind, text, rfl, fields⟩ := content
      exact ⟨tag, fields⟩
    | step =>
      rw [content_step, others _ (by decide), others _ (by decide)] at content
      obtain ⟨index, name, rfl, place, named⟩ := content
      exact ⟨tag, ⟨lt_of_valuesOf small place, place⟩, named⟩
    | failed =>
      rw [content_failed, others _ (by decide)] at content
      obtain ⟨error, rfl, field⟩ := content
      exact ⟨tag, field⟩
    | screenshot =>
      rw [content_screenshot, others _ (by decide)] at content
      obtain ⟨path, rfl, field⟩ := content
      exact ⟨tag, field⟩
    | closed =>
      rw [content_closed.mp content]
      exact tag
  · intro described
    cases e with
    | console kind text =>
      refine ⟨.console, described.1, content_console.mpr ⟨kind, text, rfl, ?_⟩⟩
      rw [others _ (by decide), others _ (by decide)]
      exact described.2
    | step index name =>
      refine ⟨.step, described.1, content_step.mpr ⟨index, name, rfl, ?_⟩⟩
      rw [others _ (by decide), others _ (by decide)]
      exact ⟨described.2.1.2, described.2.2⟩
    | failed error =>
      refine ⟨.failed, described.1, content_failed.mpr ⟨error, rfl, ?_⟩⟩
      rw [others _ (by decide)]
      exact described.2
    | screenshot path =>
      refine ⟨.screenshot, described.1, content_screenshot.mpr ⟨path, rfl, ?_⟩⟩
      rw [others _ (by decide)]
      exact described.2
    | closed => exact ⟨.closed, described, content_closed.mpr rfl⟩

/-- A trimmed line that stands for an object starts with its brace. -/
lemma head?_of_denotes {line : List Char} (h : Denotes (Text.trim line) (.object members)) :
    (Text.trim line).head? = some '\x7b' := by
  obtain ⟨gap, inner, space, split⟩ := h.start_object members rfl
  cases gap with
  | nil =>
    rw [split]
    rfl
  | cons c gap =>
    -- white space in front of the brace would have been trimmed
    have first : (Text.trim line).head? = some c := by
      rw [split]
      rfl
    have blank := isBlank_of_isSpace (space c List.mem_cons_self)
    rw [Text.isBlank_of_head?_trim first] at blank
    cases blank

lemma ofLine?_eq_decodeText {line : List Char} (brace : (Text.trim line).head? = some '\x7b') :
    ofLine? line = some e ↔ Json.decodeText decoder (Text.trim line) = .ok e := by
  rw [ofLine?, if_pos brace]
  cases Json.decodeText decoder (Text.trim line) <;> simp [Except.toOption]

/-- A line that stands for an object is read as the event that the members describe. -/
lemma ofLine?_of_denotes {line : List Char} (h : Denotes (Text.trim line) (.object members))
    (fits : Json.depth (.object members) ≤ 127) : ofLine? line = some e ↔ e.DescribedBy members := by
  have text := Outline.ofText_eq_iff.mpr h
  have small : (ofJson (.object members)).Small := by
    have whole := Outline.small_ofText (Text.trim line)
    rwa [text] at whole
  rw [ofLine?_eq_decodeText (head?_of_denotes h), ← decoder_object_iff fits small, Json.decodeText, text]
  dsimp only
  rw [bind_eq_ok]
  constructor
  · rintro ⟨e', read, done⟩
    cases done
    exact read
  · intro read
    exact ⟨e, read, rfl⟩

/-- What starts with a brace is an object, whatever is wrong with it. -/
lemma exists_object_of_head? {s : List Char} (brace : s.head? = some '\x7b') :
    ∃ members stop, (Outline.ofText s).1 = .object members stop := by
  obtain ⟨inner, rfl⟩ := List.head?_eq_some_iff.mp brace
  obtain ⟨members, stop, object⟩ := Outline.exists_object_of_brace
    (2 * ('\x7b' :: inner).length + 1) (s := '\x7b' :: inner) rfl
  refine ⟨members, stop, ?_⟩
  rw [← object, Outline.ofText]
  rcases Outline.valueAt (2 * ('\x7b' :: inner).length + 2) ('\x7b' :: inner) with ⟨o, _ | rest⟩ <;> rfl

/-- A line of an event stands for an object that is not nested too deeply. -/
lemma exists_denotes {line : List Char} (h : ofLine? line = some e) :
    ∃ members, Denotes (Text.trim line) (.object members) ∧ Json.depth (.object members) ≤ 127 := by
  have brace := head?_of_ofLine? h
  obtain ⟨outlines, stop, object⟩ := exists_object_of_head? brace
  have decoded := (ofLine?_eq_decodeText brace).mp h
  rcases text : Outline.ofText (Text.trim line) with ⟨o, more⟩
  rw [text] at object
  rw [Json.decodeText, text, bind_eq_ok] at decoded
  obtain ⟨e', read, done⟩ := decoded
  split_ifs at done with left
  rw [Bool.not_eq_true] at left
  dsimp only at object
  rw [object, decoder, bind_eq_ok] at read
  obtain ⟨t, tagged, _⟩ := read
  -- the record is read as a whole, so its outline is that of a value
  obtain ⟨v, whole⟩ := Decoder.read_of_tagged tagged
  obtain ⟨outline, fits⟩ := Outline.read_eq_ok_iff.mp whole
  obtain ⟨members, rfl, _⟩ := Outline.ofJson_eq_object outline.symm
  rw [object, outline, left] at text
  exact ⟨members, Outline.ofText_eq_iff.mp text, fits⟩

/-- **The lines of an event** are those that stand for an object, whose members describe it, with blanks around
the object. -/
theorem ofLine?_eq_some_iff {line : List Char} :
    ofLine? line = some e ↔
      ∃ members, Denotes (Text.trim line) (.object members) ∧ Json.depth (.object members) ≤ 127 ∧
        e.DescribedBy members := by
  constructor
  · intro h
    obtain ⟨members, denotes, fits⟩ := exists_denotes h
    exact ⟨members, denotes, fits, (ofLine?_of_denotes denotes fits).mp h⟩
  · rintro ⟨members, denotes, fits, described⟩
    exact (ofLine?_of_denotes denotes fits).mpr described

/-- **Which lines are events, and which ones they are.** A line whose text, without the blanks around it, is an
object is the event that the members of the object describe, and no event if they describe none. Every other
line is no event; a text in which more than 127 arrays and objects stand inside each other counts as none. -/
theorem ofLine?_grammar (line : List Char) :
    (∀ members, Denotes (Text.trim line) (.object members) → Json.depth (.object members) ≤ 127 →
        ∀ e, ofLine? line = some e ↔ e.DescribedBy members) ∧
      ((¬ ∃ members, Denotes (Text.trim line) (.object members) ∧ Json.depth (.object members) ≤ 127) →
        ofLine? line = none) := by
  refine ⟨fun members denotes fits e => ofLine?_of_denotes denotes fits, fun nothing => ?_⟩
  cases event : ofLine? line with
  | none => rfl
  | some e => exact absurd (exists_denotes event) nothing

/-- The members of a step, among others. -/
def mixedMembers : List (String × Json) :=
  [("index", .number (.integer 18446744073709551615)), ("x", .array [.null]), ("name", .string "😀"),
    ("x", .null), ("event", .string "step")]

/-- A line with these members. Blanks stand around the object and in it, a name and a character are escaped,
another member comes twice, and the tag comes last. -/
def mixedLine : List Char :=
  ("\u3000\x7b\"index\":18446744073709551615,\"x\":[null],\"n\\u0061me\" :\"\\uD83D\\uDE00\"," ++
    "\"x\":null,\"event\":\"step\"\x7d\r").toList

lemma denotes_mixedLine : Denotes (Text.trim mixedLine) (.object mixedMembers) := by
  have letter : Json.IsUnit ['\\', 'u', '0', '0', '6', '1'] 0x61 := ⟨_, _, _, _, rfl, rfl⟩
  have high : Json.IsUnit ['\\', 'u', 'D', '8', '3', 'D'] 0xD83D := ⟨_, _, _, _, rfl, rfl⟩
  have low : Json.IsUnit ['\\', 'u', 'D', 'E', '0', '0'] 0xDE00 := ⟨_, _, _, _, rfl, rfl⟩
  have escaped : Named ('"' :: ('n' :: (['\\', 'u', '0', '0', '6', '1'] ++ ['m', 'e']) ++ ['"', ' '])) "name" := by
    refine ⟨[], _, [' '], Json.space_nil, ?_, List.forall_mem_singleton.mpr rfl, rfl⟩
    exact .plain (by decide) (by decide) (by decide) (.unit letter rfl rfl (.of_plain (by decide)))
  have pair : Characters (['\\', 'u', 'D', '8', '3', 'D'] ++ (['\\', 'u', 'D', 'E', '0', '0'] ++ [])) "😀".toList := by
    have both : "😀".toList = [Char.ofNat (0x10000 + (0xD83D - 0xD800) * 0x400 + (0xDE00 - 0xDC00))] := rfl
    rw [both]
    exact .pair high rfl low rfl .nil
  -- from the last member to the first
  have tag := DenotesMembers.last (.of_plain "event" (by decide))
    (Denotes.string (s := "step") (Characters.of_plain (by decide)))
  have again := DenotesMembers.more (.of_plain "x" (by decide)) Denotes.null tag
  have name := DenotesMembers.more escaped (Denotes.string pair) again
  have first := DenotesMembers.more (.of_plain "x" (by decide)) (.array (.last .null)) name
  have index := DenotesMembers.more (.of_plain "index" (by decide))
    (.number (.natural (n := 18446744073709551615) (by decide))) first
  refine Eq.subst (motive := fun s => Denotes s (.object mixedMembers)) ?_ (Denotes.object index)
  decide +kernel

/-- The line is a step, and an array is no event. -/
theorem ofLine?_mixedLine :
    Denotes (Text.trim mixedLine) (.object mixedMembers) ∧
      ofLine? mixedLine = some (.step 18446744073709551615 "😀") ∧ ofLine? ['[', ']'] = none := by
  have fits : Json.depth (.object mixedMembers) ≤ 127 := by
    simp [mixedMembers, Json.depth, Json.depthMembers, Json.depthItems]
  have described : (Event.step 18446744073709551615 "😀").DescribedBy mixedMembers :=
    ⟨rfl, ⟨by decide, rfl⟩, rfl⟩
  refine ⟨denotes_mixedLine, ?_, ?_⟩
  · exact ((ofLine?_grammar mixedLine).1 mixedMembers denotes_mixedLine fits _).mpr described
  · apply (ofLine?_grammar ['[', ']']).2
    rintro ⟨members, denotes, _⟩
    obtain ⟨gap, inner, _, split⟩ := denotes.start_object members rfl
    have brace : '\x7b' ∈ Text.trim ['[', ']'] := by
      rw [split]
      simp
    exact absurd brace (by decide)

end Event

end LoadingCheck
