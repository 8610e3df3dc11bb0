import LoadingCheck.Event.Stream
import LoadingCheck.Proofs.Json.Decode
import LoadingCheck.Proofs.Json.Text
import LoadingCheck.Proofs.Path.Codec
import LoadingCheck.Proofs.Text.Blank
import Mathlib.Algebra.Group.Nat.Defs

set_option relaxedAutoImplicit false
set_option autoImplicit false

/-!
# Events are read back

An event that is written as the compact text of its value is read back from that line: the text starts
with a brace, it has no line end in it, and its members are the ones that the decoder asks for.

## Main definitions

* `LoadingCheck.Event.Sendable` — the place of a step has 64 bits, and the path of a screenshot is text.
* `LoadingCheck.Event.line` — the line of an event, as characters.

## Main results

* `LoadingCheck.Event.exists_toJson` — a sendable event is written as a value that is decoded as the event.
* `LoadingCheck.Event.ofLine?_line` — a line is read back as its event.
-/

namespace LoadingCheck

open Json (Decoder Outline)

namespace Event

/-- The place of a step has 64 bits, and the path of a screenshot is text. -/
def Sendable : Event → Prop
  | .step index _ => index < 2 ^ 64
  | .screenshot path => path.IsText
  | _ => True

/-- The line of an event; nothing for an event that cannot be written. -/
def line (e : Event) : List Char :=
  match e.toJson with
  | .ok v => v.compact.toList
  | .error _ => []

/-- A value with the tag of an event in front is decoded by the decoder of its kind. -/
lemma decoder_ofJson {name : String} (kind : Kind) {members : List (String × Json)} {e : Event}
    (choice : kinds.lookup name = some kind) (names : ∀ m ∈ members, m.1 ≠ "event")
    (fits : Json.depthMembers members ≤ 126)
    (content : contentDecoder kind .kept (Outline.ofJson (.object members)) = .ok e) :
    decoder (.text 127) (Outline.ofJson (.object (("event", .string name) :: members))) = .ok e := by
  rw [decoder, Decoder.tagged_ofJson choice names fits]
  exact content

/-- A sendable event has a value, and the decoder takes the outline of that value for the event. -/
lemma exists_toJson {e : Event} (h : e.Sendable) :
    ∃ members, e.toJson = .ok (.object members) ∧ Json.Words (.object members) ∧
      decoder (.text 127) (Outline.ofJson (.object members)) = .ok e := by
  cases e with
  | console kind text =>
    refine ⟨_, rfl, by simp [Json.Words, Json.WordsMembers], ?_⟩
    refine decoder_ofJson .console rfl (by simp) (by simp [Json.depthMembers, Json.depth]) ?_
    simp only [contentDecoder, Outline.ofJson, Outline.ofMembers]
    rw [Decoder.pair_object (by decide) (Decoder.string_string .kept kind) (Decoder.string_string .kept text)]
    rfl
  | step index name =>
    have word : (index : Int) ≤ Json.maxSignificand := by
      have small : index < 2 ^ 64 := h
      rw [Json.maxSignificand]
      omega
    refine ⟨_, rfl, by simp [Json.Words, Json.WordsMembers, Json.ofNat, word], ?_⟩
    refine decoder_ofJson .step rfl (by simp)
      (by simp [Json.depthMembers, Json.depth, Json.ofNat]) ?_
    simp only [contentDecoder, Outline.ofJson, Outline.ofMembers, Json.ofNat]
    rw [Decoder.pair_object (by decide) (Decoder.word_integer "usize" .kept index)
      (Decoder.string_string .kept name)]
    rfl
  | failed error =>
    refine ⟨_, rfl, by simp [Json.Words, Json.WordsMembers], ?_⟩
    refine decoder_ofJson .failed rfl (by simp) (by simp [Json.depthMembers, Json.depth]) ?_
    simp only [contentDecoder, Outline.ofJson, Outline.ofMembers]
    rw [Decoder.single_object (Decoder.string_string .kept error)]
    rfl
  | screenshot path =>
    obtain ⟨s, rfl⟩ := h
    refine ⟨[("event", .string "screenshot"), ("path", .string s)], ?_,
      by simp [Json.Words, Json.WordsMembers], ?_⟩
    · rw [toJson, Path.toJson_ofString]
      rfl
    refine decoder_ofJson .screenshot rfl (by simp)
      (by simp [Json.depthMembers, Json.depth]) ?_
    simp only [contentDecoder, Outline.ofJson, Outline.ofMembers]
    rw [Decoder.single_object (Path.decoder_string .kept s)]
    rfl
  | closed =>
    refine ⟨_, rfl, by simp [Json.Words, Json.WordsMembers], ?_⟩
    exact decoder_ofJson .closed rfl (by simp) (by simp [Json.depthMembers]) rfl

/-- The line of a sendable event: one line in braces, which is read back as the event. -/
theorem ofLine?_line {e : Event} (h : e.Sendable) :
    ∃ inner, e.line = '\x7b' :: (inner ++ ['\x7d']) ∧ (∀ c ∈ e.line, 0x20 ≤ c.toNat) ∧
      ofLine? e.line = some e := by
  obtain ⟨members, value, words, decoded⟩ := exists_toJson h
  have text : e.line = (Json.compact (.object members)).toList := by
    rw [line, value]
  have shape := text.trans (Json.toList_object members)
  refine ⟨_, shape, text ▸ Json.compact_visible _ words, ?_⟩
  have trimmed : Text.trim e.line = e.line := by
    rw [shape]
    exact Text.trim_of_ends (by decide) (by decide) _
  have read : Json.decodeText decoder e.line = .ok e := by
    rw [Json.decodeText, text, Outline.ofText_compact words]
    simp only [bind, Except.bind, Json.maxNesting, decoded]
    rfl
  rw [ofLine?, trimmed, read, shape]
  rfl

end Event

end LoadingCheck
