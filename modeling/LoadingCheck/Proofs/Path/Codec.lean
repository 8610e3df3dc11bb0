import LoadingCheck.Proofs.Text.Utf8
import LoadingCheck.Scenario.Codec

set_option relaxedAutoImplicit false
set_option autoImplicit false

/-!
# Paths and their texts

A path has a text exactly if it is the path of a text, and then it can be written and read back.

## Main definitions

* `LoadingCheck.Path.IsText` — the path of a text.

## Main results

* `LoadingCheck.Path.text?_eq_some_iff` — the paths that have a text.
* `LoadingCheck.Path.toJson_eq_ok_iff` — the paths that can be written.
* `LoadingCheck.Path.IsText.absolute` — the absolute path of a path that has a text.
-/

namespace LoadingCheck.Path

/-- A path that is the path of a text. -/
def IsText (p : Path) : Prop :=
  ∃ s, p = ofString s

/-- A path has a text exactly if it is the path of that text. -/
theorem text?_eq_some_iff {p : Path} {s : String} : p.text? = some s ↔ p = ofString s := by
  obtain ⟨bytes⟩ := p
  rw [text?, Option.map_eq_some_iff, ofString]
  constructor
  · rintro ⟨cs, decoded, rfl⟩
    rw [String.toList_ofList, ← Utf8.decode?_eq_some_iff.mp decoded]
  · intro h
    refine ⟨s.toList, ?_, String.ofList_toList⟩
    rw [Path.mk.inj h, Utf8.decode?_encode]

@[simp]
lemma text?_ofString (s : String) : (ofString s).text? = some s :=
  text?_eq_some_iff.mpr rfl

@[simp]
lemma toJson_ofString (s : String) : (ofString s).toJson = .ok (.string s) := by
  rw [toJson, text?_ofString]

/-- The paths that can be written, and what is written. -/
theorem toJson_eq_ok_iff {p : Path} {v : Json} :
    p.toJson = .ok v ↔ ∃ s, p = ofString s ∧ v = .string s := by
  constructor
  · intro h
    rw [toJson] at h
    cases text : p.text? with
    | none =>
      rw [text] at h
      cases h
    | some s =>
      rw [text] at h
      exact ⟨s, text?_eq_some_iff.mp text, (Except.ok.inj h).symm⟩
  · rintro ⟨s, rfl, rfl⟩
    exact toJson_ofString s

/-- A text is decoded as its path. -/
lemma decoder_string (source : Json.Source) (s : String) :
    decoder source (.string s) = .ok (ofString s) := rfl

/-! ### Paths seen from a directory -/

lemma bytes_ofString_append (s t : String) :
    (ofString (s ++ t)).bytes = (ofString s).bytes ++ (ofString t).bytes := by
  rw [ofString, String.toList_append]
  exact List.flatMap_append

/-- Seen from a directory whose path is a text, a path that is a text is one. -/
lemma IsText.join {base p : Path} (h : base.IsText) (text : p.IsText) : (base.join p).IsText := by
  obtain ⟨b, rfl⟩ := h
  obtain ⟨s, rfl⟩ := text
  rw [Path.join]
  split_ifs
  · exact ⟨s, rfl⟩
  · exact ⟨b ++ s, congrArg Path.mk (bytes_ofString_append b s).symm⟩
  · have slashed : (ofString ("/" ++ s)).bytes = slash :: (ofString s).bytes := bytes_ofString_append "/" s
    refine ⟨b ++ ("/" ++ s), ?_⟩
    rw [← slashed, ← bytes_ofString_append]

/-- A path that is a text stays one when it is made absolute, unless it depends on a current directory whose path
is none. -/
lemma IsText.absolute {cwd : Option Path} {p : Path} (text : p.IsText)
    (h : p.isAbsolute = true ∨ ∀ base ∈ cwd, base.IsText) : (p.absolute cwd).IsText := by
  cases cwd with
  | none => exact text
  | some base =>
    change (base.join p).IsText
    rcases h with independent | base_text
    · rwa [Path.join, if_pos independent]
    · exact (base_text base rfl).join text

end LoadingCheck.Path
