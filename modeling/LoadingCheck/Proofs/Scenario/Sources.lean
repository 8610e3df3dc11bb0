import LoadingCheck.Proofs.Json.Agreement
import LoadingCheck.Scenario.Codec

set_option relaxedAutoImplicit false
set_option autoImplicit false

/-!
# Scenarios from texts and from values

A scenario can be decoded while its text is read, or from a value that is already there. Both ways lead to the
same scenario, or to none, and the members of objects may stand in any order. The same holds of everything that
a scenario is made of.

## Main definitions

* `LoadingCheck.Json.Decoder.Agrees` — what is decoded from a text and from a value is the same.

## Main results

* `LoadingCheck.Scenario.steady_decoder`, `LoadingCheck.Step.steady_decoder` and the same for the other types.
* `LoadingCheck.Scenario.sources_agree` — both ways lead to the same.
-/

namespace LoadingCheck

open Json (Decoder RecordForm)

/-- What is decoded from the text is decoded from the value, and the other way round. -/
def Json.Decoder.Agrees {α : Type} (decode : Decoder α) (text : List Char) (v : Json) : Prop :=
  ∀ a, decodeText decode text = .ok a ↔ decodeValue decode v = .ok a

/-! ### Targets, patterns and paths -/

lemma Target.steady_decoder : decoder.Steady :=
  (Decoder.steady_pair _ _ _ Decoder.steady_string Decoder.steady_string).bind _

lemma ClassPattern.steady_decoder : decoder.Steady :=
  Decoder.steady_string.bind _

lemma Path.steady_decoder : decoder.Steady :=
  (Decoder.steady_stringAs _).map _

/-! ### Bridges -/

lemma InjectionPoint.steady_decoder : decoder.Steady :=
  Decoder.steady_choice names

namespace Bridge

lemma Response.steady_form : form.Steady := by
  intro source source' v w related alike name known draft draft'
  exact (Decoder.steady_string.bind _).iff related alike

lemma Response.unordered_form : form.Unordered := by
  intro source name known name' known' different v v' draft between draft' put put'
  obtain ⟨s, text, done⟩ := bind_eq_ok.mp put
  obtain ⟨s', text', done'⟩ := bind_eq_ok.mp put'
  simp only [form, List.mem_cons, List.not_mem_nil, or_false] at known known'
  rcases known with rfl | rfl | rfl | rfl <;> rcases known' with rfl | rfl | rfl | rfl
  any_goals exact absurd rfl different
  all_goals
    cases done
    cases done'
    exact ⟨_, bind_eq_ok.mpr ⟨s', text', rfl⟩, bind_eq_ok.mpr ⟨s, text, rfl⟩⟩

lemma Response.steady_decoder : decoder.Steady :=
  (RecordForm.steady_decode steady_form unordered_form {}).bind _

lemma steady_delay : delayDecoder.Steady :=
  (Decoder.steady_word _).map _

lemma steady_decoder : decoder.Steady :=
  (Decoder.steady_pair _ _ _ Response.steady_decoder steady_delay).bind _

end Bridge

/-! ### Steps -/

namespace Step

lemma steady_content (kind : Kind) : (contentDecoder kind).Steady := by
  cases kind with
  | installBridge => exact (Decoder.steady_pair _ _ _ Bridge.steady_decoder InjectionPoint.steady_decoder).bind _
  | navigate => exact (Decoder.steady_single _ _ Decoder.steady_string).map _
  | click => exact (Decoder.steady_single _ _ Target.steady_decoder).map _
  | settle => exact (Decoder.steady_single _ _ (Decoder.steady_word _)).map _
  | assertClass => exact (Decoder.steady_pair _ _ _ Target.steady_decoder ClassPattern.steady_decoder).bind _

lemma steady_decoder : decoder.Steady :=
  Decoder.steady_tagged _ _ _ steady_content

end Step

/-! ### Screenshots and scenarios -/

namespace Screenshot

lemma steady_form : form.Steady := by
  intro source source' v w related alike name known draft draft'
  simp only [form]
  split_ifs
  · exact (Path.steady_decoder.map _).iff related alike
  · exact (Decoder.steady_boolean.map _).iff related alike

lemma unordered_form : form.Unordered := by
  intro source name known name' known' different v v' draft between draft' put put'
  simp only [form, List.mem_cons, List.not_mem_nil, or_false] at known known'
  rcases known with rfl | rfl <;> rcases known' with rfl | rfl
  any_goals exact absurd rfl different
  all_goals
    obtain ⟨a, decoded, rfl⟩ := map_eq_ok.mp put
    obtain ⟨b, decoded', rfl⟩ := map_eq_ok.mp put'
    exact ⟨_, map_eq_ok.mpr ⟨b, decoded', rfl⟩, map_eq_ok.mpr ⟨a, decoded, rfl⟩⟩

lemma steady_decoder : decoder.Steady :=
  (RecordForm.steady_decode steady_form unordered_form (none, none)).bind _

end Screenshot

namespace Scenario

lemma steady_form : form.Steady := by
  intro source source' v w related alike name known draft draft'
  simp only [form]
  split
  · exact (Decoder.steady_string.bind _).iff related alike
  · exact ((Decoder.steady_list Step.steady_decoder).bind _).iff related alike
  · exact (Screenshot.steady_decoder.bind _).iff related alike

lemma unordered_form : form.Unordered := by
  intro source name known name' known' different v v' draft between draft' put put'
  simp only [form, List.mem_cons, List.not_mem_nil, or_false] at known known'
  rcases known with rfl | rfl | rfl <;> rcases known' with rfl | rfl | rfl
  any_goals exact absurd rfl different
  all_goals
    obtain ⟨a, decoded, ⟨⟩⟩ := bind_eq_ok.mp put
    obtain ⟨b, decoded', ⟨⟩⟩ := bind_eq_ok.mp put'
    exact ⟨_, bind_eq_ok.mpr ⟨b, decoded', rfl⟩, bind_eq_ok.mpr ⟨a, decoded, rfl⟩⟩

lemma steady_decoder : decoder.Steady :=
  (RecordForm.steady_decode steady_form unordered_form {}).bind _

/-- **Texts and values agree.** Let no object of a value have two members of one name, let arrays and objects not
stand too deep inside each other, and let a text stand for the value up to the order of members. Then a scenario is
decoded from the text exactly if the same one is decoded from the value, and likewise everything that a scenario is
made of.

**Proof sketch.** Each decoder is put together from combinators that keep steadiness. In a record the members that it
has are put into a draft in any order; the tag of a step is taken from wherever it comes, and the decoder of its kind
gets the other members, from both sources as a value that was read as a whole. -/
theorem sources_agree {v w : Json} {text : List Char} (different : v.DistinctNames) (fits : v.depth ≤ Json.maxNesting)
    (related : v.Rearranged w) (written : Json.Denotes text w) :
    decoder.Agrees text v ∧ Step.decoder.Agrees text v ∧ Target.decoder.Agrees text v ∧
      Screenshot.decoder.Agrees text v ∧ Bridge.decoder.Agrees text v ∧ Bridge.Response.decoder.Agrees text v ∧
      InjectionPoint.decoder.Agrees text v ∧ ClassPattern.decoder.Agrees text v := by
  have agrees : ∀ {α : Type} {decode : Decoder α}, decode.Steady → decode.Agrees text v :=
    fun steady _ => steady.decodeText_iff different fits related written
  exact ⟨agrees steady_decoder, agrees Step.steady_decoder, agrees Target.steady_decoder,
    agrees Screenshot.steady_decoder, agrees Bridge.steady_decoder, agrees Bridge.Response.steady_decoder,
    agrees InjectionPoint.steady_decoder, agrees ClassPattern.steady_decoder⟩

/-- A scenario with one step, parts of which are written as arrays. -/
def visitValue : Json :=
  .object
    [("name", .string "visit"),
      ("steps", .array [.object
        [("bridge", .object
            [("response", .array [.string "a", .string "b", .string "c", .string "d"]), ("delay", .ofNat 5)]),
          ("action", .string "install_bridge"), ("note", .array [.null]),
          ("point", .object [("after_load", .object [])])]]),
      ("screenshot", .array [.string "/shot.png"])]

/-- The same with the members of the scenario and of its step the other way round. -/
def visitTurned : Json :=
  .object
    [("screenshot", .array [.string "/shot.png"]),
      ("steps", .array [.object
        [("point", .object [("after_load", .object [])]), ("note", .array [.null]),
          ("action", .string "install_bridge"),
          ("bridge", .object
            [("response", .array [.string "a", .string "b", .string "c", .string "d"]), ("delay", .ofNat 5)])]]),
      ("name", .string "visit")]

/-- The tag of the step is between its other members, and both ways lead to the scenario. -/
theorem sources_agree_visit :
    visitValue.DistinctNames ∧ visitValue.depth ≤ Json.maxNesting ∧ visitValue.Rearranged visitTurned ∧
      Json.Denotes ('\n' :: (visitTurned.compact.toList ++ [' '])) visitTurned ∧
      Json.decodeText decoder ('\n' :: (visitTurned.compact.toList ++ [' '])) =
        .ok ⟨"visit", [.installBridge ⟨⟨"a", "b", "c", "d"⟩, .ofMillis 5⟩ .afterLoad],
          ⟨.ofString "/shot.png", false⟩⟩ := by
  have different : visitValue.DistinctNames := by
    simp [visitValue, Json.DistinctNames, Json.DistinctNamesItems, Json.DistinctNamesMembers, Json.ofNat]
  have fits : visitValue.depth ≤ Json.maxNesting := by decide
  have words : Json.Words visitTurned := by
    simp [visitTurned, Json.Words, Json.WordsItems, Json.WordsMembers, Json.ofNat, Json.maxSignificand]
  have written : Json.Denotes ('\n' :: (visitTurned.compact.toList ++ [' '])) visitTurned :=
    .space_before (by decide) (.space_behind (Json.Outline.ofText_eq_iff.mp (Json.Outline.ofText_compact words))
      (by decide))
  have related : visitValue.Rearranged visitTurned :=
    .object (.cons (.refl _) (.cons (.array (.cons (.object (.refl _) (List.reverse_perm _).symm) .nil))
      (.cons (.refl _) .nil))) (List.reverse_perm _).symm
  refine ⟨different, fits, related, written, ?_⟩
  exact ((sources_agree different fits related written).1 _).mpr (by rfl)

end Scenario

end LoadingCheck
