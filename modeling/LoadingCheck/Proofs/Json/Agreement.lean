import LoadingCheck.Proofs.Json.Arrangement

set_option relaxedAutoImplicit false
set_option autoImplicit false

/-!
# Decoders that agree on all sources

Most decoders make the same of a value wherever it comes from, and in whatever order the members of its objects
stand. The combinators keep this property, so it is shown once for each of them and then holds of what they are
put together to.

## Main definitions

* `LoadingCheck.Json.Source.Alike` — two sources with room for a value, both or neither of which keep it.
* `LoadingCheck.Json.Decoder.Steady` — neither the source nor the order of members matters.
* `LoadingCheck.Json.RecordForm.Steady`, `LoadingCheck.Json.RecordForm.Unordered` — the same for the members of
  a record.

## Main results

* `LoadingCheck.Json.RecordForm.steady_decode` — records.
* `LoadingCheck.Json.Decoder.steady_choice`, `LoadingCheck.Json.Decoder.steady_list`,
  `LoadingCheck.Json.Decoder.steady_tagged` — named choices, lists and records with a tag.
* `LoadingCheck.Json.Decoder.Steady.decodeText_iff` — a steady decoder makes of a text what it makes of the value.
-/

namespace LoadingCheck.Json

open Outline (ofJson ofItems ofMembers)

/-- Two sources have room for so many arrays and objects inside each other, and values that were read as a whole
first come from both or from none of them. -/
structure Source.Alike (n : ℕ) (source source' : Source) : Prop where
  kept : source = .kept ↔ source' = .kept
  room : source.HasRoom n
  room' : source'.HasRoom n

namespace Source

variable {m n : ℕ} {source source' : Source}

lemma inside_eq_kept : source.inside = .kept ↔ source = .kept := by
  cases source <;> simp [inside]

lemma Alike.mono (h : Alike n source source') (less : m ≤ n) : Alike m source source' :=
  ⟨h.kept, h.room.mono less, h.room'.mono less⟩

lemma Alike.inside (h : Alike (n + 1) source source') : Alike n source.inside source'.inside :=
  ⟨by rw [inside_eq_kept, inside_eq_kept, h.kept], h.room.inside, h.room'.inside⟩

lemma Alike.of_max (h : Alike (max m n) source source') : Alike m source source' ∧ Alike n source source' :=
  ⟨h.mono (Nat.le_max_left m n), h.mono (Nat.le_max_right m n)⟩

lemma alike_kept (n : ℕ) : Alike n .kept .kept :=
  ⟨Iff.rfl, trivial, trivial⟩

end Source

open Source (Alike)

namespace Decoder

variable {α β τ : Type}

/-- A decoder makes the same of values that differ at most in the order of members, wherever they come from. -/
def Steady (decode : Decoder α) : Prop :=
  ∀ (source source' : Source) (v w : Json), Rearranged v w → Alike v.depth source source' →
    ∀ a, decode source (ofJson v) = .ok a ↔ decode source' (ofJson w) = .ok a

lemma Steady.iff {decode : Decoder α} (steady : decode.Steady) {source source' : Source} {v w : Json}
    (related : Rearranged v w) (alike : Alike v.depth source source') {a : α} :
    decode source (ofJson v) = .ok a ↔ decode source' (ofJson w) = .ok a :=
  steady source source' v w related alike a

/-! ### Simple values -/

lemma steady_stringAs (expected : String) : (stringAs expected).Steady := by
  intro source source' v w related _ s
  rw [stringAs_ofJson, stringAs_ofJson, related.eq_string_iff]

lemma steady_string : string.Steady :=
  steady_stringAs _

lemma boolean_ofJson {source : Source} {v : Json} {b : Bool} :
    boolean source (ofJson v) = .ok b ↔ v = .boolean b := by
  cases v <;> simp [ofJson, boolean, mismatch_ne_ok]

lemma steady_boolean : boolean.Steady := by
  intro source source' v w related _ b
  rw [boolean_ofJson, boolean_ofJson, related.eq_boolean_iff]

lemma steady_word (expected : String) : (word expected).Steady := by
  intro source source' v w related _ n
  rw [word_ofJson, word_ofJson, related.eq_number_iff]

/-- What is decoded may be used further. -/
lemma Steady.bind {decode : Decoder α} (steady : decode.Steady) (f : α → Except DecodeError β) :
    Decoder.Steady fun source v => decode source v >>= f := by
  intro source source' v w related alike b
  rw [bind_eq_ok, bind_eq_ok]
  exact exists_congr fun a => and_congr_left fun _ => steady.iff related alike

lemma Steady.map {decode : Decoder α} (steady : decode.Steady) (f : α → β) :
    Decoder.Steady fun source v => f <$> decode source v := by
  intro source source' v w related alike b
  rw [map_eq_ok, map_eq_ok]
  exact exists_congr fun a => and_congr_left fun _ => steady.iff related alike

/-! ### Named choices -/

/-- Behind the name of a choice nothing stands, or an empty object that was read as a whole first. -/
lemma noContent_ofJson {source : Source} {v : Json} :
    noContent source (ofJson v) = .ok () ↔ v = .null ∨ source = .kept ∧ v = .object [] := by
  cases v with
  | null => simp [ofJson, noContent]
  | boolean | number | string | array => simp [ofJson, noContent, mismatch_ne_ok]
  | object members =>
    cases members with
    | nil => cases source <;> simp [ofJson, ofMembers, noContent, mismatch_ne_ok]
    | cons m rest =>
      obtain ⟨name, v⟩ := m
      simp [ofJson, ofMembers, noContent, mismatch_ne_ok]

/-- A choice that is written as an object with its name. -/
lemma choice_object {choices : List (String × α)} {source : Source} {members : List (String × Json)} {a : α} :
    choice choices source (ofJson (.object members)) = .ok a ↔
      ∃ name v, members = [(name, v)] ∧ choose choices name = .ok a ∧
        (v = .null ∨ source = .kept ∧ v = .object []) := by
  have inside : ∀ v, noContent source.inside (ofJson v) = .ok () ↔
      v = .null ∨ source = .kept ∧ v = .object [] := by
    intro v
    rw [noContent_ofJson, Source.inside_eq_kept]
  have one : ∀ name v, choice choices source (ofJson (.object [(name, v)])) = .ok a ↔
      choose choices name = .ok a ∧ noContent source.inside (ofJson v) = .ok () := by
    intro name v
    cases source
    all_goals
      simp only [ofJson, ofMembers, choice, keyName]
      constructor
      · intro h
        obtain ⟨_, ⟨⟩, h⟩ := bind_eq_ok.mp h
        obtain ⟨b, chosen, h⟩ := bind_eq_ok.mp h
        obtain ⟨_, nothing, done⟩ := bind_eq_ok.mp h
        cases done
        exact ⟨chosen, nothing⟩
      · rintro ⟨chosen, nothing⟩
        exact bind_eq_ok.mpr ⟨_, rfl, bind_eq_ok.mpr ⟨a, chosen, bind_eq_ok.mpr ⟨_, nothing, rfl⟩⟩⟩
  constructor
  · intro h
    obtain ⟨name, v, rfl⟩ : ∃ name v, members = [(name, v)] := by
      rcases members with _ | ⟨⟨name, v⟩, _ | ⟨_, _⟩⟩
      · cases source with
        | text room =>
          simp only [ofJson, ofMembers, choice] at h
          obtain ⟨_, _, h⟩ := bind_eq_ok.mp h
          cases h
        | value | kept => simp [ofJson, ofMembers, choice] at h
      · exact ⟨name, v, rfl⟩
      · cases source with
        | text room =>
          simp only [ofJson, ofMembers, choice] at h
          obtain ⟨_, _, h⟩ := bind_eq_ok.mp h
          obtain ⟨_, _, h⟩ := bind_eq_ok.mp h
          obtain ⟨_, _, h⟩ := bind_eq_ok.mp h
          cases h
        | value | kept => simp [ofJson, ofMembers, choice] at h
    obtain ⟨chosen, nothing⟩ := (one name v).mp h
    exact ⟨name, v, rfl, chosen, (inside v).mp nothing⟩
  · rintro ⟨name, v, rfl, chosen, nothing⟩
    exact (one name v).mpr ⟨chosen, (inside v).mpr nothing⟩

lemma steady_choice (choices : List (String × α)) : (choice choices).Steady := by
  intro source source' v w related alike a
  cases related with
  | null | boolean | number | array => cases source <;> cases source' <;> simp [ofJson, choice, mismatch_ne_ok]
  | string s => rw [ofJson, choice, choice]
  | object members order =>
    have related := Rearranged.object members order
    rw [choice_object, choice_object, alike.kept]
    constructor
    · rintro ⟨name, v, rfl, chosen, nothing⟩
      obtain ⟨w, rfl, same⟩ := related.single_left
      rw [same.eq_null_iff, same.eq_empty_iff] at nothing
      exact ⟨name, w, rfl, chosen, nothing⟩
    · rintro ⟨name, w, rfl, chosen, nothing⟩
      obtain ⟨v, rfl, same⟩ := related.single_right
      rw [← same.eq_null_iff, ← same.eq_empty_iff] at nothing
      exact ⟨name, v, rfl, chosen, nothing⟩

/-! ### Lists -/

lemma listItems_iff {decode : Decoder α} (steady : decode.Steady) {source source' : Source}
    {vs ws : List Json} (items : RearrangedItems vs ws) (alike : Alike (depthItems vs) source source')
    {as : List α} :
    listItems (decode source) none (ofItems vs) = .ok as ↔
      listItems (decode source') none (ofItems ws) = .ok as := by
  induction vs generalizing ws as with
  | nil =>
    cases items
    rfl
  | cons v vs ih =>
    cases items with
    | cons value rest =>
      obtain ⟨first, others⟩ := alike.of_max
      simp only [ofItems, listItems, bind_eq_ok, steady.iff value first, ih rest others]

lemma steady_list {decode : Decoder α} (steady : decode.Steady) : (list decode).Steady := by
  intro source source' v w related alike as
  cases related with
  | null | boolean | number | string | object => simp only [ofJson, list, mismatch_ne_ok]
  | array items =>
    rw [ofJson, ofJson, list, list]
    exact listItems_iff steady items alike.inside

end Decoder

/-! ### Records -/

lemma endOfItems_eq_ok {source : Source} {taken : ℕ} {left : List Json} :
    endOfItems source taken (ofItems left) none = .ok () ↔ left = [] := by
  cases left with
  | nil => simp [ofItems, endOfItems, ofFault, Outline.closed]
  | cons v rest => cases source <;> simp [ofItems, endOfItems]

namespace RecordForm

variable {σ : Type} {form : RecordForm σ} {source source' : Source}

/-- The members of a record are decoded without regard to their source and to the order of members in them. -/
def Steady (form : RecordForm σ) : Prop :=
  ∀ (source source' : Source) (v w : Json), Rearranged v w → Alike v.depth source source' →
    ∀ name ∈ form.fields, ∀ draft draft',
      form.put source name (ofJson v) draft = .ok draft' ↔ form.put source' name (ofJson w) draft = .ok draft'

/-- Two members of a record can be put into a draft in either order. -/
def Unordered (form : RecordForm σ) : Prop :=
  ∀ source, ∀ name ∈ form.fields, ∀ name' ∈ form.fields, name ≠ name' → ∀ v v' draft between draft',
    form.put source name v draft = .ok between → form.put source name' v' between = .ok draft' →
      ∃ between', form.put source name' v' draft = .ok between' ∧ form.put source name v between' = .ok draft'

lemma putMembers_iff (steady : form.Steady) {ms ks : List (String × Json)} (members : RearrangedMembers ms ks)
    (alike : Alike (depthMembers ms) source source') {seen : List String} {draft draft' : σ} :
    form.putMembers source none seen (ofMembers ms) draft = .ok draft' ↔
      form.putMembers source' none seen (ofMembers ks) draft = .ok draft' := by
  match members with
  | .nil => rfl
  | .cons value rest =>
    obtain ⟨first, others⟩ := alike.of_max
    rw [putMembers_cons_eq_ok, putMembers_cons_eq_ok]
    refine or_congr ?_ (and_congr_right fun _ => putMembers_iff steady rest others)
    refine and_congr_right fun known => and_congr_right fun _ => exists_congr fun next => ?_
    exact and_congr (steady _ _ _ _ value first _ known _ _) (putMembers_iff steady rest others)

/-- Of the names that were seen the order does not matter. -/
lemma putMembers_seen {ms : List (String × Json)} {seen seen' : List String}
    (same : ∀ name, name ∈ seen ↔ name ∈ seen') {draft draft' : σ}
    (read : form.putMembers source none seen (ofMembers ms) draft = .ok draft') :
    form.putMembers source none seen' (ofMembers ms) draft = .ok draft' := by
  induction ms generalizing seen seen' draft with
  | nil => exact read
  | cons m ms ih =>
    obtain ⟨name, v⟩ := m
    rw [putMembers_cons_eq_ok] at read ⊢
    rcases read with ⟨known, fresh, next, put, rest⟩ | ⟨unknown, rest⟩
    · refine .inl ⟨known, fun old => fresh ((same name).mpr old), next, put, ih (fun n => ?_) rest⟩
      rw [List.mem_cons, List.mem_cons, same]
    · exact .inr ⟨unknown, ih same rest⟩

/-- The order of the members of an object does not matter. -/
lemma putMembers_perm (unordered : form.Unordered) {ms ks : List (String × Json)} (order : ms.Perm ks)
    {seen : List String} {draft draft' : σ}
    (read : form.putMembers source none seen (ofMembers ms) draft = .ok draft') :
    form.putMembers source none seen (ofMembers ks) draft = .ok draft' := by
  induction order generalizing seen draft with
  | nil => exact read
  | cons m _ ih =>
    obtain ⟨name, v⟩ := m
    rw [putMembers_cons_eq_ok] at read ⊢
    rcases read with ⟨known, fresh, next, put, rest⟩ | ⟨unknown, rest⟩
    · exact .inl ⟨known, fresh, next, put, ih rest⟩
    · exact .inr ⟨unknown, ih rest⟩
  | swap m k ms =>
    obtain ⟨name, v⟩ := m
    obtain ⟨name', v'⟩ := k
    simp only [putMembers_cons_eq_ok] at read ⊢
    rcases read with ⟨known', fresh', between, put', ⟨known, fresh, next, put, rest⟩ | ⟨unknown, rest⟩⟩ |
      ⟨unknown', ⟨known, fresh, next, put, rest⟩ | ⟨unknown, rest⟩⟩
    · -- both are members of the record
      rw [List.mem_cons, not_or] at fresh
      obtain ⟨different, fresh⟩ := fresh
      obtain ⟨between', put, put'⟩ :=
        unordered source name' known' name known (Ne.symm different) _ _ _ _ _ put' put
      have fresh' : name' ∉ name :: seen := by
        rw [List.mem_cons, not_or]
        exact ⟨(Ne.symm different), fresh'⟩
      have rest := putMembers_seen (fun n => (List.Perm.swap name' name seen).mem_iff) rest
      exact .inl ⟨known, fresh, between', put, .inl ⟨known', fresh', next, put', rest⟩⟩
    · exact .inr ⟨unknown, .inl ⟨known', fresh', between, put', rest⟩⟩
    · exact .inl ⟨known, fresh, next, put, .inr ⟨unknown', rest⟩⟩
    · exact .inr ⟨unknown, .inr ⟨unknown', rest⟩⟩
  | trans _ _ ih ih' => exact ih' (ih read)

lemma putItems_iff (steady : form.Steady) {taken : ℕ} {fields : List String} {vs ws : List Json}
    (known : fields ⊆ form.fields) (items : RearrangedItems vs ws) (alike : Alike (depthItems vs) source source')
    {draft draft' : σ} :
    form.putItems source none taken fields (ofItems vs) draft = .ok draft' ↔
      form.putItems source' none taken fields (ofItems ws) draft = .ok draft' := by
  induction fields generalizing vs ws taken draft with
  | nil =>
    rw [putItems, putItems, bind_eq_ok, bind_eq_ok]
    refine exists_congr fun _ => and_congr_left fun _ => ?_
    rw [endOfItems_eq_ok, endOfItems_eq_ok]
    cases items <;> simp
  | cons name fields ih =>
    obtain ⟨field, others⟩ := List.cons_subset.mp known
    cases items with
    | nil =>
      rw [ofItems, putItems, putItems, bind_eq_ok, bind_eq_ok]
      refine exists_congr fun _ => and_congr_right fun _ => ?_
      split_ifs
      · exact ih others .nil alike
      · rfl
    | cons value rest =>
      obtain ⟨first, later⟩ := alike.of_max
      rw [ofItems, ofItems, putItems, putItems, bind_eq_ok, bind_eq_ok]
      exact exists_congr fun next => and_congr (steady _ _ _ _ value first _ field _ _) (ih others rest later)

/-- **A record whose members are steady and come in any order** is steady. -/
theorem steady_decode (steady : form.Steady) (unordered : form.Unordered) (draft : σ) :
    (form.decode draft).Steady := by
  intro source source' v w related alike draft'
  cases related with
  | null | boolean | number | string => simp only [ofJson, decode, mismatch_ne_ok]
  | array items =>
    rw [ofJson, ofJson, decode, decode]
    exact putItems_iff steady (List.Subset.refl _) items alike.inside
  | object members order =>
    rw [ofJson, ofJson, decode, decode, putMembers_iff steady members alike.inside]
    exact ⟨putMembers_perm unordered order, putMembers_perm unordered order.symm⟩

end RecordForm

/-! ### Records with one and with two members -/

namespace Decoder

variable {α β τ : Type}

lemma steady_single (title name : String) {decode : Decoder α} (steady : decode.Steady) :
    (single title (name, decode)).Steady := by
  have members : (singleForm title name decode).Steady :=
    fun _ _ _ _ related alike _ _ _ _ => (steady.map some).iff related alike
  have unordered : (singleForm title name decode).Unordered := by
    intro _ n known n' known' different
    rw [List.mem_singleton.mp known, List.mem_singleton.mp known'] at different
    exact absurd rfl different
  exact (RecordForm.steady_decode members unordered none).bind (required name)

lemma steady_pair (title first second : String) {decode : Decoder α} {decode' : Decoder β}
    (steady : decode.Steady) (steady' : decode'.Steady) :
    (pair title (first, decode) (second, decode')).Steady := by
  have members : (pairForm title first second decode decode').Steady := by
    intro source source' v w related alike name _ draft draft'
    rw [pairForm]
    dsimp only
    split_ifs
    · exact (steady.map _).iff related alike
    · exact (steady'.map _).iff related alike
  have unordered : (pairForm title first second decode decode').Unordered := by
    intro _ n known n' known' different v v' draft between draft' put put'
    simp only [pairForm, List.mem_cons, List.not_mem_nil, or_false] at known known' put put' ⊢
    by_cases own : n = first
    · have other : n' ≠ first := fun same => different (own.trans same.symm)
      rw [if_pos own, map_eq_ok] at put
      rw [if_neg other, map_eq_ok] at put'
      obtain ⟨a, decoded, rfl⟩ := put
      obtain ⟨b, decoded', rfl⟩ := put'
      exact ⟨_, (if_neg other).trans (map_eq_ok.mpr ⟨b, decoded', rfl⟩),
        (if_pos own).trans (map_eq_ok.mpr ⟨a, decoded, rfl⟩)⟩
    · have other : n' = first :=
        known'.resolve_right fun same => different ((known.resolve_left own).trans same.symm)
      rw [if_neg own, map_eq_ok] at put
      rw [if_pos other, map_eq_ok] at put'
      obtain ⟨b, decoded, rfl⟩ := put
      obtain ⟨a, decoded', rfl⟩ := put'
      exact ⟨_, (if_pos other).trans (map_eq_ok.mpr ⟨a, decoded', rfl⟩),
        (if_neg own).trans (map_eq_ok.mpr ⟨b, decoded, rfl⟩)⟩
  exact (RecordForm.steady_decode members unordered (none, none)).bind _

/-! ### Records with a tag -/

variable {title tagName : String} {choices : List (String × τ)}

lemma forM_keep {source : Source} {items : List Json} (fits : source.HasRoom (depthItems items)) :
    (ofItems items).forM (keep source) = .ok () := by
  induction items with
  | nil => rfl
  | cons v items ih =>
    rw [ofItems, List.forM, keep_ofJson fits.of_max.1]
    exact ih fits.of_max.2

/-- An array whose first item is the tag. What is behind the tag is left to the decoder of its kind. -/
lemma tagged_array_iff {source : Source} {v : Json} {rest : List Json} {t : Tagged τ}
    (fits : source.HasRoom (depthItems (v :: rest) + 1)) :
    tagged title tagName choices source (ofJson (.array (v :: rest))) = .ok t ↔
      (∃ s, v = .string s ∧ choices.lookup s = some t.tag) ∧ t.content = ofJson (.array rest) := by
  rw [ofJson, tagged, ofItems, taggedItems, bind_eq_ok]
  · constructor
    · rintro ⟨tag, identified, h⟩
      obtain ⟨_, _, h⟩ := bind_eq_ok.mp h
      cases h
      exact ⟨identifier_ofJson.mp identified, by rw [ofJson]⟩
    · rintro ⟨choice, content⟩
      refine ⟨t.tag, identifier_ofJson.mpr choice, bind_eq_ok.mpr ⟨(), forM_keep fits.inside.of_max.2, ?_⟩⟩
      cases t
      rw [ofJson] at content
      subst content
      rfl
  · rintro rfl
    exact absurd fits (Nat.not_succ_le_zero _)

lemma tagged_nil {source : Source} (fits : source.HasRoom 1) (t : Tagged τ) :
    tagged title tagName choices source (ofJson (.array [])) ≠ .ok t := by
  rw [ofJson, tagged]
  · simp [ofItems, taggedItems, ofFault, Outline.closed, bind, Except.bind]
  · rintro rfl
    exact absurd fits (Nat.not_succ_le_zero _)

/-- What a tag leaves is decoded as a value that was read as a whole. -/
lemma bind_tagged {content : τ → Decoder β} {read : Except DecodeError (Tagged τ)} (chosen : τ → Prop)
    {rest : Json}
    (h : ∀ t, read = .ok t ↔ chosen t.tag ∧ t.content = ofJson rest) {b : β} :
    (read >>= fun t => content t.tag .kept t.content) = .ok b ↔
      ∃ tag, chosen tag ∧ content tag .kept (ofJson rest) = .ok b := by
  rw [bind_eq_ok]
  constructor
  · rintro ⟨t, done, decoded⟩
    obtain ⟨choice, left⟩ := (h t).mp done
    rw [left] at decoded
    exact ⟨t.tag, choice, decoded⟩
  · rintro ⟨tag, choice, decoded⟩
    exact ⟨⟨tag, ofJson rest⟩, (h _).mpr ⟨choice, rfl⟩, decoded⟩

/-- **A record with a tag** is steady if the decoders of its kinds are. -/
theorem steady_tagged (title tagName : String) (choices : List (String × τ)) {content : τ → Decoder β}
    (steady : ∀ tag, (content tag).Steady) :
    Decoder.Steady fun source v =>
      tagged title tagName choices source v >>= fun t => content t.tag .kept t.content := by
  intro source source' v w related alike b
  have room' := alike.room'
  rw [related.depth_eq] at room'
  cases related with
  | null | boolean | number | string => simp only [ofJson, tagged, bind_eq_ok, mismatch_ne_ok]
  | array items =>
    cases items with
    | nil => simp only [bind_eq_ok, tagged_nil alike.room, tagged_nil room', false_and]
    | @cons v w _ _ value rest =>
      dsimp only
      rw [bind_tagged (fun tag => ∃ s, v = .string s ∧ choices.lookup s = some tag) fun _ =>
          tagged_array_iff alike.room,
        bind_tagged (fun tag => ∃ s, w = .string s ∧ choices.lookup s = some tag) fun _ => tagged_array_iff room']
      refine exists_congr fun tag => and_congr ?_ ((steady tag).iff (.array rest) (Source.alike_kept _))
      exact exists_congr fun s => and_congr_left fun _ => value.eq_string_iff
  | @object ms _ ks members order =>
    have related := Rearranged.object members order
    dsimp only
    rw [bind_tagged (fun tag => ∃ s, valuesOf tagName ms = [.string s] ∧ choices.lookup s = some tag) fun _ =>
        tagged_object_iff alike.room,
      bind_tagged (fun tag => ∃ s, valuesOf tagName ks = [.string s] ∧ choices.lookup s = some tag) fun _ =>
        tagged_object_iff room']
    refine exists_congr fun tag => and_congr ?_ ((steady tag).iff (related.without tagName) (Source.alike_kept _))
    exact exists_congr fun s => and_congr_left fun _ => related.valuesOf_eq_string_iff

/-- **A steady decoder makes of a text what it makes of the value** that the text stands for up to the order of
members, as long as no object of the value has two members of one name and arrays and objects do not stand too
deep inside each other. -/
theorem Steady.decodeText_iff {decode : Decoder α} (steady : decode.Steady) {v w : Json} {text : List Char}
    (different : v.DistinctNames) (fits : v.depth ≤ maxNesting) (related : Rearranged v w)
    (written : Denotes text w) {a : α} :
    decodeText decode text = .ok a ↔ decodeValue decode v = .ok a := by
  have room : Alike v.depth .value (.text maxNesting) := ⟨by simp, trivial, fits⟩
  have unsorted : Alike v.depth .value .value := ⟨Iff.rfl, trivial, trivial⟩
  rw [decodeValue, ← steady.iff (rearranged_sorted different) unsorted, steady.iff related room]
  rw [decodeText, Outline.ofText_eq_iff.mpr written]
  constructor
  · intro read
    obtain ⟨b, decoded, done⟩ := bind_eq_ok.mp read
    cases done
    exact decoded
  · intro decoded
    exact bind_eq_ok.mpr ⟨a, decoded, rfl⟩

end Decoder

end LoadingCheck.Json
