import LoadingCheck.Proofs.Json.Bounds
import LoadingCheck.Proofs.Json.Denotation

set_option relaxedAutoImplicit false
set_option autoImplicit false

/-!
# Records in any order

A record takes its members by their names. Their order does not matter, and neither do members that it does
not have; but a member that it has comes once. So what a record is decoded to depends on the values of each
of its names alone, and there is one value for each of them.

## Main definitions

* `LoadingCheck.Json.valuesOf` — the values of the members of a name.
* `LoadingCheck.Json.without` — the members of other names.

## Main results

* `LoadingCheck.Json.Decoder.single_object_iff`, `LoadingCheck.Json.Decoder.pair_object_iff` — records with
  one member and with two.
* `LoadingCheck.Json.Decoder.tagged_object_iff` — records with a tag among their members.
-/

namespace LoadingCheck.Json

/-- The values of the members of a name, in their order. -/
def valuesOf (name : String) (members : List (String × Json)) : List Json :=
  members.filterMap fun m => if m.1 = name then some m.2 else none

/-- The members of other names. -/
def without (name : String) (members : List (String × Json)) : List (String × Json) :=
  members.filter fun m => m.1 ≠ name

section

variable {name other : String} {v : Json} {members : List (String × Json)}

@[simp]
lemma valuesOf_nil (name : String) : valuesOf name [] = [] := rfl

lemma valuesOf_cons_self (name : String) (v : Json) (members : List (String × Json)) :
    valuesOf name ((name, v) :: members) = v :: valuesOf name members := by
  unfold valuesOf
  rw [List.filterMap_cons, if_pos rfl]

lemma valuesOf_cons_of_ne (h : other ≠ name) (v : Json) (members : List (String × Json)) :
    valuesOf name ((other, v) :: members) = valuesOf name members := by
  unfold valuesOf
  rw [List.filterMap_cons, if_neg h]

lemma mem_valuesOf : v ∈ valuesOf name members ↔ (name, v) ∈ members := by
  unfold valuesOf
  rw [List.mem_filterMap]
  constructor
  · rintro ⟨m, mem, value⟩
    split_ifs at value with same
    cases value
    rwa [← same]
  · intro mem
    exact ⟨(name, v), mem, if_pos rfl⟩

lemma without_cons_self (name : String) (v : Json) (members : List (String × Json)) :
    without name ((name, v) :: members) = without name members := by
  unfold without
  rw [List.filter_cons_of_neg (by simp)]

lemma without_cons_of_ne (h : other ≠ name) (v : Json) (members : List (String × Json)) :
    without name ((other, v) :: members) = (other, v) :: without name members := by
  unfold without
  rw [List.filter_cons_of_pos (by simpa using h)]

lemma valuesOf_without (h : name ≠ other) : valuesOf name (without other members) = valuesOf name members := by
  induction members with
  | nil => rfl
  | cons m members ih =>
    obtain ⟨n, v⟩ := m
    by_cases same : n = other
    · rw [same, without_cons_self, ih, valuesOf_cons_of_ne (Ne.symm h)]
    · rw [without_cons_of_ne same]
      by_cases own : n = name
      · rw [own, valuesOf_cons_self, valuesOf_cons_self, ih]
      · rw [valuesOf_cons_of_ne own, valuesOf_cons_of_ne own, ih]

end

namespace Outline

mutual

/-- The outline of a value can be skipped. -/
theorem skip_ofJson : ∀ v : Json, (ofJson v).skip = .ok ()
  | .null | .boolean _ | .number _ | .string _ => by
    rw [ofJson, skip]
    all_goals simp
  | .array items => by
    rw [ofJson, skip, skipItems_ofItems items]
    rfl
  | .object members => by
    rw [ofJson, skip, skipMembers_ofMembers members]
    rfl
termination_by v => sizeOf v

theorem skipItems_ofItems : ∀ items : List Json, skipItems (ofItems items) = .ok ()
  | [] => rfl
  | v :: rest => by
    rw [ofItems, skipItems, skip_ofJson v]
    exact skipItems_ofItems rest
termination_by items => sizeOf items

theorem skipMembers_ofMembers : ∀ members : List (String × Json), skipMembers (ofMembers members) = .ok ()
  | [] => rfl
  | (k, v) :: rest => by
    rw [ofMembers, skipMembers, skip_ofJson v]
    · exact skipMembers_ofMembers rest
    · simp
    · simp
termination_by members => sizeOf members

end

end Outline

open Outline (ofJson ofMembers)

/-- A member of an object with small numbers has small numbers. -/
lemma small_of_mem {name : String} {v : Json} {members : List (String × Json)}
    (small : (ofJson (.object members)).Small) (mem : (name, v) ∈ members) : (ofJson v).Small := by
  rw [ofJson, Outline.Small] at small
  induction members with
  | nil => exact absurd mem List.not_mem_nil
  | cons m members ih =>
    rw [ofMembers, Outline.SmallMembers] at small
    rcases List.mem_cons.mp mem with rfl | rest
    · exact small.1
    · exact ih small.2 rest

/-! ### Members of a record -/

namespace RecordForm

variable {α σ : Type} {form : RecordForm σ} {source : Source} {seen : List String} {draft draft' : σ}
  {members : List (String × Json)}

/-- A member that a record has is put into the draft if it comes for the first time, and one that the record
does not have is skipped. -/
lemma putMembers_cons_eq_ok {name : String} {v : Json} :
    form.putMembers source none seen (ofMembers ((name, v) :: members)) draft = .ok draft' ↔
      (name ∈ form.fields ∧ name ∉ seen ∧ ∃ next, form.put source name (ofJson v) draft = .ok next ∧
          form.putMembers source none (name :: seen) (ofMembers members) next = .ok draft') ∨
        (name ∉ form.fields ∧ form.putMembers source none seen (ofMembers members) draft = .ok draft') := by
  rw [ofMembers, putMembers, Decoder.keyName, Outline.skip_ofJson]
  simp only [bind, Except.bind, ofFault]
  by_cases known : name ∈ form.fields
  · rw [if_pos (List.contains_iff_mem.mpr known)]
    by_cases again : name ∈ seen
    · rw [if_pos (List.contains_iff_mem.mpr again)]
      simp [again, known]
    · rw [if_neg fun seen => again (List.contains_iff_mem.mp seen)]
      simp only [known, again, not_false_eq_true, true_and, not_true_eq_false, false_and, or_false]
      exact bind_eq_ok
  · rw [if_neg fun has => known (List.contains_iff_mem.mp has)]
    simp [known]

/-- A part of a draft that holds the member of a name, and nothing else. -/
structure Holds (form : RecordForm σ) (source : Source) (name : String) (decode : Decoder α)
    (value : σ → Option α) : Prop where
  field : name ∈ form.fields
  own : ∀ v draft draft', form.put source name v draft = .ok draft' →
    ∃ a, decode source v = .ok a ∧ value draft' = some a
  other : ∀ n ∈ form.fields, n ≠ name → ∀ v draft draft', form.put source n v draft = .ok draft' →
    value draft' = value draft

/-- What a record has for one of its names: the value of the only member of this name, or what it had before if
there is none. -/
lemma Holds.cases {name : String} {decode : Decoder α} {value : σ → Option α}
    (holds : form.Holds source name decode value)
    (h : form.putMembers source none seen (ofMembers members) draft = .ok draft') :
    (valuesOf name members = [] ∧ value draft' = value draft) ∨
      (name ∉ seen ∧ ∃ v a, valuesOf name members = [v] ∧ decode source (ofJson v) = .ok a ∧
        value draft' = some a) := by
  induction members generalizing seen draft with
  | nil =>
    rw [ofMembers, putMembers, bind_eq_ok] at h
    obtain ⟨_, _, done⟩ := h
    cases done
    exact .inl ⟨rfl, rfl⟩
  | cons m members ih =>
    obtain ⟨n, v⟩ := m
    rcases putMembers_cons_eq_ok.mp h with ⟨known, fresh, next, put, rest⟩ | ⟨unknown, rest⟩
    · by_cases same : n = name
      · subst same
        obtain ⟨a, decoded, stored⟩ := holds.own _ _ _ put
        rcases ih rest with ⟨none, kept⟩ | ⟨twice, _⟩
        · exact .inr ⟨fresh, v, a, by rw [valuesOf_cons_self, none], decoded, by rw [kept, stored]⟩
        · exact absurd List.mem_cons_self twice
      · rw [valuesOf_cons_of_ne same]
        rcases ih rest with ⟨none, kept⟩ | ⟨first, found⟩
        · exact .inl ⟨none, by rw [kept, holds.other n known same _ _ _ put]⟩
        · exact .inr ⟨fun old => first (List.mem_cons_of_mem _ old), found⟩
    · have different : n ≠ name := by
        rintro rfl
        exact unknown holds.field
      rw [valuesOf_cons_of_ne different]
      exact ih rest

/-- A record has a value for a name exactly if this is the value of the only member of the name. -/
lemma Holds.eq_some_iff {name : String} {decode : Decoder α} {value : σ → Option α}
    (holds : form.Holds source name decode value) (start : value draft = none)
    (h : form.putMembers source none [] (ofMembers members) draft = .ok draft') {a : α} :
    value draft' = some a ↔ ∃ v, valuesOf name members = [v] ∧ decode source (ofJson v) = .ok a := by
  rcases holds.cases h with ⟨none, kept⟩ | ⟨_, v, b, only, decoded, stored⟩
  · rw [kept, start, none]
    simp
  · rw [stored, only]
    constructor
    · intro same
      rw [← Option.some.inj same]
      exact ⟨v, rfl, decoded⟩
    · rintro ⟨w, same, decoded'⟩
      rw [← (List.cons.inj same).1, decoded] at decoded'
      rw [Except.ok.inj decoded']

/-- Members are put into a draft if none of them comes twice and each of them can be put. -/
lemma exists_putMembers
    (each : ∀ name v draft, (name, v) ∈ members → name ∈ form.fields →
      ∃ draft', form.put source name (ofJson v) draft = .ok draft')
    (once : ∀ name ∈ form.fields, (valuesOf name members).length ≤ 1)
    (fresh : ∀ name ∈ seen, name ∈ form.fields → valuesOf name members = []) (draft : σ) :
    ∃ draft', form.putMembers source none seen (ofMembers members) draft = .ok draft' := by
  induction members generalizing seen draft with
  | nil => exact ⟨draft, rfl⟩
  | cons m members ih =>
    obtain ⟨name, v⟩ := m
    have once' : ∀ n ∈ form.fields, (valuesOf n members).length ≤ 1 := by
      intro n hn
      have bound := once n hn
      by_cases same : name = n
      · rw [same, valuesOf_cons_self, List.length_cons] at bound
        omega
      · rwa [valuesOf_cons_of_ne same] at bound
    have each' : ∀ n w draft, (n, w) ∈ members → n ∈ form.fields →
        ∃ draft', form.put source n (ofJson w) draft = .ok draft' :=
      fun n w draft mem => each n w draft (List.mem_cons_of_mem _ mem)
    have fresh' : ∀ n ∈ seen, n ∈ form.fields → valuesOf n members = [] := by
      intro n hn field
      have none := fresh n hn field
      by_cases same : name = n
      · rw [same, valuesOf_cons_self] at none
        exact absurd none (List.cons_ne_nil _ _)
      · rwa [valuesOf_cons_of_ne same] at none
    by_cases known : name ∈ form.fields
    · have first : name ∉ seen := by
        intro again
        have none := fresh name again known
        rw [valuesOf_cons_self] at none
        exact List.cons_ne_nil _ _ none
      have last : valuesOf name members = [] := by
        have bound := once name known
        rw [valuesOf_cons_self, List.length_cons] at bound
        exact List.eq_nil_of_length_eq_zero (by omega)
      obtain ⟨next, put⟩ := each name v draft List.mem_cons_self known
      obtain ⟨draft', rest⟩ := ih each' once' (List.forall_mem_cons.mpr ⟨fun _ => last, fresh'⟩) next
      exact ⟨draft', putMembers_cons_eq_ok.mpr (.inl ⟨known, first, next, put, rest⟩)⟩
    · obtain ⟨draft', rest⟩ := ih each' once' fresh' draft
      exact ⟨draft', putMembers_cons_eq_ok.mpr (.inr ⟨known, rest⟩)⟩

end RecordForm

namespace Decoder

variable {α β τ : Type} {source : Source} {members : List (String × Json)}

/-- How a record with one member is written. -/
def singleForm (title name : String) (decode : Decoder α) : RecordForm (Option α) where
  title
  fields := [name]
  mayLack := []
  put source _ v _ := some <$> decode source v

/-- How a record with two members is written. -/
def pairForm (title first second : String) (decode : Decoder α) (decode' : Decoder β) :
    RecordForm (Option α × Option β) where
  title
  fields := [first, second]
  mayLack := []
  put source name v draft :=
    if name = first then (fun a => (some a, draft.2)) <$> decode source v
    else (fun b => (draft.1, some b)) <$> decode' source v

lemma single_eq_ok {title name : String} {decode : Decoder α} {a : α} :
    single title (name, decode) source (ofJson (.object members)) = .ok a ↔
      (singleForm title name decode).putMembers source.inside none [] (ofMembers members) none =
        .ok (some a) := by
  unfold single
  rw [ofJson, bind_eq_ok]
  simp only [required_eq_ok, exists_eq_right]
  rfl

lemma pair_eq_ok {title first second : String} {decode : Decoder α} {decode' : Decoder β} {a : α} {b : β} :
    pair title (first, decode) (second, decode') source (ofJson (.object members)) = .ok (a, b) ↔
      (pairForm title first second decode decode').putMembers source.inside none [] (ofMembers members)
        (none, none) = .ok (some a, some b) := by
  unfold pair
  rw [ofJson, bind_eq_ok]
  constructor
  · rintro ⟨⟨a?, b?⟩, read, h⟩
    dsimp only at h
    rw [bind_eq_ok] at h
    obtain ⟨a', ha, h⟩ := h
    rw [bind_eq_ok] at h
    obtain ⟨b', hb, done⟩ := h
    cases done
    rw [required_eq_ok] at ha hb
    rw [← ha, ← hb]
    exact read
  · intro read
    exact ⟨_, read, rfl⟩

lemma holds_single (source : Source) (title name : String) (decode : Decoder α) :
    (singleForm title name decode).Holds source name decode id where
  field := List.mem_cons_self
  own v draft draft' put := by
    obtain ⟨a, decoded, rfl⟩ := map_eq_ok.mp put
    exact ⟨a, decoded, rfl⟩
  other n known different := absurd (List.mem_singleton.mp known) different

lemma holds_first (source : Source) (title first second : String) (decode : Decoder α) (decode' : Decoder β) :
    (pairForm title first second decode decode').Holds source first decode Prod.fst where
  field := List.mem_cons_self
  own v draft draft' put := by
    obtain ⟨a, decoded, rfl⟩ := map_eq_ok.mp ((if_pos rfl).symm.trans put)
    exact ⟨a, decoded, rfl⟩
  other n _ different v draft draft' put := by
    obtain ⟨b, _, rfl⟩ := map_eq_ok.mp ((if_neg different).symm.trans put)
    rfl

lemma holds_second (source : Source) (title : String) {first second : String} (decode : Decoder α)
    (decode' : Decoder β) (apart : second ≠ first) :
    (pairForm title first second decode decode').Holds source second decode' Prod.snd where
  field := List.mem_cons_of_mem _ List.mem_cons_self
  own v draft draft' put := by
    obtain ⟨b, decoded, rfl⟩ := map_eq_ok.mp ((if_neg apart).symm.trans put)
    exact ⟨b, decoded, rfl⟩
  other n known different v draft draft' put := by
    have same : n = first := by
      rcases List.mem_cons.mp known with same | rest
      · exact same
      · exact absurd (List.mem_singleton.mp rest) different
    obtain ⟨a, _, rfl⟩ := map_eq_ok.mp ((if_pos same).symm.trans put)
    rfl

/-- A member is the only one of its name. -/
lemma eq_of_mem_of_valuesOf {name : String} {v w : Json} (only : valuesOf name members = [v])
    (mem : (name, w) ∈ members) : w = v := by
  rw [← mem_valuesOf, only] at mem
  exact List.mem_singleton.mp mem

/-- **A record with one member** takes the value of the only member of its name. -/
theorem single_object_iff {title name : String} {decode : Decoder α} {a : α} :
    single title (name, decode) source (ofJson (.object members)) = .ok a ↔
      ∃ v, valuesOf name members = [v] ∧ decode source.inside (ofJson v) = .ok a := by
  rw [single_eq_ok]
  have holds := holds_single source.inside title name decode
  constructor
  · intro read
    exact (holds.eq_some_iff rfl read).mp rfl
  · rintro ⟨v, only, decoded⟩
    obtain ⟨draft, read⟩ : ∃ draft, (singleForm title name decode).putMembers source.inside none []
        (ofMembers members) none = .ok draft := by
      refine RecordForm.exists_putMembers (fun n w draft mem known => ?_) (fun n known => ?_)
        (fun n old => absurd old List.not_mem_nil) none
      · rw [List.mem_singleton.mp known] at mem
        rw [eq_of_mem_of_valuesOf only mem]
        exact ⟨some a, map_eq_ok.mpr ⟨a, decoded, rfl⟩⟩
      · rw [List.mem_singleton.mp known, only]
        exact Nat.le_refl _
    have value : draft = some a := (holds.eq_some_iff rfl read).mpr ⟨v, only, decoded⟩
    rw [read, value]

/-- **A record with two members** takes the values of the only members of their names. -/
theorem pair_object_iff {title first second : String} {decode : Decoder α} {decode' : Decoder β} {a : α} {b : β}
    (apart : second ≠ first) :
    pair title (first, decode) (second, decode') source (ofJson (.object members)) = .ok (a, b) ↔
      (∃ v, valuesOf first members = [v] ∧ decode source.inside (ofJson v) = .ok a) ∧
        ∃ w, valuesOf second members = [w] ∧ decode' source.inside (ofJson w) = .ok b := by
  rw [pair_eq_ok]
  have holds := holds_first source.inside title first second decode decode'
  have holds' := holds_second source.inside title decode decode' apart
  constructor
  · intro read
    exact ⟨(holds.eq_some_iff rfl read).mp rfl, (holds'.eq_some_iff rfl read).mp rfl⟩
  · rintro ⟨⟨v, only, decoded⟩, w, only', decoded'⟩
    obtain ⟨draft, read⟩ : ∃ draft, (pairForm title first second decode decode').putMembers source.inside none []
        (ofMembers members) (none, none) = .ok draft := by
      refine RecordForm.exists_putMembers (fun n x draft mem known => ?_) (fun n known => ?_)
        (fun n old => absurd old List.not_mem_nil) (none, none)
      · rcases List.mem_cons.mp known with rfl | rest
        · rw [eq_of_mem_of_valuesOf only mem]
          exact ⟨(some a, draft.2), (if_pos rfl).trans (map_eq_ok.mpr ⟨a, decoded, rfl⟩)⟩
        · rw [List.mem_singleton.mp rest] at mem ⊢
          rw [eq_of_mem_of_valuesOf only' mem]
          exact ⟨(draft.1, some b), (if_neg apart).trans (map_eq_ok.mpr ⟨b, decoded', rfl⟩)⟩
      · rcases List.mem_cons.mp known with rfl | rest
        · rw [only]
          exact Nat.le_refl _
        · rw [List.mem_singleton.mp rest, only']
          exact Nat.le_refl _
    have value : draft.1 = some a := (holds.eq_some_iff rfl read).mpr ⟨v, only, decoded⟩
    have value' : draft.2 = some b := (holds'.eq_some_iff rfl read).mpr ⟨w, only', decoded'⟩
    rw [read, ← value, ← value']

/-! ### Records with a tag -/

lemma stringAs_ofJson {expected s : String} {v : Json} :
    stringAs expected source (ofJson v) = .ok s ↔ v = .string s := by
  constructor
  · intro h
    rw [stringAs.eq_def] at h
    split at h
    · rename_i s' text
      rw [← Except.ok.inj h]
      exact Outline.ofJson_eq_string text
    · exact absurd h (mismatch_ne_ok _ _ _)
  · rintro rfl
    rw [ofJson, stringAs]

lemma word_ofJson {expected : String} {n : ℕ} {v : Json} :
    word expected source (ofJson v) = .ok n ↔ v = .number (.integer n) := by
  constructor
  · intro h
    rw [word.eq_def] at h
    split at h
    · rename_i k number
      split_ifs at h with positive
      rw [Outline.ofJson_eq_number number, ← Except.ok.inj h, Int.toNat_of_nonneg positive]
    · exact absurd h (mismatch_ne_ok _ _ _)
  · rintro rfl
    rw [ofJson, word_integer]

/-- The choice that a value makes. -/
lemma identifier_ofJson {choices : List (String × τ)} {v : Json} {t : τ} :
    identifier choices source (ofJson v) = .ok t ↔ ∃ s, v = .string s ∧ choices.lookup s = some t := by
  have chosen : ∀ s, choose choices s = .ok t ↔ choices.lookup s = some t := by
    intro s
    unfold choose
    cases choices.lookup s <;> simp
  unfold identifier
  simp only [bind_eq_ok, stringAs_ofJson, chosen]

section

variable {tagName : String} {choices : List (String × τ)}

/-- A member beside the tag is kept. -/
lemma taggedMembers_other {name : String} {v : Json} {tag tag' : Option τ} {kept : List (Key × Outline)}
    (other : name ≠ tagName) (fits : source.HasRoom v.depth) :
    taggedMembers tagName choices source none tag (ofMembers ((name, v) :: members)) = .ok (tag', kept) ↔
      ∃ more, taggedMembers tagName choices source none tag (ofMembers members) = .ok (tag', more) ∧
        kept = (.name name, ofJson v) :: more := by
  rw [ofMembers, taggedMembers, keyName, keep_ofJson fits]
  simp only [bind, Except.bind, if_neg other]
  cases taggedMembers tagName choices source none tag (ofMembers members) with
  | error e => simp
  | ok r => simp [pure, Except.pure, Prod.ext_iff, eq_comm]

/-- The tag is taken where it comes. -/
lemma taggedMembers_tag {v : Json} {r : Option τ × List (Key × Outline)} :
    taggedMembers tagName choices source none none (ofMembers ((tagName, v) :: members)) = .ok r ↔
      ∃ t, identifier choices source (ofJson v) = .ok t ∧
        taggedMembers tagName choices source none (some t) (ofMembers members) = .ok r := by
  rw [ofMembers, taggedMembers, keyName, ← bind_eq_ok]
  simp only [bind, Except.bind, if_pos, Option.isSome_none, Bool.false_eq_true, if_false]

lemma taggedMembers_again {v : Json} {t : τ} {r : Option τ × List (Key × Outline)} :
    taggedMembers tagName choices source none (some t) (ofMembers ((tagName, v) :: members)) ≠ .ok r := by
  rw [ofMembers, taggedMembers, keyName]
  simp [bind, Except.bind]

/-- Behind the tag no other one may come. -/
lemma taggedMembers_some {t : τ} {tag : Option τ} {kept : List (Key × Outline)}
    (fits : source.HasRoom (depthMembers members)) :
    taggedMembers tagName choices source none (some t) (ofMembers members) = .ok (tag, kept) ↔
      valuesOf tagName members = [] ∧ tag = some t ∧ kept = ofMembers (without tagName members) := by
  induction members generalizing kept with
  | nil =>
    rw [ofMembers, taggedMembers, valuesOf_nil]
    simp [ofFault, Outline.closed, bind, Except.bind, pure, Except.pure, without, ofMembers, eq_comm]
  | cons m members ih =>
    obtain ⟨name, v⟩ := m
    rw [depthMembers] at fits
    by_cases same : name = tagName
    · rw [same, valuesOf_cons_self]
      simp [taggedMembers_again]
    · rw [taggedMembers_other same fits.of_max.1, valuesOf_cons_of_ne same, without_cons_of_ne same, ofMembers]
      constructor
      · rintro ⟨more, rest, rfl⟩
        obtain ⟨none, rfl, rfl⟩ := (ih fits.of_max.2).mp rest
        exact ⟨none, rfl, rfl⟩
      · rintro ⟨none, rfl, rfl⟩
        exact ⟨_, (ih fits.of_max.2).mpr ⟨none, rfl, rfl⟩, rfl⟩

/-- The tag is the choice that the value of the only member of its name makes, if there is one. -/
lemma taggedMembers_none {t : τ} {kept : List (Key × Outline)} (fits : source.HasRoom (depthMembers members)) :
    taggedMembers tagName choices source none none (ofMembers members) = .ok (some t, kept) ↔
      (∃ s, valuesOf tagName members = [.string s] ∧ choices.lookup s = some t) ∧
        kept = ofMembers (without tagName members) := by
  induction members generalizing kept with
  | nil =>
    rw [ofMembers, taggedMembers, valuesOf_nil]
    simp [ofFault, Outline.closed, bind, Except.bind, pure, Except.pure]
  | cons m members ih =>
    obtain ⟨name, v⟩ := m
    rw [depthMembers] at fits
    by_cases same : name = tagName
    · rw [same, taggedMembers_tag, valuesOf_cons_self, without_cons_self]
      constructor
      · rintro ⟨t', chosen, rest⟩
        obtain ⟨s, rfl, choice⟩ := identifier_ofJson.mp chosen
        obtain ⟨none, found, rfl⟩ := (taggedMembers_some fits.of_max.2).mp rest
        rw [none, Option.some.inj found]
        exact ⟨⟨s, rfl, choice⟩, rfl⟩
      · rintro ⟨⟨s, only, choice⟩, rfl⟩
        obtain ⟨rfl, none⟩ := List.cons.inj only
        exact ⟨t, identifier_ofJson.mpr ⟨s, rfl, choice⟩,
          (taggedMembers_some fits.of_max.2).mpr ⟨none, rfl, rfl⟩⟩
    · rw [taggedMembers_other same fits.of_max.1, valuesOf_cons_of_ne same, without_cons_of_ne same, ofMembers]
      constructor
      · rintro ⟨more, rest, rfl⟩
        obtain ⟨tag, rfl⟩ := (ih fits.of_max.2).mp rest
        exact ⟨tag, rfl⟩
      · rintro ⟨tag, rfl⟩
        exact ⟨_, (ih fits.of_max.2).mpr ⟨tag, rfl⟩, rfl⟩

/-- **A record with a tag** takes the choice that the only member of the name of the tag makes, and leaves the
other members to the decoder of its kind. -/
theorem tagged_object_iff {title : String} {t : Tagged τ} (fits : source.HasRoom (depthMembers members + 1)) :
    tagged title tagName choices source (ofJson (.object members)) = .ok t ↔
      (∃ s, valuesOf tagName members = [.string s] ∧ choices.lookup s = some t.tag) ∧
        t.content = ofJson (.object (without tagName members)) := by
  rw [ofJson, tagged, bind_eq_ok]
  · constructor
    · rintro ⟨⟨tag, kept⟩, read, h⟩
      dsimp only at h
      rw [bind_eq_ok] at h
      obtain ⟨t', present, done⟩ := h
      cases done
      rw [required_eq_ok.mp present] at read
      obtain ⟨found, rfl⟩ := (taggedMembers_none fits.inside).mp read
      exact ⟨found, by rw [ofJson]⟩
    · rintro ⟨found, content⟩
      refine ⟨_, (taggedMembers_none fits.inside).mpr ⟨found, rfl⟩, ?_⟩
      cases t
      rw [ofJson] at content
      subst content
      rfl
  · rintro rfl
    exact absurd fits (Nat.not_succ_le_zero _)

end

end Decoder

end LoadingCheck.Json
