import LoadingCheck.Json.Decode
import Mathlib.Data.List.Basic

set_option relaxedAutoImplicit false
set_option autoImplicit false

/-!
# Decoders on well-formed outlines

How the decoders that others are made of act on outlines that are closed and have the members that are
asked for, in the order of their declaration: these are the outlines of the values that are written.

## Main definitions

* `LoadingCheck.Json.depth` — how many arrays and objects of a value stand inside each other.
* `LoadingCheck.Json.Source.HasRoom` — the sources that such a value can come from.

## Main results

* `LoadingCheck.Json.Outline.read_ofJson` — the outline of a value is read as the value.
* `LoadingCheck.Json.Decoder.pair_object`, `LoadingCheck.Json.Decoder.single_object` — records.
* `LoadingCheck.Json.Decoder.tagged_ofJson` — records with a tag in front.
* `LoadingCheck.Json.Decoder.list_array` — lists.
-/

namespace LoadingCheck.Json

/-! ### Outlines of values -/

mutual

/-- How many arrays and objects of a value stand inside each other. -/
def depth : Json → ℕ
  | .array items => depthItems items + 1
  | .object members => depthMembers members + 1
  | _ => 0

/-- How many arrays and objects of one of the items stand inside each other. -/
def depthItems : List Json → ℕ
  | [] => 0
  | v :: rest => max (depth v) (depthItems rest)

/-- How many arrays and objects of one of the members stand inside each other. -/
def depthMembers : List (String × Json) → ℕ
  | [] => 0
  | (_, v) :: rest => max (depth v) (depthMembers rest)

end

/-- A source has room for so many arrays and objects inside each other. Only a text may be short of it. -/
def Source.HasRoom (n : ℕ) : Source → Prop
  | .text room => n ≤ room
  | .value => True
  | .kept => True

lemma Source.HasRoom.mono {m n : ℕ} {source : Source} (h : source.HasRoom n) (less : m ≤ n) :
    source.HasRoom m := by
  cases source with
  | text room => exact Nat.le_trans less h
  | value => trivial
  | kept => trivial

lemma Source.HasRoom.of_max {m n : ℕ} {source : Source} (h : source.HasRoom (max m n)) :
    source.HasRoom m ∧ source.HasRoom n :=
  ⟨h.mono (Nat.le_max_left m n), h.mono (Nat.le_max_right m n)⟩

lemma Source.HasRoom.inside {n : ℕ} {source : Source} (h : source.HasRoom (n + 1)) :
    source.inside.HasRoom n := by
  cases source with
  | text room => exact Nat.le_sub_of_add_le h
  | value => trivial
  | kept => trivial

namespace Outline

lemma ofItems_eq_map (items : List Json) : ofItems items = items.map ofJson := by
  induction items with
  | nil => rfl
  | cons v rest ih => rw [ofItems, ih, List.map_cons]

lemma ofMembers_eq_map (members : List (String × Json)) :
    ofMembers members = members.map fun m => (.name m.1, ofJson m.2) := by
  induction members with
  | nil => rfl
  | cons m rest ih => rw [ofMembers, ih, List.map_cons]

mutual

/-- The outline of a value is read as the value if there is room for it. -/
theorem read_ofJson : ∀ (v : Json) (room : ℕ), v.depth ≤ room → (ofJson v).read room = .ok v
  | .null => fun _ _ => by rw [ofJson, read]
  | .boolean _ => fun _ _ => by rw [ofJson, read]
  | .number _ => fun _ _ => by rw [ofJson, read]
  | .string _ => fun _ _ => by rw [ofJson, read]
  | .array items => by
    intro room fits
    rw [depth] at fits
    obtain ⟨room, rfl⟩ : ∃ k, room = k + 1 := ⟨room - 1, by omega⟩
    rw [ofJson, read, readItems_ofItems items room (by omega)]
    rfl
  | .object members => by
    intro room fits
    rw [depth] at fits
    obtain ⟨room, rfl⟩ : ∃ k, room = k + 1 := ⟨room - 1, by omega⟩
    rw [ofJson, read, readMembers_ofMembers members room (by omega)]
    rfl
termination_by v => sizeOf v

theorem readItems_ofItems : ∀ (items : List Json) (room : ℕ), depthItems items ≤ room →
    readItems room (ofItems items) = .ok items
  | [] => fun _ _ => by rw [ofItems, readItems]
  | v :: rest => by
    intro room fits
    rw [depthItems] at fits
    rw [ofItems, readItems, read_ofJson v room (by omega), readItems_ofItems rest room (by omega)]
    rfl
termination_by items => sizeOf items

theorem readMembers_ofMembers : ∀ (members : List (String × Json)) (room : ℕ),
    depthMembers members ≤ room → readMembers room (ofMembers members) = .ok members
  | [] => fun _ _ => by rw [ofMembers, readMembers]
  | (k, v) :: rest => by
    intro room fits
    rw [depthMembers] at fits
    rw [ofMembers, readMembers, read_ofJson v room (by omega),
      readMembers_ofMembers rest room (by omega)]
    rfl
termination_by members => sizeOf members

end

end Outline

/-! ### Records -/

namespace RecordForm

variable {σ : Type} {form : RecordForm σ} {source : Source}

/-- A member that the record has, and that comes for the first time, is put into the draft. -/
lemma putMembers_field {stop : Option Fault} {seen : List String} {name : String} {v : Outline}
    {rest : List (Key × Outline)} {draft : σ} (draft' : σ) (known : name ∈ form.fields) (fresh : name ∉ seen)
    (put : form.put source name v draft = .ok draft') :
    form.putMembers source stop seen ((.name name, v) :: rest) draft =
      form.putMembers source stop (name :: seen) rest draft' := by
  rw [putMembers, Decoder.keyName]
  simp only [bind, Except.bind]
  rw [if_pos (List.contains_iff_mem.mpr known), if_neg (by simpa using fresh), put]

end RecordForm

namespace Decoder

variable {α β τ : Type} {source : Source}

@[simp]
lemma string_string (source : Source) (s : String) : string source (.string s) = .ok s := rfl

@[simp]
lemma word_integer (expected : String) (source : Source) (n : ℕ) :
    word expected source (.number (.integer n)) = .ok n := by
  rw [word, if_pos (Int.natCast_nonneg n)]
  rfl

/-- A record with one member. -/
lemma single_object {title : String} {member : String × Decoder α} {v : Outline} {a : α}
    (h : member.2 source.inside v = .ok a) :
    single title member source (.object [(.name member.1, v)] none) = .ok a := by
  simp only [single, RecordForm.decode]
  rw [RecordForm.putMembers_field (some a) (List.mem_singleton_self _) List.not_mem_nil
    (by dsimp only; rw [h]; rfl)]
  rfl

/-- A record with two members. -/
lemma pair_object {title : String} {first : String × Decoder α} {second : String × Decoder β}
    {v w : Outline} {a : α} {b : β} (apart : second.1 ≠ first.1)
    (hv : first.2 source.inside v = .ok a) (hw : second.2 source.inside w = .ok b) :
    pair title first second source (.object [(.name first.1, v), (.name second.1, w)] none) =
      .ok (a, b) := by
  simp only [pair, RecordForm.decode]
  rw [RecordForm.putMembers_field (some a, none) List.mem_cons_self List.not_mem_nil
    (by dsimp only; rw [if_pos rfl, hv]; rfl)]
  rw [RecordForm.putMembers_field (some a, some b) (List.mem_cons_of_mem _
    (List.mem_singleton_self _)) (by simpa using apart) (by dsimp only; rw [if_neg apart, hw]; rfl)]
  rfl

/-! ### Lists -/

/-- A list of values that are decoded one by one. -/
lemma list_array {decode : Decoder α} {items : List Outline} {as : List α}
    (h : List.Forall₂ (fun v a => decode source.inside v = .ok a) items as) :
    list decode source (.array items none) = .ok as := by
  rw [list]
  induction h with
  | nil => rfl
  | cons head _ ih =>
    rw [listItems, head, ih]
    rfl

/-! ### Tagged records -/

/-- A value is kept if there is room for it. -/
lemma keep_ofJson {v : Json} (fits : source.HasRoom v.depth) : keep source (Outline.ofJson v) = .ok () := by
  cases source with
  | text room =>
    rw [keep, Outline.read_ofJson v room fits]
    rfl
  | value => rfl
  | kept => rfl

/-- Members behind the tag are kept if there is room for them. -/
lemma taggedMembers_rest {tagName : String} {choices : List (String × τ)} {tag : τ}
    {members : List (String × Json)} (names : ∀ m ∈ members, m.1 ≠ tagName)
    (fits : source.HasRoom (depthMembers members)) :
    taggedMembers tagName choices source none (some tag) (Outline.ofMembers members) =
      .ok (some tag, Outline.ofMembers members) := by
  induction members with
  | nil => rfl
  | cons m members ih =>
    obtain ⟨name, v⟩ := m
    have other : name ≠ tagName := names (name, v) List.mem_cons_self
    rw [depthMembers] at fits
    have kept : keep source (Outline.ofJson v) = .ok () := keep_ofJson fits.of_max.1
    have rest := ih (fun m hm => names m (List.mem_cons_of_mem _ hm)) fits.of_max.2
    rw [Outline.ofMembers, taggedMembers, keyName]
    simp only [bind, Except.bind, if_neg other, kept, rest]
    rfl

/-- A record with its tag in front. What is behind the tag is left to the decoder of its kind. -/
lemma tagged_ofJson {title tagName name : String} {choices : List (String × τ)} {tag : τ} {room : ℕ}
    {members : List (String × Json)} (choice : choices.lookup name = some tag)
    (names : ∀ m ∈ members, m.1 ≠ tagName) (fits : depthMembers members ≤ room) :
    tagged title tagName choices (.text (room + 1))
        (Outline.ofJson (.object ((tagName, .string name) :: members))) =
      .ok ⟨tag, Outline.ofJson (.object members)⟩ := by
  have identified : identifier choices (.text room) (.string name) = .ok tag := by
    simp only [identifier, stringAs, choose, bind, Except.bind, choice]
  have front : taggedMembers tagName choices (.text room) none none
      ((.name tagName, .string name) :: Outline.ofMembers members) =
        .ok (some tag, Outline.ofMembers members) := by
    rw [taggedMembers, keyName]
    simp only [bind, Except.bind, Option.isSome_none, Bool.false_eq_true, if_false, identified]
    exact taggedMembers_rest names fits
  rw [Outline.ofJson, Outline.ofMembers, Outline.ofJson, tagged]
  · simp only [Source.inside, Nat.add_sub_cancel, front, bind, Except.bind]
    rw [Outline.ofJson]
    rfl
  · intro h
    exact absurd h (by simp)

end Decoder

end LoadingCheck.Json
