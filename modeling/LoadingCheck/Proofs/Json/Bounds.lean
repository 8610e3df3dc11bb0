import LoadingCheck.Json.Decode
import LoadingCheck.Proofs.Fallible
import Mathlib.Data.List.Basic

set_option relaxedAutoImplicit false
set_option autoImplicit false

/-!
# Whole numbers in texts have 64 bits

A literal beyond 64 bits is no whole number for the reader of texts. So whatever a decoder takes from a
text, its whole numbers are small enough to be written and read again.

## Main definitions

* `LoadingCheck.Json.Outline.Small` — every whole number in an outline is at most the largest of 64 bits.
* `LoadingCheck.Json.Decoder.Yields` — what a decoder makes of such outlines has a property.

## Main results

* `LoadingCheck.Json.Outline.small_ofText` — outlines of texts are small.
* `LoadingCheck.Json.RecordForm.yields_decode`, `LoadingCheck.Json.Decoder.yields_list`,
  `LoadingCheck.Json.Decoder.yields_tagged` — the property of a record, a list and a tagged record from
  those of its parts.
-/

namespace LoadingCheck.Json

/-! ### Number literals -/

/-- What is absorbed stays in bounds. -/
lemma absorb_le {s : ℕ} (h : s ≤ maxSignificand) (ds : List ℕ) : (absorb s ds).1 ≤ maxSignificand := by
  induction ds generalizing s with
  | nil => exact h
  | cons d ds ih =>
    rw [absorb]
    split_ifs with beyond
    · exact h
    · exact ih (by omega)

/-- The whole number of a literal has 64 bits. -/
lemma number?_le {l : Literal} {n : Int} (h : l.number? = some (.integer n)) : n ≤ maxSignificand := by
  have bound := absorb_le (Nat.zero_le maxSignificand) l.whole
  rw [Literal.number?] at h
  dsimp only at h
  split_ifs at h with plain negative
  · rw [← Number.integer.inj (Option.some.inj h)]
    omega
  · rw [← Number.integer.inj (Option.some.inj h)]
    omega
  · rw [Option.map_eq_some_iff] at h
    obtain ⟨_, _, real⟩ := h
    exact absurd real Number.noConfusion

namespace Outline

mutual

/-- Every whole number in an outline is at most the largest of 64 bits. -/
def Small : Outline → Prop
  | .number (.integer n) => n ≤ maxSignificand
  | .array items _ => SmallItems items
  | .object members _ => SmallMembers members
  | _ => True

/-- Every whole number in items is at most the largest of 64 bits. -/
def SmallItems : List Outline → Prop
  | [] => True
  | v :: rest => Small v ∧ SmallItems rest

/-- Every whole number in members is at most the largest of 64 bits. -/
def SmallMembers : List (Key × Outline) → Prop
  | [] => True
  | (_, v) :: rest => Small v ∧ SmallMembers rest

end

lemma smallItems_iff {items : List Outline} : SmallItems items ↔ ∀ v ∈ items, v.Small := by
  induction items with
  | nil => simp [SmallItems]
  | cons v rest ih => simp [SmallItems, ih]

/-! ### Outlines of texts -/

lemma small_readNumber (s : List Char) : (readNumber s).1.Small := by
  rw [readNumber]
  split
  · simp [Small]
  · split
    · rename_i l _ _ n number
      cases n with
      | integer n =>
        rw [Small]
        exact number?_le number
      | real => simp [Small]
    · simp [Small]

lemma small_toOutline (key : Key) : key.toOutline.Small := by
  cases key <;> simp [Key.toOutline, Small]

lemma small_readWord {start : Char} {value : Outline} (h : value.Small) (word s : List Char) :
    (readWord start value word s).1.Small := by
  induction word generalizing s with
  | nil => exact h
  | cons w word ih =>
    cases s with
    | nil => simp [readWord, Small]
    | cons c s =>
      rw [readWord]
      split_ifs
      · exact ih s
      · simp [Small]

/-- **Proof sketch.** Induction on the number of steps, for values, items and members at once; numbers are
small since their literals are, and no other value has a number of its own. -/
lemma small_at (n : ℕ) :
    (∀ s, (valueAt n s).1.Small) ∧ (∀ s, SmallItems (itemsAt n s).1) ∧
      ∀ s, SmallMembers (membersAt n s).1 := by
  induction n with
  | zero =>
    refine ⟨fun s => ?_, fun s => ?_, fun s => ?_⟩
    · simp [valueAt, missing, Small]
    · simp [itemsAt, SmallItems]
    · simp [membersAt, SmallMembers]
  | succ n ih =>
    obtain ⟨values, items, members⟩ := ih
    refine ⟨fun s => ?_, fun s => ?_, fun s => ?_⟩
    · rw [valueAt]
      split
      · simp [missing, Small]
      · exact small_toOutline _
      · split
        · simp [Small, SmallItems]
        · simp [Small, SmallItems]
        · exact items _
      · split
        · simp [Small, SmallMembers]
        · simp [Small, SmallMembers]
        · exact members _
      · exact small_readWord (by simp [Small]) _ _
      · exact small_readWord (by simp [Small]) _ _
      · exact small_readWord (by simp [Small]) _ _
      · split_ifs
        · exact small_readNumber _
        · simp [misplaced, Small]
    · rw [itemsAt]
      have value := values s
      split
      · rename_i v read
        rw [read] at value
        simp [SmallItems, value]
      · rename_i v rest read
        rw [read] at value
        split
        · simp [SmallItems, value]
        · simp [SmallItems, value]
        · simp [SmallItems, value, items]
        · simp [SmallItems, value]
    · rw [membersAt]
      split
      · simp [SmallMembers, Small]
      · split
        · simp [SmallMembers, Small]
        · split
          · simp [SmallMembers, missing, Small]
          · rename_i rest _
            have value := values rest
            split
            · rename_i v read
              rw [read] at value
              simp [SmallMembers, value]
            · rename_i v _ read
              rw [read] at value
              split
              · simp [SmallMembers, value]
              · simp [SmallMembers, value]
              · simp [SmallMembers, value, members]
              · simp [SmallMembers, value]
          · simp [SmallMembers, misplaced, Small]
      · simp [SmallMembers, Small]

/-- Outlines of texts are small. -/
theorem small_ofText (s : List Char) : (ofText s).1.Small := by
  have value := (small_at (2 * s.length + 2)).1 s
  rw [ofText]
  split
  · rename_i v read
    rw [read] at value
    exact value
  · rename_i v rest read
    rw [read] at value
    exact value

end Outline

/-! ### Decoders -/

lemma mismatch_ne_ok {α : Type} (v : Outline) (expected : String) (a : α) :
    mismatch v expected ≠ .ok a := by
  rw [mismatch]
  cases v.found <;> exact fun h => by cases h

namespace Decoder

variable {α β σ τ : Type}

/-- What a decoder makes of an outline with small numbers has a property. -/
def Yields (decode : Decoder α) (P : α → Prop) : Prop :=
  ∀ source v a, v.Small → decode source v = .ok a → P a

lemma yields_word (expected : String) : (word expected).Yields fun n => n ≤ maxSignificand := by
  intro source v n small h
  rw [word.eq_def] at h
  split at h
  · split_ifs at h with nonneg
    rw [Outline.Small] at small
    rw [← Except.ok.inj h]
    omega
  · exact absurd h (mismatch_ne_ok _ _ _)

lemma listItems_all {decode : Outline → Except DecodeError α} {P : α → Prop} {stop : Option Fault}
    {items : List Outline} {as : List α} (each : ∀ v ∈ items, ∀ a, decode v = .ok a → P a)
    (h : listItems decode stop items = .ok as) : ∀ a ∈ as, P a := by
  induction items generalizing as with
  | nil =>
    rw [listItems, bind_eq_ok] at h
    obtain ⟨_, _, done⟩ := h
    rw [← Except.ok.inj done]
    exact fun _ ha => absurd ha List.not_mem_nil
  | cons v rest ih =>
    rw [listItems, bind_eq_ok] at h
    obtain ⟨a, head, h⟩ := h
    rw [bind_eq_ok] at h
    obtain ⟨more, tail, done⟩ := h
    rw [← Except.ok.inj done]
    intro b hb
    rcases List.mem_cons.mp hb with rfl | hb
    · exact each v List.mem_cons_self _ head
    · exact ih (fun w hw => each w (List.mem_cons_of_mem _ hw)) tail b hb

/-- What a list has in it has the property of what its items are decoded to. -/
theorem yields_list {decode : Decoder α} {P : α → Prop} (h : decode.Yields P) :
    (list decode).Yields fun as => ∀ a ∈ as, P a := by
  intro source v as small decoded
  rw [list.eq_def] at decoded
  split at decoded
  · rw [Outline.Small, Outline.smallItems_iff] at small
    exact listItems_all (fun v hv a => h _ v a (small v hv)) decoded
  · exact absurd decoded (mismatch_ne_ok _ _ _)

end Decoder

/-! ### Records -/

namespace RecordForm

variable {σ : Type} {form : RecordForm σ} {Inv : σ → Prop}

/-- Putting a member with small numbers into a draft keeps a property of drafts. -/
def Keeps (form : RecordForm σ) (Inv : σ → Prop) : Prop :=
  ∀ source name v draft draft', v.Small → Inv draft → form.put source name v draft = .ok draft' →
    Inv draft'

lemma putMembers_keeps (keeps : form.Keeps Inv) {source : Source} {stop : Option Fault}
    {seen : List String} {members : List (Key × Outline)} {draft draft' : σ}
    (small : Outline.SmallMembers members) (start : Inv draft)
    (h : form.putMembers source stop seen members draft = .ok draft') : Inv draft' := by
  induction members generalizing seen draft with
  | nil =>
    rw [putMembers, bind_eq_ok] at h
    obtain ⟨_, _, done⟩ := h
    rwa [← Except.ok.inj done]
  | cons m rest ih =>
    obtain ⟨key, v⟩ := m
    rw [Outline.SmallMembers] at small
    rw [putMembers, bind_eq_ok] at h
    obtain ⟨name, _, h⟩ := h
    split_ifs at h
    · rw [bind_eq_ok] at h
      obtain ⟨next, put, h⟩ := h
      exact ih small.2 (keeps _ _ _ _ _ small.1 start put) h
    · rw [bind_eq_ok] at h
      obtain ⟨_, _, h⟩ := h
      exact ih small.2 start h

lemma putItems_keeps (keeps : form.Keeps Inv) {source : Source} {stop : Option Fault} {taken : ℕ}
    {fields : List String} {items : List Outline} {draft draft' : σ}
    (small : Outline.SmallItems items) (start : Inv draft)
    (h : form.putItems source stop taken fields items draft = .ok draft') : Inv draft' := by
  induction fields generalizing taken items draft with
  | nil =>
    rw [putItems, bind_eq_ok] at h
    obtain ⟨_, _, done⟩ := h
    rwa [← Except.ok.inj done]
  | cons name fields ih =>
    cases items with
    | nil =>
      rw [putItems, bind_eq_ok] at h
      obtain ⟨_, _, h⟩ := h
      split_ifs at h
      exact ih small start h
    | cons v left =>
      rw [Outline.SmallItems] at small
      rw [putItems, bind_eq_ok] at h
      obtain ⟨next, put, h⟩ := h
      exact ih small.2 (keeps _ _ _ _ _ small.1 start put) h

/-- A property of the first draft that every member keeps is one of the record. -/
theorem yields_decode (Inv : σ → Prop) (keeps : form.Keeps Inv) {draft : σ} (start : Inv draft) :
    (form.decode draft).Yields Inv := by
  intro source v draft' small h
  rw [decode.eq_def] at h
  split at h
  · rw [Outline.Small] at small
    exact putMembers_keeps keeps small start h
  · rw [Outline.Small] at small
    exact putItems_keeps keeps small start h
  · exact absurd h (mismatch_ne_ok _ _ _)

end RecordForm

namespace Decoder

variable {α β τ : Type}

lemma required_eq_ok {name : String} {a? : Option α} {a : α} : required name a? = .ok a ↔ a? = some a := by
  cases a? <;> simp [required]

/-- The member of a record with one member. -/
theorem yields_single {title name : String} {decode : Decoder α} {P : α → Prop} (h : decode.Yields P) :
    (single title (name, decode)).Yields P := by
  intro source v a small decoded
  rw [single, bind_eq_ok] at decoded
  obtain ⟨draft, read, present⟩ := decoded
  have inv : ∀ a, draft = some a → P a := by
    refine RecordForm.yields_decode (fun d : Option α => ∀ a, d = some a → P a) ?_ ?_
      source v draft small read
    · intro source _ v _ draft' small _ put
      obtain ⟨a, decoded, rfl⟩ := map_eq_ok.mp put
      rintro _ ⟨⟩
      exact h _ _ _ small decoded
    · exact fun _ h => absurd h.symm (Option.some_ne_none _)
  exact inv a (required_eq_ok.mp present)

/-- The members of a record with two members. -/
theorem yields_pair {title : String} {first : String × Decoder α} {second : String × Decoder β}
    {P : α → Prop} {Q : β → Prop} (hP : first.2.Yields P) (hQ : second.2.Yields Q) :
    (pair title first second).Yields fun r => P r.1 ∧ Q r.2 := by
  intro source v r small decoded
  rw [pair, bind_eq_ok] at decoded
  obtain ⟨⟨a?, b?⟩, read, decoded⟩ := decoded
  have inv : (∀ a, a? = some a → P a) ∧ ∀ b, b? = some b → Q b := by
    refine RecordForm.yields_decode
      (fun d : Option α × Option β => (∀ a, d.1 = some a → P a) ∧ ∀ b, d.2 = some b → Q b) ?_ ?_
      source v (a?, b?) small read
    · intro source name v draft draft' small start put
      dsimp only at put
      split_ifs at put
      · obtain ⟨a, decoded, rfl⟩ := map_eq_ok.mp put
        refine ⟨?_, start.2⟩
        rintro _ ⟨⟩
        exact hP _ _ _ small decoded
      · obtain ⟨b, decoded, rfl⟩ := map_eq_ok.mp put
        refine ⟨start.1, ?_⟩
        rintro _ ⟨⟩
        exact hQ _ _ _ small decoded
    · exact ⟨fun _ h => absurd h.symm (Option.some_ne_none _),
        fun _ h => absurd h.symm (Option.some_ne_none _)⟩
  dsimp only at decoded
  rw [bind_eq_ok] at decoded
  obtain ⟨a, ha, decoded⟩ := decoded
  rw [bind_eq_ok] at decoded
  obtain ⟨b, hb, done⟩ := decoded
  rw [← Except.ok.inj done]
  exact ⟨inv.1 a (required_eq_ok.mp ha), inv.2 b (required_eq_ok.mp hb)⟩

/-! ### Tagged records -/

lemma taggedMembers_small {tagName : String} {choices : List (String × τ)} {source : Source}
    {stop : Option Fault} {tag tag' : Option τ} {members kept : List (Key × Outline)}
    (small : Outline.SmallMembers members)
    (h : taggedMembers tagName choices source stop tag members = .ok (tag', kept)) :
    Outline.SmallMembers kept := by
  induction members generalizing tag tag' kept with
  | nil =>
    rw [taggedMembers, bind_eq_ok] at h
    obtain ⟨_, _, done⟩ := h
    rw [← (Prod.mk.inj (Except.ok.inj done)).2]
    exact small
  | cons m rest ih =>
    obtain ⟨key, v⟩ := m
    rw [Outline.SmallMembers] at small
    rw [taggedMembers, bind_eq_ok] at h
    obtain ⟨name, _, h⟩ := h
    split_ifs at h
    · rw [bind_eq_ok] at h
      obtain ⟨_, _, h⟩ := h
      exact ih small.2 h
    · rw [bind_eq_ok] at h
      obtain ⟨_, _, h⟩ := h
      rw [bind_eq_ok] at h
      obtain ⟨⟨tag₁, more⟩, tail, done⟩ := h
      rw [← (Prod.mk.inj (Except.ok.inj done)).2, Outline.SmallMembers]
      exact ⟨small.1, ih small.2 tail⟩

/-- What is left to the decoder of a kind has small numbers. -/
theorem yields_tagged (title tagName : String) (choices : List (String × τ)) :
    (tagged title tagName choices).Yields fun t => t.content.Small := by
  intro source v t small h
  rw [tagged.eq_def] at h
  split at h
  · cases h
  · cases h
  · rw [Outline.Small] at small
    rw [bind_eq_ok] at h
    obtain ⟨⟨tag, kept⟩, members, h⟩ := h
    dsimp only at h
    rw [bind_eq_ok] at h
    obtain ⟨_, _, done⟩ := h
    rw [← Except.ok.inj done, Outline.Small]
    exact taggedMembers_small small members
  · rename_i items _ _
    rw [Outline.Small] at small
    cases items with
    | nil =>
      rw [taggedItems, bind_eq_ok] at h
      obtain ⟨_, _, h⟩ := h
      cases h
    | cons v rest =>
      rw [Outline.SmallItems] at small
      rw [taggedItems, bind_eq_ok] at h
      obtain ⟨_, _, h⟩ := h
      rw [bind_eq_ok] at h
      obtain ⟨_, _, h⟩ := h
      rw [bind_eq_ok] at h
      obtain ⟨_, _, done⟩ := h
      rw [← Except.ok.inj done, Outline.Small]
      exact small.2
  · exact absurd h (mismatch_ne_ok _ _ _)

end Decoder

/-- What is decoded from a text has the property of what its decoder yields. -/
theorem decodeText_yields {α : Type} {decode : Decoder α} {P : α → Prop} (h : decode.Yields P)
    {text : List Char} {a : α} (decoded : decodeText decode text = .ok a) : P a := by
  have small := Outline.small_ofText text
  rw [decodeText] at decoded
  dsimp only at decoded
  rw [bind_eq_ok] at decoded
  obtain ⟨b, read, done⟩ := decoded
  split_ifs at done
  rw [← Except.ok.inj done]
  exact h _ _ _ small read

end LoadingCheck.Json
