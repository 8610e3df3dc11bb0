import LoadingCheck.Proofs.Json.Bounds
import LoadingCheck.Proofs.Json.Extent

set_option relaxedAutoImplicit false
set_option autoImplicit false

/-!
# Values that are cut off

A text that ends inside a value leaves a fault in it. Such a value still has an outline, and may be decoded
in part, but it cannot be read as a whole; and a record whose tag may come late is read as a whole before it
is decoded.

## Main definitions

* `LoadingCheck.Json.Outline.Unreadable` — a value with a fault in it.

## Main results

* `LoadingCheck.Json.Outline.unreadable_of_cut` — a value that is cut off cannot be read.
* `LoadingCheck.Json.Decoder.read_of_tagged` — a record with a tag is read as a whole.
-/

namespace LoadingCheck.Json

namespace Outline

/-! ### Values that are cut off -/

lemma readItems_cons_ok {room : ℕ} {v : Outline} {rest : List Outline} {js : List Json}
    (h : readItems room (v :: rest) = .ok js) :
    ∃ j js', v.read room = .ok j ∧ readItems room rest = .ok js' ∧ js = j :: js' := by
  rw [readItems, bind_eq_ok] at h
  obtain ⟨j, first, h⟩ := h
  rw [bind_eq_ok] at h
  obtain ⟨js', more, done⟩ := h
  exact ⟨j, js', first, more, (Except.ok.inj done).symm⟩

/-- Members that are read have names. -/
lemma readMembers_cons_ok {room : ℕ} {key : Key} {v : Outline} {rest : List (Key × Outline)}
    {js : List (String × Json)} (h : readMembers room ((key, v) :: rest) = .ok js) :
    ∃ name j js', key = .name name ∧ v.read room = .ok j ∧ readMembers room rest = .ok js' ∧
      js = (name, j) :: js' := by
  cases key with
  | name name =>
    rw [readMembers, bind_eq_ok] at h
    obtain ⟨j, first, h⟩ := h
    rw [bind_eq_ok] at h
    obtain ⟨js', more, done⟩ := h
    exact ⟨name, j, js', rfl, first, more, (Except.ok.inj done).symm⟩
  | unpaired | misplaced | broken => cases h

lemma closed_ok {stop : Option Fault} {u : Unit} (h : closed stop = .ok u) : stop = none := by
  cases stop with
  | none => rfl
  | some fault => cases h

/-- A value with a fault in it cannot be read, however much room there is. -/
def Unreadable (v : Outline) : Prop :=
  ∀ room j, v.read room ≠ .ok j

lemma unreadable_broken (start : Option Char) (onRead onSkip : Fault) :
    (broken start onRead onSkip).Unreadable := by
  intro room j h
  rw [read] at h
  cases h

lemma unreadable_array {items : List Outline} {stop : Option Fault}
    (h : ∀ room js, readItems room items = .ok js → stop ≠ none) : (array items stop).Unreadable := by
  rintro (_ | room) j done
  · cases done
  · rw [read, bind_eq_ok] at done
    obtain ⟨js, inside, done⟩ := done
    rw [bind_eq_ok] at done
    obtain ⟨_, ends, _⟩ := done
    exact h room js inside (closed_ok ends)

lemma unreadable_object {members : List (Key × Outline)} {stop : Option Fault}
    (h : ∀ room js, readMembers room members = .ok js → stop ≠ none) :
    (object members stop).Unreadable := by
  rintro (_ | room) j done
  · cases done
  · rw [read, bind_eq_ok] at done
    obtain ⟨js, inside, done⟩ := done
    rw [bind_eq_ok] at done
    obtain ⟨_, ends, _⟩ := done
    exact h room js inside (closed_ok ends)

lemma readString_cut {s : List Char} {key : Key} (h : readString s = (key, none)) :
    ∃ onRead onSkip, key = .broken onRead onSkip := by
  rw [readString] at h
  split at h <;> split at h <;> cases h <;> exact ⟨_, _, rfl⟩

lemma unreadable_readWord {start : Char} {value v : Outline} {word s : List Char}
    (h : readWord start value word s = (v, none)) : v.Unreadable := by
  induction word generalizing s with
  | nil => cases h
  | cons w word ih =>
    cases s with
    | nil =>
      cases h
      exact unreadable_broken _ _ _
    | cons c s =>
      rw [readWord] at h
      split_ifs at h
      · exact ih h
      · cases h
        exact unreadable_broken _ _ _

lemma unreadable_readNumber {s : List Char} {v : Outline} (h : readNumber s = (v, none)) :
    v.Unreadable := by
  rw [readNumber] at h
  split at h
  · cases h
    exact unreadable_broken _ _ _
  · split at h <;> cases h

/-- What stands behind an opening bracket, if the text does not come to the closing one. -/
lemma unreadable_bracketed {β : Type} {close : Char} {cut empty v : Outline}
    {wrap : β → Option Fault → Outline}
    {inside : List Char → β × Option Fault × Option (List Char)} {s : List Char}
    (open' : cut.Unreadable)
    (unfinished : ∀ b stop, inside s = (b, stop, none) → (wrap b stop).Unreadable)
    (h : bracketed close cut empty wrap inside s = (v, none)) : v.Unreadable := by
  cases s with
  | nil =>
    cases h
    exact open'
  | cons c s =>
    rw [bracketed] at h
    split_ifs at h
    · cases h
    · rcases read : inside (c :: s) with ⟨b, stop, next⟩
      rw [read] at h
      cases h
      exact unfinished b stop read

/-- **Proof sketch.** Induction on the number of steps, for values, items and members at once. A text that
ends inside an array or object leaves a fault in its last item or member or behind it. -/
lemma cut_at (n : ℕ) :
    (∀ s v, valueAt n s = (v, none) → v.Unreadable) ∧
      (∀ s vs stop, itemsAt n s = (vs, stop, none) → ∀ room js, readItems room vs = .ok js → stop ≠ none) ∧
      ∀ s ms stop, membersAt n s = (ms, stop, none) →
        ∀ room js, readMembers room ms = .ok js → stop ≠ none := by
  induction n with
  | zero =>
    refine ⟨fun s v h => ?_, fun s vs stop h => ?_, fun s ms stop h => ?_⟩
    · rw [valueAt] at h
      cases h
      exact unreadable_broken _ _ _
    · rw [itemsAt] at h
      cases h
      exact fun _ _ _ => Option.some_ne_none _
    · rw [membersAt] at h
      cases h
      exact fun _ _ _ => Option.some_ne_none _
  | succ n ih =>
    obtain ⟨values, items, members⟩ := ih
    refine ⟨fun s v h => ?_, fun s vs stop h room js done => ?_, fun s ms stop h room js done => ?_⟩
    · have whole := h
      rw [valueAt] at h
      split at h
      · cases h
        exact unreadable_broken _ _ _
      · rename_i inner _
        rcases key : readString inner with ⟨key, next⟩
        rw [key] at h
        cases h
        obtain ⟨onRead, onSkip, rfl⟩ := readString_cut key
        exact unreadable_broken _ _ _
      · rename_i inner bracket
        rw [valueAt_bracket n bracket] at whole
        exact unreadable_bracketed (unreadable_array fun _ _ _ => Option.some_ne_none _)
          (fun vs stop read => unreadable_array (items _ vs stop read)) whole
      · rename_i inner brace
        rw [valueAt_brace n brace] at whole
        exact unreadable_bracketed (unreadable_object fun _ _ _ => Option.some_ne_none _)
          (fun ms stop read => unreadable_object (members _ ms stop read)) whole
      · exact unreadable_readWord h
      · exact unreadable_readWord h
      · exact unreadable_readWord h
      · split_ifs at h
        · exact unreadable_readNumber h
        · cases h
          exact unreadable_broken _ _ _
    · rw [itemsAt] at h
      split at h
      · rename_i v value
        cases h
        obtain ⟨j, _, first, _⟩ := readItems_cons_ok done
        exact absurd first (values s v value room j)
      · split at h
        · cases h
          exact Option.some_ne_none _
        · cases h
        · rename_i more _
          rcases read : itemsAt n more with ⟨vs', stop', next⟩
          rw [read] at h
          cases h
          obtain ⟨_, js', _, tail, _⟩ := readItems_cons_ok done
          exact items more vs' stop read room js' tail
        · cases h
          exact Option.some_ne_none _
    · rw [membersAt] at h
      split at h
      · cases h
        cases done
      · split at h
        · rename_i key read
          cases h
          obtain ⟨onRead, onSkip, rfl⟩ := readString_cut read
          cases done
        · split at h
          · cases h
            obtain ⟨_, j, _, _, first, _⟩ := readMembers_cons_ok done
            exact absurd first (unreadable_broken _ _ _ room j)
          · rename_i rest _
            split at h
            · rename_i v value
              cases h
              obtain ⟨_, j, _, _, first, _⟩ := readMembers_cons_ok done
              exact absurd first (values rest v value room j)
            · split at h
              · cases h
                exact Option.some_ne_none _
              · cases h
              · rename_i more _
                rcases read : membersAt n more with ⟨ms', stop', next⟩
                rw [read] at h
                cases h
                obtain ⟨_, _, js', _, _, tail, _⟩ := readMembers_cons_ok done
                exact members more ms' stop read room js' tail
              · cases h
                exact Option.some_ne_none _
          · cases h
            obtain ⟨_, j, _, _, first, _⟩ := readMembers_cons_ok done
            exact absurd first (unreadable_broken _ _ _ room j)
      · cases h
        obtain ⟨name, _, _, key, _, _⟩ := readMembers_cons_ok done
        rw [asKey] at key
        split at key <;> cases key

/-- **A value that is cut off cannot be read.** -/
theorem unreadable_of_cut {n : ℕ} {s : List Char} {v : Outline} (h : valueAt n s = (v, none)) :
    v.Unreadable :=
  (cut_at n).1 s v h

end Outline

/-! ### Tagged records -/

namespace Decoder

variable {τ : Type}

lemma ofFault_eq_ok {α : Type} {r : Except Fault α} {a : α} (h : ofFault r = .ok a) : r = .ok a := by
  cases r with
  | error fault => cases h
  | ok b => rw [← Except.ok.inj h]

/-- A tag that is taken from a text can be read. -/
lemma read_of_identifier {choices : List (String × τ)} {source : Source} {v : Outline} {t : τ}
    (h : identifier choices source v = .ok t) (room : ℕ) : ∃ j, v.read room = .ok j := by
  rw [identifier, bind_eq_ok] at h
  obtain ⟨name, text, _⟩ := h
  rw [stringAs.eq_def] at text
  split at text
  · exact ⟨_, by rw [Outline.read]⟩
  · exact absurd text (mismatch_ne_ok _ _ _)

lemma read_of_keep {room : ℕ} {v : Outline} {u : Unit} (h : keep (.text room) v = .ok u) :
    ∃ j, v.read room = .ok j := by
  rw [keep, bind_eq_ok] at h
  obtain ⟨j, read, _⟩ := h
  exact ⟨j, ofFault_eq_ok read⟩

lemma keyName_eq_ok {key : Key} {name : String} (h : keyName key = .ok name) : key = .name name := by
  cases key with
  | name k => rw [← Except.ok.inj h]
  | unpaired | misplaced | broken => cases h

/-- The members of a tagged record can be read, and nothing is wrong behind them. -/
lemma read_of_taggedMembers {tagName : String} {choices : List (String × τ)} {room : ℕ}
    {stop : Option Fault} {tag tag' : Option τ} {members kept : List (Key × Outline)}
    (h : taggedMembers tagName choices (.text room) stop tag members = .ok (tag', kept)) :
    stop = none ∧ ∃ js, Outline.readMembers room members = .ok js := by
  induction members generalizing tag tag' kept with
  | nil =>
    rw [taggedMembers, bind_eq_ok] at h
    obtain ⟨_, ends, _⟩ := h
    exact ⟨Outline.closed_ok (ofFault_eq_ok ends), [], by rw [Outline.readMembers]⟩
  | cons m rest ih =>
    obtain ⟨key, v⟩ := m
    rw [taggedMembers, bind_eq_ok] at h
    obtain ⟨name, named, h⟩ := h
    rw [keyName_eq_ok named]
    have both : ∀ {j js}, v.read room = .ok j → Outline.readMembers room rest = .ok js →
        ∃ js, Outline.readMembers room ((.name name, v) :: rest) = .ok js := fun {j js} first more =>
      ⟨(name, j) :: js, by rw [Outline.readMembers, first, more]; rfl⟩
    split_ifs at h
    · rw [bind_eq_ok] at h
      obtain ⟨t, tagged, h⟩ := h
      obtain ⟨ends, js, more⟩ := ih h
      obtain ⟨j, first⟩ := read_of_identifier tagged room
      exact ⟨ends, both first more⟩
    · rw [bind_eq_ok] at h
      obtain ⟨_, kept, h⟩ := h
      rw [bind_eq_ok] at h
      obtain ⟨⟨tag₁, left⟩, tail, _⟩ := h
      obtain ⟨ends, js, more⟩ := ih tail
      obtain ⟨j, first⟩ := read_of_keep kept
      exact ⟨ends, both first more⟩

/-- **A tagged record is read as a whole**, whatever becomes of its content. -/
theorem read_of_tagged {title tagName : String} {choices : List (String × τ)} {room : ℕ}
    {members : List (Key × Outline)} {stop : Option Fault} {t : Tagged τ}
    (h : tagged title tagName choices (.text room) (.object members stop) = .ok t) :
    ∃ j, (Outline.object members stop).read room = .ok j := by
  cases room with
  | zero => cases h
  | succ room =>
    rw [tagged, bind_eq_ok] at h
    · obtain ⟨⟨tag, kept⟩, read, _⟩ := h
      rw [Source.inside, Nat.add_sub_cancel] at read
      obtain ⟨rfl, js, inside⟩ := read_of_taggedMembers read
      exact ⟨.object js, by rw [Outline.read, inside]; rfl⟩
    · exact fun none => absurd none (by simp)

end Decoder

end LoadingCheck.Json
