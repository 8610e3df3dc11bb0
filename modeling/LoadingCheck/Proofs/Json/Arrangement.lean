import LoadingCheck.Proofs.Json.Members
import Mathlib.Data.List.Perm.Basic

set_option relaxedAutoImplicit false
set_option autoImplicit false

/-!
# The order of members

Two values may differ only in the order in which the members of their objects stand. As long as no object has
two members of one name, a value differs in no other way from the one with its members in the order of their
names.

## Main definitions

* `LoadingCheck.Json.Rearranged` — values that differ at most in the order of members.
* `LoadingCheck.Json.DistinctNames` — the objects of a value have one member for each name.

## Main results

* `LoadingCheck.Json.Rearranged.depth_eq` — the order does not matter for the depth.
* `LoadingCheck.Json.rearranged_sorted` — members can be sorted.
-/

namespace LoadingCheck.Json

mutual

/-- The members of the objects of a value stand in another order in the other value, if they differ at all. -/
inductive Rearranged : Json → Json → Prop where
  | null : Rearranged .null .null
  | boolean (b : Bool) : Rearranged (.boolean b) (.boolean b)
  | number (n : Number) : Rearranged (.number n) (.number n)
  | string (s : String) : Rearranged (.string s) (.string s)
  | array {vs ws : List Json} (items : RearrangedItems vs ws) : Rearranged (.array vs) (.array ws)
  | object {ms ms' ks : List (String × Json)} (members : RearrangedMembers ms ms') (order : ms'.Perm ks) :
      Rearranged (.object ms) (.object ks)

/-- Item by item the values differ at most in the order of members. -/
inductive RearrangedItems : List Json → List Json → Prop where
  | nil : RearrangedItems [] []
  | cons {v w : Json} {vs ws : List Json} (value : Rearranged v w) (rest : RearrangedItems vs ws) :
      RearrangedItems (v :: vs) (w :: ws)

/-- The same names in the same order, and name by name values that differ at most in the order of members. -/
inductive RearrangedMembers : List (String × Json) → List (String × Json) → Prop where
  | nil : RearrangedMembers [] []
  | cons {name : String} {v w : Json} {ms ks : List (String × Json)} (value : Rearranged v w)
      (rest : RearrangedMembers ms ks) : RearrangedMembers ((name, v) :: ms) ((name, w) :: ks)

end

mutual

/-- No object of a value has two members of one name. -/
def DistinctNames : Json → Prop
  | .array items => DistinctNamesItems items
  | .object members => (members.map Prod.fst).Nodup ∧ DistinctNamesMembers members
  | .null => True
  | .boolean _ => True
  | .number _ => True
  | .string _ => True

/-- No object of one of the items has two members of one name. -/
def DistinctNamesItems : List Json → Prop
  | [] => True
  | v :: rest => DistinctNames v ∧ DistinctNamesItems rest

/-- No object of the value of one of the members has two members of one name. -/
def DistinctNamesMembers : List (String × Json) → Prop
  | [] => True
  | (_, v) :: rest => DistinctNames v ∧ DistinctNamesMembers rest

end

/-! ### What the order does not matter for -/

lemma depthMembers_perm {ms ks : List (String × Json)} (order : ms.Perm ks) :
    depthMembers ms = depthMembers ks := by
  induction order with
  | nil => rfl
  | cons m _ ih => rw [depthMembers, depthMembers, ih]
  | swap m k ms =>
    simp only [depthMembers]
    omega
  | trans _ _ ih ih' => rw [ih, ih']

mutual

/-- Values that differ in the order of members have the same depth. -/
theorem Rearranged.depth_eq : ∀ {v w : Json}, Rearranged v w → v.depth = w.depth
  | _, _, .null | _, _, .boolean _ | _, _, .number _ | _, _, .string _ => rfl
  | _, _, .array items => by rw [depth, depth, items.depth_eq]
  | _, _, .object members order => by rw [depth, depth, members.depth_eq, depthMembers_perm order]

theorem RearrangedItems.depth_eq : ∀ {vs ws : List Json}, RearrangedItems vs ws →
    depthItems vs = depthItems ws
  | _, _, .nil => rfl
  | _, _, .cons value rest => by rw [depthItems, depthItems, value.depth_eq, rest.depth_eq]

theorem RearrangedMembers.depth_eq : ∀ {ms ks : List (String × Json)}, RearrangedMembers ms ks →
    depthMembers ms = depthMembers ks
  | _, _, .nil => rfl
  | _, _, .cons value rest => by rw [depthMembers, depthMembers, value.depth_eq, rest.depth_eq]

end

mutual

/-- The members may stand as they are. -/
theorem Rearranged.refl : ∀ v : Json, Rearranged v v
  | .null => .null
  | .boolean b => .boolean b
  | .number n => .number n
  | .string s => .string s
  | .array vs => .array (RearrangedItems.refl vs)
  | .object ms => .object (RearrangedMembers.refl ms) (.refl ms)

theorem RearrangedItems.refl : ∀ vs : List Json, RearrangedItems vs vs
  | [] => .nil
  | v :: vs => .cons (Rearranged.refl v) (RearrangedItems.refl vs)

theorem RearrangedMembers.refl : ∀ ms : List (String × Json), RearrangedMembers ms ms
  | [] => .nil
  | (_, v) :: ms => .cons (Rearranged.refl v) (RearrangedMembers.refl ms)

end

namespace Rearranged

variable {v w : Json}

lemma eq_null_iff (h : Rearranged v w) : v = .null ↔ w = .null := by
  cases h <;> simp

lemma eq_boolean_iff (h : Rearranged v w) {b : Bool} : v = .boolean b ↔ w = .boolean b := by
  cases h <;> simp

lemma eq_number_iff (h : Rearranged v w) {n : Number} : v = .number n ↔ w = .number n := by
  cases h <;> simp

lemma eq_string_iff (h : Rearranged v w) {s : String} : v = .string s ↔ w = .string s := by
  cases h <;> simp

lemma eq_empty_iff (h : Rearranged v w) : v = .object [] ↔ w = .object [] := by
  cases h with
  | null | boolean | number | string | array => simp
  | object members order =>
    cases members with
    | nil => rw [List.nil_perm.mp order]
    | cons value rest =>
      constructor
      · rintro ⟨⟩
      · rintro ⟨⟩
        exact absurd (List.perm_nil.mp order) (List.cons_ne_nil _ _)

variable {name : String} {ms ks : List (String × Json)}

/-- An only member stays the only one. -/
lemma single_left (h : Rearranged (.object [(name, v)]) (.object ks)) :
    ∃ w, ks = [(name, w)] ∧ Rearranged v w := by
  cases h with
  | object members order =>
    cases members with
    | cons value rest =>
      cases rest
      exact ⟨_, List.singleton_perm.mp order |>.symm, value⟩

lemma single_right (h : Rearranged (.object ms) (.object [(name, w)])) :
    ∃ v, ms = [(name, v)] ∧ Rearranged v w := by
  cases h with
  | object members order =>
    rw [List.perm_singleton] at order
    subst order
    cases members with
    | cons value rest =>
      cases rest
      exact ⟨_, rfl, value⟩

end Rearranged

/-! ### The members of a name -/

lemma RearrangedMembers.valuesOf (name : String) : ∀ {ms ks : List (String × Json)}, RearrangedMembers ms ks →
    RearrangedItems (valuesOf name ms) (valuesOf name ks)
  | _, _, .nil => .nil
  | (n, _) :: _, _, .cons value rest => by
    by_cases same : n = name
    · rw [same, valuesOf_cons_self, valuesOf_cons_self]
      exact .cons value (rest.valuesOf name)
    · rw [valuesOf_cons_of_ne same, valuesOf_cons_of_ne same]
      exact rest.valuesOf name

lemma RearrangedMembers.without (name : String) : ∀ {ms ks : List (String × Json)}, RearrangedMembers ms ks →
    RearrangedMembers (without name ms) (without name ks)
  | _, _, .nil => .nil
  | (n, _) :: _, _, .cons value rest => by
    by_cases same : n = name
    · rw [same, without_cons_self, without_cons_self]
      exact rest.without name
    · rw [without_cons_of_ne same, without_cons_of_ne same]
      exact .cons value (rest.without name)

namespace Rearranged

variable {ms ks : List (String × Json)}

/-- The only value of a name stays the only one. -/
lemma valuesOf_eq_string_iff (h : Rearranged (.object ms) (.object ks)) {name s : String} :
    valuesOf name ms = [.string s] ↔ valuesOf name ks = [.string s] := by
  cases h with
  | object members order =>
    have order : (valuesOf name _).Perm (valuesOf name ks) := order.filterMap _
    have single : ∀ {vs ws : List Json}, RearrangedItems vs ws → (vs = [.string s] ↔ ws = [.string s]) := by
      intro vs ws items
      cases items with
      | nil => simp
      | cons value rest => cases rest <;> simp [value.eq_string_iff]
    rw [single (members.valuesOf name)]
    constructor
    · intro only
      rw [only] at order
      exact (List.singleton_perm.mp order).symm
    · intro only
      rw [only] at order
      exact List.perm_singleton.mp order

/-- The members of other names differ at most in their order. -/
lemma without (h : Rearranged (.object ms) (.object ks)) (name : String) :
    Rearranged (.object (without name ms)) (.object (without name ks)) := by
  cases h with
  | object members order => exact .object (members.without name) (order.filter _)

end Rearranged

/-! ### Members in the order of their names -/

/-- A member of a new name is added to the others. -/
lemma perm_insertMember {name : String} {v : Json} {ms : List (String × Json)}
    (new : name ∉ ms.map Prod.fst) : (insertMember name v ms).Perm ((name, v) :: ms) := by
  induction ms with
  | nil => exact .refl _
  | cons m ms ih =>
    obtain ⟨other, w⟩ := m
    rw [List.map_cons, List.mem_cons, not_or] at new
    rw [insertMember]
    split_ifs with less same
    · exact .refl _
    · exact absurd same new.1
    · exact ((ih new.2).cons _).trans (.swap _ _ _)

/-- Members of new and different names are added to sorted ones. -/
lemma perm_sortedMembers {ms done : List (String × Json)} (different : (ms.map Prod.fst).Nodup)
    (new : (ms.map Prod.fst).Disjoint (done.map Prod.fst)) :
    (sortedMembers ms done).Perm (ms.map (fun m => (m.1, m.2.sorted)) ++ done) := by
  induction ms generalizing done with
  | nil => exact .refl _
  | cons m ms ih =>
    obtain ⟨name, v⟩ := m
    rw [List.map_cons, List.nodup_cons] at different
    rw [List.map_cons, List.disjoint_cons_left] at new
    have added := perm_insertMember (v := v.sorted) new.1
    have new' : (ms.map Prod.fst).Disjoint ((insertMember name v.sorted done).map Prod.fst) := by
      rw [(added.map Prod.fst).disjoint_right, List.map_cons, List.disjoint_cons_right]
      exact ⟨different.1, new.2⟩
    rw [sortedMembers]
    calc (sortedMembers ms (insertMember name v.sorted done)).Perm
          (ms.map (fun m => (m.1, m.2.sorted)) ++ insertMember name v.sorted done) := ih different.2 new'
      List.Perm _ (ms.map (fun m => (m.1, m.2.sorted)) ++ (name, v.sorted) :: done) := added.append_left _
      List.Perm _ ((name, v.sorted) :: (ms.map (fun m => (m.1, m.2.sorted)) ++ done)) := List.perm_middle

mutual

/-- If no object has two members of one name, sorting changes nothing but the order of the members. -/
theorem rearranged_sorted : ∀ {v : Json}, v.DistinctNames → Rearranged v v.sorted
  | .null, _ => .null
  | .boolean b, _ => .boolean b
  | .number n, _ => .number n
  | .string s, _ => .string s
  | .array items, different => by
    rw [DistinctNames] at different
    rw [sorted]
    exact .array (rearrangedItems_sorted different)
  | .object members, different => by
    rw [DistinctNames] at different
    rw [sorted]
    have order : (sortedMembers members []).Perm (members.map (fun m => (m.1, m.2.sorted)) ++ []) :=
      perm_sortedMembers different.1 (List.disjoint_nil_right _)
    rw [List.append_nil] at order
    exact .object (rearrangedMembers_sorted different.2) order.symm
termination_by v => sizeOf v

theorem rearrangedItems_sorted : ∀ {vs : List Json}, DistinctNamesItems vs →
    RearrangedItems vs (sortedItems vs)
  | [], _ => .nil
  | v :: rest, different => by
    rw [DistinctNamesItems] at different
    exact .cons (rearranged_sorted different.1) (rearrangedItems_sorted different.2)
termination_by vs => sizeOf vs

theorem rearrangedMembers_sorted : ∀ {ms : List (String × Json)}, DistinctNamesMembers ms →
    RearrangedMembers ms (ms.map fun m => (m.1, m.2.sorted))
  | [], _ => .nil
  | (name, v) :: rest, different => by
    rw [DistinctNamesMembers] at different
    exact .cons (rearranged_sorted different.1) (rearrangedMembers_sorted different.2)
termination_by ms => sizeOf ms

end

end LoadingCheck.Json
