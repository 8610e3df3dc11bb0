import LoadingCheck.Proofs.Json.Cut
import LoadingCheck.Proofs.Json.Decode
import LoadingCheck.Proofs.Json.Grammar
import LoadingCheck.Proofs.Json.Text
import Mathlib.Data.List.DropRight

set_option relaxedAutoImplicit false
set_option autoImplicit false

/-!
# What a text stands for

The grammar of JSON: which texts stand for a value, and for which one. The members of an object keep their
order, and a name may occur more than once. Nothing in the grammar says how a text is read; the reader is shown
to accept exactly the texts of the grammar, and to find the value that they stand for.

## Main definitions

* `LoadingCheck.Json.Denotes` — texts and their values, with white space around them.

## Main results

* `LoadingCheck.Json.Outline.ofText_eq_iff` — the outline of a text is that of a value exactly if the text
  stands for the value.
* `LoadingCheck.Json.Outline.read_eq_ok_iff` — what can be read is the outline of a value that is not nested
  too deeply.
* `LoadingCheck.Json.parse?_eq_some_iff` — the reader accepts exactly the texts of the grammar.
* `LoadingCheck.Json.Denotes.unique` — a text stands for one value at most.
-/

namespace LoadingCheck.Json

/-- White space only. -/
def Space (s : List Char) : Prop :=
  ∀ c ∈ s, isSpace c = true

/-- The name of a member, with white space around it. -/
def Named (s : List Char) (name : String) : Prop :=
  ∃ gap body gap', Space gap ∧ Characters body name.toList ∧ Space gap' ∧
    s = gap ++ '"' :: (body ++ '"' :: gap')

mutual

/-- A text stands for a value. -/
inductive Denotes : List Char → Json → Prop where
  | null : Denotes ['n', 'u', 'l', 'l'] .null
  | true : Denotes ['t', 'r', 'u', 'e'] (.boolean true)
  | false : Denotes ['f', 'a', 'l', 's', 'e'] (.boolean false)
  | number {s : List Char} {n : Number} (written : n.Written s) : Denotes s (.number n)
  | string {body : List Char} {s : String} (inside : Characters body s.toList) :
      Denotes ('"' :: (body ++ ['"'])) (.string s)
  | empty_array {gap : List Char} (space : Space gap) : Denotes ('[' :: (gap ++ [']'])) (.array [])
  | array {s : List Char} {vs : List Json} (items : DenotesItems s vs) :
      Denotes ('[' :: (s ++ [']'])) (.array vs)
  | empty_object {gap : List Char} (space : Space gap) : Denotes ('\x7b' :: (gap ++ ['\x7d'])) (.object [])
  | object {s : List Char} {ms : List (String × Json)} (members : DenotesMembers s ms) :
      Denotes ('\x7b' :: (s ++ ['\x7d'])) (.object ms)
  | space_before {c : Char} {s : List Char} {v : Json} (space : isSpace c = .true) (value : Denotes s v) :
      Denotes (c :: s) v
  | space_behind {c : Char} {s : List Char} {v : Json} (value : Denotes s v) (space : isSpace c = .true) :
      Denotes (s ++ [c]) v

/-- A text stands for the items of an array. -/
inductive DenotesItems : List Char → List Json → Prop where
  | last {s : List Char} {v : Json} (value : Denotes s v) : DenotesItems s [v]
  | more {s t : List Char} {v : Json} {vs : List Json} (value : Denotes s v) (rest : DenotesItems t vs) :
      DenotesItems (s ++ ',' :: t) (v :: vs)

/-- A text stands for the members of an object. -/
inductive DenotesMembers : List Char → List (String × Json) → Prop where
  | last {s t : List Char} {name : String} {v : Json} (named : Named s name) (value : Denotes t v) :
      DenotesMembers (s ++ ':' :: t) [(name, v)]
  | more {s t u : List Char} {name : String} {v : Json} {ms : List (String × Json)} (named : Named s name)
      (value : Denotes t v) (rest : DenotesMembers u ms) :
      DenotesMembers (s ++ ':' :: (t ++ ',' :: u)) ((name, v) :: ms)

end

/-! ### White space -/

lemma space_nil : Space [] :=
  fun _ h => absurd h List.not_mem_nil

/-- A name without escapes. -/
lemma Named.of_plain (name : String)
    (h : name.toList.all (fun c => c ≠ '"' ∧ c ≠ '\\' ∧ 0x20 ≤ c.toNat) = true) :
    Named ('"' :: (name.toList ++ ['"'])) name :=
  ⟨[], name.toList, [], space_nil, .of_plain h, space_nil, rfl⟩

lemma skipSpace_append {gap : List Char} (h : Space gap) (s : List Char) :
    skipSpace (gap ++ s) = skipSpace s :=
  List.dropWhile_append_of_pos h

lemma skipSpace_cases {s t : List Char} {c : Char} (h : skipSpace s = c :: t) :
    ∃ gap, Space gap ∧ s = gap ++ c :: t :=
  ⟨s.takeWhile isSpace, fun _ => List.mem_takeWhile_imp, by rw [← h]; exact List.takeWhile_append_dropWhile.symm⟩

lemma skipSpace_skipSpace (s : List Char) : skipSpace (skipSpace s) = skipSpace s :=
  List.dropWhile_idempotent isSpace s

lemma Denotes.space_append {gap s : List Char} {v : Json} (h : Space gap) (value : Denotes s v) :
    Denotes (gap ++ s) v := by
  induction gap with
  | nil => exact value
  | cons c gap ih =>
    exact .space_before (h c List.mem_cons_self) (ih fun d hd => h d (List.mem_cons_of_mem _ hd))

lemma Denotes.append_space {gap s : List Char} {v : Json} (value : Denotes s v) (h : Space gap) :
    Denotes (s ++ gap) v := by
  induction gap generalizing s with
  | nil => rwa [List.append_nil]
  | cons c gap ih =>
    have next := ih (.space_behind value (h c List.mem_cons_self)) fun d hd => h d (List.mem_cons_of_mem _ hd)
    rwa [List.append_assoc] at next

/-- A text that stands for an object starts with its brace. -/
lemma Denotes.start_object : ∀ {s : List Char} {v : Json}, Denotes s v → ∀ ms, v = .object ms →
    ∃ gap inner, Space gap ∧ s = gap ++ '\x7b' :: inner
  | _, _, .empty_object _ => fun _ _ => ⟨[], _, space_nil, rfl⟩
  | _, _, .object _ => fun _ _ => ⟨[], _, space_nil, rfl⟩
  | _, _, .space_before space value => by
    intro ms object
    obtain ⟨gap, inner, spaces, rfl⟩ := value.start_object ms object
    exact ⟨_ :: gap, inner, List.forall_mem_cons.mpr ⟨space, spaces⟩, rfl⟩
  | _, _, .space_behind value _ => by
    intro ms object
    obtain ⟨gap, inner, spaces, rfl⟩ := value.start_object ms object
    exact ⟨gap, _, spaces, by rw [List.append_assoc, List.cons_append]⟩
  | _, _, .null | _, _, .true | _, _, .false | _, _, .number _ | _, _, .string _ | _, _, .empty_array _
  | _, _, .array _ => fun _ object => by cases object

/-- White space does not go on with a number. -/
lemma endsNumber_space {c : Char} (h : isSpace c = true) (s : List Char) : EndsNumber (c :: s) := by
  intro d hd
  rw [← Option.some.inj hd]
  simp only [isSpace, Bool.or_eq_true, beq_iff_eq] at h
  rcases h with ((rfl | rfl) | rfl) | rfl <;> decide

/-- A number in writing starts with a sign or a digit. -/
lemma Number.Written.exists_cons {s : List Char} {n : Number} (h : n.Written s) :
    ∃ c t, s = c :: t ∧ (c = '-' || c.isDigit) = true := by
  obtain ⟨l, written, _⟩ := h.literal
  cases written with
  | parts signed first =>
    simp only [List.mem_cons, Prod.mk.injEq, List.not_mem_nil, or_false] at signed
    rcases signed with ⟨rfl, rfl⟩ | ⟨rfl, rfl⟩
    · obtain ⟨c, t, rfl, digit⟩ := first.exists_cons
      exact ⟨c, _, rfl, by rw [digit, Bool.or_true]⟩
    · exact ⟨'-', _, rfl, rfl⟩

namespace Outline

/-! ### The reader accepts the grammar -/

lemma valueAt_skipSpace (n : ℕ) (s : List Char) : valueAt n (skipSpace s) = valueAt n s := by
  cases n with
  | zero => rfl
  | succ n => rw [valueAt, valueAt, skipSpace_skipSpace]

lemma itemsAt_skipSpace (n : ℕ) (s : List Char) : itemsAt n (skipSpace s) = itemsAt n s := by
  cases n with
  | zero => rfl
  | succ n => rw [itemsAt, itemsAt, valueAt_skipSpace]

lemma membersAt_skipSpace (n : ℕ) (s : List Char) : membersAt n (skipSpace s) = membersAt n s := by
  cases n with
  | zero => rfl
  | succ n => rw [membersAt, membersAt, skipSpace_skipSpace]

/-- Items do not start with a closing bracket. -/
lemma itemsAt_starts {n : ℕ} {s next : List Char} {vs : List Outline} {stop : Option Fault}
    (h : itemsAt n s = (vs, stop, some next)) : ∃ c t, skipSpace s = c :: t ∧ c ≠ ']' := by
  cases n with
  | zero => cases h
  | succ n =>
    obtain ⟨v, rest, value, _⟩ := itemsAt_succ_cases h
    cases n with
    | zero => cases value
    | succ n =>
      cases token : skipSpace s with
      | nil =>
        rw [valueAt, token] at value
        cases value
      | cons c t =>
        refine ⟨c, t, rfl, ?_⟩
        rintro rfl
        rw [valueAt, token] at value
        cases value

/-- Members start with a quotation mark. -/
lemma membersAt_starts {n : ℕ} {s next : List Char} {ms : List (Key × Outline)} {stop : Option Fault}
    (h : membersAt n s = (ms, stop, some next)) : ∃ c t, skipSpace s = c :: t ∧ c ≠ '\x7d' := by
  cases n with
  | zero => cases h
  | succ n =>
    obtain ⟨name, _, _, _, _, _, quote, _⟩ := membersAt_succ_cases h
    exact ⟨'"', name, quote, by decide⟩

/-- What stands inside brackets is read as it is, if it does not start with the closing one. -/
lemma bracketed_inside {β : Type} {close : Char} {cut empty : Outline} {wrap : β → Option Fault → Outline}
    {inside : List Char → β × Option Fault × Option (List Char)} {s rest : List Char} {b : β}
    {stop : Option Fault} (skipped : inside (skipSpace s) = inside s)
    (starts : ∃ c t, skipSpace s = c :: t ∧ c ≠ close) (h : inside s = (b, stop, some rest)) :
    bracketed close cut empty wrap inside (skipSpace s) = (wrap b stop, some rest) := by
  obtain ⟨c, t, token, other⟩ := starts
  rw [token] at skipped
  rw [token, bracketed, if_neg other, skipped, h]

lemma bracketed_empty {β : Type} {close : Char} {cut empty : Outline} {wrap : β → Option Fault → Outline}
    {inside : List Char → β × Option Fault × Option (List Char)} {gap : List Char} (space : Space gap)
    (token : isSpace close = false) (rest : List Char) :
    bracketed close cut empty wrap inside (skipSpace (gap ++ close :: rest)) = (empty, some rest) := by
  have next : skipSpace (close :: rest) = close :: rest := List.dropWhile_cons_of_neg (by simp [token])
  rw [skipSpace_append space, next, bracketed, if_pos rfl]

/-- The name of a member is read up to the colon behind it. -/
lemma readString_named {s : List Char} {name : String} (h : Named s name) (rest : List Char) :
    ∃ inner behind, skipSpace (s ++ ':' :: rest) = '"' :: inner ∧
      readString inner = (.name name, some behind) ∧ skipSpace behind = ':' :: rest := by
  obtain ⟨gap, body, gap', space, inside, space', rfl⟩ := h
  refine ⟨body ++ '"' :: (gap' ++ ':' :: rest), gap' ++ ':' :: rest, ?_, ?_, ?_⟩
  · rw [List.append_assoc, skipSpace_append space]
    simp [skipSpace, isSpace]
  · exact readString_name_iff.mpr ⟨body, rfl, inside⟩
  · rw [skipSpace_append space']
    rfl

/-- A text is read as a value, whatever ends its last number. White space behind the value is left. Twice the
length of a text leaves steps enough for the texts in it. -/
def ReadAs (s : List Char) (v : Json) : Prop :=
  ∀ n rest, 2 * s.length ≤ n → EndsNumber rest →
    ∃ gap, Space gap ∧ valueAt n (s ++ rest) = (ofJson v, some (gap ++ rest))

/-- A text is read as items up to the bracket behind it. -/
def ItemsReadAs (s : List Char) (vs : List Json) : Prop :=
  ∀ n rest, 2 * s.length + 1 ≤ n → itemsAt n (s ++ ']' :: rest) = (ofItems vs, none, some rest)

/-- A text is read as members up to the brace behind it. -/
def MembersReadAs (s : List Char) (ms : List (String × Json)) : Prop :=
  ∀ n rest, 2 * s.length + 1 ≤ n → membersAt n (s ++ '\x7d' :: rest) = (ofMembers ms, none, some rest)

section

variable {s t : List Char} {v : Json} {vs : List Json} {ms : List (String × Json)} {name : String}

/-- A text between two marks, with another text behind it. -/
lemma cons_append_singleton_append (c d : Char) (s rest : List Char) :
    c :: (s ++ [d]) ++ rest = c :: (s ++ d :: rest) := by
  rw [List.cons_append, List.append_assoc, List.singleton_append]

/-- A value that one step reads to its end. -/
lemma ReadAs.of_step (present : s ≠ [])
    (step : ∀ n rest, 2 * s.length ≤ n + 1 → EndsNumber rest →
      valueAt (n + 1) (s ++ rest) = (ofJson v, some rest)) : ReadAs s v := by
  intro n rest steps ends
  have long := List.length_pos_of_ne_nil present
  obtain ⟨n, rfl⟩ : ∃ k, n = k + 1 := ⟨n - 1, by omega⟩
  exact ⟨[], space_nil, step n rest steps ends⟩

lemma readAs_number {n : Number} (h : n.Written s) : ReadAs s (.number n) := by
  obtain ⟨c, t, rfl, start⟩ := h.exists_cons
  refine .of_step (List.cons_ne_nil _ _) fun n rest _ ends => ?_
  have token : skipSpace (c :: t ++ rest) = c :: (t ++ rest) := by
    apply skipSpace_of_starts
    rcases Bool.or_eq_true _ _ |>.mp start with minus | digit
    · rw [of_decide_eq_true minus]
      rfl
    · exact startsValue_digit digit
  rw [valueAt_number n token start]
  exact h.read ends

lemma readAs_string {body : List Char} {text : String} (h : Characters body text.toList) :
    ReadAs ('"' :: (body ++ ['"'])) (.string text) := by
  refine .of_step (List.cons_ne_nil _ _) fun n rest _ _ => ?_
  have read : readString (body ++ '"' :: rest) = (.name text, some rest) :=
    readString_name_iff.mpr ⟨body, rfl, h⟩
  rw [cons_append_singleton_append, valueAt_quote, read]
  rfl

lemma readAs_empty_array (space : Space s) : ReadAs ('[' :: (s ++ [']'])) (.array []) := by
  refine .of_step (List.cons_ne_nil _ _) fun n rest _ _ => ?_
  rw [cons_append_singleton_append, valueAt_bracket n rfl]
  exact bracketed_empty space rfl rest

lemma readAs_array (items : ItemsReadAs s vs) : ReadAs ('[' :: (s ++ [']'])) (.array vs) := by
  refine .of_step (List.cons_ne_nil _ _) fun n rest steps _ => ?_
  have read := items n rest (by simp at steps; omega)
  rw [cons_append_singleton_append, valueAt_bracket n rfl,
    bracketed_inside (itemsAt_skipSpace n _) (itemsAt_starts read) read]
  rfl

lemma readAs_empty_object (space : Space s) : ReadAs ('\x7b' :: (s ++ ['\x7d'])) (.object []) := by
  refine .of_step (List.cons_ne_nil _ _) fun n rest _ _ => ?_
  rw [cons_append_singleton_append, valueAt_brace n rfl]
  exact bracketed_empty space rfl rest

lemma readAs_object (members : MembersReadAs s ms) : ReadAs ('\x7b' :: (s ++ ['\x7d'])) (.object ms) := by
  refine .of_step (List.cons_ne_nil _ _) fun n rest steps _ => ?_
  have read := members n rest (by simp at steps; omega)
  rw [cons_append_singleton_append, valueAt_brace n rfl,
    bracketed_inside (membersAt_skipSpace n _) (membersAt_starts read) read]
  rfl

lemma ReadAs.space_before {c : Char} (space : isSpace c = true) (h : ReadAs s v) : ReadAs (c :: s) v := by
  intro n rest steps ends
  rw [List.length_cons] at steps
  have skipped : valueAt n (c :: (s ++ rest)) = valueAt n (s ++ rest) := by
    rw [← valueAt_skipSpace n (c :: (s ++ rest)), ← valueAt_skipSpace n (s ++ rest), skipSpace, skipSpace,
      List.dropWhile_cons_of_pos space]
  rw [List.cons_append, skipped]
  exact h n rest (by omega) ends

lemma ReadAs.space_behind {c : Char} (space : isSpace c = true) (h : ReadAs s v) : ReadAs (s ++ [c]) v := by
  intro n rest steps _
  rw [List.length_append] at steps
  obtain ⟨gap, spaces, read⟩ := h n (c :: rest) (by omega) (endsNumber_space space rest)
  refine ⟨gap ++ [c], List.forall_mem_append.mpr ⟨spaces, List.forall_mem_singleton.mpr space⟩, ?_⟩
  rw [List.append_assoc, List.append_assoc]
  exact read

lemma ReadAs.items_last (h : ReadAs s v) : ItemsReadAs s [v] := by
  intro n rest steps
  obtain ⟨n, rfl⟩ : ∃ k, n = k + 1 := ⟨n - 1, by omega⟩
  obtain ⟨gap, space, read⟩ := h n (']' :: rest) (by omega) (endsNumber_bracket rest)
  have close : skipSpace (gap ++ ']' :: rest) = ']' :: rest := skipSpace_append space _
  rw [itemsAt, read]
  simp only [close]
  rfl

lemma ReadAs.items_more (h : ReadAs s v) (more : ItemsReadAs t vs) : ItemsReadAs (s ++ ',' :: t) (v :: vs) := by
  intro n rest steps
  rw [List.length_append, List.length_cons] at steps
  obtain ⟨n, rfl⟩ : ∃ k, n = k + 1 := ⟨n - 1, by omega⟩
  obtain ⟨gap, space, read⟩ := h n (',' :: (t ++ ']' :: rest)) (by omega) (endsNumber_comma _)
  have comma : skipSpace (gap ++ ',' :: (t ++ ']' :: rest)) = ',' :: (t ++ ']' :: rest) :=
    skipSpace_append space _
  rw [List.append_assoc, List.cons_append, itemsAt, read]
  simp only [comma, more n rest (by omega)]
  rfl

lemma ReadAs.members_last (named : Named s name) (h : ReadAs t v) :
    MembersReadAs (s ++ ':' :: t) [(name, v)] := by
  intro n rest steps
  rw [List.length_append, List.length_cons] at steps
  obtain ⟨n, rfl⟩ : ∃ k, n = k + 1 := ⟨n - 1, by omega⟩
  obtain ⟨inner, behind, quote, key, colon⟩ := readString_named named (t ++ '\x7d' :: rest)
  obtain ⟨gap, space, read⟩ := h n ('\x7d' :: rest) (by omega) (endsNumber_brace rest)
  have close : skipSpace (gap ++ '\x7d' :: rest) = '\x7d' :: rest := skipSpace_append space _
  rw [List.append_assoc, List.cons_append, membersAt, quote]
  simp only [key, colon, read, close]
  rfl

lemma ReadAs.members_more {u : List Char} (named : Named s name) (h : ReadAs t v) (more : MembersReadAs u ms) :
    MembersReadAs (s ++ ':' :: (t ++ ',' :: u)) ((name, v) :: ms) := by
  intro n rest steps
  rw [List.length_append, List.length_cons, List.length_append, List.length_cons] at steps
  obtain ⟨n, rfl⟩ : ∃ k, n = k + 1 := ⟨n - 1, by omega⟩
  obtain ⟨inner, behind, quote, key, colon⟩ := readString_named named (t ++ ',' :: (u ++ '\x7d' :: rest))
  obtain ⟨gap, space, read⟩ := h n (',' :: (u ++ '\x7d' :: rest)) (by omega) (endsNumber_comma _)
  have comma : skipSpace (gap ++ ',' :: (u ++ '\x7d' :: rest)) = ',' :: (u ++ '\x7d' :: rest) :=
    skipSpace_append space _
  have text : s ++ ':' :: (t ++ ',' :: u) ++ '\x7d' :: rest =
      s ++ ':' :: (t ++ ',' :: (u ++ '\x7d' :: rest)) := by simp
  rw [text, membersAt, quote]
  simp only [key, colon, read, comma, more n rest (by omega)]
  rfl

end

mutual

/-- **The reader accepts the grammar**: a text is read as the value that it stands for. -/
theorem readAs_of_denotes : ∀ {s : List Char} {v : Json}, Denotes s v → ReadAs s v
  | _, _, .null => .of_step (List.cons_ne_nil _ _) fun _ _ _ _ => rfl
  | _, _, .true => .of_step (List.cons_ne_nil _ _) fun _ _ _ _ => rfl
  | _, _, .false => .of_step (List.cons_ne_nil _ _) fun _ _ _ _ => rfl
  | _, _, .number written => readAs_number written
  | _, _, .string inside => readAs_string inside
  | _, _, .empty_array space => readAs_empty_array space
  | _, _, .array items => readAs_array (itemsReadAs_of_denotes items)
  | _, _, .empty_object space => readAs_empty_object space
  | _, _, .object members => readAs_object (membersReadAs_of_denotes members)
  | _, _, .space_before space value => (readAs_of_denotes value).space_before space
  | _, _, .space_behind value space => (readAs_of_denotes value).space_behind space

theorem itemsReadAs_of_denotes : ∀ {s : List Char} {vs : List Json}, DenotesItems s vs → ItemsReadAs s vs
  | _, _, .last value => (readAs_of_denotes value).items_last
  | _, _, .more value items => (readAs_of_denotes value).items_more (itemsReadAs_of_denotes items)

theorem membersReadAs_of_denotes : ∀ {s : List Char} {ms : List (String × Json)}, DenotesMembers s ms →
    MembersReadAs s ms
  | _, _, .last named value => (readAs_of_denotes value).members_last named
  | _, _, .more named value members =>
    (readAs_of_denotes value).members_more named (membersReadAs_of_denotes members)

end

/-! ### The grammar accepts what is read -/

section

variable {v : Json}

/-- Values with the same outline are the same. -/
lemma ofJson_injective {w : Json} (h : ofJson v = ofJson w) : v = w := by
  have first := read_ofJson v (max v.depth w.depth) (by omega)
  have second := read_ofJson w (max v.depth w.depth) (by omega)
  rw [h, second] at first
  exact (Except.ok.inj first).symm

lemma ofJson_eq_string {s : String} (h : ofJson v = .string s) : v = .string s := by
  cases v <;> simp_all [ofJson]

lemma ofJson_eq_number {n : Number} (h : ofJson v = .number n) : v = .number n := by
  cases v <;> simp_all [ofJson]

lemma ofJson_eq_array {items : List Outline} {stop : Option Fault} (h : ofJson v = .array items stop) :
    ∃ vs, v = .array vs ∧ items = ofItems vs := by
  cases v <;> simp_all [ofJson]

lemma ofJson_eq_object {members : List (Key × Outline)} {stop : Option Fault}
    (h : ofJson v = .object members stop) : ∃ ms, v = .object ms ∧ members = ofMembers ms := by
  cases v <;> simp_all [ofJson]

lemma ofItems_eq_cons {vs : List Json} {o : Outline} {os : List Outline} (h : ofItems vs = o :: os) :
    ∃ v vs', vs = v :: vs' ∧ o = ofJson v ∧ os = ofItems vs' := by
  cases vs with
  | nil => cases h
  | cons v vs =>
    obtain ⟨rfl, rfl⟩ := List.cons.inj h
    exact ⟨v, vs, rfl, rfl, rfl⟩

lemma ofMembers_eq_cons {ms : List (String × Json)} {key : Key} {o : Outline} {os : List (Key × Outline)}
    (h : ofMembers ms = (key, o) :: os) :
    ∃ name v ms', ms = (name, v) :: ms' ∧ key = .name name ∧ o = ofJson v ∧ os = ofMembers ms' := by
  cases ms with
  | nil => cases h
  | cons m ms =>
    obtain ⟨first, rfl⟩ := List.cons.inj h
    obtain ⟨rfl, rfl⟩ := Prod.mk.inj first
    exact ⟨m.1, m.2, ms, rfl, rfl, rfl, rfl⟩

/-- A name is the outline of a string. -/
lemma toOutline_eq_ofJson {key : Key} (h : key.toOutline = ofJson v) :
    ∃ name, key = .name name ∧ v = .string name := by
  cases key with
  | name s => exact ⟨s, rfl, ofJson_eq_string h.symm⟩
  | unpaired | misplaced | broken => cases v <;> simp [Key.toOutline, ofJson] at h

/-- What a reader of numbers finds to be the outline of a value is a number. -/
lemma readNumber_ofJson {s rest : List Char} (h : readNumber s = (ofJson v, some rest)) :
    ∃ n, v = .number n := by
  rw [readNumber] at h
  split at h
  · simp at h
  · split at h
    · rename_i n _
      exact ⟨n, ofJson_eq_number (Prod.mk.inj h).1.symm⟩
    · cases v <;> simp [ofJson] at h

end

/-- What is read behind an opening bracket up to a closing one. -/
lemma bracketed_cases {β : Type} {close : Char} {cut empty o : Outline} {wrap : β → Option Fault → Outline}
    {inside : List Char → β × Option Fault × Option (List Char)} {s rest : List Char}
    (skipped : inside (skipSpace s) = inside s)
    (h : bracketed close cut empty wrap inside (skipSpace s) = (o, some rest)) :
    (∃ gap, Space gap ∧ s = gap ++ close :: rest ∧ o = empty) ∨
      ∃ b stop, inside s = (b, stop, some rest) ∧ o = wrap b stop := by
  cases token : skipSpace s with
  | nil =>
    rw [token, bracketed] at h
    cases h
  | cons c t =>
    rw [token, bracketed] at h
    split_ifs at h with closed
    · cases h
      obtain ⟨gap, space, split⟩ := skipSpace_cases token
      exact .inl ⟨gap, space, by rw [split, closed], rfl⟩
    · rw [token] at skipped
      rw [skipped] at h
      rcases read : inside s with ⟨b, stop, next⟩
      rw [read] at h
      cases h
      exact .inr ⟨b, stop, rfl, rfl⟩

/-- What a reader of values finds to be the outline of a value stands for that value. -/
def ValuesDenote (n : ℕ) : Prop :=
  ∀ s v rest, valueAt n s = (ofJson v, some rest) → ∃ used, s = used ++ rest ∧ Denotes used v

/-- What a reader of items finds to be the outlines of values stands for these values. -/
def ItemsDenote (n : ℕ) : Prop :=
  ∀ s vs stop next, itemsAt n s = (ofItems vs, stop, some next) →
    stop = none ∧ ∃ used, s = used ++ ']' :: next ∧ DenotesItems used vs

/-- What a reader of members finds to be the outlines of members stands for these members. -/
def MembersDenote (n : ℕ) : Prop :=
  ∀ s ms stop next, membersAt n s = (ofMembers ms, stop, some next) →
    stop = none ∧ ∃ used, s = used ++ '\x7d' :: next ∧ DenotesMembers used ms

lemma readWord_append (start : Char) (value : Outline) (word rest : List Char) :
    readWord start value word (word ++ rest) = (value, some rest) := by
  induction word with
  | nil => rfl
  | cons w word ih => rw [List.cons_append, readWord, if_pos rfl, ih]

/-- A word that stands for a value, as far as it is read. -/
lemma denotes_of_word {start : Char} {word s inner rest : List Char} {w v : Json}
    (written : Denotes (start :: word) w) (token : skipSpace s = start :: inner)
    (h : readWord start (ofJson w) word inner = (ofJson v, some rest)) :
    ∃ used, s = used ++ rest ∧ Denotes used v := by
  obtain ⟨gap, space, rfl⟩ := skipSpace_cases token
  obtain ⟨rfl, _⟩ := readWord_extent h
  rw [readWord_append] at h
  rw [← ofJson_injective (Prod.mk.inj h).1]
  exact ⟨gap ++ start :: word, by simp, Denotes.space_append space written⟩

lemma valuesDenote_succ {n : ℕ} (items : ItemsDenote n) (members : MembersDenote n) : ValuesDenote (n + 1) := by
  intro s v rest h
  have whole := h
  rw [valueAt] at h
  split at h
  · simp at h
  · rename_i inner quote
    rcases read : readString inner with ⟨key, next⟩
    rw [read, Prod.mk.injEq] at h
    obtain ⟨value, rfl⟩ := h
    obtain ⟨name, rfl, rfl⟩ := toOutline_eq_ofJson value
    obtain ⟨gap, space, rfl⟩ := skipSpace_cases quote
    obtain ⟨body, rfl, inside⟩ := readString_name_iff.mp read
    exact ⟨gap ++ '"' :: (body ++ ['"']), by simp, Denotes.space_append space (.string inside)⟩
  · rename_i inner bracket
    rw [valueAt_bracket n bracket] at whole
    obtain ⟨gap, space, rfl⟩ := skipSpace_cases bracket
    rcases bracketed_cases (itemsAt_skipSpace n inner) whole with
      ⟨gap', space', rfl, value⟩ | ⟨outlines, stop, read, value⟩
    · rw [ofJson_injective (w := .array []) value]
      exact ⟨gap ++ '[' :: (gap' ++ [']']), by simp, Denotes.space_append space (.empty_array space')⟩
    · obtain ⟨vs, rfl, rfl⟩ := ofJson_eq_array value
      obtain ⟨_, used, rfl, inside⟩ := items _ _ _ _ read
      exact ⟨gap ++ '[' :: (used ++ [']']), by simp, Denotes.space_append space (.array inside)⟩
  · rename_i inner brace
    rw [valueAt_brace n brace] at whole
    obtain ⟨gap, space, rfl⟩ := skipSpace_cases brace
    rcases bracketed_cases (membersAt_skipSpace n inner) whole with
      ⟨gap', space', rfl, value⟩ | ⟨outlines, stop, read, value⟩
    · rw [ofJson_injective (w := .object []) value]
      exact ⟨gap ++ '\x7b' :: (gap' ++ ['\x7d']), by simp,
        Denotes.space_append space (.empty_object space')⟩
    · obtain ⟨ms, rfl, rfl⟩ := ofJson_eq_object value
      obtain ⟨_, used, rfl, inside⟩ := members _ _ _ _ read
      exact ⟨gap ++ '\x7b' :: (used ++ ['\x7d']), by simp, Denotes.space_append space (.object inside)⟩
  · rename_i inner token
    exact denotes_of_word .null token h
  · rename_i inner token
    exact denotes_of_word .true token h
  · rename_i inner token
    exact denotes_of_word .false token h
  · rename_i c inner _ _ _ _ _ _ token
    split_ifs at h with number
    · obtain ⟨n, rfl⟩ := readNumber_ofJson h
      obtain ⟨used, split, written⟩ := written_of_readNumber h
      obtain ⟨gap, space, rfl⟩ := skipSpace_cases token
      exact ⟨gap ++ used, by rw [split, List.append_assoc], Denotes.space_append space (.number written)⟩
    · simp at h

lemma itemsDenote_succ {n : ℕ} (values : ValuesDenote n) (items : ItemsDenote n) : ItemsDenote (n + 1) := by
  intro s vs stop next h
  obtain ⟨o, rest, value, ⟨close, outlines, rfl⟩ | ⟨more, os, comma, tail, outlines⟩⟩ := itemsAt_succ_cases h
  · obtain ⟨v, vs', rfl, rfl, none⟩ := ofItems_eq_cons outlines
    obtain ⟨used, rfl, inside⟩ := values s v rest value
    obtain ⟨gap, space, rfl⟩ := skipSpace_cases close
    rw [ofItems_eq_map, eq_comm, List.map_eq_nil_iff] at none
    rw [none]
    exact ⟨rfl, used ++ gap, by rw [List.append_assoc], .last (inside.append_space space)⟩
  · obtain ⟨v, vs', rfl, rfl, rfl⟩ := ofItems_eq_cons outlines
    obtain ⟨used, rfl, inside⟩ := values s v rest value
    obtain ⟨gap, space, rfl⟩ := skipSpace_cases comma
    obtain ⟨rfl, used', rfl, inside'⟩ := items more vs' stop next tail
    exact ⟨rfl, used ++ gap ++ ',' :: used', by simp, .more (inside.append_space space) inside'⟩

lemma membersDenote_succ {n : ℕ} (values : ValuesDenote n) (members : MembersDenote n) :
    MembersDenote (n + 1) := by
  intro s ms stop next h
  obtain ⟨word, key, behind, rest, o, last, quote, read, colon, value, tail⟩ := membersAt_succ_cases h
  obtain ⟨gap, space, rfl⟩ := skipSpace_cases quote
  obtain ⟨gap', space', rfl⟩ := skipSpace_cases colon
  -- the name of the member, and the value behind the colon
  have named : ∀ {name : String}, key = .name name → ∃ body, word = body ++ '"' :: (gap' ++ ':' :: rest) ∧
      Named (gap ++ '"' :: (body ++ '"' :: gap')) name := by
    rintro name rfl
    obtain ⟨body, split, inside⟩ := readString_name_iff.mp read
    exact ⟨body, split, gap, body, gap', space, inside, space', rfl⟩
  rcases tail with ⟨close, outlines, rfl⟩ | ⟨more, os, comma, tail, outlines⟩
  · obtain ⟨name, v, ms', rfl, same, rfl, none⟩ := ofMembers_eq_cons outlines
    obtain ⟨body, rfl, head⟩ := named same
    obtain ⟨used, rfl, inside⟩ := values rest v last value
    obtain ⟨gap'', space'', rfl⟩ := skipSpace_cases close
    rw [ofMembers_eq_map, eq_comm, List.map_eq_nil_iff] at none
    rw [none]
    exact ⟨rfl, _, by simp, .last head (inside.append_space space'')⟩
  · obtain ⟨name, v, ms', rfl, same, rfl, rfl⟩ := ofMembers_eq_cons outlines
    obtain ⟨body, rfl, head⟩ := named same
    obtain ⟨used, rfl, inside⟩ := values rest v last value
    obtain ⟨gap'', space'', rfl⟩ := skipSpace_cases comma
    obtain ⟨rfl, used', rfl, inside'⟩ := members more ms' stop next tail
    exact ⟨rfl, _, by simp, .more head (inside.append_space space'') inside'⟩

/-- **The grammar accepts what is read**: what a reader finds to be the outline of a value stands for it. -/
theorem denote (n : ℕ) : ValuesDenote n ∧ ItemsDenote n ∧ MembersDenote n := by
  induction n with
  | zero =>
    refine ⟨fun s v rest h => ?_, fun s vs stop next h => ?_, fun s ms stop next h => ?_⟩
    · simp [valueAt] at h
    · simp [itemsAt] at h
    · simp [membersAt] at h
  | succ n ih =>
    obtain ⟨values, items, members⟩ := ih
    exact ⟨valuesDenote_succ items members, itemsDenote_succ values items,
      membersDenote_succ values members⟩

/-! ### Reading outlines -/

mutual

/-- What can be read is the outline of a value for which there is room. -/
theorem eq_ofJson_of_read : ∀ (o : Outline) (room : ℕ) (v : Json), o.read room = .ok v →
    o = ofJson v ∧ v.depth ≤ room
  | .null | .boolean _ | .number _ | .string _ => by
    intro room v h
    rw [read] at h
    cases h
    exact ⟨by rw [ofJson], by simp [depth]⟩
  | .oversized | .unpaired | .broken _ _ _ => by
    intro room v h
    rw [read] at h
    cases h
  | .array items stop => by
    rintro (_ | room) v h
    · cases h
    · rw [read, bind_eq_ok] at h
      obtain ⟨vs, inside, h⟩ := h
      rw [bind_eq_ok] at h
      obtain ⟨_, ends, done⟩ := h
      obtain ⟨rfl, fits⟩ := eq_ofItems_of_read items room vs inside
      cases done
      rw [closed_ok ends, ofJson, depth]
      exact ⟨rfl, by omega⟩
  | .object members stop => by
    rintro (_ | room) v h
    · cases h
    · rw [read, bind_eq_ok] at h
      obtain ⟨ms, inside, h⟩ := h
      rw [bind_eq_ok] at h
      obtain ⟨_, ends, done⟩ := h
      obtain ⟨rfl, fits⟩ := eq_ofMembers_of_read members room ms inside
      cases done
      rw [closed_ok ends, ofJson, depth]
      exact ⟨rfl, by omega⟩
termination_by o => sizeOf o

theorem eq_ofItems_of_read : ∀ (items : List Outline) (room : ℕ) (vs : List Json),
    readItems room items = .ok vs → items = ofItems vs ∧ depthItems vs ≤ room
  | [] => by
    intro room vs h
    rw [readItems] at h
    cases h
    exact ⟨by rw [ofItems], by simp [depthItems]⟩
  | o :: rest => by
    intro room vs h
    obtain ⟨v, vs', first, more, rfl⟩ := readItems_cons_ok h
    obtain ⟨rfl, fits⟩ := eq_ofJson_of_read o room v first
    obtain ⟨rfl, fits'⟩ := eq_ofItems_of_read rest room vs' more
    rw [ofItems, depthItems]
    exact ⟨rfl, by omega⟩
termination_by items => sizeOf items

theorem eq_ofMembers_of_read : ∀ (members : List (Key × Outline)) (room : ℕ) (ms : List (String × Json)),
    readMembers room members = .ok ms → members = ofMembers ms ∧ depthMembers ms ≤ room
  | [] => by
    intro room ms h
    rw [readMembers] at h
    cases h
    exact ⟨by rw [ofMembers], by simp [depthMembers]⟩
  | (key, o) :: rest => by
    intro room ms h
    obtain ⟨name, v, ms', rfl, first, more, rfl⟩ := readMembers_cons_ok h
    obtain ⟨rfl, fits⟩ := eq_ofJson_of_read o room v first
    obtain ⟨rfl, fits'⟩ := eq_ofMembers_of_read rest room ms' more
    rw [ofMembers, depthMembers]
    exact ⟨rfl, by omega⟩
termination_by members => sizeOf members

end

/-- **What can be read** is exactly the outlines of values for which there is room. -/
theorem read_eq_ok_iff {o : Outline} {room : ℕ} {v : Json} :
    o.read room = .ok v ↔ o = ofJson v ∧ v.depth ≤ room := by
  constructor
  · exact eq_ofJson_of_read o room v
  · rintro ⟨rfl, fits⟩
    exact read_ofJson v room fits

/-! ### Whole texts -/

/-- **The outline of a text is that of a value exactly if the text stands for the value.** -/
theorem ofText_eq_iff {s : List Char} {v : Json} : ofText s = (ofJson v, false) ↔ Denotes s v := by
  constructor
  · intro h
    rw [ofText] at h
    split at h
    · rename_i o value
      rw [(Prod.mk.inj h).1] at value
      -- the outline of a value is complete
      exact absurd (read_ofJson v v.depth (Nat.le_refl _)) (unreadable_of_cut value _ _)
    · rename_i o rest value
      obtain ⟨rfl, nothing⟩ := Prod.mk.inj h
      obtain ⟨used, rfl, inside⟩ := (denote _).1 s v rest value
      refine inside.append_space fun c hc => ?_
      rw [Bool.not_eq_false', List.isEmpty_iff, skipSpace, List.dropWhile_eq_nil_iff] at nothing
      exact nothing c hc
  · intro h
    obtain ⟨gap, space, read⟩ := readAs_of_denotes h (2 * s.length + 2) [] (by omega) endsNumber_nil
    rw [List.append_nil, List.append_nil] at read
    have nothing : skipSpace gap = [] := List.dropWhile_eq_nil_iff.mpr space
    rw [ofText, read]
    simp [nothing]

end Outline

/-- **A text stands for one value at most.** -/
theorem Denotes.unique {s : List Char} {v w : Json} (hv : Denotes s v) (hw : Denotes s w) : v = w := by
  have first := Outline.ofText_eq_iff.mpr hv
  rw [Outline.ofText_eq_iff.mpr hw] at first
  exact (Outline.ofJson_injective (Prod.mk.inj first).1).symm

/-- **The reader of texts accepts exactly the grammar**, as far as arrays and objects do not stand too deep
inside each other, and finds the value that a text stands for. -/
theorem parse?_eq_some_iff {s : List Char} {v : Json} :
    parse? s = some v ↔ Denotes s v ∧ v.depth ≤ maxNesting := by
  constructor
  · intro h
    rw [parse?] at h
    split at h
    · rename_i o text
      cases read : o.read maxNesting with
      | error fault =>
        rw [read] at h
        cases h
      | ok w =>
        rw [read] at h
        cases h
        obtain ⟨rfl, fits⟩ := Outline.read_eq_ok_iff.mp read
        exact ⟨Outline.ofText_eq_iff.mp text, fits⟩
    · cases h
  · rintro ⟨denotes, fits⟩
    rw [parse?, Outline.ofText_eq_iff.mpr denotes]
    dsimp only
    rw [Outline.read_ofJson v maxNesting fits]
    rfl

end LoadingCheck.Json
