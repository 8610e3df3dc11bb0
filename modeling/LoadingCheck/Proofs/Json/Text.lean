import LoadingCheck.Proofs.Json.Literal

set_option relaxedAutoImplicit false
set_option autoImplicit false

/-!
# Compact texts are read back

The compact text of a value whose numbers are whole numbers of 64 bits has the outline of that value, and
nothing is left behind it.

## Main definitions

* `LoadingCheck.Json.Words` — every number in a value is a whole number of 64 bits without sign.

## Main results

* `LoadingCheck.Json.Outline.ofText_compact` — compact texts are read back.

## Design

The reader has two steps for every character, and uses one for each value and one for each item or member.
A value therefore needs no more steps than twice its length, and items or members one more.
-/

namespace LoadingCheck.Json

mutual

/-- Every number in a value is a whole number of 64 bits without sign. -/
def Words : Json → Prop
  | .null => True
  | .boolean _ => True
  | .number (.integer n) => 0 ≤ n ∧ n ≤ maxSignificand
  | .number (.real _ _) => False
  | .string _ => True
  | .array items => WordsItems items
  | .object members => WordsMembers members

/-- Every number in items is a whole number of 64 bits without sign. -/
def WordsItems : List Json → Prop
  | [] => True
  | v :: rest => Words v ∧ WordsItems rest

/-- Every number in members is a whole number of 64 bits without sign. -/
def WordsMembers : List (String × Json) → Prop
  | [] => True
  | (_, v) :: rest => Words v ∧ WordsMembers rest

end

/-! ### Compact texts as characters -/

lemma toList_quote (s : String) : (quote s).toList = '"' :: (escape s.toList ++ ['"']) := by
  rw [quote, String.toList_ofList]
  rfl

lemma toList_array (items : List Json) :
    (compact (.array items)).toList = '[' :: ((compactItems items).toList ++ [']']) := by
  rw [compact, String.toList_append, String.toList_append]
  rfl

lemma toList_object (members : List (String × Json)) :
    (compact (.object members)).toList = '\x7b' :: ((compactMembers members).toList ++ ['\x7d']) := by
  rw [compact, String.toList_append, String.toList_append]
  rfl

lemma toList_items (v w : Json) (rest : List Json) :
    (compactItems (v :: w :: rest)).toList =
      (compact v).toList ++ ',' :: (compactItems (w :: rest)).toList := by
  rw [compactItems, String.toList_append, String.toList_append, List.append_assoc]
  rfl

lemma toList_member (k : String) (v : Json) :
    (compactMembers [(k, v)]).toList = '"' :: (escape k.toList ++ '"' :: ':' :: (compact v).toList) := by
  rw [compactMembers, String.toList_append, String.toList_append, toList_quote]
  simp

lemma toList_members (k : String) (v : Json) (m : String × Json) (rest : List (String × Json)) :
    (compactMembers ((k, v) :: m :: rest)).toList =
      '"' :: (escape k.toList ++ '"' :: ':' :: ((compact v).toList ++
        ',' :: (compactMembers (m :: rest)).toList)) := by
  rw [compactMembers, String.toList_append, String.toList_append, String.toList_append,
    String.toList_append, toList_quote]
  simp

lemma toList_word {n : Int} (h : 0 ≤ n) :
    (compact (.number (.integer n))).toList = Nat.toDigits 10 n.toNat := by
  obtain ⟨k, rfl⟩ := Int.eq_ofNat_of_zero_le h
  rw [compact, Number.text]
  exact Nat.toList_repr

/-- A character that a value starts with. -/
def startsValue (c : Char) : Bool :=
  !isSpace c && c != ']' && c != '\x7d'

lemma startsValue_digit {c : Char} (h : c.isDigit = true) : startsValue c = true := by
  have ne : ∀ d : Char, d.isDigit = false → (c == d) = false := by
    intro d hd
    rw [beq_eq_false_iff_ne]
    rintro rfl
    rw [h] at hd
    exact Bool.noConfusion hd
  rw [startsValue, isSpace, bne, bne, ne ' ' rfl, ne '\n' rfl, ne '\t' rfl, ne '\r' rfl, ne ']' rfl,
    ne '\x7d' rfl]
  rfl

/-- The compact text of a value starts with a character that a value starts with. -/
lemma compact_head {v : Json} (words : v.Words) :
    ∃ c s, v.compact.toList = c :: s ∧ startsValue c = true := by
  cases v with
  | null => exact ⟨'n', ['u', 'l', 'l'], rfl, by decide⟩
  | boolean b =>
    cases b
    · exact ⟨'f', ['a', 'l', 's', 'e'], rfl, by decide⟩
    · exact ⟨'t', ['r', 'u', 'e'], rfl, by decide⟩
  | number n =>
    cases n with
    | real s x => exact absurd words (by simp [Words])
    | integer n =>
      rw [toList_word words.1]
      obtain ⟨c, ds, digits, digit⟩ := toDigits_cons n.toNat
      exact ⟨c, ds, digits, startsValue_digit digit⟩
  | string s => exact ⟨'"', _, toList_quote s, by decide⟩
  | array items => exact ⟨'[', _, toList_array items, by decide⟩
  | object members => exact ⟨'\x7b', _, toList_object members, by decide⟩

/-- So do items. -/
lemma compactItems_head {v : Json} {vs : List Json} (words : WordsItems (v :: vs)) :
    ∃ c s, (compactItems (v :: vs)).toList = c :: s ∧ startsValue c = true := by
  rw [WordsItems] at words
  obtain ⟨c, s, first, starts⟩ := compact_head words.1
  cases vs with
  | nil => exact ⟨c, s, first, starts⟩
  | cons w vs => exact ⟨c, _, by rw [toList_items, first, List.cons_append], starts⟩

/-- Members start with a name. -/
lemma compactMembers_head (k : String) (v : Json) (ms : List (String × Json)) :
    ∃ s, (compactMembers ((k, v) :: ms)).toList = '"' :: s := by
  cases ms with
  | nil => exact ⟨_, toList_member k v⟩
  | cons m ms => exact ⟨_, toList_members k v m ms⟩

/-! ### Compact texts have no control characters -/

lemma quote_visible (s : String) : ∀ c ∈ (quote s).toList, 0x20 ≤ c.toNat := by
  intro c hc
  rw [toList_quote, List.mem_cons, List.mem_append, List.mem_singleton] at hc
  rcases hc with rfl | hc | rfl
  · decide
  · exact escape_visible _ c hc
  · decide

lemma toDigits_visible (n : ℕ) : ∀ c ∈ Nat.toDigits 10 n, 0x20 ≤ c.toNat := by
  intro c hc
  have digit := Nat.isDigit_of_mem_toDigits (by omega) (by omega) hc
  rw [Char.isDigit, Bool.and_eq_true, decide_eq_true_eq] at digit
  have low : '0'.val.toNat ≤ c.val.toNat := digit.1
  exact Nat.le_trans (by decide) low

mutual

/-- A compact text has no control character in it, and so it is one line. -/
theorem compact_visible : ∀ (v : Json), v.Words → ∀ c ∈ v.compact.toList, 0x20 ≤ c.toNat
  | .null => fun _ => by simp [compact]
  | .boolean true => fun _ => by simp [compact]
  | .boolean false => fun _ => by simp [compact]
  | .number (.integer k) => by
    intro words
    rw [Words] at words
    rw [toList_word words.1]
    exact toDigits_visible _
  | .number (.real _ _) => by
    intro words
    rw [Words] at words
    exact words.elim
  | .string s => by
    intro _
    rw [compact]
    exact quote_visible s
  | .array items => by
    intro words c hc
    rw [Words] at words
    rw [toList_array, List.mem_cons, List.mem_append, List.mem_singleton] at hc
    rcases hc with rfl | hc | rfl
    · decide
    · exact compactItems_visible items words c hc
    · decide
  | .object members => by
    intro words c hc
    rw [Words] at words
    rw [toList_object, List.mem_cons, List.mem_append, List.mem_singleton] at hc
    rcases hc with rfl | hc | rfl
    · decide
    · exact compactMembers_visible members words c hc
    · decide
termination_by v => sizeOf v

theorem compactItems_visible : ∀ (items : List Json), WordsItems items →
    ∀ c ∈ (compactItems items).toList, 0x20 ≤ c.toNat
  | [] => fun _ => by simp [compactItems]
  | [v] => by
    intro words
    rw [WordsItems] at words
    rw [compactItems]
    exact compact_visible v words.1
  | v :: w :: rest => by
    intro words c hc
    rw [WordsItems] at words
    rw [toList_items, List.mem_append, List.mem_cons] at hc
    rcases hc with hc | rfl | hc
    · exact compact_visible v words.1 c hc
    · decide
    · exact compactItems_visible (w :: rest) words.2 c hc
termination_by items => sizeOf items

theorem compactMembers_visible : ∀ (members : List (String × Json)), WordsMembers members →
    ∀ c ∈ (compactMembers members).toList, 0x20 ≤ c.toNat
  | [] => fun _ => by simp [compactMembers]
  | [(k, v)] => by
    intro words c hc
    rw [WordsMembers] at words
    rw [toList_member, List.mem_cons, List.mem_append, List.mem_cons, List.mem_cons] at hc
    rcases hc with rfl | hc | rfl | rfl | hc
    · decide
    · exact escape_visible _ c hc
    · decide
    · decide
    · exact compact_visible v words.1 c hc
  | (k, v) :: m :: rest => by
    intro words c hc
    rw [WordsMembers] at words
    rw [toList_members, List.mem_cons, List.mem_append, List.mem_cons, List.mem_cons,
      List.mem_append, List.mem_cons] at hc
    rcases hc with rfl | hc | rfl | rfl | hc | rfl | hc
    · decide
    · exact escape_visible _ c hc
    · decide
    · decide
    · exact compact_visible v words.1 c hc
    · decide
    · exact compactMembers_visible (m :: rest) words.2 c hc
termination_by members => sizeOf members

end

lemma skipSpace_of_starts {c : Char} (h : startsValue c = true) (s : List Char) :
    skipSpace (c :: s) = c :: s := by
  rw [skipSpace, List.dropWhile_cons_of_neg]
  intro space
  simp [startsValue, space] at h

namespace Outline

/-! ### One value at a time -/

lemma valueAt_quote (n : ℕ) (s : List Char) :
    valueAt (n + 1) ('"' :: s) = ((readString s).1.toOutline, (readString s).2) := rfl

lemma valueAt_string (n : ℕ) (s : String) (rest : List Char) :
    valueAt (n + 1) ((quote s).toList ++ rest) = (.string s, some rest) := by
  rw [toList_quote, List.cons_append, List.append_assoc, valueAt_quote, List.singleton_append,
    readString_escape]
  rfl

lemma valueAt_digit (n : ℕ) {c : Char} (digit : c.isDigit = true) (s : List Char) :
    valueAt (n + 1) (c :: s) = readNumber (c :: s) := by
  rw [valueAt, skipSpace_of_starts (startsValue_digit digit)]
  split <;> rename_i heq <;> cases heq
  -- a digit is none of the characters that start another kind of value
  iterate 6 exact absurd digit (by decide)
  rw [digit, Bool.or_true, if_pos rfl]

lemma valueAt_word (n : ℕ) {k : ℕ} (fits : k ≤ maxSignificand) {rest : List Char}
    (h : EndsNumber rest) :
    valueAt (n + 1) (Nat.toDigits 10 k ++ rest) = (.number (.integer k), some rest) := by
  have read := readNumber_toDigits fits h
  obtain ⟨c, ds, digits, digit⟩ := toDigits_cons k
  rw [digits, List.cons_append] at read ⊢
  rw [valueAt_digit n digit, read]

lemma valueAt_array (n : ℕ) {c : Char} (h : startsValue c = true) (s : List Char) :
    valueAt (n + 1) ('[' :: c :: s) =
      (.array (itemsAt n (c :: s)).1 (itemsAt n (c :: s)).2.1, (itemsAt n (c :: s)).2.2) := by
  have bracket : c ≠ ']' := by
    rintro rfl
    exact absurd h (by decide)
  have outer : skipSpace ('[' :: c :: s) = '[' :: c :: s := rfl
  rw [valueAt, outer]
  simp only [skipSpace_of_starts h]
  split
  · rename_i heq
    exact absurd heq (List.cons_ne_nil _ _)
  · rename_i heq
    exact absurd (List.cons.inj heq).1 bracket
  · rfl

/-- The names of members start with a quotation mark. -/
lemma valueAt_object (n : ℕ) (s : List Char) :
    valueAt (n + 1) ('\x7b' :: '"' :: s) =
      (.object (membersAt n ('"' :: s)).1 (membersAt n ('"' :: s)).2.1,
        (membersAt n ('"' :: s)).2.2) := rfl

/-! ### Items and members -/

lemma itemsAt_last {n : ℕ} {s rest : List Char} {v : Outline}
    (h : valueAt n s = (v, some (']' :: rest))) : itemsAt (n + 1) s = ([v], none, some rest) := by
  rw [itemsAt, h]
  rfl

lemma itemsAt_more {n : ℕ} {s rest after : List Char} {v : Outline} {vs : List Outline}
    (h : valueAt n s = (v, some (',' :: rest))) (more : itemsAt n rest = (vs, none, some after)) :
    itemsAt (n + 1) s = (v :: vs, none, some after) := by
  have step : itemsAt (n + 1) s =
      (v :: (itemsAt n rest).1, (itemsAt n rest).2.1, (itemsAt n rest).2.2) := by
    rw [itemsAt, h]
    rfl
  rw [step, more]

lemma membersAt_last {n : ℕ} {k : String} {s rest : List Char} {v : Outline}
    (h : valueAt n s = (v, some ('\x7d' :: rest))) :
    membersAt (n + 1) ('"' :: (escape k.toList ++ '"' :: ':' :: s)) =
      ([(.name k, v)], none, some rest) := by
  have quote : skipSpace ('"' :: (escape k.toList ++ '"' :: ':' :: s)) =
      '"' :: (escape k.toList ++ '"' :: ':' :: s) := rfl
  have colon : skipSpace (':' :: s) = ':' :: s := rfl
  rw [membersAt, quote]
  simp only [readString_escape, colon, h]
  rfl

lemma membersAt_more {n : ℕ} {k : String} {s rest after : List Char} {v : Outline}
    {ms : List (Key × Outline)} (h : valueAt n s = (v, some (',' :: rest)))
    (more : membersAt n rest = (ms, none, some after)) :
    membersAt (n + 1) ('"' :: (escape k.toList ++ '"' :: ':' :: s)) =
      ((.name k, v) :: ms, none, some after) := by
  have quote : skipSpace ('"' :: (escape k.toList ++ '"' :: ':' :: s)) =
      '"' :: (escape k.toList ++ '"' :: ':' :: s) := rfl
  have colon : skipSpace (':' :: s) = ':' :: s := rfl
  have comma : skipSpace (',' :: rest) = ',' :: rest := rfl
  rw [membersAt, quote]
  simp only [readString_escape, colon, h, comma, more]

/-! ### Whole values -/

mutual

/-- A compact text is read back, whatever ends its last number.
**Proof sketch.** Induction on the value. Twice the length of a text leaves the steps for the texts in it,
since an array or object has two characters of its own, and an item or member that is not the last one has
the comma behind it. -/
theorem valueAt_compact : ∀ (v : Json) (n : ℕ) (rest : List Char), v.Words →
    2 * v.compact.toList.length ≤ n → EndsNumber rest →
      valueAt n (v.compact.toList ++ rest) = (ofJson v, some rest)
  | .null => by
    intro n rest _ steps _
    obtain ⟨n, rfl⟩ : ∃ k, n = k + 1 := ⟨n - 1, by simp [compact] at steps; omega⟩
    rfl
  | .boolean true => by
    intro n rest _ steps _
    obtain ⟨n, rfl⟩ : ∃ k, n = k + 1 := ⟨n - 1, by simp [compact] at steps; omega⟩
    rfl
  | .boolean false => by
    intro n rest _ steps _
    obtain ⟨n, rfl⟩ : ∃ k, n = k + 1 := ⟨n - 1, by simp [compact] at steps; omega⟩
    rfl
  | .number (.integer k) => by
    intro n rest words steps ends
    rw [Words] at words
    obtain ⟨low, high⟩ := words
    rw [toList_word low] at steps ⊢
    obtain ⟨c, ds, digits, _⟩ := toDigits_cons k.toNat
    rw [digits, List.length_cons] at steps
    obtain ⟨n, rfl⟩ : ∃ k, n = k + 1 := ⟨n - 1, by omega⟩
    rw [valueAt_word n (by omega) ends, Int.toNat_of_nonneg low, ofJson]
  | .number (.real _ _) => by
    intro n rest words
    rw [Words] at words
    exact words.elim
  | .string s => by
    intro n rest _ steps _
    rw [compact] at steps ⊢
    rw [toList_quote, List.length_cons] at steps
    obtain ⟨n, rfl⟩ : ∃ k, n = k + 1 := ⟨n - 1, by omega⟩
    rw [valueAt_string, ofJson]
  | .array [] => by
    intro n rest _ steps _
    obtain ⟨n, rfl⟩ : ∃ k, n = k + 1 := ⟨n - 1, by simp [toList_array] at steps; omega⟩
    rfl
  | .array (v :: vs) => by
    intro n rest words steps _
    rw [Words] at words
    rw [toList_array] at steps ⊢
    rw [List.length_cons, List.length_append, List.length_singleton] at steps
    obtain ⟨n, rfl⟩ : ∃ k, n = k + 1 := ⟨n - 1, by omega⟩
    have items := itemsAt_compact v vs n rest words (by omega)
    obtain ⟨c, s, first, starts⟩ := compactItems_head words
    rw [first, List.cons_append] at items
    rw [first, List.cons_append, List.cons_append, List.cons_append, List.append_assoc,
      List.singleton_append, valueAt_array n starts, items, ofJson]
  | .object [] => by
    intro n rest _ steps _
    obtain ⟨n, rfl⟩ : ∃ k, n = k + 1 := ⟨n - 1, by simp [toList_object] at steps; omega⟩
    rfl
  | .object ((k, v) :: ms) => by
    intro n rest words steps _
    rw [Words] at words
    rw [toList_object] at steps ⊢
    rw [List.length_cons, List.length_append, List.length_singleton] at steps
    obtain ⟨n, rfl⟩ : ∃ k, n = k + 1 := ⟨n - 1, by omega⟩
    have members := membersAt_compact k v ms n rest words (by omega)
    obtain ⟨s, first⟩ := compactMembers_head k v ms
    rw [first, List.cons_append] at members
    rw [first, List.cons_append, List.cons_append, List.cons_append, List.append_assoc,
      List.singleton_append, valueAt_object, members, ofJson]
termination_by v => sizeOf v
decreasing_by
  · simp only [Json.array.sizeOf_spec]
    omega
  · simp only [Json.object.sizeOf_spec]
    omega

/-- The items of a compact text are read back. -/
theorem itemsAt_compact : ∀ (v : Json) (vs : List Json) (n : ℕ) (rest : List Char),
    WordsItems (v :: vs) → 2 * (compactItems (v :: vs)).toList.length + 1 ≤ n →
      itemsAt n ((compactItems (v :: vs)).toList ++ ']' :: rest) = (ofItems (v :: vs), none, some rest)
  | v, [] => by
    intro n rest words steps
    rw [WordsItems] at words
    rw [compactItems] at steps ⊢
    obtain ⟨n, rfl⟩ : ∃ k, n = k + 1 := ⟨n - 1, by omega⟩
    rw [ofItems, ofItems]
    exact itemsAt_last (valueAt_compact v _ _ words.1 (by omega) (endsNumber_bracket rest))
  | v, w :: vs => by
    intro n rest words steps
    rw [WordsItems] at words
    rw [toList_items] at steps ⊢
    rw [List.length_append, List.length_cons] at steps
    obtain ⟨n, rfl⟩ : ∃ k, n = k + 1 := ⟨n - 1, by omega⟩
    rw [List.append_assoc, List.cons_append, ofItems]
    exact itemsAt_more (valueAt_compact v _ _ words.1 (by omega) (endsNumber_comma _))
      (itemsAt_compact w vs _ _ words.2 (by omega))
termination_by v vs => sizeOf (v :: vs)
decreasing_by
  all_goals simp only [List.cons.sizeOf_spec]; omega

/-- The members of a compact text are read back. -/
theorem membersAt_compact : ∀ (k : String) (v : Json) (ms : List (String × Json)) (n : ℕ)
    (rest : List Char), WordsMembers ((k, v) :: ms) →
      2 * (compactMembers ((k, v) :: ms)).toList.length + 1 ≤ n →
        membersAt n ((compactMembers ((k, v) :: ms)).toList ++ '\x7d' :: rest) =
          (ofMembers ((k, v) :: ms), none, some rest)
  | k, v, [] => by
    intro n rest words steps
    rw [WordsMembers] at words
    rw [toList_member] at steps ⊢
    simp only [List.length_cons, List.length_append] at steps
    obtain ⟨n, rfl⟩ : ∃ k, n = k + 1 := ⟨n - 1, by omega⟩
    simp only [List.cons_append, List.append_assoc, ofMembers]
    exact membersAt_last (valueAt_compact v _ _ words.1 (by omega) (endsNumber_brace rest))
  | k, v, (l, w) :: ms => by
    intro n rest words steps
    rw [WordsMembers] at words
    rw [toList_members] at steps ⊢
    simp only [List.length_cons, List.length_append] at steps
    obtain ⟨n, rfl⟩ : ∃ k, n = k + 1 := ⟨n - 1, by omega⟩
    simp only [List.cons_append, List.append_assoc]
    rw [ofMembers]
    exact membersAt_more (valueAt_compact v _ _ words.1 (by omega) (endsNumber_comma _))
      (membersAt_compact l w ms _ _ words.2 (by omega))
termination_by k v ms => sizeOf ((k, v) :: ms)
decreasing_by
  all_goals simp only [List.cons.sizeOf_spec, Prod.mk.sizeOf_spec]; omega

end

/-- A compact text is read back, and nothing is left behind it. -/
theorem ofText_compact {v : Json} (words : v.Words) : ofText v.compact.toList = (ofJson v, false) := by
  have read := valueAt_compact v (2 * v.compact.toList.length + 2) [] words (by omega) endsNumber_nil
  rw [List.append_nil] at read
  rw [ofText, read]
  rfl

end Outline

end LoadingCheck.Json
