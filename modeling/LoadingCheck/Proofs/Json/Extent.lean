import LoadingCheck.Proofs.Json.Literal
import Mathlib.Data.List.TakeWhile

set_option relaxedAutoImplicit false
set_option autoImplicit false

/-!
# How far a value goes

What a reader takes for a value depends on the characters of the value alone, and for a number on the one
behind it too. An object ends at its brace: whatever stands behind that brace, the object is the same one.

## Main definitions

* `LoadingCheck.Json.LooksAhead` — a reader that looks no further than one character ahead.

## Main results

* `LoadingCheck.Json.Outline.extents` — the extent of values, items and members.
* `LoadingCheck.Json.Outline.valueAt_object_extent` — an object ends at its brace.
-/

namespace LoadingCheck.Json

/-! ### Looking one character ahead -/

/-- What a reader yields depends on the characters that it goes past and on the one behind them. -/
def LooksAhead {ε α : Type} (read : List Char → Except ε (α × List Char)) : Prop :=
  ∀ s a rest, read s = .ok (a, rest) →
    ∃ used, s = used ++ rest ∧ ∀ t : List Char, t.head? = rest.head? → read (used ++ t) = .ok (a, t)

lemma head?_append_congr {s t : List Char} (used : List Char) (h : t.head? = s.head?) :
    (used ++ t).head? = (used ++ s).head? := by
  rw [List.head?_append, List.head?_append, h]

/-- Texts with the same first character are both empty, or both start with it. -/
lemma eq_cons_of_head? {c : Char} {s t : List Char} (h : t.head? = (c :: s).head?) :
    ∃ t', t = c :: t' := by
  cases t with
  | nil => exact absurd h (by simp)
  | cons d t => exact ⟨t, by rw [Option.some.inj h]⟩

/-- Texts that go on with the same character behind the same part start with the same character. -/
lemma exists_cons_append {c : Char} {s used rest t : List Char} (h : c :: s = used ++ rest)
    (ht : t.head? = rest.head?) : ∃ s', used ++ t = c :: s' := by
  apply eq_cons_of_head?
  rw [h]
  exact head?_append_congr used ht

lemma eq_nil_of_head? {t : List Char} (h : t.head? = ([] : List Char).head?) : t = [] :=
  List.head?_eq_none_iff.mp h

/-- The digits at the start of a text are those up to the first other character. -/
lemma spanDigits_extent {s rest : List Char} {ds : List ℕ} (h : spanDigits s = (ds, rest)) :
    ∃ used, s = used ++ rest ∧
      ∀ t : List Char, t.head? = rest.head? → spanDigits (used ++ t) = (ds, t) := by
  obtain ⟨rfl, rfl⟩ := Prod.mk.inj h
  refine ⟨s.takeWhile Char.isDigit, List.takeWhile_append_dropWhile.symm, fun t ht => ?_⟩
  refine spanDigits_append (fun c hc => List.mem_takeWhile_imp hc) fun c hc => ?_
  rw [ht] at hc
  have stop := List.head?_dropWhile_not Char.isDigit s
  rw [Option.mem_def.mp hc] at stop
  simpa using stop

lemma looksAhead_readWhole : LooksAhead readWhole := by
  intro s ds rest h
  cases digits : spanDigits s with
  | mk ds' r =>
    obtain ⟨used, split, again⟩ := spanDigits_extent digits
    rw [readWhole, digits] at h
    refine ⟨used, ?_, fun t ht => ?_⟩
    · split at h <;> simp_all
    · rw [readWhole, again t ?_]
      · split at h <;> simp_all
      · split at h <;> simp_all

lemma looksAhead_readFraction : LooksAhead readFraction := by
  intro s ds rest h
  rw [readFraction.eq_def] at h
  split at h
  · rename_i after
    cases digits : spanDigits after with
    | mk ds' r =>
      obtain ⟨used, split, again⟩ := spanDigits_extent digits
      rw [digits] at h
      cases ds' with
      | nil => cases h
      | cons d ds' =>
        cases h
        refine ⟨'.' :: used, by rw [split, List.cons_append], fun t ht => ?_⟩
        rw [List.cons_append, readFraction, again t ht]
  · rename_i point
    cases h
    refine ⟨[], rfl, fun t ht => ?_⟩
    rw [List.nil_append, readFraction.eq_def]
    split
    · rename_i after
      obtain ⟨after', rfl⟩ := eq_cons_of_head? ht.symm
      exact absurd rfl (point after')
    · rfl

/-- The sign of an exponent, if it has one, and what follows it. -/
def exponentSign : List Char → Bool × List Char
  | '-' :: rest => (true, rest)
  | '+' :: rest => (false, rest)
  | rest => (false, rest)

lemma exponentSign_extent (s : List Char) :
    ∃ used, s = used ++ (exponentSign s).2 ∧
      ∀ t : List Char, t.head? = (exponentSign s).2.head? →
        exponentSign (used ++ t) = ((exponentSign s).1, t) := by
  rw [exponentSign.eq_def]
  split
  · exact ⟨['-'], rfl, fun t _ => rfl⟩
  · exact ⟨['+'], rfl, fun t _ => rfl⟩
  · rename_i minus plus
    refine ⟨[], rfl, fun t ht => ?_⟩
    rw [List.nil_append, exponentSign.eq_def]
    split
    · obtain ⟨s', rfl⟩ := eq_cons_of_head? ht.symm
      exact absurd rfl (minus s')
    · obtain ⟨s', rfl⟩ := eq_cons_of_head? ht.symm
      exact absurd rfl (plus s')
    · rfl

/-- The value of an exponent. -/
def exponentValue (negative : Bool) (digits : List ℕ) : Int :=
  let n : ℕ := digits.foldl (fun n d => n * 10 + d) 0
  if negative then -(n : Int) else n

lemma readExponent_mark {c : Char} (mark : c = 'e' ∨ c = 'E') (s : List Char) :
    readExponent (c :: s) =
      match spanDigits (exponentSign s).2 with
      | ([], r) => .error (cutNumber r)
      | (ds, r) => .ok (some (exponentValue (exponentSign s).1 ds), r) := by
  rw [readExponent.eq_def]
  exact if_pos mark

lemma looksAhead_readExponent : LooksAhead readExponent := by
  intro s a rest h
  cases s with
  | nil =>
    cases h
    exact ⟨[], rfl, fun t ht => by rw [eq_nil_of_head? ht]; rfl⟩
  | cons c s =>
    by_cases mark : c = 'e' ∨ c = 'E'
    · obtain ⟨sign, signed, resign⟩ := exponentSign_extent s
      cases digits : spanDigits (exponentSign s).2 with
      | mk ds r =>
        obtain ⟨used, split, again⟩ := spanDigits_extent digits
        rw [readExponent_mark mark, digits] at h
        cases ds with
        | nil => cases h
        | cons d ds =>
          cases h
          refine ⟨c :: (sign ++ used), ?_, fun t ht => ?_⟩
          · rw [List.cons_append, List.append_assoc, ← split, ← signed]
          · have ahead : (used ++ t).head? = (exponentSign s).2.head? := by
              rw [split]
              exact head?_append_congr used ht
            rw [List.cons_append, List.append_assoc, readExponent_mark mark, resign _ ahead, again t ht]
    · have plain : ∀ s, readExponent (c :: s) = .ok (none, c :: s) := fun s => by
        rw [readExponent.eq_def]
        exact if_neg mark
      rw [plain] at h
      cases h
      refine ⟨[], rfl, fun t ht => ?_⟩
      obtain ⟨t, rfl⟩ := eq_cons_of_head? ht
      exact plain t

/-- A reader that goes on with another one, both looking one character ahead. -/
lemma LooksAhead.bind {ε α β : Type} {read : List Char → Except ε (α × List Char)}
    {next : α → List Char → Except ε (β × List Char)} (h : LooksAhead read)
    (hn : ∀ a, LooksAhead (next a)) : LooksAhead fun s => read s >>= fun p => next p.1 p.2 := by
  intro s b rest done
  dsimp only at done ⊢
  cases first : read s with
  | error e =>
    rw [first] at done
    cases done
  | ok p =>
    obtain ⟨a, middle⟩ := p
    rw [first] at done
    obtain ⟨used, split, again⟩ := h s a middle first
    obtain ⟨used', split', again'⟩ := hn a middle b rest done
    refine ⟨used ++ used', by rw [split, split', List.append_assoc], fun t ht => ?_⟩
    have ahead : (used' ++ t).head? = middle.head? := by
      rw [split']
      exact head?_append_congr used' ht
    rw [List.append_assoc, again _ ahead]
    exact again' t ht

lemma looksAhead_pure {ε α : Type} (a : α) :
    LooksAhead fun s => (.ok (a, s) : Except ε (α × List Char)) := by
  intro s b rest h
  cases h
  exact ⟨[], rfl, fun t _ => rfl⟩

/-- The parts of a number literal behind its sign. -/
def readUnsigned (negative : Bool) (s : List Char) : Except (Fault × Fault) (Literal × List Char) :=
  readWhole s >>= fun p => readFraction p.2 >>= fun q => readExponent q.2 >>= fun r =>
    .ok (⟨negative, p.1, q.1, r.1⟩, r.2)

lemma looksAhead_readUnsigned (negative : Bool) : LooksAhead (readUnsigned negative) :=
  looksAhead_readWhole.bind fun whole => looksAhead_readFraction.bind fun fraction =>
    looksAhead_readExponent.bind fun exponent =>
      looksAhead_pure (⟨negative, whole, fraction, exponent⟩ : Literal)

lemma readLiteral_minus (s : List Char) : readLiteral ('-' :: s) = readUnsigned true s := rfl

lemma readLiteral_of_ne {c : Char} (h : c ≠ '-') (s : List Char) :
    readLiteral (c :: s) = readUnsigned false (c :: s) := by
  rw [readLiteral]
  · rfl
  · rintro r ⟨⟩
    exact h rfl

lemma looksAhead_readLiteral : LooksAhead readLiteral := by
  intro s l rest h
  cases s with
  | nil => cases h
  | cons c s =>
    by_cases minus : c = '-'
    · rw [minus] at h ⊢
      obtain ⟨used, split, again⟩ := looksAhead_readUnsigned true s l rest h
      refine ⟨'-' :: used, by rw [split, List.cons_append], fun t ht => ?_⟩
      rw [List.cons_append, readLiteral_minus]
      exact again t ht
    · rw [readLiteral_of_ne minus] at h
      obtain ⟨used, split, again⟩ := looksAhead_readUnsigned false _ l rest h
      refine ⟨used, split, fun t ht => ?_⟩
      obtain ⟨s', same⟩ := exists_cons_append split ht
      rw [same, readLiteral_of_ne minus, ← same]
      exact again t ht

/-- The extent of a number. -/
lemma readNumber_extent {s rest : List Char} {v : Outline} (h : readNumber s = (v, some rest)) :
    ∃ used, s = used ++ rest ∧
      ∀ t : List Char, t.head? = rest.head? → readNumber (used ++ t) = (v, some t) := by
  rw [readNumber] at h
  cases literal : readLiteral s with
  | error fault =>
    rw [literal] at h
    cases h
  | ok p =>
    obtain ⟨l, r⟩ := p
    rw [literal] at h
    obtain ⟨used, split, again⟩ := looksAhead_readLiteral s l r literal
    have value : ∀ t : List Char, t.head? = r.head? →
        readNumber (used ++ t) = (l.number?.elim .oversized .number, some t) := by
      intro t ht
      rw [readNumber, again t ht]
      dsimp only
      cases l.number? <;> rfl
    dsimp only at h
    cases number : l.number? with
    | none =>
      rw [number] at h value
      cases h
      exact ⟨used, split, value⟩
    | some n =>
      rw [number] at h value
      cases h
      exact ⟨used, split, value⟩

/-! ### Strings, words and white space -/

/-- The parts of a string literal up to its closing quotation mark. -/
lemma pieces_extent {s rest : List Char} {ps : List Piece} (h : pieces s = (ps, .ok rest)) :
    ∃ used, s = used ++ '"' :: rest ∧ ∀ t, pieces (used ++ '"' :: t) = (ps, .ok t) := by
  induction s using pieces.induct generalizing ps with
  | case1 | case4 | case5 | case7 | case8 | case9 => simp_all [pieces]
  | case2 s =>
    cases h
    exact ⟨[], rfl, fun t => rfl⟩
  | case3 a b c d s n unit ps' next after ih =>
    simp only [pieces, unit, after, Prod.mk.injEq] at h
    obtain ⟨rfl, rfl⟩ := h
    obtain ⟨used, split, again⟩ := ih after
    refine ⟨'\\' :: 'u' :: a :: b :: c :: d :: used, by rw [split]; rfl, fun t => ?_⟩
    simp only [List.cons_append, pieces, unit, again]
  | case6 e s notUnit other c short ps' next after ih =>
    have step : ∀ t, pieces ('\\' :: e :: t) = (.char c :: (pieces t).1, (pieces t).2) := fun t => by
      rw [pieces, short]
      · rintro a b c d r rfl
        exact absurd rfl other
      · exact other
    rw [step, after, Prod.mk.injEq] at h
    obtain ⟨rfl, rfl⟩ := h
    obtain ⟨used, split, again⟩ := ih after
    refine ⟨'\\' :: e :: used, by rw [split]; rfl, fun t => ?_⟩
    rw [List.cons_append, List.cons_append, step, again]
  | case10 c s quote _ _ escape last visible ps' next after ih =>
    have backslash : c ≠ '\\' := by
      rintro rfl
      cases s with
      | nil => exact last rfl rfl
      | cons e s => exact escape e s rfl rfl
    rw [pieces_plain quote backslash visible, after, Prod.mk.injEq] at h
    obtain ⟨rfl, rfl⟩ := h
    obtain ⟨used, split, again⟩ := ih after
    refine ⟨c :: used, by rw [split]; rfl, fun t => ?_⟩
    rw [List.cons_append, pieces_plain quote backslash visible, again]

/-- A string literal ends at its closing quotation mark. -/
lemma readString_extent {s rest : List Char} {key : Key} (h : readString s = (key, some rest)) :
    ∃ used, s = used ++ '"' :: rest ∧ ∀ t, readString (used ++ '"' :: t) = (key, some t) := by
  rw [readString] at h
  rcases parts : pieces s with ⟨ps, fault | r⟩
  · rw [parts] at h
    dsimp only at h
    split at h <;> cases h
  · obtain ⟨used, split, again⟩ := pieces_extent parts
    rw [parts] at h
    refine ⟨used, ?_, fun t => ?_⟩
    · dsimp only at h
      split at h <;> cases h <;> exact split
    · rw [readString, again]
      dsimp only at h ⊢
      split at h <;> cases h <;> rfl

/-- A word that stands for a value ends with its last letter. -/
lemma readWord_extent {start : Char} {value v : Outline} {word s rest : List Char}
    (h : readWord start value word s = (v, some rest)) :
    s = word ++ rest ∧ ∀ t, readWord start value word (word ++ t) = (v, some t) := by
  induction word generalizing s with
  | nil =>
    cases h
    exact ⟨rfl, fun t => rfl⟩
  | cons w word ih =>
    cases s with
    | nil => cases h
    | cons c s =>
      rw [readWord] at h
      split_ifs at h with same
      · obtain ⟨split, again⟩ := ih h
        refine ⟨by rw [split, same, List.cons_append], fun t => ?_⟩
        rw [List.cons_append, readWord, if_pos rfl, again]
      · cases h

/-- White space in front of a token. -/
lemma skipSpace_extent {s rest : List Char} {c : Char} (h : skipSpace s = c :: rest) :
    ∃ gap, s = gap ++ c :: rest ∧ ∀ t, skipSpace (gap ++ c :: t) = c :: t := by
  refine ⟨s.takeWhile isSpace, ?_, fun t => ?_⟩
  · rw [← h, skipSpace, List.takeWhile_append_dropWhile]
  · have token : isSpace c = false := by
      have stop := List.head?_dropWhile_not isSpace s
      rw [← skipSpace, h] at stop
      simpa using stop
    rw [skipSpace, List.dropWhile_append_of_pos fun d hd => List.mem_takeWhile_imp hd,
      List.dropWhile_cons_of_neg (by simp [token])]

namespace Outline

/-! ### One step of the reader -/

/-- Items that end in a text: one with the bracket behind it, or one with a comma and other items behind
it. -/
lemma itemsAt_succ_cases {n : ℕ} {s next : List Char} {vs : List Outline} {stop : Option Fault}
    (h : itemsAt (n + 1) s = (vs, stop, some next)) :
    ∃ v rest, valueAt n s = (v, some rest) ∧
      ((skipSpace rest = ']' :: next ∧ vs = [v] ∧ stop = none) ∨
        ∃ more vs', skipSpace rest = ',' :: more ∧ itemsAt n more = (vs', stop, some next) ∧
          vs = v :: vs') := by
  rw [itemsAt] at h
  split at h
  · cases h
  · rename_i v rest value
    refine ⟨v, rest, value, ?_⟩
    split at h
    · cases h
    · rename_i close
      cases h
      exact .inl ⟨close, rfl, rfl⟩
    · rename_i more comma
      rcases items : itemsAt n more with ⟨vs', stop', next'⟩
      rw [items] at h
      cases h
      exact .inr ⟨more, vs', comma, items, rfl⟩
    · cases h

/-- Members that end in a text: one with the brace behind it, or one with a comma and other members behind
it. -/
lemma membersAt_succ_cases {n : ℕ} {s next : List Char} {ms : List (Key × Outline)}
    {stop : Option Fault} (h : membersAt (n + 1) s = (ms, stop, some next)) :
    ∃ name key behind rest v last, skipSpace s = '"' :: name ∧ readString name = (key, some behind) ∧
      skipSpace behind = ':' :: rest ∧ valueAt n rest = (v, some last) ∧
      ((skipSpace last = '\x7d' :: next ∧ ms = [(key, v)] ∧ stop = none) ∨
        ∃ more ms', skipSpace last = ',' :: more ∧ membersAt n more = (ms', stop, some next) ∧
          ms = (key, v) :: ms') := by
  rw [membersAt] at h
  split at h
  · cases h
  · rename_i name quote
    split at h
    · cases h
    · rename_i key behind read
      split at h
      · cases h
      · rename_i rest colon
        split at h
        · cases h
        · rename_i v last value
          refine ⟨name, key, behind, rest, v, last, quote, read, colon, value, ?_⟩
          split at h
          · cases h
          · rename_i close
            cases h
            exact .inl ⟨close, rfl, rfl⟩
          · rename_i more comma
            rcases members : membersAt n more with ⟨ms', stop', next'⟩
            rw [members] at h
            cases h
            exact .inr ⟨more, ms', comma, members, rfl⟩
          · cases h
      · cases h
  · cases h

/-! ### Values, items and members -/

/-- What is read behind an opening bracket: the closing one, or what `inside` reads. -/
def bracketed {β : Type} (close : Char) (cut empty : Outline) (wrap : β → Option Fault → Outline)
    (inside : List Char → β × Option Fault × Option (List Char)) :
    List Char → Outline × Option (List Char)
  | [] => (cut, none)
  | c :: s =>
    if c = close then (empty, some s)
    else (wrap (inside (c :: s)).1 (inside (c :: s)).2.1, (inside (c :: s)).2.2)

lemma valueAt_bracket (n : ℕ) {s inner : List Char} (h : skipSpace s = '[' :: inner) :
    valueAt (n + 1) s =
      bracketed ']' (.array [] (some .unfinished)) (.array [] none) .array (itemsAt n)
        (skipSpace inner) := by
  simp only [valueAt, h]
  split
  · rename_i cut
    rw [cut, bracketed]
  · rename_i next closed
    rw [closed, bracketed, if_pos rfl]
  · rename_i present item
    obtain ⟨c, s, first⟩ := List.exists_cons_of_ne_nil present
    rw [first, bracketed, if_neg fun closed => item s (by rw [first, closed])]

lemma valueAt_brace (n : ℕ) {s inner : List Char} (h : skipSpace s = '\x7b' :: inner) :
    valueAt (n + 1) s =
      bracketed '\x7d' (.object [] (some .unfinished)) (.object [] none) .object (membersAt n)
        (skipSpace inner) := by
  simp only [valueAt, h]
  split
  · rename_i cut
    rw [cut, bracketed]
  · rename_i next closed
    rw [closed, bracketed, if_pos rfl]
  · rename_i present member
    obtain ⟨c, s, first⟩ := List.exists_cons_of_ne_nil present
    rw [first, bracketed, if_neg fun closed => member s (by rw [first, closed])]

/-- A value that starts with a brace is an object. -/
lemma exists_object_of_brace (n : ℕ) {s inner : List Char} (h : skipSpace s = '\x7b' :: inner) :
    ∃ members stop, (valueAt (n + 1) s).1 = .object members stop := by
  rw [valueAt_brace n h]
  cases skipSpace inner with
  | nil => exact ⟨_, _, rfl⟩
  | cons c s =>
    rw [bracketed]
    split_ifs
    · exact ⟨_, _, rfl⟩
    · exact ⟨_, _, rfl⟩

/-- A value that starts with a sign or a digit. -/
lemma valueAt_number (n : ℕ) {s : List Char} {c : Char} {rest : List Char} (token : skipSpace s = c :: rest)
    (number : (c = '-' || c.isDigit) = true) : valueAt (n + 1) s = readNumber (c :: rest) := by
  rw [valueAt, token]
  split <;> rename_i heq <;> cases heq
  -- neither a sign nor a digit starts another kind of value
  iterate 6 exact absurd number (by decide)
  exact if_pos number

/-- With `n` steps or more, a value depends on its own characters and on the one behind it. -/
def ValueExtent (n : ℕ) : Prop :=
  ∀ s v rest, valueAt n s = (v, some rest) → ∃ used, s = used ++ rest ∧
    ∀ m ≥ n, ∀ t : List Char, t.head? = rest.head? → valueAt m (used ++ t) = (v, some t)

/-- With `n` steps or more, what stands inside brackets ends at the closing one. -/
def EndsAt {β : Type} (close : Char) (inside : ℕ → List Char → β × Option Fault × Option (List Char))
    (n : ℕ) : Prop :=
  ∀ s b stop next, inside n s = (b, stop, some next) → ∃ used, s = used ++ close :: next ∧
    ∀ m ≥ n, ∀ t, inside m (used ++ close :: t) = (b, stop, some t)

/-- White space in front of a text does not depend on what stands behind the first character. -/
lemma skipSpace_append_extent {s used rest : List Char} (h : skipSpace s = used ++ rest)
    (present : used ++ rest ≠ []) :
    ∃ gap, s = gap ++ (used ++ rest) ∧ ∀ t : List Char, t.head? = rest.head? →
      skipSpace (gap ++ (used ++ t)) = used ++ t := by
  obtain ⟨c, tail, first⟩ := List.exists_cons_of_ne_nil present
  rw [first] at h
  obtain ⟨gap, split, skip⟩ := skipSpace_extent h
  refine ⟨gap, by rw [split, first], fun t ht => ?_⟩
  obtain ⟨tail', first'⟩ := exists_cons_append first.symm ht
  rw [first', skip]

lemma endsAt_items_succ {n : ℕ} (values : ValueExtent n) (items : EndsAt ']' itemsAt n) :
    EndsAt ']' itemsAt (n + 1) := by
  intro s vs stop next h
  obtain ⟨v, rest, value, ⟨close, rfl, rfl⟩ | ⟨more, vs', comma, tail, rfl⟩⟩ := itemsAt_succ_cases h
  · obtain ⟨used, rfl, again⟩ := values s v rest value
    obtain ⟨gap, rfl, skip⟩ := skipSpace_extent close
    refine ⟨used ++ gap, by rw [List.append_assoc], fun m hm t => ?_⟩
    obtain ⟨m, rfl⟩ : ∃ k, m = k + 1 := ⟨m - 1, by omega⟩
    have value' := again m (by omega) (gap ++ ']' :: t) (head?_append_congr gap rfl)
    simp only [List.append_assoc, itemsAt, value', skip]
  · obtain ⟨used, rfl, again⟩ := values s v rest value
    obtain ⟨gap, rfl, skip⟩ := skipSpace_extent comma
    obtain ⟨used', rfl, again'⟩ := items more vs' stop next tail
    refine ⟨used ++ (gap ++ ',' :: used'), by simp, fun m hm t => ?_⟩
    obtain ⟨m, rfl⟩ : ∃ k, m = k + 1 := ⟨m - 1, by omega⟩
    have value' := again m (by omega) (gap ++ ',' :: (used' ++ ']' :: t)) (head?_append_congr gap rfl)
    simp only [List.append_assoc, List.cons_append, itemsAt, value', skip, again' m (by omega)]

lemma endsAt_members_succ {n : ℕ} (values : ValueExtent n) (members : EndsAt '\x7d' membersAt n) :
    EndsAt '\x7d' membersAt (n + 1) := by
  intro s ms stop next h
  obtain ⟨name, key, behind, rest, v, last, quote, read, colon, value, tail⟩ := membersAt_succ_cases h
  obtain ⟨gap, rfl, skip⟩ := skipSpace_extent quote
  obtain ⟨word, rfl, reread⟩ := readString_extent read
  obtain ⟨gap', rfl, skip'⟩ := skipSpace_extent colon
  obtain ⟨used, rfl, again⟩ := values rest v last value
  rcases tail with ⟨close, rfl, rfl⟩ | ⟨more, ms', comma, tail, rfl⟩
  · obtain ⟨gap'', rfl, skip''⟩ := skipSpace_extent close
    refine ⟨gap ++ '"' :: (word ++ '"' :: (gap' ++ ':' :: (used ++ gap''))), by simp, fun m hm t => ?_⟩
    obtain ⟨m, rfl⟩ : ∃ k, m = k + 1 := ⟨m - 1, by omega⟩
    have value' := again m (by omega) (gap'' ++ '\x7d' :: t) (head?_append_congr gap'' rfl)
    simp only [List.append_assoc, List.cons_append, membersAt, skip, reread, skip', value', skip'']
  · obtain ⟨gap'', rfl, skip''⟩ := skipSpace_extent comma
    obtain ⟨used', rfl, again'⟩ := members more ms' stop next tail
    refine ⟨gap ++ '"' :: (word ++ '"' :: (gap' ++ ':' :: (used ++ (gap'' ++ ',' :: used')))), by simp,
      fun m hm t => ?_⟩
    obtain ⟨m, rfl⟩ : ∃ k, m = k + 1 := ⟨m - 1, by omega⟩
    have value' := again m (by omega) (gap'' ++ ',' :: (used' ++ '\x7d' :: t))
      (head?_append_congr gap'' rfl)
    simp only [List.append_assoc, List.cons_append, membersAt, skip, reread, skip', value', skip'',
      again' m (by omega)]

/-- What stands behind an opening bracket ends at the closing one. -/
lemma bracketed_extent {β : Type} {close : Char} {cut empty v : Outline}
    {wrap : β → Option Fault → Outline}
    {inside : ℕ → List Char → β × Option Fault × Option (List Char)} {n : ℕ}
    (ends : EndsAt close inside n) {inner rest : List Char}
    (h : bracketed close cut empty wrap (inside n) (skipSpace inner) = (v, some rest)) :
    ∃ used, inner = used ++ close :: rest ∧ ∀ m ≥ n, ∀ t,
      bracketed close cut empty wrap (inside m) (skipSpace (used ++ close :: t)) = (v, some t) := by
  cases token : skipSpace inner with
  | nil =>
    rw [token, bracketed] at h
    cases h
  | cons c s =>
    rw [token, bracketed] at h
    split_ifs at h with closed
    · cases h
      rw [closed] at token
      obtain ⟨gap, rfl, skip⟩ := skipSpace_extent token
      refine ⟨gap, rfl, fun m _ t => ?_⟩
      rw [skip, bracketed, if_pos rfl]
    · rcases read : inside n (c :: s) with ⟨b, stop, next⟩
      rw [read] at h
      cases h
      obtain ⟨used, split, again⟩ := ends _ b stop rest read
      rw [split] at token
      obtain ⟨gap, rfl, skip⟩ := skipSpace_append_extent token (by simp)
      refine ⟨gap ++ used, by rw [List.append_assoc], fun m hm t => ?_⟩
      obtain ⟨s', first⟩ : ∃ s', used ++ close :: t = c :: s' := exists_cons_append split rfl
      have again' := again m hm t
      have skip' := skip (close :: t) rfl
      rw [first] at again' skip'
      rw [List.append_assoc, first, skip', bracketed, if_neg closed, again']

/-- A value in brackets ends at the closing one. -/
lemma valueAt_bracketed_extent {β : Type} {start close : Char} {cut empty v : Outline}
    {wrap : β → Option Fault → Outline}
    {inside : ℕ → List Char → β × Option Fault × Option (List Char)} {n : ℕ}
    (ends : EndsAt close inside n)
    (step : ∀ m s inner, skipSpace s = start :: inner →
      valueAt (m + 1) s = bracketed close cut empty wrap (inside m) (skipSpace inner))
    {s inner rest : List Char} (token : skipSpace s = start :: inner)
    (h : valueAt (n + 1) s = (v, some rest)) :
    ∃ used, s = used ++ close :: rest ∧
      ∀ m ≥ n + 1, ∀ t, valueAt m (used ++ close :: t) = (v, some t) := by
  rw [step n s inner token] at h
  obtain ⟨gap, rfl, skip⟩ := skipSpace_extent token
  obtain ⟨used, rfl, again⟩ := bracketed_extent ends h
  refine ⟨gap ++ start :: used, by simp, fun m hm t => ?_⟩
  obtain ⟨m, rfl⟩ : ∃ k, m = k + 1 := ⟨m - 1, by omega⟩
  rw [List.append_assoc, List.cons_append, step m _ _ (skip _), again m (by omega)]

/-- A word that stands for a value ends with its last letter. -/
lemma word_extent {n : ℕ} {start : Char} {value v : Outline} {word s inner rest : List Char}
    (token : skipSpace s = start :: inner) (h : readWord start value word inner = (v, some rest))
    (step : ∀ m s inner, skipSpace s = start :: inner →
      valueAt (m + 1) s = readWord start value word inner) :
    ∃ used, s = used ++ rest ∧ ∀ m ≥ n + 1, ∀ t, valueAt m (used ++ t) = (v, some t) := by
  obtain ⟨gap, rfl, skip⟩ := skipSpace_extent token
  obtain ⟨rfl, again⟩ := readWord_extent h
  refine ⟨gap ++ start :: word, by simp, fun m hm t => ?_⟩
  obtain ⟨m, rfl⟩ : ∃ k, m = k + 1 := ⟨m - 1, by omega⟩
  rw [List.append_assoc, List.cons_append, step m _ _ (skip _), again]

lemma valueExtent_succ {n : ℕ} (items : EndsAt ']' itemsAt n) (members : EndsAt '\x7d' membersAt n) :
    ValueExtent (n + 1) := by
  intro s v rest h
  have whole := h
  rw [valueAt] at h
  split at h
  · cases h
  · rename_i inner quote
    rcases read : readString inner with ⟨key, next⟩
    rw [read] at h
    cases h
    obtain ⟨gap, rfl, skip⟩ := skipSpace_extent quote
    obtain ⟨used, rfl, again⟩ := readString_extent read
    refine ⟨gap ++ '"' :: (used ++ ['"']), by simp, fun m hm t _ => ?_⟩
    obtain ⟨m, rfl⟩ : ∃ k, m = k + 1 := ⟨m - 1, by omega⟩
    simp only [List.append_assoc, List.cons_append, List.nil_append, valueAt, skip, again]
  · rename_i inner bracket
    obtain ⟨used, split, again⟩ :=
      valueAt_bracketed_extent items (fun m s inner => valueAt_bracket m) bracket whole
    refine ⟨used ++ [']'], by simp [split], fun m hm t _ => ?_⟩
    rw [List.append_assoc, List.singleton_append, again m hm]
  · rename_i inner brace
    obtain ⟨used, split, again⟩ :=
      valueAt_bracketed_extent members (fun m s inner => valueAt_brace m) brace whole
    refine ⟨used ++ ['\x7d'], by simp [split], fun m hm t _ => ?_⟩
    rw [List.append_assoc, List.singleton_append, again m hm]
  · rename_i inner token
    obtain ⟨used, split, again⟩ := word_extent (n := n) token h fun m s inner h => by
      simp only [valueAt, h]
    exact ⟨used, split, fun m hm t _ => again m hm t⟩
  · rename_i inner token
    obtain ⟨used, split, again⟩ := word_extent (n := n) token h fun m s inner h => by
      simp only [valueAt, h]
    exact ⟨used, split, fun m hm t _ => again m hm t⟩
  · rename_i inner token
    obtain ⟨used, split, again⟩ := word_extent (n := n) token h fun m s inner h => by
      simp only [valueAt, h]
    exact ⟨used, split, fun m hm t _ => again m hm t⟩
  · rename_i c inner _ _ _ _ _ _ token
    split_ifs at h with number
    · obtain ⟨used, split, again⟩ := readNumber_extent h
      rw [split] at token
      obtain ⟨gap, rfl, skip⟩ := skipSpace_append_extent token (by rw [← split]; simp)
      refine ⟨gap ++ used, by simp, fun m hm t ht => ?_⟩
      obtain ⟨m, rfl⟩ : ∃ k, m = k + 1 := ⟨m - 1, by omega⟩
      obtain ⟨tail, first⟩ := exists_cons_append split ht
      have token' := skip t ht
      rw [first] at token'
      rw [List.append_assoc, first, valueAt_number m token' number, ← first, again t ht]
    · cases h

/-- **The extent of what is read.** A value depends on its own characters and on the one behind it, items
end at their bracket, and members at their brace: what stands further behind, and more steps, change
nothing. -/
theorem extents (n : ℕ) :
    ValueExtent n ∧ EndsAt ']' itemsAt n ∧ EndsAt '\x7d' membersAt n := by
  induction n with
  | zero =>
    refine ⟨fun s v rest h => ?_, fun s vs stop next h => ?_, fun s ms stop next h => ?_⟩
    · rw [valueAt] at h
      cases h
    · rw [itemsAt] at h
      cases h
    · rw [membersAt] at h
      cases h
  | succ n ih =>
    obtain ⟨values, items, members⟩ := ih
    exact ⟨valueExtent_succ items members, endsAt_items_succ values items,
      endsAt_members_succ values members⟩

/-- **An object ends at its brace**, whatever stands behind it. -/
theorem valueAt_object_extent {n : ℕ} {s inner rest : List Char} {v : Outline}
    (brace : skipSpace s = '\x7b' :: inner) (h : valueAt n s = (v, some rest)) :
    ∃ used, s = used ++ '\x7d' :: rest ∧ ∀ m ≥ n, ∀ t, valueAt m (used ++ '\x7d' :: t) = (v, some t) := by
  cases n with
  | zero =>
    rw [valueAt] at h
    cases h
  | succ n => exact valueAt_bracketed_extent (extents n).2.2 (fun m s inner => valueAt_brace m) brace h

end Outline

end LoadingCheck.Json
