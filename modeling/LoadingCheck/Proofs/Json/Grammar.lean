import LoadingCheck.Proofs.Json.Bounds
import LoadingCheck.Proofs.Json.Extent
import Mathlib.Data.List.Induction

set_option relaxedAutoImplicit false
set_option autoImplicit false

/-!
# What a literal stands for

The grammar of string literals and of number literals: which texts are literals, and what each of them stands
for. The reader takes a text for a literal exactly if the grammar does, and takes it for the same thing.

A literal that stands for nothing is left out of the grammar: a string with a surrogate without its partner,
and a number beyond the largest finite one. A whole number is kept as such if it has 64 bits; a minus in front
of a zero makes it a real number.

## Main definitions

* `LoadingCheck.Json.Characters` — the inside of a string literal.
* `LoadingCheck.Json.Literal.Written` — number literals by their parts.
* `LoadingCheck.Json.Number.Written` — number literals by their values.

## Main results

* `LoadingCheck.Json.readString_name_iff` — the reader of string literals follows the grammar.
* `LoadingCheck.Json.Number.Written.read`, `LoadingCheck.Json.written_of_readNumber` — so does the reader of
  numbers.
-/

namespace LoadingCheck.Json

/-! ### String literals -/

/-- A numbered code unit. -/
def IsUnit (text : List Char) (n : ℕ) : Prop :=
  ∃ a b c d, text = ['\\', 'u', a, b, c, d] ∧ codeUnit? a b c d = some n

/-- The inside of a string literal stands for characters. -/
inductive Characters : List Char → List Char → Prop where
  | nil : Characters [] []
  | plain {c : Char} {s cs : List Char} (quote : c ≠ '"') (backslash : c ≠ '\\') (visible : 0x20 ≤ c.toNat)
      (rest : Characters s cs) : Characters (c :: s) (c :: cs)
  | short {e c : Char} {s cs : List Char} (letter : shortEscape? e = some c) (rest : Characters s cs) :
      Characters ('\\' :: e :: s) (c :: cs)
  /-- A code unit that is no half of a pair. -/
  | unit {u s cs : List Char} {n : ℕ} (number : IsUnit u n) (high : isHigh n = false)
      (low : isLow n = false) (rest : Characters s cs) : Characters (u ++ s) (Char.ofNat n :: cs)
  /-- Two code units that are the halves of a pair. -/
  | pair {u u' s cs : List Char} {h l : ℕ} (first : IsUnit u h) (high : isHigh h = true)
      (second : IsUnit u' l) (low : isLow l = true) (rest : Characters s cs) :
      Characters (u ++ (u' ++ s))
        (Char.ofNat (0x10000 + (h - 0xD800) * 0x400 + (l - 0xDC00)) :: cs)

/-- Characters that need no escape stand for themselves. -/
lemma Characters.of_plain {s : List Char}
    (h : s.all (fun c => c ≠ '"' ∧ c ≠ '\\' ∧ 0x20 ≤ c.toNat) = true) : Characters s s := by
  induction s with
  | nil => exact .nil
  | cons c s ih =>
    obtain ⟨here, rest⟩ := Bool.and_eq_true_iff.mp h
    obtain ⟨quote, backslash, visible⟩ := of_decide_eq_true here
    exact .plain quote backslash visible (ih rest)

/-- A part of a literal in writing. -/
inductive Piece.Written : List Char → Piece → Prop where
  | plain {c : Char} (quote : c ≠ '"') (backslash : c ≠ '\\') (visible : 0x20 ≤ c.toNat) :
      Piece.Written [c] (.char c)
  | short {e c : Char} (letter : shortEscape? e = some c) : Piece.Written ['\\', e] (.char c)
  | unit {u : List Char} {n : ℕ} (number : IsUnit u n) : Piece.Written u (.unit n)

lemma pieces_unit {u : List Char} {n : ℕ} (h : IsUnit u n) (rest : List Char) :
    pieces (u ++ rest) = (.unit n :: (pieces rest).1, (pieces rest).2) := by
  obtain ⟨a, b, c, d, rfl, number⟩ := h
  simp only [List.cons_append, List.nil_append, pieces, number]

lemma shortEscape?_u : shortEscape? 'u' = none := rfl

lemma pieces_short {e c : Char} (h : shortEscape? e = some c) (rest : List Char) :
    pieces ('\\' :: e :: rest) = (.char c :: (pieces rest).1, (pieces rest).2) := by
  have other : e ≠ 'u' := by
    rintro rfl
    rw [shortEscape?_u] at h
    cases h
  rw [pieces, h]
  · rintro a b c d r rfl
    exact absurd rfl other
  · exact other

/-- A literal ends at once, or a part of it is written in front of the others. -/
lemma pieces_cases {s rest : List Char} {ps : List Piece} (h : pieces s = (ps, .ok rest)) :
    (s = '"' :: rest ∧ ps = []) ∨
      ∃ text s' p ps', s = text ++ s' ∧ Piece.Written text p ∧ pieces s' = (ps', .ok rest) ∧
        ps = p :: ps' := by
  rw [pieces.eq_def] at h
  split at h
  · cases h
  · cases h
    exact .inl ⟨rfl, rfl⟩
  · rename_i a b c d s'
    split at h
    · rename_i n number
      rw [Prod.mk.injEq] at h
      exact .inr ⟨_, s', _, _, rfl, .unit ⟨a, b, c, d, rfl, number⟩, Prod.ext rfl h.2, h.1.symm⟩
    · cases h
  · cases h
  · rename_i e s' _ _
    split at h
    · rename_i c letter
      rw [Prod.mk.injEq] at h
      exact .inr ⟨['\\', e], s', _, _, rfl, .short letter, Prod.ext rfl h.2, h.1.symm⟩
    · cases h
  · cases h
  · rename_i c s' quote _ _ escape last
    have backslash : c ≠ '\\' := by
      rintro rfl
      cases s' with
      | nil => exact last rfl rfl
      | cons e s' => exact escape e s' rfl rfl
    split_ifs at h with control
    · cases h
    · rw [Prod.mk.injEq] at h
      exact .inr ⟨[c], s', _, _, rfl, .plain quote backslash (by omega), Prod.ext rfl h.2, h.1.symm⟩

/-! ### Pairs of code units -/

lemma characters?_pair {h l : ℕ} (high : isHigh h = true) (low : isLow l = true) (ps : List Piece) :
    characters? (.unit h :: .unit l :: ps) =
      (Char.ofNat (0x10000 + (h - 0xD800) * 0x400 + (l - 0xDC00)) :: ·) <$> characters? ps := by
  simp [characters?, high, low]

/-- Parts that stand for characters start with a character, with a code unit that stands for itself, or with
both halves of a pair. -/
lemma characters?_cases {p : Piece} {ps : List Piece} {cs : List Char} (h : characters? (p :: ps) = some cs) :
    (∃ c cs', p = .char c ∧ characters? ps = some cs' ∧ cs = c :: cs') ∨
      (∃ n cs', p = .unit n ∧ isHigh n = false ∧ isLow n = false ∧ characters? ps = some cs' ∧
        cs = Char.ofNat n :: cs') ∨
      ∃ h l ps' cs', p = .unit h ∧ ps = .unit l :: ps' ∧ isHigh h = true ∧ isLow l = true ∧
        characters? ps' = some cs' ∧
        cs = Char.ofNat (0x10000 + (h - 0xD800) * 0x400 + (l - 0xDC00)) :: cs' := by
  cases p with
  | char c =>
    rw [characters?, Option.map_eq_map, Option.map_eq_some_iff] at h
    obtain ⟨cs', rest, rfl⟩ := h
    exact .inl ⟨c, cs', rfl, rest, rfl⟩
  | unit n =>
    by_cases high : isHigh n = true
    · -- the first half of a pair has the second one behind it
      rcases ps with _ | ⟨_ | l, ps'⟩
      · simp [characters?, high] at h
      · simp [characters?, high] at h
      · by_cases low : isLow l = true
        · rw [characters?_pair high low, Option.map_eq_map, Option.map_eq_some_iff] at h
          obtain ⟨cs', rest, rfl⟩ := h
          exact .inr (.inr ⟨n, l, ps', cs', rfl, rfl, high, low, rest, rfl⟩)
        · simp [characters?, high, low] at h
    · rw [Bool.not_eq_true] at high
      by_cases low : isLow n = true
      · rcases ps with _ | ⟨_ | l, ps'⟩ <;> simp [characters?, high, low] at h
      · rw [Bool.not_eq_true] at low
        rw [characters?_single high low, Option.map_eq_map, Option.map_eq_some_iff] at h
        obtain ⟨cs', rest, rfl⟩ := h
        exact .inr (.inl ⟨n, cs', rfl, high, low, rest, rfl⟩)

/-! ### The reader of string literals -/

/-- The inside of a literal has parts that stand for its characters. -/
lemma Characters.parts {body cs : List Char} (h : Characters body cs) (rest : List Char) :
    ∃ ps, pieces (body ++ '"' :: rest) = (ps, .ok rest) ∧ characters? ps = some cs := by
  induction h with
  | nil => exact ⟨[], rfl, rfl⟩
  | @plain c s cs quote backslash visible _ ih =>
    obtain ⟨ps, read, stand⟩ := ih
    refine ⟨.char c :: ps, ?_, by rw [characters?, stand]; rfl⟩
    rw [List.cons_append, pieces_plain quote backslash (by omega), read]
  | @short e c s cs letter _ ih =>
    obtain ⟨ps, read, stand⟩ := ih
    refine ⟨.char c :: ps, ?_, by rw [characters?, stand]; rfl⟩
    rw [List.cons_append, List.cons_append, pieces_short letter, read]
  | @unit u s cs n number high low _ ih =>
    obtain ⟨ps, read, stand⟩ := ih
    refine ⟨.unit n :: ps, ?_, by rw [characters?_single high low, stand]; rfl⟩
    rw [List.append_assoc, pieces_unit number, read]
  | @pair u u' s cs h l first high second low _ ih =>
    obtain ⟨ps, read, stand⟩ := ih
    refine ⟨.unit h :: .unit l :: ps, ?_, by rw [characters?_pair high low, stand]; rfl⟩
    rw [List.append_assoc, List.append_assoc, pieces_unit first, pieces_unit second, read]

/-- A part that is a character, in front of the inside of a literal. -/
lemma Piece.Written.characters_char {text s cs : List Char} {c : Char} (h : Piece.Written text (.char c))
    (rest : Characters s cs) : Characters (text ++ s) (c :: cs) := by
  cases h with
  | plain quote backslash visible => exact .plain quote backslash visible rest
  | short letter => exact .short letter rest

lemma Piece.Written.isUnit {text : List Char} {n : ℕ} (h : Piece.Written text (.unit n)) : IsUnit text n := by
  cases h with
  | unit number => exact number

/-- Parts that stand for characters are those of the inside of a literal.

**Proof sketch.** Induction on the number of parts, since a pair takes two of them. -/
lemma characters_of_parts (k : ℕ) : ∀ {s rest cs : List Char} {ps : List Piece}, ps.length ≤ k →
    pieces s = (ps, .ok rest) → characters? ps = some cs →
      ∃ body, s = body ++ '"' :: rest ∧ Characters body cs := by
  induction k with
  | zero =>
    intro s rest cs ps short read stand
    rcases pieces_cases read with ⟨rfl, rfl⟩ | ⟨_, _, p, ps', _, _, _, rfl⟩
    · cases stand
      exact ⟨[], rfl, .nil⟩
    · simp at short
  | succ k ih =>
    intro s rest cs ps short read stand
    rcases pieces_cases read with ⟨rfl, rfl⟩ | ⟨text, s', p, ps', rfl, written, read', rfl⟩
    · cases stand
      exact ⟨[], rfl, .nil⟩
    rw [List.length_cons] at short
    rcases characters?_cases stand with ⟨c, cs', rfl, stand', rfl⟩ |
      ⟨n, cs', rfl, high, low, stand', rfl⟩ | ⟨h, l, ps'', cs', rfl, rfl, high, low, stand', rfl⟩
    · obtain ⟨body, rfl, inside⟩ := ih (by omega) read' stand'
      exact ⟨text ++ body, by rw [List.append_assoc], written.characters_char inside⟩
    · obtain ⟨body, rfl, inside⟩ := ih (by omega) read' stand'
      exact ⟨text ++ body, by rw [List.append_assoc], .unit written.isUnit high low inside⟩
    · rcases pieces_cases read' with ⟨_, none⟩ | ⟨text', s'', p, ps', rfl, written', read'', same⟩
      · cases none
      · obtain ⟨rfl, rfl⟩ := List.cons.inj same
        rw [List.length_cons] at short
        obtain ⟨body, rfl, inside⟩ := ih (by omega) read'' stand'
        refine ⟨text ++ (text' ++ body), by simp, ?_⟩
        exact .pair written.isUnit high written'.isUnit low inside

/-- **The reader of string literals follows the grammar.** -/
theorem readString_name_iff {s rest : List Char} {name : String} :
    readString s = (.name name, some rest) ↔
      ∃ body, s = body ++ '"' :: rest ∧ Characters body name.toList := by
  constructor
  · intro h
    rw [readString] at h
    rcases parts : pieces s with ⟨ps, fault | next⟩
    · rw [parts] at h
      dsimp only at h
      split at h <;> cases h
    · rw [parts] at h
      dsimp only at h
      split at h
      · rename_i cs stand
        cases h
        rw [String.toList_ofList]
        exact characters_of_parts ps.length (Nat.le_refl _) parts stand
      · cases h
  · rintro ⟨body, rfl, inside⟩
    obtain ⟨ps, read, stand⟩ := inside.parts rest
    rw [readString, read]
    simp only [stand, String.ofList_toList]

/-! ### Digits -/

/-- Digits in writing, at least one. -/
structure IsDigits (text : List Char) (ds : List ℕ) : Prop where
  present : text ≠ []
  digits : ∀ c ∈ text, c.isDigit = true
  values : text.map digitValue = ds

lemma toNat_of_isDigit {c : Char} (h : c.isDigit = true) : c.toNat = 0x30 + digitValue c ∧ digitValue c < 10 := by
  simp only [Char.isDigit, Bool.and_eq_true, decide_eq_true_eq] at h
  have low : 0x30 ≤ c.toNat := h.1
  have high : c.toNat ≤ 0x39 := h.2
  rw [digitValue]
  omega

/-- Digits with the same values are the same. -/
lemma eq_of_map_digitValue {s t : List Char} (hs : ∀ c ∈ s, c.isDigit = true) (ht : ∀ c ∈ t, c.isDigit = true)
    (h : s.map digitValue = t.map digitValue) : s = t := by
  induction s generalizing t with
  | nil =>
    rw [List.map_nil] at h
    exact (List.map_eq_nil_iff.mp h.symm).symm
  | cons c s ih =>
    cases t with
    | nil => simp at h
    | cons d t =>
      rw [List.map_cons, List.map_cons, List.cons.injEq] at h
      have hc := toNat_of_isDigit (hs c List.mem_cons_self)
      have hd := toNat_of_isDigit (ht d List.mem_cons_self)
      have same : c = d := Char.toNat_inj.mp (by rw [hc.1, hd.1, h.1])
      rw [same, ih (fun e he => hs e (List.mem_cons_of_mem _ he))
        (fun e he => ht e (List.mem_cons_of_mem _ he)) h.2]

lemma IsDigits.ne_nil {text : List Char} {ds : List ℕ} (h : IsDigits text ds) : ds ≠ [] := by
  rw [← h.values]
  exact fun none => h.present (List.map_eq_nil_iff.mp none)

/-- The first digit is neither a sign nor a mark. -/
lemma IsDigits.exists_cons {text : List Char} {ds : List ℕ} (h : IsDigits text ds) :
    ∃ c rest, text = c :: rest ∧ c.isDigit = true := by
  obtain ⟨c, rest, rfl⟩ := List.exists_cons_of_ne_nil h.present
  exact ⟨c, rest, rfl, h.digits c List.mem_cons_self⟩

lemma IsDigits.span {text rest : List Char} {ds : List ℕ} (h : IsDigits text ds)
    (stop : ∀ c ∈ rest.head?, c.isDigit = false) : spanDigits (text ++ rest) = (ds, rest) := by
  rw [spanDigits_append h.digits stop, h.values]

lemma isDigits_of_span {s rest : List Char} {ds : List ℕ} (h : spanDigits s = (ds, rest)) (present : ds ≠ []) :
    ∃ text, s = text ++ rest ∧ IsDigits text ds := by
  obtain ⟨rfl, rfl⟩ := Prod.mk.inj h
  refine ⟨s.takeWhile Char.isDigit, List.takeWhile_append_dropWhile.symm, ?_, ?_, rfl⟩
  · exact fun none => present (by rw [none, List.map_nil])
  · exact fun c hc => List.mem_takeWhile_imp hc

lemma isDigits_toDigits (n : ℕ) : IsDigits (Nat.toDigits 10 n) (digitsOf n) :=
  ⟨Nat.toDigits_ne_nil, fun _ => Nat.isDigit_of_mem_toDigits (by omega) (by omega), rfl⟩

/-! ### The parts of a number literal -/

namespace Literal

/-- The whole part: no zero stands in front of other digits. -/
structure Whole (text : List Char) (ds : List ℕ) : Prop extends IsDigits text ds where
  canonical : text.head? = some '0' → text = ['0']

/-- The fraction, if there is one. -/
inductive Fraction : List Char → List ℕ → Prop where
  | none : Fraction [] []
  | some {text : List Char} {ds : List ℕ} (digits : IsDigits text ds) : Fraction ('.' :: text) ds

/-- The exponent, if there is one. -/
inductive Exponent : List Char → Option Int → Prop where
  | none : Exponent [] none
  | some {c : Char} {sign text : List Char} {negative : Bool} {ds : List ℕ} (mark : c = 'e' ∨ c = 'E')
      (signed : (sign, negative) ∈ [([], false), (['+'], false), (['-'], true)])
      (digits : IsDigits text ds) : Exponent (c :: (sign ++ text)) (some (exponentValue negative ds))

/-- A number literal in writing. -/
inductive Written : List Char → Literal → Prop where
  | parts {sign whole fraction exponent : List Char} {negative : Bool} {ds es : List ℕ} {x : Option Int}
      (signed : (sign, negative) ∈ [([], false), (['-'], true)]) (first : Whole whole ds)
      (second : Fraction fraction es) (third : Exponent exponent x) :
      Written (sign ++ (whole ++ (fraction ++ exponent))) ⟨negative, ds, es, x⟩

variable {text rest s : List Char} {ds : List ℕ}

/-- A whole part starts with zero only if it is zero. -/
lemma Whole.eq_zero {d e : ℕ} (h : Whole text (d :: e :: ds)) : d ≠ 0 := by
  rintro rfl
  obtain ⟨c, rest, rfl, digit⟩ := h.exists_cons
  have values := h.values
  rw [List.map_cons, List.cons.injEq] at values
  have zero : c = '0' := by
    apply Char.toNat_inj.mp
    rw [(toNat_of_isDigit digit).1, values.1]
    rfl
  have alone := h.canonical (by rw [zero]; rfl)
  rw [(List.cons.inj alone).2, List.map_nil] at values
  cases values.2

lemma Whole.read (h : Whole text ds) (stop : ∀ c ∈ rest.head?, c.isDigit = false) :
    readWhole (text ++ rest) = .ok (ds, rest) := by
  rw [readWhole, h.span stop]
  rcases ds with _ | ⟨d, _ | ⟨e, ds⟩⟩
  · exact absurd rfl h.ne_nil
  · cases d <;> rfl
  · cases d with
    | zero => exact absurd rfl h.eq_zero
    | succ d => rfl

lemma whole_of_read (h : readWhole s = .ok (ds, rest)) : ∃ text, s = text ++ rest ∧ Whole text ds := by
  rw [readWhole] at h
  split at h
  · cases h
  · cases h
  · rename_i present canonical span
    cases h
    obtain ⟨text, split, digits⟩ := isDigits_of_span span present
    refine ⟨text, split, digits, fun zero => ?_⟩
    obtain ⟨t, rfl⟩ := List.head?_eq_some_iff.mp zero
    have values := digits.values
    rw [List.map_cons] at values
    cases t with
    | nil => rfl
    | cons c t => exact (canonical (digitValue c) (t.map digitValue) values.symm).elim

/-- No digits of a fraction are no fraction. -/
lemma Fraction.eq_nil (h : Fraction text []) : text = [] := by
  cases h with
  | none => rfl
  | some digits => exact absurd rfl digits.ne_nil

lemma Fraction.read (h : Fraction text ds) (stop : ∀ c ∈ rest.head?, c.isDigit = false ∧ c ≠ '.') :
    readFraction (text ++ rest) = .ok (ds, rest) := by
  cases h with
  | none =>
    rw [List.nil_append, readFraction.eq_def]
    split
    · exact absurd rfl (stop '.' rfl).2
    · rfl
  | some digits =>
    have present := digits.ne_nil
    rw [List.cons_append, readFraction, digits.span fun c hc => (stop c hc).1]
    cases ds with
    | nil => exact absurd rfl present
    | cons d ds => rfl

lemma fraction_of_read (h : readFraction s = .ok (ds, rest)) :
    ∃ text, s = text ++ rest ∧ Fraction text ds := by
  rw [readFraction.eq_def] at h
  split at h
  · split at h
    · cases h
    · rename_i present span
      cases h
      obtain ⟨text, rfl, digits⟩ := isDigits_of_span span present
      exact ⟨'.' :: text, rfl, .some digits⟩
  · cases h
    exact ⟨[], rfl, .none⟩

/-- A sign in front of digits. -/
lemma exponentSign_append {sign : List Char} {negative : Bool}
    (signed : (sign, negative) ∈ [([], false), (['+'], false), (['-'], true)]) (digits : IsDigits text ds)
    (rest : List Char) : exponentSign (sign ++ (text ++ rest)) = (negative, text ++ rest) := by
  obtain ⟨c, t, rfl, digit⟩ := digits.exists_cons
  simp only [List.mem_cons, Prod.mk.injEq, List.not_mem_nil, or_false] at signed
  rcases signed with ⟨rfl, rfl⟩ | ⟨rfl, rfl⟩ | ⟨rfl, rfl⟩
  · rw [List.nil_append, List.cons_append, exponentSign.eq_def]
    split
    · rename_i same
      rw [(List.cons.inj same).1] at digit
      exact absurd digit (by decide)
    · rename_i same
      rw [(List.cons.inj same).1] at digit
      exact absurd digit (by decide)
    · rfl
  · rfl
  · rfl

lemma Exponent.eq_nil (h : Exponent text Option.none) : text = [] := by
  cases h with
  | none => rfl

lemma Exponent.read {x : Option Int} (h : Exponent text x) (ends : EndsNumber rest) :
    readExponent (text ++ rest) = .ok (x, rest) := by
  cases h with
  | none => exact readExponent_of_ends ends
  | @some c sign text negative ds mark signed digits =>
    rw [List.cons_append, List.append_assoc, readExponent_mark mark, exponentSign_append signed digits,
      digits.span fun c hc => (ends c hc).1]
    cases ds with
    | nil => exact absurd rfl digits.ne_nil
    | cons d ds => rfl

/-- A text without its sign. -/
lemma exponentSign_cases (s : List Char) :
    ∃ sign, s = sign ++ (exponentSign s).2 ∧
      (sign, (exponentSign s).1) ∈ [([], false), (['+'], false), (['-'], true)] := by
  rw [exponentSign.eq_def]
  split
  · exact ⟨['-'], rfl, by simp⟩
  · exact ⟨['+'], rfl, by simp⟩
  · exact ⟨[], rfl, by simp⟩

lemma exponent_of_read {x : Option Int} (h : readExponent s = .ok (x, rest)) :
    ∃ text, s = text ++ rest ∧ Exponent text x := by
  cases s with
  | nil =>
    cases h
    exact ⟨[], rfl, .none⟩
  | cons c s =>
    by_cases mark : c = 'e' ∨ c = 'E'
    · rw [readExponent_mark mark] at h
      obtain ⟨sign, split, signed⟩ := exponentSign_cases s
      split at h
      · cases h
      · rename_i present span
        cases h
        obtain ⟨text, digits, written⟩ := isDigits_of_span span present
        refine ⟨c :: (sign ++ text), ?_, .some mark signed written⟩
        rw [List.cons_append, List.append_assoc, ← digits, ← split]
    · rw [readExponent.eq_def] at h
      dsimp only at h
      rw [if_neg mark] at h
      cases h
      exact ⟨[], rfl, .none⟩

/-! ### Whole literals -/

/-- What stands behind the whole part is no digit. -/
lemma Fraction.stop (h : Fraction text ds) {exponent : List Char} {x : Option Int} (e : Exponent exponent x)
    (ends : EndsNumber rest) : ∀ c ∈ (text ++ (exponent ++ rest)).head?, c.isDigit = false := by
  cases h with
  | some => exact fun c hc => by rw [← Option.some.inj hc]; rfl
  | none =>
    cases e with
    | none => exact fun c hc => (ends c hc).1
    | some mark => exact fun c hc => by rcases mark with rfl | rfl <;> rw [← Option.some.inj hc] <;> rfl

/-- What stands behind the fraction is neither a digit nor a point. -/
lemma Exponent.stop {x : Option Int} (h : Exponent text x) (ends : EndsNumber rest) :
    ∀ c ∈ (text ++ rest).head?, c.isDigit = false ∧ c ≠ '.' := by
  cases h with
  | none => exact fun c hc => ⟨(ends c hc).1, (ends c hc).2.1⟩
  | some mark =>
    intro c hc
    rw [← Option.some.inj hc]
    rcases mark with rfl | rfl <;> decide

/-- The parts of a literal behind its sign are read one after the other. -/
lemma readUnsigned_parts {whole fraction exponent : List Char} {es : List ℕ} {x : Option Int}
    (first : Whole whole ds) (second : Fraction fraction es) (third : Exponent exponent x) (negative : Bool)
    (ends : EndsNumber rest) :
    readUnsigned negative (whole ++ (fraction ++ (exponent ++ rest))) = .ok (⟨negative, ds, es, x⟩, rest) := by
  rw [readUnsigned, first.read (second.stop third ends)]
  simp only [bind, Except.bind, second.read (third.stop ends), third.read ends]

/-- A literal in writing is read, whatever ends it. -/
theorem Written.read {l : Literal} (h : Written text l) (ends : EndsNumber rest) :
    readLiteral (text ++ rest) = .ok (l, rest) := by
  obtain @⟨sign, whole, fraction, exponent, negative, ds, es, x, signed, first, second, third⟩ := h
  have unsigned := readUnsigned_parts first second third negative ends
  simp only [List.mem_cons, Prod.mk.injEq, List.not_mem_nil, or_false] at signed
  simp only [List.append_assoc]
  rcases signed with ⟨rfl, rfl⟩ | ⟨rfl, rfl⟩
  · obtain ⟨c, t, rfl, digit⟩ := first.exists_cons
    have plain : c ≠ '-' := by
      rintro rfl
      exact absurd digit (by decide)
    rw [List.cons_append] at unsigned ⊢
    rw [List.nil_append, readLiteral_of_ne plain, unsigned]
  · rw [List.singleton_append, readLiteral_minus, unsigned]

/-- What is read without its sign is a literal in writing. -/
lemma parts_of_readUnsigned {negative : Bool} {l : Literal} (h : readUnsigned negative s = .ok (l, rest)) :
    ∃ text, s = text ++ rest ∧ ∀ sign, (sign, negative) ∈ [([], false), (['-'], true)] →
      Written (sign ++ text) l := by
  rw [readUnsigned, bind_eq_ok] at h
  obtain ⟨⟨ds, s₁⟩, whole, h⟩ := h
  rw [bind_eq_ok] at h
  obtain ⟨⟨es, s₂⟩, fraction, h⟩ := h
  rw [bind_eq_ok] at h
  obtain ⟨⟨x, s₃⟩, exponent, h⟩ := h
  cases h
  obtain ⟨t₁, rfl, first⟩ := whole_of_read whole
  obtain ⟨t₂, rfl, second⟩ := fraction_of_read fraction
  obtain ⟨t₃, rfl, third⟩ := exponent_of_read exponent
  exact ⟨t₁ ++ (t₂ ++ t₃), by simp, fun sign signed => .parts signed first second third⟩

/-- What is read is a literal in writing. -/
theorem written_of_read {l : Literal} (h : readLiteral s = .ok (l, rest)) :
    ∃ text, s = text ++ rest ∧ Written text l := by
  cases s with
  | nil => cases h
  | cons c s =>
    by_cases minus : c = '-'
    · rw [minus, readLiteral_minus] at h
      obtain ⟨text, rfl, written⟩ := parts_of_readUnsigned h
      exact ⟨'-' :: text, by rw [minus, List.cons_append], written ['-'] (by simp)⟩
    · rw [readLiteral_of_ne minus] at h
      obtain ⟨text, split, written⟩ := parts_of_readUnsigned h
      exact ⟨text, split, written [] (by simp)⟩

end Literal

/-! ### Numbers -/

/-- A number in writing. Whole numbers have 64 bits, without or with a sign, and a zero has no sign. Every
other literal is a real number, if it is finite. -/
inductive Number.Written : List Char → Number → Prop where
  | natural {n : ℕ} (fits : n ≤ maxSignificand) : Written (Nat.toDigits 10 n) (.integer n)
  | negative {n : ℕ} (positive : 0 < n) (fits : n ≤ 0x8000_0000_0000_0000) :
      Written ('-' :: Nat.toDigits 10 n) (.integer (-n))
  | real {text : List Char} {l : Literal} {negative : Bool} {x : Magnitude} (written : l.Written text)
      (value : l.number? = some (.real negative x)) : Written text (.real negative x)

/-- Digits without a zero in front are those of their value. -/
lemma digitsOf_foldl {ds : List ℕ} (small : ∀ d ∈ ds, d < 10) (canonical : ds.head? ≠ some 0)
    (present : ds ≠ []) :
    digitsOf (ds.foldl (fun m d => m * 10 + d) 0) = ds ∧ 0 < ds.foldl (fun m d => m * 10 + d) 0 := by
  induction ds using List.reverseRecOn with
  | nil => exact absurd rfl present
  | append_singleton init d ih =>
    have last : d < 10 := small d (by simp)
    rw [List.foldl_append, List.foldl_cons, List.foldl_nil]
    by_cases alone : init = []
    · subst alone
      have nonzero : d ≠ 0 := by simpa using canonical
      rw [List.foldl_nil, Nat.zero_mul, Nat.zero_add, digitsOf_of_lt last]
      exact ⟨rfl, by omega⟩
    · rw [List.head?_append_of_ne_nil _ alone] at canonical
      obtain ⟨front, positive⟩ := ih (fun e he => small e (by simp [he])) canonical alone
      generalize init.foldl (fun m d => m * 10 + d) 0 = v at front positive ⊢
      have quotient : (v * 10 + d) / 10 = v := by omega
      have remainder : (v * 10 + d) % 10 = d := by omega
      rw [digitsOf_of_ge (by omega), quotient, remainder, front]
      exact ⟨rfl, by omega⟩

/-- Digits that are all absorbed have the value that they are absorbed to. -/
lemma foldl_of_absorb {s v : ℕ} {ds : List ℕ} (h : absorb s ds = (v, [])) :
    ds.foldl (fun m d => m * 10 + d) s = v := by
  induction ds generalizing s with
  | nil => exact (Prod.mk.inj h).1
  | cons d ds ih =>
    rw [absorb] at h
    split_ifs at h with beyond
    · exact absurd (Prod.mk.inj h).2 (List.cons_ne_nil _ _)
    · exact ih h

/-- A whole part is the decimal text of its value. -/
lemma Literal.Whole.eq_toDigits {text : List Char} {ds : List ℕ} {v : ℕ} (h : Whole text ds)
    (value : absorb 0 ds = (v, [])) : text = Nat.toDigits 10 v := by
  have same : digitsOf v = ds := by
    rw [← foldl_of_absorb value]
    by_cases zero : ds.head? = some 0
    · obtain ⟨ds, rfl⟩ := List.head?_eq_some_iff.mp zero
      cases ds with
      | nil => rfl
      | cons e ds => exact absurd rfl h.eq_zero
    · refine (digitsOf_foldl (fun d hd => ?_) zero h.ne_nil).1
      rw [← h.values] at hd
      obtain ⟨c, hc, rfl⟩ := List.mem_map.mp hd
      exact (toNat_of_isDigit (h.digits c hc)).2
  have written := isDigits_toDigits v
  exact eq_of_map_digitValue h.digits written.digits (by rw [h.values, written.values, same])

lemma whole_toDigits (n : ℕ) : Literal.Whole (Nat.toDigits 10 n) (digitsOf n) := by
  refine ⟨isDigits_toDigits n, fun zero => ?_⟩
  obtain ⟨t, text⟩ := List.head?_eq_some_iff.mp zero
  have values : digitsOf n = 0 :: t.map digitValue := by
    rw [digitsOf, text]
    rfl
  rcases digitsOf_eq n with single | ⟨d, ds, more, nonzero⟩
  · rw [values, List.cons.injEq, List.map_eq_nil_iff] at single
    rw [text, single.2]
  · rw [values, List.cons.injEq] at more
    exact absurd more.1.symm nonzero

/-- A literal of a whole number has neither a fraction nor an exponent, and all of its digits count. -/
lemma Literal.number?_integer {l : Literal} {k : ℤ} (h : l.number? = some (.integer k)) :
    ∃ v, absorb 0 l.whole = (v, []) ∧ l.fraction = [] ∧ l.exponent = none ∧
      (l.negative = false ∧ k = v ∨
        l.negative = true ∧ 0 < v ∧ v ≤ 0x8000_0000_0000_0000 ∧ k = -(v : ℤ)) := by
  rcases value : absorb 0 l.whole with ⟨v, left⟩
  rw [Literal.number?, value] at h
  dsimp only at h
  split_ifs at h with plain negative
  · obtain ⟨fraction, exponent, rfl, bound⟩ := plain
    have bound' := bound.resolve_left (by simp [negative])
    exact ⟨v, rfl, fraction, exponent, .inr ⟨negative, bound'.1, bound'.2,
      (Number.integer.inj (Option.some.inj h)).symm⟩⟩
  · obtain ⟨fraction, exponent, rfl, _⟩ := plain
    rw [Bool.not_eq_true] at negative
    exact ⟨v, rfl, fraction, exponent, .inl ⟨negative, (Number.integer.inj (Option.some.inj h)).symm⟩⟩
  · obtain ⟨_, _, other⟩ := Option.map_eq_some_iff.mp h
    cases other

/-- A literal in writing is its number in writing. -/
lemma Literal.Written.number {text : List Char} {l : Literal} {n : Number} (h : l.Written text)
    (value : l.number? = some n) : n.Written text := by
  cases n with
  | real negative x => exact .real h value
  | integer k =>
    have bound := number?_le value
    obtain ⟨v, absorbed, fraction, exponent, sign⟩ := Literal.number?_integer value
    cases h with
    | @parts s _ _ _ _ _ _ _ signed first second third =>
      dsimp only at absorbed fraction exponent sign
      subst fraction exponent
      rw [second.eq_nil, third.eq_nil, List.append_nil, List.append_nil, first.eq_toDigits absorbed]
      rcases sign with ⟨rfl, rfl⟩ | ⟨rfl, positive, fits, rfl⟩
      · have none : s = [] := by simpa using signed
        rw [none]
        exact .natural (Int.ofNat_le.mp bound)
      · have minus : s = ['-'] := by simpa using signed
        rw [minus]
        exact .negative positive fits

/-- A number in writing is a literal that has this number. -/
lemma Number.Written.literal {text : List Char} {n : Number} (h : n.Written text) :
    ∃ l : Literal, l.Written text ∧ l.number? = some n := by
  cases h with
  | real written value => exact ⟨_, written, value⟩
  | @natural n fits =>
    refine ⟨⟨false, digitsOf n, [], none⟩, ?_, by simp [Literal.number?, absorb_digitsOf fits]⟩
    have parts : Literal.Written ([] ++ (Nat.toDigits 10 n ++ ([] ++ []))) ⟨false, digitsOf n, [], none⟩ :=
      .parts (by simp) (whole_toDigits n) .none .none
    simpa using parts
  | @negative n positive fits =>
    have small : n ≤ maxSignificand := by
      rw [maxSignificand]
      omega
    refine ⟨⟨true, digitsOf n, [], none⟩, ?_, by simp [Literal.number?, absorb_digitsOf small, positive, fits]⟩
    have parts : Literal.Written (['-'] ++ (Nat.toDigits 10 n ++ ([] ++ []))) ⟨true, digitsOf n, [], none⟩ :=
      .parts (by simp) (whole_toDigits n) .none .none
    simpa using parts

/-- **The reader of number literals follows the grammar**, whatever ends the literal. -/
theorem Number.Written.read {text rest : List Char} {n : Number} (h : n.Written text)
    (ends : EndsNumber rest) : readNumber (text ++ rest) = (.number n, some rest) := by
  obtain ⟨l, written, value⟩ := h.literal
  rw [readNumber, written.read ends]
  simp only [value]

/-- **What is read as a number is one in writing.** -/
theorem written_of_readNumber {s rest : List Char} {n : Number} (h : readNumber s = (.number n, some rest)) :
    ∃ text, s = text ++ rest ∧ n.Written text := by
  rw [readNumber] at h
  split at h
  · cases h
  · rename_i l rest' read
    obtain ⟨text, split, written⟩ := Literal.written_of_read read
    split at h
    · rename_i n' value
      cases h
      exact ⟨text, split, written.number value⟩
    · cases h

end LoadingCheck.Json
